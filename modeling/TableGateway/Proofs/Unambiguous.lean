import Mathlib
import TableGateway.Proofs.OneTable
import TableGateway.Proofs.Wording

/-!
# Reading a statement back

The statement that reads rows can be read back. Its words, commas left out, fall into sections that begin with six
words of their own: `SELECT`, `FROM`, `WHERE`, `ORDER`, `LIMIT` and `OFFSET`. Where neither the table nor a column is
called like a word of a statement, no section has an opening word among its others; so each section is found by the word
that it begins with (`after_written`), those that are left out being the empty ones. From the sections follow the
columns, the table, the filter, the order and the numbers of rows. So no two requests that ask for different things
build the same statement.

- **`tokens_spaced`**, **`tokens_comma`**, **`tokens_and`**: the words of a text put together from texts;
- **`after_written`**: a section read back;
- **`tokens_reading`**: the sections of a statement that reads rows;
- **`find_unambiguous`**: what two requests with one statement agree on.
-/

namespace TableGateway

/-! ## The words of a text -/

/-- The words of a text, commas left out. -/
def tokens (t : String) : List String :=
  ((t.toList.filter (· != ',')).splitOn ' ').map String.ofList

/-- The words that begin the sections of a statement. -/
def openings : List String := ["SELECT", "FROM", "WHERE", "ORDER", "LIMIT", "OFFSET"]

/-- The text has neither blanks nor commas in it. -/
def Unbroken (w : String) : Prop := ∀ c ∈ w.toList, c ≠ ' ' ∧ c ≠ ','

instance (w : String) : Decidable (Unbroken w) :=
  decidable_of_iff ((w.toList.all fun c => c != ' ' && c != ',') = true) (by simp [Unbroken])

/-- One word that begins no section. -/
def IsWord (w : String) : Prop := Unbroken w ∧ w ∉ openings

instance (w : String) : Decidable (IsWord w) := inferInstanceAs (Decidable (Unbroken w ∧ w ∉ openings))

theorem tokens_of_unbroken {w : String} (unbroken : Unbroken w) : tokens w = [w] := by
  have kept : w.toList.filter (· != ',') = w.toList := by
    apply List.filter_eq_self.2
    intro c among
    exact bne_iff_ne.2 (unbroken c among).2
  have whole : ' ' ∉ w.toList := fun among => (unbroken _ among).1 rfl
  rw [tokens, kept, List.splitOn_eq_singleton whole, List.map_singleton, String.ofList_toList]

theorem IsWord.tokens {w : String} (word : IsWord w) : tokens w = [w] := tokens_of_unbroken word.1

theorem tokens_spaced (a b : String) : tokens (a ++ " " ++ b) = tokens a ++ tokens b := by
  have chars : ((a ++ " " ++ b).toList.filter (· != ',')) =
      a.toList.filter (· != ',') ++ ' ' :: b.toList.filter (· != ',') := by
    simp
  unfold tokens List.splitOn
  rw [chars, List.splitOnP_append_cons _ _ (by decide), List.map_append]

theorem tokens_comma (a b : String) : tokens (a ++ ", " ++ b) = tokens a ++ tokens b := by
  have chars : ((a ++ ", " ++ b).toList.filter (· != ',')) = ((a ++ " " ++ b).toList.filter (· != ',')) := by
    simp
  rw [← tokens_spaced, tokens, chars, tokens]

theorem tokens_and (a b : String) : tokens (a ++ " AND " ++ b) = tokens a ++ "AND" :: tokens b := by
  have spaced : a ++ " AND " ++ b = a ++ " " ++ ("AND" ++ " " ++ b) := by
    have parts : " AND " = " " ++ "AND" ++ " " := rfl
    rw [parts]
    simp only [String.append_assoc]
  have word : tokens "AND" = ["AND"] := IsWord.tokens (by decide)
  rw [spaced, tokens_spaced, tokens_spaced, word]
  rfl

theorem tokens_list {ts : List String} (some : ts ≠ []) : tokens (", ".intercalate ts) = ts.flatMap tokens := by
  induction ts with
  | nil => exact absurd rfl some
  | cons t ts ih =>
    cases ts with
    | nil => rw [String.intercalate_singleton, List.flatMap_singleton]
    | cons u us => rw [String.intercalate_cons_cons, tokens_comma, ih (List.cons_ne_nil u us)]; rfl

theorem tokens_conditions (t : String) (ts : List String) :
    tokens (" AND ".intercalate (t :: ts)) = tokens t ++ ts.flatMap fun u => "AND" :: tokens u := by
  induction ts generalizing t with
  | nil => simp [String.intercalate_singleton]
  | cons u us ih => rw [String.intercalate_cons_cons, tokens_and, ih, List.flatMap_cons, List.cons_append]

/-! ## Sections -/

/-- The words of a section, its opening first; an empty section is left out. -/
def spelled : String × List String → List String
  | (_, []) => []
  | (opening, w :: ws) => opening :: w :: ws

theorem spelled_of_ne_nil {opening : String} {ws : List String} (some : ws ≠ []) :
    spelled (opening, ws) = opening :: ws := by
  cases ws with
  | nil => exact absurd rfl some
  | cons w ws => rfl

/-- The words of a text with these sections. -/
def written (parts : List (String × List String)) : List String := parts.flatMap spelled

/-- The words after an opening, up to the next one. -/
def after (opening : String) (ws : List String) : List String :=
  ((ws.dropWhile (· != opening)).drop 1).takeWhile fun w => decide (w ∉ openings)

theorem after_skip {opening : String} {front : List String} (ws : List String) (none : opening ∉ front) :
    after opening (front ++ ws) = after opening ws := by
  have passed : ∀ w ∈ front, (w != opening) = true := by
    intro w among
    rw [bne_iff_ne]
    rintro rfl
    exact none among
  rw [after, List.dropWhile_append_of_pos passed, after]

/-- What stands after an opening is taken up to the next section. -/
theorem after_opening {opening : String} {body : List String} {parts : List (String × List String)}
    (words : ∀ w ∈ body, w ∉ openings) (opens : ∀ p ∈ parts, p.1 ∈ openings) :
    after opening (opening :: body ++ written parts) = body := by
  -- what follows is empty or begins with the opening of the first section that is not
  have rest : (written parts).takeWhile (fun w => decide (w ∉ openings)) = [] := by
    induction parts with
    | nil => rfl
    | cons p parts ih =>
      obtain ⟨next, ws⟩ := p
      cases ws with
      | nil => exact ih fun p among => opens p (.tail _ among)
      | cons w ws =>
        have ends : decide (next ∉ openings) = false := decide_eq_false (not_not_intro (opens _ (.head _)))
        show (next :: (w :: ws ++ written parts)).takeWhile _ = []
        rw [List.takeWhile_cons, ends]
        rfl
  have body_words : ∀ w ∈ body, decide (w ∉ openings) = true := fun w among => decide_eq_true (words w among)
  unfold after
  rw [List.cons_append, List.dropWhile_cons_of_neg (by simp), List.drop_one, List.tail_cons,
    List.takeWhile_append_of_pos body_words, rest, List.append_nil]

/-- Sections that begin with different openings, and whose words are no openings. -/
structure Sections (parts : List (String × List String)) : Prop where
  opens : ∀ p ∈ parts, p.1 ∈ openings
  words : ∀ p ∈ parts, ∀ w ∈ p.2, w ∉ openings
  apart : (parts.map Prod.fst).Nodup

theorem Sections.tail {p : String × List String} {parts : List (String × List String)} (h : Sections (p :: parts)) :
    Sections parts where
  opens q among := h.opens q (.tail _ among)
  words q among := h.words q (.tail _ among)
  apart := (List.nodup_cons.1 h.apart).2

/-- An opening that begins no section is not found. -/
theorem after_absent {parts : List (String × List String)} {opening : String} (h : Sections parts)
    (opens : opening ∈ openings) (absent : opening ∉ parts.map Prod.fst) : after opening (written parts) = [] := by
  induction parts with
  | nil => rfl
  | cons p parts ih =>
    obtain ⟨next, ws⟩ := p
    rw [List.map_cons, List.mem_cons, not_or] at absent
    cases ws with
    | nil => exact ih h.tail absent.2
    | cons w ws =>
      have passed : opening ∉ next :: w :: ws := by
        rw [List.mem_cons, not_or]
        exact ⟨absent.1, fun among => h.words _ (.head _) _ among opens⟩
      show after opening (next :: w :: ws ++ written parts) = []
      rw [after_skip _ passed]
      exact ih h.tail absent.2

/-- A section is read back by its opening. -/
theorem after_written {parts : List (String × List String)} {opening : String} {body : List String} (h : Sections parts)
    (there : (opening, body) ∈ parts) : after opening (written parts) = body := by
  induction parts with
  | nil => cases there
  | cons p parts ih =>
    -- an empty section leaves no word, not even its opening: then it must not be found further on
    obtain ⟨first, rest⟩ := List.nodup_cons.1 h.apart
    have opens : opening ∈ openings := h.opens _ there
    cases there with
    | head =>
      cases body with
      | nil =>
        show after opening (written parts) = []
        exact after_absent h.tail opens first
      | cons w ws => exact after_opening (h.words _ (.head _)) h.tail.opens
    | tail _ there =>
      obtain ⟨next, ws⟩ := p
      cases ws with
      | nil => exact ih h.tail there
      | cons w ws =>
        have passed : opening ∉ next :: w :: ws := by
          rw [List.mem_cons, not_or]
          refine ⟨?_, fun among => h.words _ (.head _) _ among opens⟩
          intro same
          have begins : opening ∈ parts.map Prod.fst := List.mem_map_of_mem there
          exact first (same ▸ begins)
        show after opening (next :: w :: ws ++ written parts) = body
        rw [after_skip _ passed]
        exact ih h.tail there

/-- All sections are read back. -/
theorem read_written {parts : List (String × List String)} (h : Sections parts) :
    (parts.map Prod.fst).map (fun opening => (opening, after opening (written parts))) = parts := by
  rw [List.map_map]
  apply Eq.trans _ (List.map_id _)
  apply List.map_congr_left
  intro p among
  exact Prod.ext rfl (after_written h among)

/-- Sections under the same openings are told by their words. -/
theorem written_injective {parts parts' : List (String × List String)} (h : Sections parts) (h' : Sections parts')
    (begins : parts.map Prod.fst = parts'.map Prod.fst) (same : written parts = written parts') : parts = parts' := by
  rw [← read_written h, begins, same, read_written h']

/-! ## Names -/

/-- The words of the statements that read rows. -/
def reserved : List String :=
  ["SELECT", "DISTINCT", "FROM", "WHERE", "AND", "ORDER", "BY", "ASC", "DESC", "LIMIT", "OFFSET"]

/-- ASCII letters, digits and underscores, at least one, that are no word of a statement. -/
structure IsName (t : String) : Prop where
  nonempty : t ≠ ""
  letters : ∀ c ∈ t.toList, c.isAlphanum = true ∨ c = '_'
  free : t ∉ reserved

instance (t : String) : Decidable (IsName t) :=
  decidable_of_iff (t ≠ "" ∧ (t.toList.all fun c => c.isAlphanum || c == '_') = true ∧ t ∉ reserved) (by
    constructor
    · rintro ⟨nonempty, letters, free⟩
      exact ⟨nonempty, by simpa using letters, free⟩
    · intro name
      exact ⟨name.nonempty, by simpa using name.letters, name.free⟩)

theorem IsName.unbroken {t : String} (name : IsName t) : Unbroken t := by
  intro c among
  constructor
  · rintro rfl
    exact absurd (name.letters _ among) (by decide)
  · rintro rfl
    exact absurd (name.letters _ among) (by decide)

theorem IsName.isWord {t : String} (name : IsName t) : IsWord t := by
  refine ⟨name.unbroken, fun opens => name.free ?_⟩
  have within : openings ⊆ reserved := by decide
  exact within opens

/-- The table and the columns of the schema are called by names. -/
structure Schema.IsNamed (s : Schema) : Prop where
  table : ∃ t, s.table = .text t ∧ IsName t
  columns : ∀ c ∈ s.columns, ∃ t, c = .text t ∧ IsName t

/-- A quoted name is a word, too. -/
theorem IsName.isWord_delimit {t : String} (name : IsName t) : IsWord (Text.delimit '"' t) := by
  have chars : ∀ c ∈ (Text.delimit '"' t).toList, c = '"' ∨ c ∈ t.toList := by
    intro c among
    rw [Text.toList_delimit, List.mem_cons, List.mem_append, List.mem_singleton] at among
    rcases among with quote | inner | quote
    · exact Or.inl quote
    · exact Or.inr (Text.mem_double inner)
    · exact Or.inl quote
  constructor
  · intro c among
    rcases chars c among with rfl | inner
    · decide
    · exact name.unbroken c inner
  · intro opens
    have unquoted : ∀ w ∈ openings, '"' ∉ w.toList := by decide
    apply unquoted _ opens
    rw [Text.toList_delimit]
    exact List.mem_cons_self

/-- A numeral is a word. -/
theorem isWord_numeral (n : Nat) : IsWord (toString n) := by
  have digits : ∀ c ∈ (toString n).toList, c.isDigit = true := by
    intro c among
    rw [Nat.toString_eq_repr, Nat.toList_repr] at among
    exact Nat.isDigit_of_mem_toDigits (by decide) (by decide) among
  constructor
  · intro c among
    constructor
    · rintro rfl
      exact absurd (digits _ among) (by decide)
    · rintro rfl
      exact absurd (digits _ among) (by decide)
  · intro opens
    have letters : ∀ w ∈ openings, w.toList.all Char.isDigit = false := by decide
    have none := letters _ opens
    rw [List.all_eq_true.2 digits] at none
    cases none

/-! ## What a statement asks for -/

/-- What a statement that reads rows asks for: the columns, once or as often as they come, the table as it is written,
the columns to compare and to order by, and how many rows. -/
structure Selection where
  distinct : Bool
  columns : List String
  table : String
  compared : List String
  order : List (String × Direction)
  limit : Nat
  skip : Nat

namespace Selection

/-- The words of a filter behind the first. -/
def conditions : List String → List String
  | [] => []
  | c :: cs => c :: "=" :: "?" :: cs.flatMap fun c => ["AND", c, "=", "?"]

/-- The words of an order behind the first. -/
def items : List (String × Direction) → List String
  | [] => []
  | e :: es => "BY" :: (e :: es).flatMap fun e => [e.1, e.2.word]

/-- The word of a number of rows; none for zero. -/
def rows (n : Nat) : List String := if n = 0 then [] else [toString n]

/-- The sections of the statement. -/
def sections (x : Selection) : List (String × List String) :=
  [("SELECT", (if x.distinct then ["DISTINCT"] else []) ++ x.columns), ("FROM", [x.table]),
    ("WHERE", conditions x.compared), ("ORDER", items x.order), ("LIMIT", rows x.limit), ("OFFSET", rows x.skip)]

/-- Columns that are called by names, and a table that is one word. -/
structure IsProper (x : Selection) : Prop where
  columns : ∀ c ∈ x.columns, IsName c
  table : IsWord x.table
  compared : ∀ c ∈ x.compared, IsName c
  order : ∀ e ∈ x.order, IsName e.1

variable {x y : Selection}

theorem isWord_conditions {cs : List String} (names : ∀ c ∈ cs, IsName c) : ∀ w ∈ conditions cs, IsWord w := by
  intro w among
  cases cs with
  | nil => cases among
  | cons c cs =>
    -- with an `AND` in front of the first condition, too, all conditions are blocks of one shape
    have block : ∀ c' ∈ c :: cs, w ∈ ["AND", c', "=", "?"] → IsWord w := by
      intro c' there within
      simp only [List.mem_cons, List.not_mem_nil, or_false] at within
      rcases within with rfl | rfl | rfl | rfl
      · decide
      · exact (names _ there).isWord
      · decide
      · decide
    have whole : w ∈ (c :: cs).flatMap fun c => ["AND", c, "=", "?"] := List.mem_cons_of_mem "AND" among
    obtain ⟨c', there, within⟩ := List.mem_flatMap.1 whole
    exact block c' there within

theorem isWord_items {es : List (String × Direction)} (names : ∀ e ∈ es, IsName e.1) : ∀ w ∈ items es, IsWord w := by
  intro w among
  cases es with
  | nil => cases among
  | cons e es =>
    rcases List.mem_cons.1 among with rfl | among
    · decide
    · obtain ⟨e', there, within⟩ := List.mem_flatMap.1 among
      simp only [List.mem_cons, List.not_mem_nil, or_false] at within
      rcases within with rfl | rfl
      · exact (names _ there).isWord
      · cases e'.2 <;> decide

theorem isWord_rows (n : Nat) : ∀ w ∈ rows n, IsWord w := by
  intro w among
  unfold rows at among
  split at among
  · cases among
  · rw [List.mem_singleton.1 among]
    exact isWord_numeral n

theorem sections_proper (h : x.IsProper) : Sections x.sections where
  opens p among := by
    have begins : p.1 ∈ x.sections.map Prod.fst := List.mem_map_of_mem among
    exact begins
  words := by
    have words : ∀ p ∈ x.sections, ∀ w ∈ p.2, IsWord w := by
      intro p among w there
      simp only [sections, List.mem_cons, List.not_mem_nil, or_false] at among
      rcases among with rfl | rfl | rfl | rfl | rfl | rfl
      · rcases List.mem_append.1 there with distinct | column
        · split at distinct
          · rw [List.mem_singleton.1 distinct]
            decide
          · cases distinct
        · exact (h.columns w column).isWord
      · rw [List.mem_singleton.1 there]
        exact h.table
      · exact isWord_conditions h.compared w there
      · exact isWord_items h.order w there
      · exact isWord_rows _ w there
      · exact isWord_rows _ w there
    exact fun p among w there => (words p among w there).2
  apart := by
    show ["SELECT", "FROM", "WHERE", "ORDER", "LIMIT", "OFFSET"].Nodup
    decide

/-! ## One reading -/

/-- Lists of blocks of one size are told by what they are put together to. -/
theorem flatMap_injective {α β : Type} {f : α → List β} {n : Nat} (size : ∀ a, (f a).length = n + 1)
    (injective : ∀ a b, f a = f b → a = b) {as bs : List α} (same : as.flatMap f = bs.flatMap f) : as = bs := by
  induction as generalizing bs with
  | nil =>
    cases bs with
    | nil => rfl
    | cons b bs =>
      have lengths := congrArg List.length same
      rw [List.flatMap_cons, List.length_append, size, List.flatMap_nil, List.length_nil] at lengths
      omega
  | cons a as ih =>
    cases bs with
    | nil =>
      have lengths := congrArg List.length same
      rw [List.flatMap_cons, List.length_append, size, List.flatMap_nil, List.length_nil] at lengths
      omega
    | cons b bs =>
      rw [List.flatMap_cons, List.flatMap_cons] at same
      obtain ⟨first, rest⟩ := List.append_inj same ((size a).trans (size b).symm)
      rw [injective a b first, ih rest]

theorem conditions_injective {cs cs' : List String} (same : conditions cs = conditions cs') : cs = cs' := by
  cases cs with
  | nil =>
    cases cs' with
    | nil => rfl
    | cons c cs' => cases same
  | cons c cs =>
    cases cs' with
    | nil => cases same
    | cons c' cs' =>
      have blocks : (c :: cs).flatMap (fun c => ["AND", c, "=", "?"]) =
        (c' :: cs').flatMap (fun c => ["AND", c, "=", "?"]) := congrArg ("AND" :: ·) same
      exact flatMap_injective (n := 3) (fun _ => rfl) (fun a b block => by cases block; rfl) blocks

theorem items_injective {es es' : List (String × Direction)} (same : items es = items es') : es = es' := by
  cases es with
  | nil =>
    cases es' with
    | nil => rfl
    | cons e es' => cases same
  | cons e es =>
    cases es' with
    | nil => cases same
    | cons e' es' =>
      have blocks := (List.cons.inj same).2
      refine flatMap_injective (n := 1) (fun _ => rfl) ?_ blocks
      rintro ⟨c, d⟩ ⟨c', d'⟩ block
      have column : c = c' := (List.cons.inj block).1
      have direction : d.word = d'.word := (List.cons.inj (List.cons.inj block).2).1
      have decided : d = d' := by
        cases d <;> cases d' <;> first | rfl | exact absurd direction (by decide)
      rw [column, decided]

theorem rows_injective {m n : Nat} (same : rows m = rows n) : m = n := by
  unfold rows at same
  split at same
  · split at same
    · omega
    · cases same
  · split at same
    · cases same
    · exact Nat.repr_inj.1 (List.cons.inj same).1

/-- Whether rows count once shows in the first word behind `SELECT`, where no column is called like it. -/
theorem select_injective {distinct distinct' : Bool} {columns columns' : List String}
    (names : ∀ c ∈ columns, IsName c) (names' : ∀ c ∈ columns', IsName c)
    (same : (if distinct then ["DISTINCT"] else []) ++ columns = (if distinct' then ["DISTINCT"] else []) ++ columns') :
    distinct = distinct' ∧ columns = columns' := by
  -- in the mixed cases the word would be a column of the other statement
  have other (c : String) (name : IsName c) : c ≠ "DISTINCT" := by
    rintro rfl
    exact name.free (by decide)
  cases distinct with
  | true =>
    cases distinct' with
    | true => exact ⟨rfl, (List.cons.inj same).2⟩
    | false =>
      have there : "DISTINCT" ∈ columns' := by
        rw [← show "DISTINCT" :: columns = columns' from same]
        exact .head _
      exact absurd rfl (other _ (names' _ there))
  | false =>
    cases distinct' with
    | true =>
      have there : "DISTINCT" ∈ columns := by
        rw [show columns = "DISTINCT" :: columns' from same]
        exact .head _
      exact absurd rfl (other _ (names _ there))
    | false => exact ⟨rfl, same⟩

/-- The words of a statement tell what it asks for. -/
theorem eq_of_written (h : x.IsProper) (h' : y.IsProper) (same : written x.sections = written y.sections) : x = y := by
  have all := written_injective (sections_proper h) (sections_proper h') rfl same
  simp only [sections, List.cons.injEq, Prod.mk.injEq, true_and, and_true] at all
  obtain ⟨select, table, filter, sort, head, offset⟩ := all
  obtain ⟨distinct, columns⟩ := select_injective h.columns h'.columns select
  have compared := conditions_injective filter
  have order := items_injective sort
  have limit := rows_injective head
  have skip := rows_injective offset
  cases x
  cases y
  simp only at distinct columns table compared order limit skip
  rw [distinct, columns, table, compared, order, limit, skip]

end Selection

/-! ## The words of a statement -/

/-- What a text adds behind others: nothing when it is empty. -/
def added (t : String) : List String := if t.isEmpty then [] else tokens t

theorem tokens_trailing (a : String) (ts : List String) : tokens (a ++ trailing ts) = tokens a ++ ts.flatMap added := by
  induction ts generalizing a with
  | nil => rw [trailing, String.append_empty, List.flatMap_nil, List.append_nil]
  | cons t ts ih =>
    rw [trailing, List.flatMap_cons, added]
    cases t.isEmpty with
    | true =>
      rw [if_pos rfl, if_pos rfl, String.empty_append, ih]
      rfl
    | false =>
      have spaced : a ++ (" " ++ t ++ trailing ts) = a ++ " " ++ t ++ trailing ts := by
        simp only [String.append_assoc]
      rw [if_neg (by decide), if_neg (by decide), spaced, ih, tokens_spaced, List.append_assoc]

/-- A word in front of a text. -/
theorem tokens_word {w : String} (unbroken : Unbroken w) (t : String) :
    tokens (w ++ " " ++ t) = w :: tokens t := by
  rw [tokens_spaced, tokens_of_unbroken unbroken]
  rfl

theorem tokens_names {ts : List String} (names : ∀ t ∈ ts, IsName t) : ts.flatMap tokens = ts := by
  induction ts with
  | nil => rfl
  | cons t ts ih =>
    rw [List.flatMap_cons, (names t (.head _)).isWord.tokens, ih fun u among => names u (.tail _ among)]
    rfl

namespace Query

open Options

variable {s : Schema} {o : Options} {table : Value} {columns : List String}

theorem tokens_opening (distinct : Bool) (t : String) :
    tokens (opening distinct ++ t) = "SELECT" :: ((if distinct then ["DISTINCT"] else []) ++ tokens t) := by
  cases distinct with
  | true =>
    have words : opening true ++ t = "SELECT" ++ " " ++ ("DISTINCT" ++ " " ++ t) := by
      simp [opening, ← String.append_assoc]
    rw [words, tokens_word (by decide), tokens_word (by decide)]
    rfl
  | false =>
    have words : opening false ++ t = "SELECT" ++ " " ++ t := rfl
    rw [words, tokens_word (by decide)]
    rfl

/-- What a statement that reads rows asks for. -/
def selection (columns : List String) (table : Value) (s : Schema) (o : Options) : Selection where
  distinct := o.distinct
  columns := columns
  table := table.shown
  compared := (known s o.filter).map fun e => e.1.shown
  order := (known s o.sort).map fun e => (e.1.shown, e.2)
  limit := o.limit.getD 0
  skip := o.skip.getD 0

theorem tokens_comparison {e : Value × Value} (name : IsName e.1.shown) :
    tokens (comparison e) = [e.1.shown, "=", "?"] := by
  have words : comparison e = e.1.shown ++ " " ++ ("=" ++ " " ++ "?") := by
    have parts : " = ?" = " " ++ ("=" ++ " " ++ "?") := rfl
    rw [comparison, parts, ← String.append_assoc]
  rw [words, tokens_word name.unbroken, tokens_word (by decide), tokens_of_unbroken (by decide)]

theorem tokens_orderItem {e : Value × Direction} (name : IsName e.1.shown) :
    tokens (orderItem e) = [e.1.shown, e.2.word] := by
  have direction : Unbroken e.2.word := by cases e.2 <;> decide
  rw [orderItem, tokens_word name.unbroken, tokens_of_unbroken direction]

theorem added_whereText (names : ∀ e ∈ known s o.filter, IsName e.1.shown) :
    added (whereText s o) = spelled ("WHERE", Selection.conditions ((known s o.filter).map fun e => e.1.shown)) := by
  unfold whereText
  generalize known s o.filter = es at names ⊢
  cases es with
  | nil => rfl
  | cons e es =>
    have rest : ((es.map comparison).flatMap fun u => "AND" :: tokens u) =
        (es.map fun e => e.1.shown).flatMap fun c => ["AND", c, "=", "?"] := by
      rw [List.flatMap_map, List.flatMap_map]
      apply List.flatMap_congr
      intro e' among
      rw [tokens_comparison (names e' (.tail _ among))]
    have words (t : String) : "WHERE " ++ t = "WHERE" ++ " " ++ t := rfl
    show added ("WHERE " ++ " AND ".intercalate (comparison e :: es.map comparison)) = _
    rw [added, append_ne_empty _ (by decide), if_neg (by decide), words, tokens_word (by decide), tokens_conditions,
      tokens_comparison (names e (.head _)), rest]
    rfl

theorem added_orderText (names : ∀ e ∈ known s o.sort, IsName e.1.shown) :
    added (orderText s o) = spelled ("ORDER", Selection.items ((known s o.sort).map fun e => (e.1.shown, e.2))) := by
  unfold orderText
  generalize known s o.sort = es at names ⊢
  cases es with
  | nil => rfl
  | cons e es =>
    have items : (((e :: es).map orderItem).flatMap tokens) =
        ((e :: es).map fun e => (e.1.shown, e.2)).flatMap fun i => [i.1, i.2.word] := by
      rw [List.flatMap_map, List.flatMap_map]
      apply List.flatMap_congr
      intro e' among
      rw [tokens_orderItem (names e' among)]
    have words (t : String) : "ORDER BY " ++ t = "ORDER" ++ " " ++ ("BY" ++ " " ++ t) := by
      have parts : "ORDER BY " = "ORDER" ++ " " ++ ("BY" ++ " ") := rfl
      rw [parts]
      simp only [String.append_assoc]
    show added ("ORDER BY " ++ ", ".intercalate ((e :: es).map orderItem)) = _
    rw [added, append_ne_empty _ (by decide), if_neg (by decide), words, tokens_word (by decide),
      tokens_word (by decide), tokens_list (by simp), items]
    rfl

theorem added_rowsWords {word : String} (unbroken : Unbroken word) (wordy : word ≠ "") (n : Option Nat) :
    added (rowsWords word n) = spelled (word, Selection.rows (n.getD 0)) := by
  unfold rowsWords isPositive Selection.rows
  by_cases none : n.getD 0 = 0
  · rw [none]
    rfl
  · have some : (n.getD 0 != 0) = true := bne_iff_ne.2 none
    rw [some, if_pos rfl, if_neg none, added, String.append_assoc, append_ne_empty _ wordy, if_neg (by decide),
      ← String.append_assoc, tokens_word unbroken, (isWord_numeral _).tokens]
    rfl

/-- The words of a statement are those of its sections. -/
theorem tokens_reading (proper : (selection columns table s o).IsProper) (some : columns ≠ []) :
    tokens (reading columns table s o).sql = written (selection columns table s o).sections := by
  have names : ∀ e ∈ known s o.filter, IsName e.1.shown := by
    intro e kept
    exact proper.compared _ (List.mem_map_of_mem kept)
  have names' : ∀ e ∈ known s o.sort, IsName e.1.shown := by
    intro e kept
    exact proper.order _ (List.mem_map_of_mem (f := fun e : Value × Direction => (e.1.shown, e.2)) kept)
  have source : added ("FROM " ++ table.shown) = ["FROM", table.shown] := by
    have words : "FROM " ++ table.shown = "FROM" ++ " " ++ table.shown := rfl
    have word : tokens table.shown = [table.shown] := proper.table.tokens
    rw [added, append_ne_empty _ (by decide), if_neg (by decide), words, tokens_word (by decide), word]
  have listed : columns.flatMap tokens = columns := tokens_names proper.columns
  have select : spelled ("SELECT", (if o.distinct then ["DISTINCT"] else []) ++ columns) =
    "SELECT" :: ((if o.distinct then ["DISTINCT"] else []) ++ columns) := spelled_of_ne_nil (by simp [some])
  rw [sql_reading, tokens_trailing, tokens_opening, tokens_list some, listed, ← select]
  simp only [List.flatMap_cons, List.flatMap_nil, source, added_whereText names, added_orderText names',
    added_rowsWords (show Unbroken "LIMIT" by decide) (by decide),
    added_rowsWords (show Unbroken "OFFSET" by decide) (by decide)]
  rfl

/-- What the schema has is called by names. -/
theorem isName_of_known {β : Type} (named : s.IsNamed) {t : Keyed β} {e : Value × β} (kept : e ∈ known s t) :
    ∃ c, e.1 = .text c ∧ IsName c := by
  apply named.columns
  apply mem_columns_of_has _ (known_mem.1 kept).2
  intro c column
  obtain ⟨t, text, _⟩ := named.columns c column
  exact ⟨t, text⟩

theorem isName_shown {β : Type} (named : s.IsNamed) {t : Keyed β} {e : Value × β} (kept : e ∈ known s t) :
    IsName e.1.shown := by
  obtain ⟨c, text, name⟩ := isName_of_known named kept
  rw [text]
  exact name

/-- The columns that are answered with are among those of the schema. -/
theorem mem_columns_of_projection {select : Option (List String)} {vs : List Value} (named : s.IsNamed)
    (projected : projection s select = .ok vs) : ∀ v ∈ vs, v ∈ s.columns := by
  intro v among
  unfold projection at projected
  split at projected
  · cases projected
    exact among
  · dsimp only at projected
    split at projected
    · cases projected
    · cases projected
      apply mem_columns_of_has _ (List.mem_filter.1 among).2
      intro c column
      obtain ⟨t, text, _⟩ := named.columns c column
      exact ⟨t, text⟩

/-- The table's token is its name, in quotes or without. -/
theorem token_cases {d : Dialect} {t : String} {token : Value} (tabled : d.tableName (.text t) = .ok token) :
    token = .text (Text.delimit '"' t) ∨ token = .text t := by
  unfold Dialect.tableName at tabled
  split at tabled
  · exact Or.inl (Except.ok.inj tabled).symm
  · exact Or.inr (Except.ok.inj tabled).symm

theorem isWord_tableName {d : Dialect} (named : s.IsNamed) (tabled : d.tableName s.table = .ok table) :
    IsWord table.shown := by
  obtain ⟨t, text, name⟩ := named.table
  rw [text] at tabled
  rcases token_cases tabled with rfl | rfl
  · exact name.isWord_delimit
  · exact name.isWord

/-- No name is another one in quotes. -/
theorem delimit_ne {t u : String} (name : IsName u) : Text.delimit '"' t ≠ u := by
  rintro rfl
  have quote : '"' ∈ (Text.delimit '"' t).toList := by
    rw [Text.toList_delimit]
    exact List.mem_cons_self
  exact absurd (name.letters _ quote) (by decide)

/-- The token tells the table, even where one dialect quotes and the other does not. -/
theorem table_eq {d d' : Dialect} {s' : Schema} {table' : Value} (named : s.IsNamed) (named' : s'.IsNamed)
    (tabled : d.tableName s.table = .ok table) (tabled' : d'.tableName s'.table = .ok table')
    (same : table.shown = table'.shown) : s.table = s'.table := by
  obtain ⟨t, text, name⟩ := named.table
  obtain ⟨t', text', name'⟩ := named'.table
  rw [text] at tabled
  rw [text'] at tabled'
  rw [text, text']
  rcases token_cases tabled with rfl | rfl
  · rcases token_cases tabled' with rfl | rfl
    · exact congrArg Value.text (Text.delimit_injective same)
    · exact absurd same (delimit_ne name')
  · rcases token_cases tabled' with rfl | rfl
    · exact absurd same.symm (delimit_ne name)
    · exact congrArg Value.text same

theorem text_shown {β : Type} (named : s.IsNamed) {t : Keyed β} {e : Value × β} (kept : e ∈ known s t) :
    Value.text e.1.shown = e.1 := by
  obtain ⟨c, text, _⟩ := isName_of_known named kept
  rw [text]
  rfl

/-- Columns are told by their names. -/
theorem known_fst_eq {β : Type} (named : s.IsNamed) (t : Keyed β) :
    (known s t).map Prod.fst = ((known s t).map fun e => e.1.shown).map .text := by
  rw [List.map_map]
  apply List.map_congr_left
  intro e kept
  exact (text_shown named kept).symm

theorem known_eq {β : Type} (named : s.IsNamed) (t : Keyed β) :
    known s t = ((known s t).map fun e => (e.1.shown, e.2)).map fun i => (.text i.1, i.2) := by
  have back : ∀ e ∈ known s t, (Value.text e.1.shown, e.2) = e := by
    intro e kept
    rw [text_shown named kept]
  rw [List.map_map]
  exact (List.map_id _).symm.trans (List.map_congr_left fun e kept => (back e kept).symm)

theorem selection_isProper {d : Dialect} (named : s.IsNamed)
    (projected : projection s o.select = .ok (columns.map .text))
    (tabled : d.tableName s.table = .ok table) : (selection columns table s o).IsProper where
  columns c column := by
    have there := mem_columns_of_projection named projected _ (List.mem_map_of_mem column)
    obtain ⟨t, text, name⟩ := named.columns _ there
    cases text
    exact name
  table := isWord_tableName named tabled
  compared c among := by
    obtain ⟨e, kept, rfl⟩ := List.mem_map.1 among
    exact isName_shown named kept
  order i among := by
    obtain ⟨e, kept, rfl⟩ := List.mem_map.1 among
    exact isName_shown named kept

theorem forall₂_pairs {R : Value → Value → Prop} {es es' : List (Value × Value)}
    (columns : es.map Prod.fst = es'.map Prod.fst)
    (values : List.Forall₂ R (es.map Prod.snd) (es'.map Prod.snd)) :
    List.Forall₂ (fun e e' => e.1 = e'.1 ∧ R e.2 e'.2) es es' := by
  induction es generalizing es' with
  | nil =>
    cases es' with
    | nil => exact .nil
    | cons e' es' => cases columns
  | cons e es ih =>
    cases es' with
    | nil => cases columns
    | cons e' es' =>
      obtain ⟨column, columns⟩ := List.cons.inj columns
      cases values with
      | cons value values => exact .cons ⟨column, value⟩ (ih columns values)

/-- **A statement is built for one request.** Two requests for rows, of schemas whose table and columns are called by
names, that build the same text with the same values agree on the table, on the columns to answer with and their order,
on whether equal rows count once, on what they filter and order by, and on the numbers of rows, where no number counts
as zero. What counts as the same value is left open. -/
theorem find_unambiguous {d d' : Dialect} {s s' : Schema} {given given' : OptionsGiven} {o o' : Options}
    {st st' : Statement} {R : Value → Value → Prop} (named : s.IsNamed) (named' : s'.IsNamed)
    (means : Options.coerce given = .ok o) (means' : Options.coerce given' = .ok o')
    (some : projection s o.select ≠ .ok []) (some' : projection s' o'.select ≠ .ok [])
    (built : find d s given = .ok st) (built' : find d' s' given' = .ok st') (text : st.sql = st'.sql)
    (values : List.Forall₂ R st.params st'.params) :
    s.table = s'.table ∧ projection s o.select = projection s' o'.select ∧ o.distinct = o'.distinct ∧
      List.Forall₂ (fun e e' => e.1 = e'.1 ∧ R e.2 e'.2) (known s o.filter) (known s' o'.filter) ∧
      known s o.sort = known s' o'.sort ∧ o.limit.getD 0 = o'.limit.getD 0 ∧ o.skip.getD 0 = o'.skip.getD 0 := by
  rw [find, means] at built
  rw [find, means'] at built'
  obtain ⟨columns, token, projected, tabled, -, -, rfl⟩ := findWith_eq_ok.1 built
  obtain ⟨columns', token', projected', tabled', -, -, rfl⟩ := findWith_eq_ok.1 built'
  have proper := selection_isProper named projected tabled
  have proper' := selection_isProper named' projected' tabled'
  have listed : columns ≠ [] := by
    rintro rfl
    exact some projected
  have listed' : columns' ≠ [] := by
    rintro rfl
    exact some' projected'
  have one : selection columns token s o = selection columns' token' s' o' := by
    apply Selection.eq_of_written proper proper'
    rw [← tokens_reading proper listed, text, tokens_reading proper' listed']
  have columns_eq : columns = columns' := congrArg Selection.columns one
  have compared : ((known s o.filter).map fun e => e.1.shown) = (known s' o'.filter).map fun e => e.1.shown :=
    congrArg Selection.compared one
  have order : ((known s o.sort).map fun e => (e.1.shown, e.2)) = (known s' o'.sort).map fun e => (e.1.shown, e.2) :=
    congrArg Selection.order one
  -- the values are those of the filters, one for each of its columns
  refine ⟨table_eq named named' tabled tabled' (congrArg Selection.table one), ?_, congrArg Selection.distinct one, ?_,
    ?_, congrArg Selection.limit one, congrArg Selection.skip one⟩
  · rw [projected, projected', columns_eq]
  · have filtered : (known s o.filter).map Prod.fst = (known s' o'.filter).map Prod.fst := by
      rw [known_fst_eq named, compared, ← known_fst_eq named']
    exact forall₂_pairs filtered values
  · rw [known_eq named, order, ← known_eq named']

/-- A table with one column. -/
def nameSchema : Schema := ⟨.text "people", ⟨[(.text "NAME", {})]⟩⟩

theorem isNamed_nameSchema : nameSchema.IsNamed where
  table := ⟨"people", rfl, by decide⟩
  columns c column := by
    rw [List.mem_singleton.1 (show c ∈ [Value.text "NAME"] from column)]
    exact ⟨"NAME", rfl, by decide⟩

/-- A limit of zero, and no limit but a filter by what is no column: one statement for both. -/
theorem find_unambiguous_people :
    let o : Options := { filter := ⟨[(.text "NAME", .text "x")]⟩, limit := some 0 }
    let o' : Options := { filter := ⟨[(.text "NAME", .text "x"), (.text "AGE", .int 3)]⟩ }
    find ⟨true⟩ nameSchema (.options o) = find ⟨true⟩ nameSchema (.options o') ∧
      List.Forall₂ (fun e e' => e.1 = e'.1 ∧ e.2 = e'.2) (known nameSchema o.filter) (known nameSchema o'.filter) ∧
      o.limit.getD 0 = o'.limit.getD 0 := by
  intro o o'
  have built : find ⟨true⟩ nameSchema (.options o) =
      .ok (reading ["NAME"] (.text (Text.delimit '"' "people")) nameSchema o) := by
    have zero : Writable (some 0) := writable_digit (by decide)
    show findWith ⟨true⟩ nameSchema o = _
    exact findWith_eq_ok.2 ⟨_, _, rfl, rfl, zero, writable_none, rfl⟩
  have built' : find ⟨true⟩ nameSchema (.options o') =
      .ok (reading ["NAME"] (.text (Text.delimit '"' "people")) nameSchema o') := by
    show findWith ⟨true⟩ nameSchema o' = _
    exact findWith_eq_ok.2 ⟨_, _, rfl, rfl, writable_none, writable_none, rfl⟩
  have columns : projection nameSchema none ≠ .ok [] := by
    intro none
    cases none
  obtain ⟨_, _, _, filters, _, limits, _⟩ := find_unambiguous (R := Eq) isNamed_nameSchema isNamed_nameSchema rfl rfl
    columns columns built built' rfl (.cons rfl .nil)
  exact ⟨built.trans built'.symm, filters, limits⟩

end Query

end TableGateway
