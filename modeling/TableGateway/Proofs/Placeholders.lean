import Mathlib.Algebra.GroupWithZero.Nat
import TableGateway.Proofs.Blanks

/-!
# Placeholders and their values

The text of a statement and its values are written side by side, and they stay in step: the values are those of the
tree of clauses from left to right, every placeholder has its value, and the only other marks of the text come with
the names and the raw texts that the clauses carry. A `Site` is a place at which a clause binds a value: the text that
the clause writes up to the placeholder, and the value. `Placed` says of a statement that it has its placeholders at
these sites, one after the other.

- **`Placed.append`**, **`Placed.within`**, **`PlacedAll.join`**, **`PlacedAll.inWords`**: how pieces are put together;
- **`placed_render`**: the sites of a clause, at any depth;
- **`placeholders_match`**: the sites of a statement.
-/

namespace TableGateway

/-! ## Marks -/

/-- How many question marks a text holds. -/
def qmarks (s : String) : Nat := s.toList.count '?'

/-- How many several texts hold. -/
def qmarksIn (ts : List String) : Nat := (ts.map qmarks).sum

@[simp] theorem qmarks_append (s t : String) : qmarks (s ++ t) = qmarks s + qmarks t := by
  simp [qmarks]

@[simp] theorem qmarks_empty : qmarks "" = 0 := rfl

@[simp] theorem qmarks_placeholder : qmarks Dialect.placeholder = 1 := rfl

@[simp] theorem qmarksIn_nil : qmarksIn [] = 0 := rfl

@[simp] theorem qmarksIn_cons (t : String) (ts : List String) : qmarksIn (t :: ts) = qmarks t + qmarksIn ts := by
  simp [qmarksIn]

@[simp] theorem qmarksIn_append (ts us : List String) : qmarksIn (ts ++ us) = qmarksIn ts + qmarksIn us := by
  simp [qmarksIn]

theorem qmarksIn_eq_zero {ts : List String} : qmarksIn ts = 0 ↔ ∀ t ∈ ts, qmarks t = 0 := by
  induction ts with
  | nil => simp
  | cons t ts ih => simp [ih]

/-- A text between texts brings its own marks each time; these bring none. -/
theorem qmarks_intercalate {between : String} (none : qmarks between = 0) (ts : List String) :
    qmarks (between.intercalate ts) = qmarksIn ts := by
  induction ts with
  | nil => rfl
  | cons t ts ih =>
    cases ts with
    | nil => simp
    | cons u us => rw [String.intercalate_cons_cons, qmarks_append, qmarks_append, none, ih, qmarksIn_cons t]; omega

theorem qmarks_strip_le (s : String) : qmarks (Text.strip s) ≤ qmarks s := by
  have front : (s.toList.dropWhile Text.isBlank).Sublist s.toList := List.dropWhile_sublist _
  have both : (Text.trim s.toList).Sublist s.toList := by
    have back := (List.dropWhile_sublist (l := (s.toList.dropWhile Text.isBlank).reverse) Text.isBlank).reverse
    rw [List.reverse_reverse] at back
    exact back.trans front
  rw [qmarks, Text.toList_strip]
  exact both.count_le '?'

/-- A numeral is digits, perhaps after a sign. -/
theorem qmarks_numeral (n : Int) : qmarks (toString n) = 0 := by
  have digits (m : Nat) : qmarks m.repr = 0 := by
    rw [qmarks, Nat.toList_repr, List.count_eq_zero]
    intro mark
    have digit := Nat.isDigit_of_mem_toDigits (by omega) (by omega) mark
    exact absurd digit (by decide)
  rw [Int.toString_eq_repr]
  cases n with
  | ofNat m => exact digits m
  | negSucc m =>
    show qmarks ("-" ++ (m + 1).repr) = 0
    rw [qmarks_append, digits]
    rfl

theorem qmarks_text {n : Int} {t : String} (h : Integer.text n = .ok t) : qmarks t = 0 := by
  unfold Integer.text at h
  split at h
  · cases h
    exact qmarks_numeral n
  · cases h

/-! ## Sites -/

/-- A place at which a value is bound. -/
structure Site where
  /-- What the clause writes up to the placeholder. -/
  lead : String
  value : Value

/-- The mark in this place, counted from zero, is the placeholder of the site. -/
def Site.At (s : Site) (sql : String) (place : Nat) : Prop :=
  ∃ before after, sql = before ++ s.lead ++ Dialect.placeholder ++ after ∧ qmarks (before ++ s.lead) = place

theorem Site.At.append {s : Site} {sql : String} {place : Nat} (h : s.At sql place) (after : String) :
    s.At (sql ++ after) place := by
  obtain ⟨b, a, rfl, marked⟩ := h
  exact ⟨b, a ++ after, by rw [String.append_assoc], marked⟩

theorem Site.At.prepend {s : Site} {sql : String} {place : Nat} (h : s.At sql place) (before : String) :
    s.At (before ++ sql) (qmarks before + place) := by
  obtain ⟨b, a, rfl, rfl⟩ := h
  refine ⟨before ++ b, a, by simp only [String.append_assoc], ?_⟩
  rw [String.append_assoc, qmarks_append]

/-- The statement binds the values of the sites, in order. It has a mark for each of them, and no others but those of
the outside texts; without such, each site has the mark of its own place. -/
structure Placed (outside : List String) (sites : List Site) (s : Statement) : Prop where
  params : s.params = sites.map Site.value
  count : qmarks s.sql = sites.length + qmarksIn outside
  place : qmarksIn outside = 0 → ∀ (k : Nat) (site : Site), sites[k]? = some site → site.At s.sql k

namespace Placed

variable {outside outside' : List String} {sites sites' : List Site} {s t : Statement}

theorem of_text {text : String} (h : qmarks text = qmarksIn outside) : Placed outside [] ⟨text, []⟩ where
  params := rfl
  count := by rw [h, List.length_nil, Nat.zero_add]
  place _ k site found := by simp at found

/-- One text after the other, with the values of both. -/
theorem append (hs : Placed outside sites s) (ht : Placed outside' sites' t) :
    Placed (outside ++ outside') (sites ++ sites') ⟨s.sql ++ t.sql, s.params ++ t.params⟩ where
  params := by rw [hs.params, ht.params, List.map_append]
  count := by
    rw [qmarks_append, hs.count, ht.count, List.length_append, qmarksIn_append]
    omega
  place plain k site found := by
    rw [qmarksIn_append] at plain
    have first : qmarks s.sql = sites.length := by rw [hs.count]; omega
    rcases Nat.lt_or_ge k sites.length with inFirst | inSecond
    · rw [List.getElem?_append_left inFirst] at found
      exact (hs.place (by omega) k site found).append t.sql
    · rw [List.getElem?_append_right inSecond] at found
      have later := (ht.place (by omega) _ site found).prepend s.sql
      rw [first, Nat.add_sub_cancel' inSecond] at later
      exact later

/-- A statement between two texts, of which the first may carry outside texts. -/
theorem within (outside : List String) {before after : String} (h : Placed outside' sites s)
    (hb : qmarks before = qmarksIn outside) (ha : qmarks after = 0) :
    Placed (outside ++ outside') sites (s.within before after) := by
  have whole := ((of_text hb).append h).append (of_text (show qmarks after = qmarksIn [] from ha))
  rw [List.append_nil, List.append_nil, List.nil_append] at whole
  have params : s.params = [] ++ s.params ++ [] := by simp
  unfold Statement.within
  rw [params]
  exact whole

/-- A further piece in front of joined ones. -/
theorem cons_intercalate (between : String) {texts : List String} {params : List Value} (none : qmarks between = 0)
    (hs : Placed outside sites s) (ht : Placed outside' sites' ⟨between.intercalate texts, params⟩) :
    Placed (outside ++ outside') (sites ++ sites') ⟨between.intercalate (s.sql :: texts), s.params ++ params⟩ := by
  have gap : Placed outside sites ⟨s.sql ++ between, s.params⟩ := by
    have joined := hs.append (of_text (show qmarks between = qmarksIn [] from none))
    simp only [List.append_nil] at joined
    exact joined
  cases texts with
  | nil =>
    have alone := hs.append ht
    simp only [String.intercalate_nil, String.append_empty] at alone
    rw [String.intercalate_singleton]
    exact alone
  | cons u us =>
    rw [String.intercalate_cons_cons]
    exact gap.append ht

end Placed

/-- The statements have their outside texts and their sites one after the other. -/
inductive PlacedAll : List String → List Site → List Statement → Prop
  | nil : PlacedAll [] [] []
  | cons {outside outside' : List String} {sites sites' : List Site} {s : Statement} {ss : List Statement}
    (first : Placed outside sites s) (rest : PlacedAll outside' sites' ss) :
    PlacedAll (outside ++ outside') (sites ++ sites') (s :: ss)

namespace PlacedAll

variable {outside : List String} {sites : List Site} {ss : List Statement}

theorem join (between : String) (none : qmarks between = 0) (h : PlacedAll outside sites ss) :
    Placed outside sites (.join between ss) := by
  induction h with
  | nil => exact .of_text rfl
  | cons first rest ih => exact first.cons_intercalate between none ih

/-- Empty pieces are left out; they bind nothing. -/
theorem inWords (h : PlacedAll outside sites ss) : Placed outside sites (.inWords ss) := by
  induction h with
  | nil => exact .of_text rfl
  | @cons outside _ sites _ s ss first rest ih =>
    cases empty : s.sql.isEmpty with
    | false =>
      have kept := first.cons_intercalate " " rfl ih
      unfold Statement.inWords
      rw [List.map_cons, List.filter_cons_of_pos (by rw [empty]; rfl)]
      exact kept
    | true =>
      have dropped := first.append ih
      rw [String.isEmpty_iff.1 empty, String.empty_append] at dropped
      unfold Statement.inWords
      rw [List.map_cons, List.filter_cons_of_neg (by rw [empty]; decide)]
      exact dropped

end PlacedAll

/-! ## The sites of a tree -/

namespace Clause

/-- The sites of values whose placeholders follow this text, with commas between them. -/
def listed (lead : String) : List Value → List Site
  | [] => []
  | v :: vs => ⟨lead, v⟩ :: listed (lead ++ Dialect.placeholder ++ ", ") vs

/-- The site of a column set equal to a value. -/
def equated (column value : Value) : Site := ⟨column.shown ++ " = ", value⟩

/-- What a new row's values follow. -/
def insertLead (table : Value) (columns : List Value) : String :=
  "INSERT INTO " ++ table.shown ++ " (" ++ ", ".intercalate (columns.map Value.shown) ++ ") VALUES ("

mutual
/-- Where a clause binds its values, from left to right. -/
def sites : Clause → List Site
  | .eq column value => [equated column value]
  | .filter conditions => sitesAll conditions
  | .insertInto table values => listed (insertLead table (values.map Prod.fst)) (values.map Prod.snd)
  | .updateSet _ assignments => assignments.map fun e => equated e.1 e.2
  | .finalTable _ statement => sitesAll statement
  | _ => []

def sitesAll : List Clause → List Site
  | [] => []
  | c :: cs => sites c ++ sitesAll cs
end

mutual
/-- The texts that a clause brings along: raw ones, tables, columns and directions. -/
def outside : Clause → List String
  | .raw text => [rawText text]
  | .select columns _ => columns.map Value.shown
  | .fromTable table | .deleteFrom table => [table.shown]
  | .eq column _ => [column.shown]
  | .filter conditions => outsideAll conditions
  | .orderBy items => items.flatMap fun i => [i.1.shown, i.2.shown]
  | .insertInto table values => table.shown :: values.map fun e => e.1.shown
  | .updateSet table assignments => table.shown :: assignments.map fun e => e.1.shown
  | .finalTable columns statement => columns.map Value.shown ++ outsideAll statement
  | .limit _ | .offset _ | .fetchFirst _ => []

def outsideAll : List Clause → List String
  | [] => []
  | c :: cs => outside c ++ outsideAll cs
end

/-! ## Single clauses -/

/-- Names are written as they are shown. -/
theorem names_eq {vs : List Value} {ts : List String} (h : names vs = .ok ts) : ts = vs.map Value.shown := by
  induction vs generalizing ts with
  | nil => cases h; rfl
  | cons v vs ih =>
    cases v with
    | text s =>
      obtain ⟨us, rest, rfl⟩ := map_eq_ok h
      rw [ih rest]
      rfl
    | _ => cases h

theorem nameList_eq {vs : List Value} {t : String} (h : nameList vs = .ok t) :
    t = ", ".intercalate (vs.map Value.shown) := by
  obtain ⟨ts, named, rfl⟩ := map_eq_ok h
  rw [names_eq named]

theorem qmarks_nameList {vs : List Value} {t : String} (h : nameList vs = .ok t) :
    qmarks t = qmarksIn (vs.map Value.shown) := by
  rw [nameList_eq h]
  exact qmarks_intercalate rfl _

/-- The items of an order bring the marks of their columns and directions. -/
theorem qmarksIn_items (items : List (Value × Value)) :
    qmarksIn (items.map fun i => i.1.shown ++ " " ++ i.2.shown) =
      qmarksIn (items.flatMap fun i => [i.1.shown, i.2.shown]) := by
  induction items with
  | nil => rfl
  | cons i items ih =>
    have gap : qmarks " " = 0 := rfl
    simp only [List.map_cons, List.flatMap_cons, qmarksIn_cons, qmarksIn_append, qmarksIn_nil, qmarks_append, ih]
    omega

theorem qmarks_rowCount {word t : String} {rows : Value} (h : rowCount word rows = .ok t) (plain : qmarks word = 0) :
    qmarks t = 0 := by
  unfold rowCount at h
  split at h
  · obtain ⟨n, _, h⟩ := bind_eq_ok h
    obtain ⟨u, written, h⟩ := bind_eq_ok h
    cases h
    rw [qmarks_append, qmarks_append, plain, qmarks_text written]
    rfl
  · cases h
    rfl

theorem qmarks_fetchFirst {rows : Value} {t : String} (h : Dialect.fetchFirst rows = .ok t) : qmarks t = 0 := by
  unfold Dialect.fetchFirst at h
  split at h
  · split at h
    · obtain ⟨u, written, rfl⟩ := map_eq_ok h
      rw [qmarks_append, qmarks_append, qmarks_text written]
      rfl
    · cases h
      rfl
  · cases h
    rfl

theorem placed_equals (column value : Value) :
    Placed [column.shown] [equated column value] (equals column value) where
  params := rfl
  count := by
    show qmarks (column.shown ++ " = " ++ Dialect.placeholder ++ "") = 1 + qmarksIn [column.shown]
    simp only [qmarks_append, qmarks_placeholder, qmarks_empty, qmarksIn_cons, qmarksIn_nil]
    have plain : qmarks " = " = 0 := rfl
    omega
  place plain k site found := by
    cases k with
    | succ k => simp at found
    | zero =>
      cases Option.some.inj found
      refine ⟨"", "", by rw [String.empty_append]; rfl, ?_⟩
      rw [String.empty_append, equated, qmarks_append]
      rw [qmarksIn_cons] at plain
      have gap : qmarks " = " = 0 := rfl
      omega

theorem placedAll_equals (es : List (Value × Value)) :
    PlacedAll (es.map fun e => e.1.shown) (es.map fun e => equated e.1 e.2) (es.map fun e => equals e.1 e.2) := by
  induction es with
  | nil => exact .nil
  | cons e es ih => exact .cons (placed_equals e.1 e.2) ih

theorem map_value_listed (lead : String) (vs : List Value) : (listed lead vs).map Site.value = vs := by
  induction vs generalizing lead with
  | nil => rfl
  | cons v vs ih => rw [listed, List.map_cons, ih]

theorem length_listed (lead : String) (vs : List Value) : (listed lead vs).length = vs.length := by
  have values := congrArg List.length (map_value_listed lead vs)
  rwa [List.length_map] at values

/-- The placeholders of a list follow the text before them, one by one. -/
theorem at_listed {lead : String} {vs : List Value} {k : Nat} {site : Site}
    (found : (listed lead vs)[k]? = some site) :
    site.At (lead ++ ", ".intercalate (vs.map fun _ => Dialect.placeholder)) (qmarks lead + k) := by
  induction vs generalizing lead k with
  | nil => simp [listed] at found
  | cons v vs ih =>
    cases k with
    | zero =>
      cases Option.some.inj found
      cases vs with
      | nil => exact ⟨"", "", by simp [String.intercalate_singleton], by simp⟩
      | cons u us =>
        refine ⟨"", ", " ++ ", ".intercalate ((u :: us).map fun _ => Dialect.placeholder), ?_, by simp⟩
        rw [List.map_cons, List.map_cons, String.intercalate_cons_cons, String.empty_append]
        simp only [String.append_assoc]
    | succ k =>
      rw [listed, List.getElem?_cons_succ] at found
      have later := ih found
      cases vs with
      | nil => simp [listed] at found
      | cons u us =>
        -- the first placeholder and its comma belong to the lead of the others
        have place : qmarks (lead ++ Dialect.placeholder ++ ", ") + k = qmarks lead + (k + 1) := by
          rw [qmarks_append, qmarks_append, qmarks_placeholder, show qmarks ", " = 0 from rfl]
          omega
        rw [place] at later
        rw [List.map_cons, List.map_cons, String.intercalate_cons_cons]
        simp only [String.append_assoc, List.map_cons] at later ⊢
        exact later

theorem qmarks_insertLead (table : Value) (columns : List Value) :
    qmarks (insertLead table columns) = qmarksIn (table.shown :: columns.map Value.shown) := by
  have plain : qmarks "INSERT INTO " = 0 ∧ qmarks " (" = 0 ∧ qmarks ") VALUES (" = 0 := ⟨rfl, rfl, rfl⟩
  have columnMarks := qmarks_intercalate (show qmarks ", " = 0 from rfl) (columns.map Value.shown)
  show qmarks ("INSERT INTO " ++ table.shown ++ " (" ++ ", ".intercalate (columns.map Value.shown) ++ ") VALUES (") = _
  simp only [qmarks_append, columnMarks, qmarksIn_cons]
  omega

theorem qmarksIn_placeholders (vs : List Value) : qmarksIn (vs.map fun _ => Dialect.placeholder) = vs.length := by
  induction vs with
  | nil => rfl
  | cons v vs ih => rw [List.map_cons, qmarksIn_cons, ih, qmarks_placeholder, List.length_cons, Nat.add_comm]

/-- A new row is written as a list of placeholders between the lead and a bracket. -/
theorem render_insertInto {d : Dialect} {table : Value} {es : List (Value × Value)} {s : Statement}
    (h : render d (.insertInto table es) = .ok s) :
    s.sql = insertLead table (es.map Prod.fst) ++
      ", ".intercalate ((es.map Prod.snd).map fun _ => Dialect.placeholder) ++ ")" ∧ s.params = es.map Prod.snd := by
  obtain ⟨t, named, rfl⟩ := map_eq_ok h
  have pieces : (es.map fun e => bind e.2).map Statement.sql = (es.map Prod.snd).map fun _ => Dialect.placeholder := by
    rw [List.map_map, List.map_map]
    rfl
  refine ⟨?_, ?_⟩
  · rw [← pieces, nameList_eq named]
    rfl
  · rw [Statement.params_within, Statement.params_join, flatMap_singleton]

theorem placed_insertInto {d : Dialect} {table : Value} {es : List (Value × Value)} {s : Statement}
    (h : render d (.insertInto table es) = .ok s) :
    Placed (outside (.insertInto table es)) (sites (.insertInto table es)) s := by
  obtain ⟨sql, params⟩ := render_insertInto h
  have outsideMarks : qmarks (insertLead table (es.map Prod.fst)) = qmarksIn (outside (.insertInto table es)) := by
    rw [qmarks_insertLead, List.map_map]
    rfl
  refine ⟨?_, ?_, fun plain k site found => ?_⟩
  · rw [params, sites, map_value_listed]
  · have bracket : qmarks ")" = 0 := rfl
    rw [sql, qmarks_append, qmarks_append, outsideMarks, qmarks_intercalate rfl, qmarksIn_placeholders, sites,
      length_listed]
    omega
  · have there := (at_listed found).append ")"
    rw [outsideMarks, plain, Nat.zero_add, ← sql] at there
    exact there

/-! ## Whole trees -/

mutual
/-- A clause has its placeholders at its sites. -/
theorem placed_render {d : Dialect} : ∀ {c : Clause} {s : Statement}, render d c = .ok s →
    Placed c.outside c.sites s
  | .raw _, _, h => by
    cases h
    exact .of_text (by rw [outside, qmarksIn_cons, qmarksIn_nil, Nat.add_zero])
  | .select columns distinct, _, h => by
    obtain ⟨t, named, rfl⟩ := map_eq_ok h
    refine .of_text ?_
    rw [qmarks_append, qmarks_nameList named]
    cases distinct <;> exact Nat.zero_add _
  | .fromTable table, _, h | .deleteFrom table, _, h => by
    cases h
    refine .of_text ?_
    rw [qmarks_append, outside, qmarksIn_cons, qmarksIn_nil]
    exact Nat.zero_add _
  | .eq column value, _, h => by
    cases h
    exact placed_equals column value
  | .filter cs, s, h => by
    rw [render] at h
    split at h
    · next e =>
      cases h
      rw [List.isEmpty_iff.1 e]
      exact .of_text rfl
    · obtain ⟨ps, rendered, h⟩ := bind_eq_ok h
      obtain ⟨qs, joined, h⟩ := bind_eq_ok h
      cases h
      cases joinable_eq_ok joined
      exact ((placedAll_renderAll rendered).join " AND " rfl).within [] rfl rfl
  | .orderBy items, s, h => by
    rw [render] at h
    split at h
    · next e =>
      cases h
      rw [List.isEmpty_iff.1 e]
      exact .of_text rfl
    · cases h
      refine .of_text ?_
      rw [qmarks_append, qmarks_intercalate rfl, qmarksIn_items]
      exact Nat.zero_add _
  | .limit _, _, h | .offset _, _, h => by
    obtain ⟨t, counted, rfl⟩ := map_eq_ok h
    exact .of_text (qmarks_rowCount counted rfl)
  | .fetchFirst _, _, h => by
    obtain ⟨t, fetched, rfl⟩ := map_eq_ok h
    refine .of_text (Nat.le_zero.1 ?_)
    rw [← qmarks_fetchFirst fetched]
    exact qmarks_strip_le t
  | .insertInto _ _, _, h => placed_insertInto h
  | .updateSet table es, _, h => by
    cases h
    have set := (placedAll_equals es).join ", " rfl
    refine set.within [table.shown] ?_ rfl
    rw [qmarks_append, qmarks_append, qmarksIn_cons, qmarksIn_nil]
    exact Nat.zero_add _
  | .finalTable columns cs, s, h => by
    rw [render] at h
    obtain ⟨ps, rendered, h⟩ := bind_eq_ok h
    obtain ⟨qs, joined, h⟩ := bind_eq_ok h
    obtain ⟨t, named, h⟩ := bind_eq_ok h
    cases h
    cases joinable_eq_ok joined
    refine (placedAll_renderAll rendered).inWords.within (columns.map Value.shown) ?_ rfl
    rw [qmarks_append, qmarks_append, qmarks_nameList named]
    exact Nat.zero_add _

theorem placedAll_renderAll {d : Dialect} : ∀ {cs : List Clause} {ss : List Statement}, renderAll d cs = .ok ss →
    PlacedAll (outsideAll cs) (sitesAll cs) ss
  | [], _, h => by
    cases h
    exact .nil
  | c :: cs, ss, h => by
    rw [renderAll] at h
    obtain ⟨s, first, h⟩ := bind_eq_ok h
    obtain ⟨rest, others, h⟩ := bind_eq_ok h
    cases h
    exact .cons (placed_render first) (placedAll_renderAll others)
end

/-- **Placeholders and values stay in step.** The values of a statement are those that its clauses carry, from left to
right; the text has a placeholder for each of them, and no mark besides but those that came with the outside texts;
and when these have none, the mark in each place is the placeholder of the value in the same place, right after what
its clause writes before it. -/
theorem placeholders_match {d : Dialect} {cs : List Clause} {st : Statement} (h : statement d cs = .ok st) :
    st.params = boundAll cs ∧
    qmarks st.sql = st.params.length + qmarksIn (outsideAll cs) ∧
    ((∀ t ∈ outsideAll cs, qmarks t = 0) → (sitesAll cs).length = st.params.length ∧
      ∀ (k : Nat) (site : Site), (sitesAll cs)[k]? = some site →
        st.params[k]? = some site.value ∧ site.At st.sql k) := by
  have bound := params_statement h
  obtain ⟨ps, rendered, h⟩ := bind_eq_ok h
  obtain ⟨qs, joined, h⟩ := bind_eq_ok h
  cases h
  cases joinable_eq_ok joined
  have placed := (placedAll_renderAll rendered).inWords
  have length : (sitesAll cs).length = (Statement.inWords ps).params.length := by rw [placed.params, List.length_map]
  refine ⟨bound, by rw [placed.count, length], fun plain => ⟨length, fun k site found => ⟨?_, ?_⟩⟩⟩
  · rw [placed.params, List.getElem?_map, found]
    rfl
  · exact placed.place (qmarksIn_eq_zero.2 plain) k site found

/-- A change of two columns, one of them to a question mark, in the row with a key. -/
theorem placeholders_match_update :
    let cs : List Clause := [.finalTable [.text "ID"] [
      .updateSet (.text "T") [(.text "A", .int 1), (.text "B", .text "?")], .filter [.eq (.text "ID") (.int 7)]]]
    let st : Statement := ⟨"SELECT ID FROM FINAL TABLE (UPDATE T SET A = ?, B = ? WHERE ID = ?)",
      [.int 1, .text "?", .int 7]⟩
    statement {} cs = .ok st ∧ st.params = boundAll cs ∧ qmarks st.sql = 3 ∧
      (Site.mk "B = " (.text "?")).At st.sql 1 ∧ (Site.mk "ID = " (.int 7)).At st.sql 2 := by
  intro cs st
  have built : statement {} cs = .ok st := rfl
  obtain ⟨params, count, places⟩ := placeholders_match built
  have plain : ∀ t ∈ outsideAll cs, qmarks t = 0 := by decide
  obtain ⟨_, place⟩ := places plain
  exact ⟨built, params, count, (place 1 _ rfl).2, (place 2 _ rfl).2⟩

end Clause

end TableGateway
