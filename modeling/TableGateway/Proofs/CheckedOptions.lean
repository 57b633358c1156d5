import TableGateway.Proofs.Wording

/-!
# Checked options

Options are obtained in three ways: from parts, from what a caller describes, and from other options by setting another
limit. Whatever the way, the options have passed the check (`Obtained.checked`), and the check has put their parts into
one form (`Parts.Normal`): numbers of rows that are not negative, a limit wherever rows are skipped, the two words for
directions, single values to compare with, columns in a tuple. What has passed the check passes it again as it is; so
a limit can be set as often as one likes, as long as it leaves one where rows are skipped. In a statement that reads
rows, the form shows in how the text ends.

- **`Checked.normal`**: the form of the parts;
- **`withLimit_pos`**, **`withLimit_of_not_pos`**: setting a limit, and taking it away;
- **`isEnding_readWords`**, **`isOrdering_orderWords`**: how a statement ends;
- **`lasting`**: what all options satisfy that are obtained so.
-/

namespace TableGateway

namespace Options

/-- The options can be obtained: made of parts, described by a value, taken over, or changed in their limit. -/
inductive Obtained : Options → Prop
  | made {p : Parts} {o : Options} (made : ofParts p = .ok o) : Obtained o
  | described {v : Value} {o : Options} (means : coerce (.value v) = .ok o) : Obtained o
  | passed {o o' : Options} (earlier : Obtained o) (means : coerce (.options o) = .ok o') : Obtained o'
  | limited {o o' : Options} {v : Value} (earlier : Obtained o) (made : o.withLimit v = .ok o') : Obtained o'

/-- The parts of options in the form that the check gives them. -/
structure Parts.Normal (p : Parts) : Prop where
  filter : ∃ es, p.filter = .map es ∧ ∀ e ∈ es, e.2.isCollection = false
  sort : ∃ es, p.sort = .map es ∧ ∀ e ∈ es, e.2 = .text "ASC" ∨ e.2 = .text "DESC"
  limit : p.limit = .null ∨ ∃ n : Int, 0 ≤ n ∧ p.limit = .int n
  skip : p.skip = .null ∨ ∃ n : Int, 0 ≤ n ∧ p.skip = .int n
  limited : ∀ k : Int, 0 < k → p.skip = .int k → ∃ n : Int, 0 < n ∧ p.limit = .int n
  distinct : ∃ b, p.distinct = .bool b
  select : p.select = .null ∨ ∃ names : List String, p.select = .tuple (names.map .text)

variable {o : Options}

/-! ## The form of the parts -/

/-- Whatever is obtained has passed the check. -/
theorem Obtained.checked (h : Obtained o) : o.Checked := by
  induction h with
  | made made => exact checked_ofParts made
  | described means => exact (accepted_of_value means).2
  | passed _ means ih =>
    cases means
    exact ih
  | limited _ made _ => exact checked_ofParts made

/-- Options can be made of arguments by name. -/
theorem Obtained.named {t : Keyed Value} (made : ofNamed t = .ok o) : Obtained o := by
  obtain ⟨_, _, made⟩ := bind_eq_ok made
  exact .made made

/-- Numbers of rows as values. -/
theorem countValue_null_or_int (n : Option Nat) : countValue n = .null ∨ ∃ k : Int, 0 ≤ k ∧ countValue n = .int k := by
  cases n with
  | none => exact Or.inl rfl
  | some k => exact Or.inr ⟨k, Int.natCast_nonneg k, rfl⟩

theorem isPositive_iff_some {n : Option Nat} : isPositive n = true ↔ ∃ k, 0 < k ∧ n = some k := by
  constructor
  · intro counts
    cases n with
    | none => cases counts
    | some k => exact ⟨k, isPositive_some.1 counts, rfl⟩
  · rintro ⟨k, pos, rfl⟩
    exact isPositive_some.2 pos

/-- There are rows to count exactly when the value is a positive number. -/
theorem isPositive_iff {n : Option Nat} : isPositive n = true ↔ ∃ k : Int, 0 < k ∧ countValue n = .int k := by
  rw [isPositive_iff_some]
  constructor
  · rintro ⟨k, pos, rfl⟩
    exact ⟨k, Int.natCast_pos.2 pos, rfl⟩
  · rintro ⟨k, pos, same⟩
    cases n with
    | none => cases same
    | some n =>
      cases same
      exact ⟨n, Int.natCast_pos.1 pos, rfl⟩

theorem Checked.normal (h : o.Checked) : o.toParts.Normal where
  filter := ⟨o.filter.entries, rfl, h.1⟩
  sort := by
    refine ⟨_, rfl, fun e among => ?_⟩
    obtain ⟨⟨column, d⟩, -, rfl⟩ := List.mem_map.1 among
    cases d with
    | ascending => exact Or.inl rfl
    | descending => exact Or.inr rfl
  limit := countValue_null_or_int o.limit
  skip := countValue_null_or_int o.skip
  limited k pos skips := isPositive_iff.1 (h.2 (isPositive_iff.2 ⟨k, pos, skips⟩))
  distinct := ⟨o.distinct, rfl⟩
  select := by
    unfold toParts
    cases o.select with
    | none => exact Or.inl rfl
    | some names => exact Or.inr ⟨names, rfl⟩

/-! ## Another limit -/

/-- Rows are to be skipped without a limit. -/
def loneSkip (skip : Option Nat) : Error :=
  .option "Cannot specify skip without limit" (.text "skip") (countValue skip)

theorem checkSkip_of_not_pos {limit skip : Option Nat} (none : isPositive limit = false) :
    checkSkip limit skip = if isPositive skip then .error (loneSkip skip) else .ok () := by
  unfold checkSkip
  rw [none]
  cases isPositive skip <;> rfl

/-- A limit may always be set, and nothing else changes. -/
theorem withLimit_pos (h : o.Checked) {n : Int} (pos : 1 ≤ n) :
    o.withLimit (.int n) = .ok { o with limit := some n.toNat } := by
  have limited := withLimit_checked h n.toNat (by omega)
  rwa [Int.toNat_of_nonneg (by omega)] at limited

/-- A limit may be taken away exactly where no rows are skipped, and then nothing else changes. -/
theorem withLimit_of_not_pos (h : o.Checked) {v : Value} {limit : Option Nat}
    (counts : checkCount "limit" v = .ok limit) (none : isPositive limit = false) :
    o.withLimit v =
      if isPositive o.skip then .error (.refused (loneSkip o.skip)) else .ok { o with limit := limit } := by
  rw [withLimit_eq h, counts]
  show (liftM (checkSkip limit o.skip) : Except Failure Unit) >>= (fun _ => .ok { o with limit := limit }) = _
  rw [checkSkip_of_not_pos none]
  split <;> rfl

end Options

/-! ## How a statement ends -/

namespace Query

open Options

variable {s : Schema} {o : Options} {d : Dialect} {st : Statement}

/-- What an order by these items adds to a statement: nothing without items, or else every item in turn, each with one
of the two words for directions. -/
inductive IsOrdering : List (String × String) → String → Prop
  | absent : IsOrdering [] ""
  | by {items : List (String × String)} (some : items ≠ []) (directions : ∀ i ∈ items, i.2 = "ASC" ∨ i.2 = "DESC") :
    IsOrdering items (" ORDER BY " ++ ", ".intercalate (items.map fun i => i.1 ++ " " ++ i.2))

/-- What a limit and a number of rows to skip add to a statement: nothing, the limit, or the limit and the rows to skip
behind it. -/
inductive IsEnding : Option Nat → Option Nat → String → Prop
  | absent {limit skip : Option Nat} (all : isPositive limit = false) (none : isPositive skip = false) :
    IsEnding limit skip ""
  | limit {n : Nat} {skip : Option Nat} (pos : 0 < n) (none : isPositive skip = false) :
    IsEnding (some n) skip (" LIMIT " ++ toString n)
  | offset {n k : Nat} (pos : 0 < n) (skips : 0 < k) :
    IsEnding (some n) (some k) (" LIMIT " ++ toString n ++ " OFFSET " ++ toString k)

/-- The columns of the schema that rows are ordered by, each with the word for its direction. -/
def orderItems (s : Schema) (o : Options) : List (String × String) :=
  (known s o.sort).map fun e => (e.1.shown, e.2.word)

theorem rowsWords_of_not_pos (word : String) {n : Option Nat} (none : isPositive n = false) :
    rowsWords word n = "" := by
  rw [rowsWords, none, if_neg (by decide)]

theorem isOrdering_orderWords (s : Schema) (o : Options) : IsOrdering (orderItems s o) (orderWords s o) := by
  unfold orderWords orderText
  cases none : (known s o.sort).isEmpty with
  | true =>
    rw [orderItems, List.isEmpty_iff.1 none]
    exact .absent
  | false =>
    have some : orderItems s o ≠ [] := by
      intro empty
      rw [List.map_eq_nil_iff.1 empty] at none
      cases none
    have directions : ∀ i ∈ orderItems s o, i.2 = "ASC" ∨ i.2 = "DESC" := by
      intro i among
      obtain ⟨⟨column, d⟩, -, rfl⟩ := List.mem_map.1 among
      cases d with
      | ascending => exact Or.inl rfl
      | descending => exact Or.inr rfl
    have words : (known s o.sort).map orderItem = (orderItems s o).map fun i => i.1 ++ " " ++ i.2 := by
      rw [orderItems, List.map_map]
      rfl
    have ordering := IsOrdering.by some directions
    rw [if_neg (by decide), trailing_cons (append_ne_empty _ (by decide)), trailing, String.append_empty, words,
      ← String.append_assoc]
    exact ordering

/-- Rows are skipped only behind a limit. -/
theorem isEnding_readWords (h : o.Checked) : IsEnding o.limit o.skip (readWords o) := by
  cases limiting : isPositive o.limit with
  | false =>
    have skipping : isPositive o.skip = false := by
      rw [Bool.eq_false_iff]
      intro skips
      rw [h.2 skips] at limiting
      cases limiting
    rw [readWords, rowsWords_of_not_pos _ limiting, rowsWords_of_not_pos _ skipping]
    exact .absent limiting skipping
  | true =>
    obtain ⟨n, pos, limit⟩ := isPositive_iff_some.1 limiting
    rw [readWords_pos limit pos, limit]
    cases skipping : isPositive o.skip with
    | false =>
      rw [rowsWords_of_not_pos _ skipping]
      have ending := IsEnding.limit pos skipping
      exact (String.append_empty (s := " LIMIT " ++ toString n)).symm ▸ ending
    | true =>
      obtain ⟨k, skips, skip⟩ := isPositive_iff_some.1 skipping
      have offset : rowsWords "OFFSET" (some k) = "OFFSET " ++ toString k := if_pos (isPositive_some.2 skips)
      have spaced : " OFFSET " = " " ++ "OFFSET " := rfl
      have ending := IsEnding.offset pos skips
      rw [spaced] at ending
      rw [skip, offset, trailing_cons (append_ne_empty _ (by decide)), trailing, String.append_empty]
      simpa only [String.append_assoc] using ending

theorem find_of_means {given : OptionsGiven} (means : coerce given = .ok o) : find d s given = findWith d s o := by
  unfold find
  rw [means]
  rfl

/-- A statement that reads rows is its columns, its table, its filter, its order and its numbers of rows. -/
theorem ends_of_find (h : o.Checked) (built : find d s (.options o) = .ok st) : ∃ columns table order ending,
    projection s o.select = .ok (columns.map .text) ∧ d.tableName s.table = .ok table ∧
      IsOrdering (orderItems s o) order ∧ IsEnding o.limit o.skip ending ∧
      st.sql = opening o.distinct ++ ", ".intercalate columns ++ " FROM " ++ table.shown ++ whereWords s o ++ order ++
        ending := by
  rw [find_of_means (o := o) rfl] at built
  obtain ⟨columns, table, projected, named, -, -, rfl⟩ := findWith_eq_ok.1 built
  exact ⟨columns, table, orderWords s o, readWords o, projected, named, isOrdering_orderWords s o,
    isEnding_readWords h, rfl⟩

end Query

/-! ## All options -/

namespace Options

variable {o : Options}

/-- **What lasts.** Options that are obtained in any way have parts in the form that the check gives, and they pass the
check again unchanged. A limit of one row or more may always be set, and nothing else changes; it may be set to zero or
taken away unless rows are skipped. A statement that reads rows by them is the columns selected, the table of the schema
and the filter, then the columns to order by, each in one of the two directions, then the limit, if there is one, and
the rows to skip only behind that limit. -/
theorem lasting (obtained : Obtained o) :
    o.toParts.Normal ∧ ofParts o.toParts = .ok o ∧
    (∀ n : Int, 1 ≤ n → o.withLimit (.int n) = .ok { o with limit := some n.toNat }) ∧
    (∀ v, v = .int 0 ∨ v = .null → ((∃ f, o.withLimit v = .error f) ↔ ∃ k, 0 < k ∧ o.skip = some k)) ∧
    ∀ (d : Dialect) (s : Schema) (st : Statement), Query.find d s (.options o) = .ok st →
      ∃ columns table order ending,
        Query.projection s o.select = .ok (columns.map .text) ∧ d.tableName s.table = .ok table ∧
        Query.IsOrdering (Query.orderItems s o) order ∧ Query.IsEnding o.limit o.skip ending ∧
        st.sql = Query.opening o.distinct ++ ", ".intercalate columns ++ " FROM " ++ table.shown ++
          Query.whereWords s o ++ order ++ ending := by
  have checked := obtained.checked
  refine ⟨checked.normal, ofParts_toParts checked, fun n pos => withLimit_pos checked pos, ?_,
    fun d s st built => Query.ends_of_find checked built⟩
  intro v none
  obtain ⟨limit, counts, none⟩ : ∃ limit, checkCount "limit" v = .ok limit ∧ isPositive limit = false := by
    rcases none with rfl | rfl
    · exact ⟨some 0, rfl, rfl⟩
    · exact ⟨Option.none, rfl, rfl⟩
  rw [withLimit_of_not_pos checked counts none, ← isPositive_iff_some]
  cases isPositive o.skip with
  | true => exact ⟨fun _ => rfl, fun _ => ⟨_, rfl⟩⟩
  | false =>
    constructor
    · rintro ⟨f, failed⟩
      cases failed
    · intro skips
      cases skips

/-- Four rows are skipped under a limit that is set after the options were given by name. -/
theorem lasting_skip :
    let given : Keyed Value := ⟨[(.text "sort", .map [(.text "name", .text " desc ")]), (.text "skip", .int 4),
      (.text "limit", .int 2), (.text "select", .text "name")]⟩
    let s : Schema := ⟨.text "users", ⟨[(.text "id", {}), (.text "name", {})]⟩⟩
    let o : Options :=
      { sort := ⟨[(.text "name", .descending)]⟩, limit := some 1, skip := some 4, select := some ["name"] }
    (∃ before, ofNamed given = .ok before ∧ before.withLimit (.int 1) = .ok o) ∧ Obtained o ∧
      ofParts o.toParts = .ok o ∧ o.withLimit (.int 7) = .ok { o with limit := some 7 } ∧
      (∃ f, o.withLimit (.int 0) = .error f) ∧ (∃ f, o.withLimit .null = .error f) ∧
      ∃ st, Query.find {} s (.options o) = .ok st ∧
        st.sql = "SELECT name FROM users ORDER BY name DESC LIMIT 1 OFFSET 4" := by
  intro given s o
  have made : ofNamed given = .ok { o with limit := some 2 } := by rfl
  have limited : withLimit { o with limit := some 2 } (.int 1) = .ok o := by rfl
  have obtained : Obtained o := .limited (.named made) limited
  obtain ⟨-, again, sets, takes, -⟩ := lasting obtained
  have skips : ∃ k, 0 < k ∧ o.skip = some k := ⟨4, by decide, rfl⟩
  have found : Query.find {} s (.options o) = .ok (Query.reading ["name"] (.text "users") s o) := by
    rw [Query.find_of_means (o := o) rfl]
    exact Query.findWith_eq_ok.2
      ⟨["name"], _, rfl, rfl, writable_digit (by decide), writable_digit (by decide), rfl⟩
  exact ⟨⟨_, made, limited⟩, obtained, again, sets 7 (by decide), (takes _ (Or.inl rfl)).2 skips,
    (takes _ (Or.inr rfl)).2 skips, _, found, by decide +kernel⟩

end Options

end TableGateway
