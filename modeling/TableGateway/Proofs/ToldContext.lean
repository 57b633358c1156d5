import TableGateway.Proofs.AddedContext

/-!
# What an error tells of the values added to it

Values are added to the context of an error call after call (`Error.withContexts`), and the error is read afterwards. It
is meant to tell what was written last under each name, and else what it told before (`Tells`). It does so unless a name
is refused or takes away the store or the reading of the context, a note has no mapping to go to, a note of the name
of a field hides the field, or a value went to the workings of the record, which are not shown (`Upholds`).

- **`shows_of_toKeyed`**, **`exists_toKeyed_iff`**: what a context shows, and when it can be read;
- **`below_addAll`**: a store that was put in place holds less than what was written;
- **`told_iff`**, **`tells_iff`**: when values are told, name by name and as a whole;
- **`Error.records_iff`**: when all calls succeed and the error tells their values.
-/

namespace TableGateway

namespace Value

/-! ## Values inside values -/

section Inside

variable {v x y : Value} {ps es : List (Value × Value)}

/-- Only a collection has a collection among its members. -/
theorem isCollection_of_members {ys : List Value} (read : x.members? = .ok ys) (among : y ∈ ys)
    (collection : y.isCollection = true) : x.isCollection = true := by
  cases x with
  | text s =>
    cases read
    obtain ⟨c, -, rfl⟩ := List.mem_map.1 among
    cases collection
  | bytes bs =>
    cases read
    obtain ⟨b, -, rfl⟩ := List.mem_map.1 among
    cases collection
  | list xs | tuple xs | set xs | map es => rfl
  | _ => cases read

/-- A collection among the members of a value is smaller than the value. -/
theorem sizeOf_lt_of_members {ys : List Value} (read : x.members? = .ok ys) (among : y ∈ ys)
    (collection : y.isCollection = true) : sizeOf y < sizeOf x := by
  cases x with
  | list xs | tuple xs | set xs =>
    cases read
    have smaller := List.sizeOf_lt_of_mem among
    simp only [list.sizeOf_spec, tuple.sizeOf_spec, set.sizeOf_spec]
    omega
  | map es =>
    cases read
    obtain ⟨e, there, rfl⟩ := List.mem_map.1 among
    have smaller := List.sizeOf_lt_of_mem there
    obtain ⟨k, w⟩ := e
    simp only [Prod.mk.sizeOf_spec, map.sizeOf_spec] at smaller ⊢
    omega
  | text s | bytes bs => cases isCollection_of_members read among collection
  | _ => cases read

theorem exists_pair {ys : List Value} {k : Value} (read : ys.mapM pair = .ok ps) (among : (k, v) ∈ ps) :
    ∃ y ∈ ys, y.members? = .ok [k, v] := by
  induction ys generalizing ps with
  | nil =>
    cases read
    cases among
  | cons y ys ih =>
    rw [List.mapM_cons] at read
    obtain ⟨p, first, read⟩ := bind_eq_ok read
    obtain ⟨rest, later, read⟩ := bind_eq_ok read
    cases read
    rcases List.mem_cons.1 among with rfl | among
    · refine ⟨y, .head _, ?_⟩
      obtain ⟨zs, members, first⟩ := bind_eq_ok first
      rw [members]
      split at first
      · split at first
        · cases first
          rfl
        · cases first
      · cases first
    · obtain ⟨z, there, members⟩ := ih later among
      exact ⟨z, .tail _ there, members⟩

/-- A mapping among what is read as pairs is smaller than the whole. -/
theorem sizeOf_lt_of_pairs {k : Value} (read : x.pairs? = .ok ps) (among : (k, .map es) ∈ ps) :
    sizeOf (Value.map es) < sizeOf x := by
  have others : (∀ fs, x ≠ .map fs) → sizeOf (Value.map es) < sizeOf x := by
    intro other
    have pairs : x.members? >>= (List.mapM pair ·) = .ok ps := by
      cases x with
      | map fs => exact absurd rfl (other fs)
      | _ => exact read
    obtain ⟨ys, members, pairs⟩ := bind_eq_ok pairs
    obtain ⟨y, there, inner⟩ := exists_pair pairs among
    have within : Value.map es ∈ [k, .map es] := .tail _ (.head _)
    exact Nat.lt_trans (sizeOf_lt_of_members inner within rfl)
      (sizeOf_lt_of_members members there (isCollection_of_members inner within rfl))
  cases x with
  | map fs =>
    cases read
    have smaller := List.sizeOf_lt_of_mem among
    simp only [Prod.mk.sizeOf_spec, map.sizeOf_spec] at smaller ⊢
    omega
  | _ => exact others nofun

end Inside

end Value

namespace Context

/-! ## Reading a context -/

section Reading

variable {c : Context} {t : Keyed Value} {name : String} {v : Value}

theorem lookup_fieldEntry (n name : String) (v : Value) : Keyed.lookupIn (fieldEntry n v) (.text name) =
    if n = name then (if v.isNull = true then none else some v) else none := by
  unfold fieldEntry
  cases v.isNull <;> simp [Keyed.lookupIn, eq_comm]

/-- A field is shown when it has a value. -/
theorem lookup_fields (c : Context) (name : String) :
    c.fields.lookup (.text name) = if (c.field name).isNull = true then none else some (c.field name) := by
  unfold fields Keyed.lookup
  simp only [Keyed.lookupIn_append, lookup_fieldEntry]
  by_cases among : name ∈ fieldNames
  · simp only [fieldNames, List.mem_cons, List.not_mem_nil, or_false] at among
    rcases among with rfl | rfl | rfl | rfl
    all_goals simp [field]
  · simp only [fieldNames, List.mem_cons, List.not_mem_nil, or_false, not_or, ← ne_eq] at among
    obtain ⟨identity, schemaName, table, sql⟩ := among
    simp [field, identity, schemaName, table, sql, identity.symm, schemaName.symm, table.symm, sql.symm, Value.isNull]

theorem fieldEntry_sublist (name : String) (v : Value) : (fieldEntry name v).Sublist [(.text name, v)] := by
  unfold fieldEntry
  split
  · exact List.nil_sublist _
  · exact .refl _

theorem distinct_fields (c : Context) : c.fields.Distinct := by
  have part : c.fields.entries.Sublist [(.text "identity", c.identity), (.text "schema_name", c.schemaName),
      (.text "table", c.table), (.text "sql", c.sql)] :=
    (((fieldEntry_sublist _ _).append (fieldEntry_sublist _ _)).append (fieldEntry_sublist _ _)).append
      (fieldEntry_sublist _ _)
  refine List.Pairwise.sublist part ?_
  simp

theorem foreign_fields (c : Context) : c.fields.foreign = [] := by
  unfold fields Keyed.foreign fieldEntry
  simp only [List.filter_append, List.append_eq_nil_iff]
  refine ⟨⟨⟨?_, ?_⟩, ?_⟩, ?_⟩ <;> split <;> rfl

/-- Notes that do not count as given are none. -/
theorem noted_of_not_truthy {notes : Value} (given : c.notes = some notes) (none : notes.isTruthy = false) :
    c.noted = ⟨[]⟩ := by
  rw [noted, given]
  cases notes with
  | map es | list es | tuple es | set es | bytes es =>
    rw [Value.isTruthy, Bool.not_eq_false', List.isEmpty_iff] at none
    subst none
    rfl
  | text s =>
    rw [Value.isTruthy, Bool.not_eq_false', String.isEmpty_iff] at none
    subst none
    rfl
  | _ => rfl

/-- What is shown under a name among the notes was read from them. -/
theorem exists_of_lookup_noted (found : c.noted.lookup (.text name) = some v) :
    ∃ notes ps, c.notes = some notes ∧ notes.pairs? = .ok ps ∧ (.text name, v) ∈ ps := by
  unfold noted at found
  split at found
  · next notes given =>
    split at found
    · next ps pairs => exact ⟨notes, ps, given, pairs, Keyed.mem_of_lookup_ofList found⟩
    · cases found
  · cases found

/-- What a context shows: the notes, and the fields that none of them hides. -/
structure Shows (c : Context) (t : Keyed Value) : Prop where
  named : ∀ name, t.lookup (.text name) =
    (c.noted.lookup (.text name)).or (if (c.field name).isNull = true then none else some (c.field name))
  foreign : t.foreign = c.noted.foreign
  once : t.Distinct

theorem shows_of_toKeyed (shown : c.toKeyed = .ok t) : Shows c t := by
  unfold toKeyed at shown
  split at shown
  · cases shown
  split at shown
  · cases shown
  next notes given =>
  split at shown
  · obtain ⟨es, pairs, rfl⟩ := map_eq_ok shown
    have noted : c.noted = .ofList es := by rw [noted, given]; dsimp only; rw [pairs]
    refine ⟨fun name => ?_, ?_, Keyed.distinct_foldl_put (distinct_fields c)⟩
    · rw [withNotes, Keyed.lookup_foldl_put, lookup_fields, noted]
    · rw [withNotes, Keyed.foreign_foldl_put (foreign_fields c), noted]
  · next none =>
    cases shown
    rw [Bool.not_eq_true] at none
    have noted := noted_of_not_truthy given none
    refine ⟨fun name => ?_, ?_, distinct_fields c⟩
    · rw [lookup_fields, noted]
      rfl
    · rw [foreign_fields, noted]
      rfl

/-- What is shown under a name that is no field's is a note. -/
theorem Shows.note (shows : Shows c t) (other : name ∉ fieldNames) :
    t.lookup (.text name) = c.noted.lookup (.text name) := by
  rw [shows.named, field_of_not_mem other, if_pos (show Value.null.isNull = true from rfl), Option.or_none]

/-- A context can be shown when its reading was not written over and its notes can be read. -/
theorem exists_toKeyed_iff : (∃ t, c.toKeyed = .ok t) ↔ readerName ∉ c.held ∧ c.Readable := by
  constructor
  · rintro ⟨t, shown⟩
    unfold toKeyed at shown
    split at shown
    · cases shown
    next reader =>
    split at shown
    · cases shown
    next notes given =>
    refine ⟨reader, notes, given, fun truthy => ?_⟩
    rw [if_pos truthy] at shown
    obtain ⟨es, pairs, -⟩ := map_eq_ok shown
    exact ⟨es, pairs⟩
  · rintro ⟨reader, notes, given, read⟩
    unfold toKeyed
    rw [if_neg reader, given]
    dsimp only
    split
    · next truthy =>
      obtain ⟨es, pairs⟩ := read truthy
      exact ⟨_, by rw [pairs]; rfl⟩
    · exact ⟨_, rfl⟩

end Reading

/-! ## A store that is replaced -/

section Stores

variable {c d e : Context} {name : String} {v : Value} {es : List (Value × Value)}
  {writes : List (String × Value)} {n : Nat}

/-- The mappings that the notes hold under the name of the store are smaller. -/
def Below (n : Nat) (c : Context) : Prop :=
  ∀ notes ps es, c.notes = some notes → notes.pairs? = .ok ps → (.text storeName, .map es) ∈ ps →
    sizeOf (Value.map es) < n

theorem below_ofStore (es : List (Value × Value)) : Below (sizeOf (Value.map es)) (ofStore ⟨es⟩) := by
  intro notes ps fs given pairs among
  obtain ⟨a, there, -⟩ := Keyed.exists_same_of_lookup given
  have smaller := List.sizeOf_lt_of_mem there
  have inner := Value.sizeOf_lt_of_pairs pairs among
  simp only [Prod.mk.sizeOf_spec, Value.map.sizeOf_spec] at smaller inner ⊢
  omega

theorem below_adds (below : Below n d) (adds : Adds d name v e) (outside : name ≠ storeName) : Below n e := by
  rcases adds.notes_cases outside with ⟨-, same⟩ | ⟨-, es, before, after⟩
  · rw [Below, same]
    exact below
  · intro notes ps fs given pairs among
    rw [after] at given
    cases given
    cases pairs
    have there := Keyed.mem_of_mem_putIn (s := name) (fun same => outside (Value.text.inj same).symm) among
    exact below _ _ fs before rfl there

/-- A store that was put in place is not told among the notes, which were part of it. -/
theorem below_addAll (done : c.addAll writes = .ok d) (last : lastOf writes storeName = some v) :
    ∃ es, v = .map es ∧ Below (sizeOf (Value.map es)) d := by
  induction writes using List.reverseRecOn generalizing d with
  | nil => cases last
  | append_singleton writes w ih =>
    obtain ⟨name, u⟩ := w
    rw [addAll_concat] at done
    obtain ⟨before, first, added⟩ := bind_eq_ok done
    rw [lastOf_concat] at last
    have adds := add_eq_ok_iff.1 added
    by_cases inside : name = storeName
    · rw [if_pos inside] at last
      cases last
      subst inside
      cases adds with
      | store => exact ⟨_, rfl, below_ofStore _⟩
      | field among => exact absurd (show storeName ∈ fieldNames from among) (by decide)
      | held _ _ _ inside => exact absurd rfl inside
      | note _ _ inside => exact absurd rfl inside
    · rw [if_neg inside] at last
      obtain ⟨es, whole, below⟩ := ih first last
      exact ⟨es, whole, below_adds below adds inside⟩

theorem lookup_store_ne {t : Keyed Value} (below : Below (sizeOf (Value.map es)) d) (shows : Shows d t) :
    t.lookup (.text storeName) ≠ some (.map es) := by
  intro found
  rw [shows.note (by decide)] at found
  obtain ⟨notes, ps, given, pairs, among⟩ := exists_of_lookup_noted found
  exact Nat.lt_irrefl _ (below notes ps es given pairs among)

end Stores

/-! ## Whether the values are told -/

/-- Names under which nothing can be added, or with which the store or the reading of the context is lost. -/
def spoiltNames : List String := storeName :: readerName :: fixedNames.map Prod.fst

/-- What is to be told under a name: the value written last, unless it takes away the value of a field, or else what was
told before. -/
def due (before : Keyed Value) (writes : List (String × Value)) (name : String) : Option Value :=
  match lastOf writes name with
  | some v => if name ∈ fieldNames ∧ v.isNull = true then none else some v
  | none => before.lookup (.text name)

/-- A table tells what is due under each name, and nothing else but the entries there were under other keys. -/
structure Tells (before after : Keyed Value) (writes : List (String × Value)) : Prop where
  named : ∀ name, after.lookup (.text name) = due before writes name
  foreign : after.foreign = before.foreign
  once : after.Distinct

/-- The values can be added to a context and are told by it. -/
structure Upholds (c : Context) (writes : List (String × Value)) : Prop where
  legible : ∃ t, c.toKeyed = .ok t
  usable : ∀ w ∈ writes, w.1 ∉ spoiltNames
  /-- Notes go to a mapping. -/
  notes : ∀ w ∈ writes, c.IsNote w.1 → ∃ es, c.notes = some (.map es)
  /-- A field is not hidden by a note of its name that says something else. -/
  fields : ∀ name ∈ fieldNames, ∀ v w, lastOf writes name = some v → c.noted.lookup (.text name) = some w →
    w = v ∧ v.isNull = false
  /-- What goes to the workings of the record is not shown, so a note has to say it already. -/
  held : ∀ name, name ∉ fieldNames → c.Holds name → ∀ v, lastOf writes name = some v →
    c.noted.lookup (.text name) = some v

section Told

variable {c d : Context} {t u : Keyed Value} {writes : List (String × Value)}

/-- Under a name is told what is due, unless the field of this name is hidden or the name belongs to the workings of the
record. -/
theorem told_iff (follows : Follows c writes d) (before : Shows c t) (after : Shows d u) (name : String) :
    u.lookup (.text name) = due t writes name ↔ ∀ v, lastOf writes name = some v →
      (name ∈ fieldNames → ∀ w, c.noted.lookup (.text name) = some w → w = v ∧ v.isNull = false) ∧
      (name ∉ fieldNames → c.Holds name → c.noted.lookup (.text name) = some v) := by
  unfold due
  by_cases among : name ∈ fieldNames
  · have noted : d.noted.lookup (.text name) = c.noted.lookup (.text name) := by
      rw [follows.noted, if_neg fun note => note.1 among]
    rw [after.named, noted, follows.field name among]
    cases last : lastOf writes name with
    | none => simpa using (before.named name).symm
    | some v =>
      cases c.noted.lookup (.text name) with
      | none => simp [among]
      | some w => cases none : v.isNull <;> simp [among, none]
  · rw [after.note among, follows.noted]
    cases last : lastOf writes name with
    | none => simpa using (before.note among).symm
    | some v =>
      by_cases holds : c.Holds name
      · rw [if_neg fun note => note.2 holds]
        simp [among, holds]
      · rw [if_pos ⟨among, holds⟩]
        simp [among, holds]

theorem mem_of_lastOf {name : String} {v : Value} (last : lastOf writes name = some v) : (name, v) ∈ writes := by
  obtain ⟨w, found, rfl⟩ := Option.map_eq_some_iff.1 last
  have same : w.1 = name := by simpa using List.find?_some found
  exact same ▸ List.mem_reverse.1 (List.mem_of_find?_eq_some found)

theorem lastOf_ne_none {name : String} (among : name ∈ writes.map Prod.fst) : lastOf writes name ≠ none := by
  obtain ⟨w, there, rfl⟩ := List.mem_map.1 among
  simpa [lastOf] using ⟨w.2, there⟩

/-- The names of a run whose values are told can be used. -/
theorem usable_of_told (proper : c.Proper) (done : c.addAll writes = .ok d) (shown : d.toKeyed = .ok u)
    (tells : Tells t u writes) : ∀ w ∈ writes, w.1 ∉ spoiltNames := by
  have outside : storeName ∉ writes.map Prod.fst := by
    intro among
    obtain ⟨v, last⟩ := Option.ne_none_iff_exists'.1 (lastOf_ne_none among)
    obtain ⟨es, rfl, below⟩ := below_addAll done last
    refine lookup_store_ne below (shows_of_toKeyed shown) ?_
    rw [tells.named, due, last]
    rfl
  have follows := follows_addAll proper done outside
  have reader : readerName ∉ writes.map Prod.fst := fun among =>
    (exists_toKeyed_iff.1 ⟨u, shown⟩).1 (follows.reader.2 (.inr among))
  intro w among spoilt
  rcases List.mem_cons.1 spoilt with same | spoilt
  · exact outside (List.mem_map.2 ⟨w, among, same⟩)
  rcases List.mem_cons.1 spoilt with same | fixed
  · exact reader (List.mem_map.2 ⟨w, among, same⟩)
  obtain ⟨-, -, b, b', -, -, adds⟩ := exists_before done among
  exact adds.not_fixed fixed

/-- A context that tells the values added to it upholds them. -/
theorem upholds_of_told (proper : c.Proper) (done : c.addAll writes = .ok d) (legible : c.toKeyed = .ok t)
    (shown : d.toKeyed = .ok u) (tells : Tells t u writes) : c.Upholds writes := by
  have usable := usable_of_told proper done shown tells
  have inside : ∀ w ∈ writes, w.1 ≠ storeName := fun w among same => usable w among (same ▸ .head _)
  have follows := follows_addAll proper done (not_mem_names inside)
  have told := fun name =>
    (told_iff follows (shows_of_toKeyed legible) (shows_of_toKeyed shown) name).1 (tells.named name)
  exact {
    legible := ⟨t, legible⟩
    usable := usable
    notes := fun w among note => mapping_of_addAll proper done inside among note
    fields := fun name among v w last => (told name v last).1 among w
    held := fun name other holds v last => (told name v last).2 other holds }

/-- Values that a context upholds can be added to it, and it tells them. -/
theorem Upholds.told (upholds : c.Upholds writes) (proper : c.Proper) :
    ∃ d t u, c.addAll writes = .ok d ∧ c.toKeyed = .ok t ∧ d.toKeyed = .ok u ∧ Tells t u writes := by
  have usable : ∀ w ∈ writes, w.1 ∉ fixedNames.map Prod.fst ∧ w.1 ≠ storeName := fun w among =>
    ⟨fun fixed => upholds.usable w among (.tail _ (.tail _ fixed)),
      fun same => upholds.usable w among (same ▸ .head _)⟩
  have unread : readerName ∉ writes.map Prod.fst :=
    not_mem_names fun w among same => upholds.usable w among (same ▸ .tail _ (.head _))
  obtain ⟨d, done⟩ := exists_addAll proper usable upholds.notes
  have follows := follows_addAll proper done (not_mem_names fun w among => (usable w among).2)
  obtain ⟨t, legible⟩ := upholds.legible
  obtain ⟨reader, readable⟩ := exists_toKeyed_iff.1 ⟨t, legible⟩
  obtain ⟨u, shown⟩ := exists_toKeyed_iff.2
    ⟨fun held => (follows.reader.1 held).elim reader unread, follows.readable.2 readable⟩
  have before := shows_of_toKeyed legible
  have after := shows_of_toKeyed shown
  refine ⟨d, t, u, done, legible, shown, fun name => ?_, ?_, after.once⟩
  · exact (told_iff follows before after name).2 fun v last =>
      ⟨fun among w noted => upholds.fields name among v w last noted,
        fun other holds => upholds.held name other holds v last⟩
  · rw [after.foreign, follows.foreign, before.foreign]

/-- A context in which all values can be added and are told. -/
theorem tells_iff (proper : c.Proper) :
    (∃ d t u, c.addAll writes = .ok d ∧ c.toKeyed = .ok t ∧ d.toKeyed = .ok u ∧ Tells t u writes) ↔
      c.Upholds writes := by
  constructor
  · rintro ⟨d, t, u, done, legible, shown, tells⟩
    exact upholds_of_told proper done legible shown tells
  · exact fun upholds => upholds.told proper

end Told

end Context

namespace Error

/-! ## Errors after several calls -/

/-- The error with values added to its context, call after call. -/
def withContexts (e : Error) (calls : List (List (String × Value))) : Except Fault Error := calls.foldlM withContext e

/-- All calls succeed, and the error can be read afterwards; its context then tells the value written last under each
name, and else what it told before. -/
def Records (e : Error) (calls : List (List (String × Value))) : Prop :=
  ∃ later shown before after, e.withContexts calls = .ok later ∧ later.detail = .ok shown ∧
    e.context.toKeyed = .ok before ∧ Context.Tells before after calls.flatten ∧
    shown.lookup (.text "context") = if after.isEmpty then none else some (.ofKeyed after)

section Calls

variable {e later : Error} {entries : List (String × Value)} {calls : List (List (String × Value))}
  {t shown : Keyed Value}

theorem withContext_eq_ok_iff : e.withContext entries = .ok later ↔ (∀ w ∈ entries, w.1 ≠ selfName) ∧
    ∃ c, e.context.addAll entries = .ok c ∧ later = { e with context := c } := by
  unfold withContext
  split
  · next self =>
    obtain ⟨w, among, same⟩ := List.any_eq_true.1 self
    exact ⟨nofun, fun both => absurd (beq_iff_eq.1 same) (both.1 w among)⟩
  · next other =>
    have apart : ∀ w ∈ entries, w.1 ≠ selfName := fun w among same =>
      other (List.any_eq_true.2 ⟨w, among, beq_iff_eq.2 same⟩)
    constructor
    · intro made
      obtain ⟨c, added, rfl⟩ := map_eq_ok made
      exact ⟨apart, c, added, rfl⟩
    · rintro ⟨-, c, added, rfl⟩
      rw [added]
      rfl

/-- Several calls add what one call with all their values would add. -/
theorem withContexts_eq_ok_iff : e.withContexts calls = .ok later ↔ (∀ w ∈ calls.flatten, w.1 ≠ selfName) ∧
    ∃ c, e.context.addAll calls.flatten = .ok c ∧ later = { e with context := c } := by
  induction calls generalizing e with
  | nil =>
    constructor
    · intro made
      cases made
      exact ⟨by simp, _, rfl, rfl⟩
    · rintro ⟨-, c, ⟨⟩, rfl⟩
      rfl
  | cons entries calls ih =>
    rw [List.flatten_cons, List.forall_mem_append, Context.addAll, List.foldlM_append]
    constructor
    · intro made
      obtain ⟨next, first, rest⟩ := bind_eq_ok made
      obtain ⟨apart, c, added, rfl⟩ := withContext_eq_ok_iff.1 first
      obtain ⟨others, d, further, rfl⟩ := ih.1 rest
      exact ⟨⟨apart, others⟩, d, bind_of_ok added further, rfl⟩
    · rintro ⟨⟨apart, others⟩, d, added, rfl⟩
      obtain ⟨c, first, further⟩ := bind_eq_ok added
      have step := withContext_eq_ok_iff.2 ⟨apart, c, first, rfl⟩
      exact bind_of_ok step (ih.2 ⟨others, d, further, rfl⟩)

theorem lookup_entryIf {present : Bool} {n name : String} {v : Value} (other : n ≠ name) :
    Keyed.lookupIn (entryIf present n v) (.text name) = none := by
  unfold entryIf
  split
  · simp [Keyed.lookupIn, other.symm]
  · rfl

/-- The context of an error is told when it says something. -/
theorem exists_of_detail (read : e.detail = .ok shown) : ∃ t, e.context.toKeyed = .ok t ∧
    e.kind.fault.2.isWritable = true ∧
    shown.lookup (.text "context") = if t.isEmpty then none else some (.ofKeyed t) := by
  obtain ⟨t, legible, read⟩ := bind_eq_ok read
  cases fault : e.kind.fault with
  | mk field value =>
    rw [fault] at read
    obtain ⟨literal, written, made⟩ := bind_eq_ok read
    cases made
    refine ⟨t, legible, ?_, ?_⟩
    · unfold Value.writeLiteral at written
      split at written
      · next writable => exact writable
      · cases written
    · simp only [Keyed.lookup, Keyed.lookupIn_append, lookup_entryIf (show "field" ≠ "context" by decide),
        lookup_entryIf (show "value" ≠ "context" by decide), lookup_entryIf (show "state" ≠ "context" by decide)]
      cases e.cause <;> cases t.isEmpty <;> simp [Keyed.lookupIn, entryIf]

/-- What is told of a context tells the whole context. -/
theorem eq_of_told {u : Keyed Value} (told : (if t.isEmpty then none else some (Value.ofKeyed t)) =
    if u.isEmpty then none else some (Value.ofKeyed u)) : t = u := by
  obtain ⟨es⟩ := t
  obtain ⟨fs⟩ := u
  cases es <;> cases fs <;> simp_all [Keyed.isEmpty, Value.ofKeyed]

end Calls

/-- **Values added to the context of an error.** All calls succeed, the error can be read afterwards, and its context
tells the value written last under each name and else what it told before, exactly when no value stands for the error
itself, the context upholds the values, and the value at fault in the error can be written. -/
theorem records_iff {e : Error} (calls : List (List (String × Value))) (proper : e.context.Proper) :
    e.Records calls ↔ (∀ w ∈ calls.flatten, w.1 ≠ selfName) ∧ e.context.Upholds calls.flatten ∧
      e.kind.fault.2.isWritable = true := by
  rw [← Context.tells_iff proper]
  constructor
  · rintro ⟨later, shown, before, after, made, read, legible, tells, context⟩
    obtain ⟨apart, c, added, rfl⟩ := withContexts_eq_ok_iff.1 made
    obtain ⟨t, again, writable, told⟩ := exists_of_detail read
    obtain rfl := eq_of_told (context.symm.trans told)
    exact ⟨apart, ⟨c, before, after, added, legible, again, tells⟩, writable⟩
  · rintro ⟨apart, ⟨c, before, after, added, legible, shown, tells⟩, writable⟩
    have made := withContexts_eq_ok_iff.2 ⟨apart, c, added, rfl⟩
    obtain ⟨detail, read⟩ := detail_of_context (e := { e with context := c }) shown writable
    obtain ⟨t, again, -, told⟩ := exists_of_detail read
    cases shown.symm.trans again
    exact ⟨_, detail, before, after, made, read, legible, tells, told⟩

/-- An error whose context holds a note of the name of a field. -/
def notedError : Error :=
  { stated (.invalidOptions (.text "limit") (.text "many")) "bad limit" with
    context := { schemaName := .text "people",
                 notes := some (.map [(.text "attempt", .int 1), (.text "table", .text "PEOPLE")]) } }

/-- Calls of which the second writes what the note says already, and takes away the value of a field. -/
def notedCalls : List (List (String × Value)) :=
  [[("identity", .text "a"), ("rows", .int 3)],
    [("table", .text "PEOPLE"), ("identity", .null), ("rows", .int 4), ("metadata", .text "more")]]

theorem records_noted : notedError.context.Proper ∧ notedError.Records notedCalls := by
  have proper : notedError.context.Proper := by
    rintro es ⟨⟩
    simp [Keyed.Distinct]
  refine ⟨proper, (records_iff notedCalls proper).2 ⟨by decide, ?_, rfl⟩⟩
  refine ⟨⟨_, rfl⟩, by decide, fun w among note => ⟨_, rfl⟩, fun name among v w last noted => ?_,
    fun name other holds v last => ?_⟩
  · simp only [Context.fieldNames, List.mem_cons, List.not_mem_nil, or_false] at among
    rcases among with rfl | rfl | rfl | rfl
    · cases noted
    · cases noted
    · cases last
      cases noted
      exact ⟨rfl, rfl⟩
    · cases noted
  · have written := List.mem_map_of_mem (f := Prod.fst) (Context.mem_of_lastOf last)
    have unheld : ∀ n ∈ notedCalls.flatten.map Prod.fst, n ∈ Context.fieldNames ∨ ¬notedError.context.Holds n := by
      decide
    rcases unheld name written with field | free
    · exact absurd field other
    · exact absurd holds free

/-- A value under the name of the reading of a context is taken, and the error cannot be read any more. -/
theorem unread_reader :
    let e := stated .adapter "boom"
    ∃ later, e.withContexts [[("to_dict", .int 1)]] = .ok later ∧ later.detail = .error .wrongKind ∧
      ¬e.Records [[("to_dict", .int 1)]] := by
  refine ⟨_, rfl, rfl, ?_⟩
  rintro ⟨later, shown, before, after, made, read, -⟩
  cases made
  cases read

end Error

end TableGateway
