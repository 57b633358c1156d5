import Mathlib.Data.List.Induction
import TableGateway.Error
import TableGateway.Proofs.Entries

/-!
# What is added to a context

A value is added to a context under a name. The name is that of a field, or it belongs to the workings of the record
behind the context, or the value becomes a note under it (`Adds`). What a run of values leaves behind is told by the
value written last under each name (`Follows`), as long as the store of the record is not replaced.

- **`Keyed.lookup_foldl_put`**, **`Keyed.foreign_foldl_put`**: entries written over a table;
- **`add_eq_ok_iff`**: the ways in which a value can be added;
- **`Adds.field_eq`**, **`Adds.noted_eq`**, **`Adds.holds_iff`**: what one value leaves behind;
- **`follows_addAll`**: what a run of values leaves behind;
- **`exists_addAll`**: when all values of a run can be added.
-/

namespace TableGateway

namespace Keyed

/-! ## Tables written over tables -/

variable {β : Type} {t : Keyed β} {es : List (Value × β)} {k : Value} {v : β} {s : String}

theorem lookupIn_append (es fs : List (Value × β)) (k : Value) :
    lookupIn (es ++ fs) k = (lookupIn es k).or (lookupIn fs k) := by
  induction es with
  | nil => rfl
  | cons e es ih =>
    obtain ⟨a, w⟩ := e
    rw [List.cons_append, lookupIn, lookupIn, ih]
    split <;> rfl

theorem ofList_concat (es : List (Value × β)) (e : Value × β) : ofList (es ++ [e]) = (ofList es).put e.1 e.2 := by
  simp [ofList]

/-- What is written over a table is found first. -/
theorem lookup_foldl_put (t : Keyed β) (es : List (Value × β)) (k : Value) :
    (es.foldl (fun t e => t.put e.1 e.2) t).lookup k = ((ofList es).lookup k).or (t.lookup k) := by
  induction es using List.reverseRecOn with
  | nil => rfl
  | append_singleton es e ih =>
    rw [List.foldl_append, List.foldl_cons, List.foldl_nil, lookup_put, ofList_concat, lookup_put, ih]
    split <;> rfl

theorem distinct_foldl_put (h : t.Distinct) : (es.foldl (fun t e => t.put e.1 e.2) t).Distinct := by
  induction es generalizing t with
  | nil => exact h
  | cons e es ih => exact ih (distinct_put h)

/-- Entries under distinct keys are the table that they write. -/
theorem ofList_of_distinct (h : Distinct (⟨es⟩ : Keyed β)) : ofList es = ⟨es⟩ := by
  induction es using List.reverseRecOn with
  | nil => rfl
  | append_singleton es e ih =>
    obtain ⟨front, -, apart⟩ := List.pairwise_append.1 h
    rw [ofList_concat, ih front]
    refine put_new (lookupIn_eq_none fun a among => ?_)
    rw [Value.same_comm]
    exact apart a among e (.head _)

theorem mem_of_lookup_ofList (found : (ofList es).lookup (.text s) = some v) : (.text s, v) ∈ es := by
  induction es using List.reverseRecOn with
  | nil => cases found
  | append_singleton es e ih =>
    rw [ofList_concat, lookup_put] at found
    split at found
    · next same =>
      cases found
      rw [← Value.same_text.1 same]
      exact List.mem_append_right _ (.head _)
    · exact List.mem_append_left _ (ih found)

/-- An entry under another name was there before. -/
theorem mem_of_mem_putIn {e : Value × β} (other : e.1 ≠ .text s) (h : e ∈ putIn es (.text s) v) : e ∈ es := by
  induction es with
  | nil =>
    cases List.mem_singleton.1 h
    exact absurd rfl other
  | cons a es ih =>
    obtain ⟨a, w⟩ := a
    rw [putIn] at h
    split at h
    · next same =>
      rcases List.mem_cons.1 h with rfl | h
      · exact absurd (Value.same_text.1 same) other
      · exact .tail _ h
    · rcases List.mem_cons.1 h with rfl | h
      · exact .head _
      · exact .tail _ (ih h)

/-! ## Entries under keys that are no texts -/

theorem isText_congr {a b : Value} (same : a.same b = true) : a.isText = b.isText := by
  have text : ∀ {v : Value}, v.isText = true → ∃ s, v = .text s := by
    intro v h
    cases v with
    | text s => exact ⟨s, rfl⟩
    | _ => cases h
  rw [Bool.eq_iff_iff]
  constructor
  · intro h
    obtain ⟨s, rfl⟩ := text h
    rw [Value.same_text.1 same]
    rfl
  · intro h
    obtain ⟨s, rfl⟩ := text h
    rw [Value.same_text_right.1 same]
    rfl

/-- The entries whose keys are no texts, in order. -/
def foreign (t : Keyed β) : List (Value × β) := t.entries.filter fun e => !e.1.isText

theorem foreign_put (t : Keyed β) (k : Value) (v : β) :
    (t.put k v).foreign = if k.isText then t.foreign else putIn t.foreign k v := by
  obtain ⟨es⟩ := t
  unfold foreign put
  dsimp only
  induction es with
  | nil => cases text : k.isText <;> simp [putIn, text]
  | cons e es ih =>
    obtain ⟨a, w⟩ := e
    rw [putIn]
    by_cases same : k.same a = true
    · have alike := isText_congr same
      cases text : a.isText <;> simp [putIn, same, text, alike]
    · rw [if_neg same, List.filter_cons, List.filter_cons, ih]
      cases text : a.isText <;> cases k.isText <;> simp [putIn, same]

theorem foreign_put_text (t : Keyed β) (s : String) (v : β) : (t.put (.text s) v).foreign = t.foreign :=
  foreign_put t (.text s) v

/-- What is written over tables without such entries leaves the same ones. -/
theorem foreign_foldl_put (h : t.foreign = []) :
    (es.foldl (fun t e => t.put e.1 e.2) t).foreign = (ofList es).foreign := by
  induction es using List.reverseRecOn with
  | nil => exact h
  | append_singleton es e ih =>
    rw [List.foldl_append, List.foldl_cons, List.foldl_nil, ofList_concat, foreign_put, foreign_put, ih]

end Keyed

namespace Context

/-! ## Fields, notes and workings -/

/-- The names of the fields. -/
def fieldNames : List String := ["identity", "schema_name", "table", "sql"]

/-- The value of a field. -/
def field (c : Context) (name : String) : Value :=
  if name = "identity" then c.identity else if name = "schema_name" then c.schemaName
  else if name = "table" then c.table else if name = "sql" then c.sql else .null

/-- The context with another value of a field. -/
def withField (c : Context) (name : String) (v : Value) : Context :=
  if name = "identity" then { c with identity := v } else if name = "schema_name" then { c with schemaName := v }
  else if name = "table" then { c with table := v } else if name = "sql" then { c with sql := v } else c

/-- Is the name one of the record's own, or one under which it holds something that is not shown? -/
def Holds (c : Context) (name : String) : Prop := name ∈ ownNames ∨ name ∈ c.held

/-- Is a value under this name a note? -/
def IsNote (c : Context) (name : String) : Prop := name ∉ fieldNames ∧ ¬c.Holds name

instance (c : Context) (name : String) : Decidable (c.Holds name) :=
  inferInstanceAs (Decidable (name ∈ ownNames ∨ name ∈ c.held))

instance (c : Context) (name : String) : Decidable (c.IsNote name) :=
  inferInstanceAs (Decidable (name ∉ fieldNames ∧ ¬c.Holds name))

/-- The notes as a table; what is no mapping is read as pairs. -/
def noted (c : Context) : Keyed Value :=
  match c.notes with
  | some notes =>
    match notes.pairs? with
    | .ok es => .ofList es
    | .error _ => ⟨[]⟩
  | none => ⟨[]⟩

/-- A mapping of notes has each key once, as mappings have. -/
def Proper (c : Context) : Prop := ∀ es, c.notes = some (.map es) → Keyed.Distinct (⟨es⟩ : Keyed Value)

/-- The notes are there, and are pairs unless they do not count as given. -/
def Readable (c : Context) : Prop :=
  ∃ notes, c.notes = some notes ∧ (notes.isTruthy = true → ∃ es, notes.pairs? = .ok es)

/-- What adding a value under a name does. -/
inductive Adds (c : Context) : String → Value → Context → Prop
  | field {name : String} {v : Value} (among : name ∈ fieldNames) : Adds c name v (c.withField name v)
  /-- Another store is put behind the record. -/
  | store {es : List (Value × Value)} : Adds c storeName (.map es) (ofStore ⟨es⟩)
  | held {name : String} {v : Value} (other : name ∉ fieldNames) (holds : c.Holds name)
    (free : name ∉ fixedNames.map Prod.fst) (inside : name ≠ storeName) :
    Adds c name v { c with held := name :: c.held }
  | note {name : String} {v : Value} {es : List (Value × Value)} (isNote : c.IsNote name)
    (free : name ∉ fixedNames.map Prod.fst) (inside : name ≠ storeName) (notes : c.notes = some (.map es)) :
    Adds c name v { c with notes := some (.ofKeyed (Keyed.put ⟨es⟩ (.text name) v)) }

/-- The value written last under a name. -/
def lastOf (writes : List (String × Value)) (name : String) : Option Value :=
  (writes.reverse.find? (·.1 == name)).map Prod.snd

section Adding

variable {c d : Context} {name other : String} {v : Value}

theorem add_of_field (among : name ∈ fieldNames) : c.add name v = .ok (c.withField name v) := by
  simp only [fieldNames, List.mem_cons, List.not_mem_nil, or_false] at among
  rcases among with rfl | rfl | rfl | rfl <;> rfl

theorem add_of_not_field (other : name ∉ fieldNames) : c.add name v = match fixedNames.lookup name with
    | some f => .error f
    | none =>
      if name = storeName then
        match v with
        | .map es => .ok (ofStore ⟨es⟩)
        | _ => .error .wrongKind
      else if c.Holds name then .ok { c with held := name :: c.held }
      else (addNote name v c.notes).map fun notes => { c with notes := some notes } := by
  simp only [fieldNames, List.mem_cons, List.not_mem_nil, or_false, not_or] at other
  obtain ⟨identity, schemaName, table, sql⟩ := other
  unfold add
  rw [if_neg identity, if_neg schemaName, if_neg table, if_neg sql]
  rfl

theorem lookup_fixedNames : fixedNames.lookup name = none ↔ name ∉ fixedNames.map Prod.fst := by
  rw [List.lookup_eq_none_iff]
  simp only [List.mem_map, not_exists, not_and, bne_iff_ne]
  exact ⟨fun absent e among same => absent e among same.symm, fun absent e among same => absent e among same.symm⟩

theorem addNote_eq_ok_iff {notes : Option Value} {w : Value} : addNote name v notes = .ok w ↔
    ∃ es, notes = some (.map es) ∧ w = .ofKeyed (Keyed.put ⟨es⟩ (.text name) v) := by
  constructor
  · intro added
    unfold addNote at added
    split at added
    · next es =>
      cases added
      exact ⟨es, rfl, rfl⟩
    · cases added
    · cases added
  · rintro ⟨es, rfl, rfl⟩
    rfl

/-- Adding a value succeeds exactly in these ways. -/
theorem add_eq_ok_iff : c.add name v = .ok d ↔ Adds c name v d := by
  by_cases among : name ∈ fieldNames
  · rw [add_of_field among]
    constructor
    · rintro ⟨⟩
      exact .field among
    · intro adds
      cases adds with
      | field => rfl
      | store => exact absurd among (by decide)
      | held other => exact absurd among other
      | note isNote => exact absurd among isNote.1
  rw [add_of_not_field among]
  constructor
  · intro added
    split at added
    · cases added
    next free =>
    rw [lookup_fixedNames] at free
    split at added
    · next inside =>
      subst inside
      split at added
      · cases added
        exact .store
      · cases added
    next inside =>
    split at added
    · next holds =>
      cases added
      exact .held among holds free inside
    next unheld =>
    obtain ⟨w, noted, rfl⟩ := map_eq_ok added
    obtain ⟨es, notes, rfl⟩ := addNote_eq_ok_iff.1 noted
    exact .note ⟨among, unheld⟩ free inside notes
  · intro adds
    cases adds with
    | field there => exact absurd there among
    | store => rfl
    | held other holds free inside =>
      rw [lookup_fixedNames.2 free]
      dsimp only
      rw [if_neg inside, if_pos holds]
    | note isNote free inside notes =>
      rw [lookup_fixedNames.2 free]
      dsimp only
      rw [if_neg inside, if_neg isNote.2, addNote_eq_ok_iff.2 ⟨_, notes, rfl⟩]
      rfl

end Adding

/-! ## What one value leaves behind -/

section Steps

variable {c d : Context} {name other : String} {v : Value} {es : List (Value × Value)}

theorem field_withField (among : name ∈ fieldNames) (c : Context) (v : Value) (other : String) :
    (c.withField name v).field other = if name = other then v else c.field other := by
  simp only [fieldNames, List.mem_cons, List.not_mem_nil, or_false] at among
  by_cases same : name = other
  · rw [if_pos same]
    subst same
    rcases among with rfl | rfl | rfl | rfl <;> rfl
  · rw [if_neg same]
    have different : ¬other = name := fun h => same h.symm
    rcases among with rfl | rfl | rfl | rfl
    all_goals
      simp only [field, different, if_false]
      rfl

theorem field_of_not_mem (other : name ∉ fieldNames) (c : Context) : c.field name = .null := by
  simp only [fieldNames, List.mem_cons, List.not_mem_nil, or_false, not_or] at other
  obtain ⟨identity, schemaName, table, sql⟩ := other
  rw [field, if_neg identity, if_neg schemaName, if_neg table, if_neg sql]

theorem notes_withField (c : Context) (name : String) (v : Value) : (c.withField name v).notes = c.notes := by
  unfold withField
  split_ifs <;> rfl

theorem held_withField (c : Context) (name : String) (v : Value) : (c.withField name v).held = c.held := by
  unfold withField
  split_ifs <;> rfl

/-- The notes alone make the table of notes. -/
theorem noted_congr (same : d.notes = c.notes) : d.noted = c.noted := by rw [noted, noted, same]

theorem readable_congr (same : d.notes = c.notes) : d.Readable ↔ c.Readable := by rw [Readable, Readable, same]

theorem noted_of_map (notes : c.notes = some (.map es)) (distinct : Keyed.Distinct (⟨es⟩ : Keyed Value)) :
    c.noted = ⟨es⟩ := by
  rw [noted, notes]
  exact Keyed.ofList_of_distinct distinct

theorem readable_of_map (notes : c.notes = some (.map es)) : c.Readable := ⟨.map es, notes, fun _ => ⟨es, rfl⟩⟩

theorem Adds.not_fixed (adds : Adds c name v d) : name ∉ fixedNames.map Prod.fst := by
  cases adds with
  | field among =>
    have apart : ∀ name ∈ fieldNames, name ∉ fixedNames.map Prod.fst := by decide
    exact apart name among
  | store => decide
  | held _ _ free => exact free
  | note _ free => exact free

/-- A value that replaces no store leaves the notes alone, or it is a note and they are a mapping. -/
theorem Adds.notes_cases (adds : Adds c name v d) (outside : name ≠ storeName) :
    (¬c.IsNote name ∧ d.notes = c.notes) ∨ (c.IsNote name ∧ ∃ es, c.notes = some (.map es) ∧
      d.notes = some (.ofKeyed (Keyed.put ⟨es⟩ (.text name) v))) := by
  cases adds with
  | field among => exact .inl ⟨fun note => note.1 among, notes_withField c name v⟩
  | store => exact absurd rfl outside
  | held _ holds => exact .inl ⟨fun note => note.2 holds, rfl⟩
  | note note _ _ mapping => exact .inr ⟨note, _, mapping, rfl⟩

theorem Adds.noted_eq (adds : Adds c name v d) (outside : name ≠ storeName) (proper : c.Proper) :
    d.noted = if c.IsNote name then c.noted.put (.text name) v else c.noted := by
  rcases adds.notes_cases outside with ⟨no, same⟩ | ⟨note, es, before, after⟩
  · rw [if_neg no, noted_congr same]
  · have distinct := proper es before
    rw [if_pos note, noted_of_map before distinct]
    exact noted_of_map after (Keyed.distinct_put distinct)

theorem Adds.proper (adds : Adds c name v d) (outside : name ≠ storeName) (proper : c.Proper) : d.Proper := by
  rcases adds.notes_cases outside with ⟨-, same⟩ | ⟨-, es, before, after⟩
  · rw [Proper, same]
    exact proper
  · intro fs found
    rw [after] at found
    cases found
    exact Keyed.distinct_put (proper es before)

theorem Adds.mapping_iff (adds : Adds c name v d) (outside : name ≠ storeName) :
    (∃ es, d.notes = some (.map es)) ↔ ∃ es, c.notes = some (.map es) := by
  rcases adds.notes_cases outside with ⟨-, same⟩ | ⟨-, es, before, after⟩
  · rw [same]
  · exact iff_of_true ⟨_, after⟩ ⟨es, before⟩

theorem Adds.readable_iff (adds : Adds c name v d) (outside : name ≠ storeName) : d.Readable ↔ c.Readable := by
  rcases adds.notes_cases outside with ⟨-, same⟩ | ⟨-, es, before, after⟩
  · exact readable_congr same
  · exact iff_of_true (readable_of_map after) (readable_of_map before)

theorem Adds.field_eq (adds : Adds c name v d) (outside : name ≠ storeName) (there : other ∈ fieldNames) :
    d.field other = if name = other then v else c.field other := by
  have apart : name ∉ fieldNames → name ≠ other := fun no same => no (same ▸ there)
  cases adds with
  | field among => exact field_withField among c v other
  | store => exact absurd rfl outside
  | held no => exact (if_neg (apart no)).symm
  | note note => exact (if_neg (apart note.1)).symm

/-- The names that the record holds stay the same; one of them may be written again. -/
theorem Adds.holds_iff (adds : Adds c name v d) (outside : name ≠ storeName) (other : String) :
    d.Holds other ↔ c.Holds other := by
  cases adds with
  | field among => rw [Holds, Holds, held_withField]
  | store => exact absurd rfl outside
  | held _ holds =>
    unfold Holds
    dsimp only
    rw [List.mem_cons]
    constructor
    · rintro (own | rfl | there)
      · exact .inl own
      · exact holds
      · exact .inr there
    · rintro (own | there)
      · exact .inl own
      · exact .inr (.inr there)
  | note => rfl

theorem Adds.reader_iff (adds : Adds c name v d) (outside : name ≠ storeName) :
    readerName ∈ d.held ↔ readerName ∈ c.held ∨ readerName = name := by
  cases adds with
  | field among =>
    have other : readerName ≠ name := by
      rintro rfl
      exact absurd among (by decide)
    rw [held_withField, or_iff_left other]
  | store => exact absurd rfl outside
  | held => rw [List.mem_cons, or_comm]
  | note note =>
    have other : readerName ≠ name := by
      rintro rfl
      exact note.2 (.inl (by decide))
    exact (or_iff_left other).symm

end Steps

/-! ## What a run of values leaves behind -/

/-- A context after a run of values that leaves its store alone. -/
structure Follows (c : Context) (writes : List (String × Value)) (d : Context) : Prop where
  field : ∀ name ∈ fieldNames, d.field name = (lastOf writes name).getD (c.field name)
  noted : ∀ name, d.noted.lookup (.text name) =
    if c.IsNote name then (lastOf writes name).or (c.noted.lookup (.text name)) else c.noted.lookup (.text name)
  foreign : d.noted.foreign = c.noted.foreign
  holds : ∀ name, d.Holds name ↔ c.Holds name
  reader : readerName ∈ d.held ↔ readerName ∈ c.held ∨ readerName ∈ writes.map Prod.fst
  mapping : (∃ es, d.notes = some (.map es)) ↔ ∃ es, c.notes = some (.map es)
  readable : d.Readable ↔ c.Readable
  proper : d.Proper

section Runs

variable {c d e : Context} {name : String} {v : Value} {writes : List (String × Value)}

@[simp] theorem lastOf_nil (name : String) : lastOf [] name = none := rfl

theorem lastOf_concat (writes : List (String × Value)) (name : String) (v : Value) (other : String) :
    lastOf (writes ++ [(name, v)]) other = if name = other then some v else lastOf writes other := by
  rw [lastOf, List.reverse_append, List.reverse_singleton, List.singleton_append, List.find?_cons]
  by_cases same : name = other
  · simp [same]
  · simp [lastOf, same, beq_false_of_ne same]

theorem addAll_concat (c : Context) (writes : List (String × Value)) (w : String × Value) :
    c.addAll (writes ++ [w]) = c.addAll writes >>= fun d => d.add w.1 w.2 := by
  simp [addAll, List.foldlM_append]

theorem Follows.refl (proper : c.Proper) : Follows c [] c where
  field _ _ := rfl
  noted name := by simp
  foreign := rfl
  holds _ := Iff.rfl
  reader := by simp
  mapping := Iff.rfl
  readable := Iff.rfl
  proper := proper

/-- What a run takes for a note it takes for one from the beginning. -/
theorem Follows.isNote_iff (follows : Follows c writes d) (name : String) : d.IsNote name ↔ c.IsNote name := by
  rw [IsNote, IsNote, follows.holds]

/-- One more value is written. -/
theorem Follows.concat (follows : Follows c writes d) (adds : Adds d name v e) (outside : name ≠ storeName) :
    Follows c (writes ++ [(name, v)]) e where
  field other there := by
    rw [adds.field_eq outside there, lastOf_concat, follows.field other there]
    split <;> rfl
  noted other := by
    rw [adds.noted_eq outside follows.proper, lastOf_concat]
    simp only [follows.isNote_iff]
    by_cases same : name = other
    · subst same
      split
      · simp [Keyed.lookup_put]
      · next no => rw [follows.noted, if_neg no]
    · rw [if_neg same, ← follows.noted]
      split
      · simp [Keyed.lookup_put, Ne.symm same]
      · rfl
  foreign := by
    rw [adds.noted_eq outside follows.proper, ← follows.foreign]
    split
    · exact Keyed.foreign_put_text _ _ _
    · rfl
  holds other := (adds.holds_iff outside other).trans (follows.holds other)
  reader := by
    rw [adds.reader_iff outside, follows.reader, List.map_append, List.mem_append, List.map_singleton,
      List.mem_singleton, or_assoc]
  mapping := (adds.mapping_iff outside).trans follows.mapping
  readable := (adds.readable_iff outside).trans follows.readable
  proper := adds.proper outside follows.proper

theorem not_mem_names (other : ∀ w ∈ writes, w.1 ≠ name) : name ∉ writes.map Prod.fst := by
  intro there
  obtain ⟨w, among, same⟩ := List.mem_map.1 there
  exact other w among same

/-- A run that leaves the store alone. -/
theorem follows_addAll (proper : c.Proper) (done : c.addAll writes = .ok d)
    (outside : storeName ∉ writes.map Prod.fst) : Follows c writes d := by
  induction writes using List.reverseRecOn generalizing d with
  | nil =>
    cases done
    exact .refl proper
  | append_singleton writes w ih =>
    rw [addAll_concat] at done
    obtain ⟨before, first, last⟩ := bind_eq_ok done
    rw [List.map_append, List.mem_append, not_or] at outside
    exact (ih first outside.1).concat (add_eq_ok_iff.1 last) (by simpa [eq_comm] using outside.2)

/-- A value can be added unless its name is refused or replaces the store, or it is a note and notes are no mapping. -/
theorem exists_add (free : name ∉ fixedNames.map Prod.fst) (inside : name ≠ storeName)
    (notes : d.IsNote name → ∃ es, d.notes = some (.map es)) : ∃ e, d.add name v = .ok e := by
  by_cases among : name ∈ fieldNames
  · exact ⟨_, add_eq_ok_iff.2 (.field among)⟩
  by_cases holds : d.Holds name
  · exact ⟨_, add_eq_ok_iff.2 (.held among holds free inside)⟩
  obtain ⟨es, mapping⟩ := notes ⟨among, holds⟩
  exact ⟨_, add_eq_ok_iff.2 (.note ⟨among, holds⟩ free inside mapping)⟩

/-- Before a value that was added come others, and it is added to what they have left. -/
theorem exists_before {w : String × Value} (done : c.addAll writes = .ok e) (among : w ∈ writes) :
    ∃ before after d d', writes = before ++ w :: after ∧ c.addAll before = .ok d ∧ Adds d w.1 w.2 d' := by
  obtain ⟨before, after, rfl⟩ := List.append_of_mem among
  rw [addAll, List.foldlM_append] at done
  obtain ⟨d, first, rest⟩ := bind_eq_ok done
  rw [List.foldlM_cons] at rest
  obtain ⟨d', added, -⟩ := bind_eq_ok rest
  exact ⟨before, after, d, d', rfl, first, add_eq_ok_iff.1 added⟩

/-- Notes that were added went to a mapping, which the notes were from the beginning. -/
theorem mapping_of_addAll {w : String × Value} (proper : c.Proper) (done : c.addAll writes = .ok d)
    (inside : ∀ w ∈ writes, w.1 ≠ storeName) (among : w ∈ writes) (note : c.IsNote w.1) :
    ∃ es, c.notes = some (.map es) := by
  obtain ⟨before, after, b, b', rfl, first, adds⟩ := exists_before done among
  have sooner := follows_addAll proper first (not_mem_names fun u there => inside u (List.mem_append_left _ there))
  rcases adds.notes_cases (inside w among) with ⟨no, -⟩ | ⟨-, es, mapping, -⟩
  · exact absurd ((sooner.isNote_iff _).2 note) no
  · exact sooner.mapping.1 ⟨es, mapping⟩

/-- A run succeeds when each of its values can be added. -/
theorem exists_addAll (proper : c.Proper)
    (usable : ∀ w ∈ writes, w.1 ∉ fixedNames.map Prod.fst ∧ w.1 ≠ storeName)
    (notes : ∀ w ∈ writes, c.IsNote w.1 → ∃ es, c.notes = some (.map es)) : ∃ d, c.addAll writes = .ok d := by
  induction writes using List.reverseRecOn with
  | nil => exact ⟨c, rfl⟩
  | append_singleton writes w ih =>
    rw [List.forall_mem_append, List.forall_mem_singleton] at usable notes
    obtain ⟨d, done⟩ := ih usable.1 notes.1
    have outside := not_mem_names fun u among => (usable.1 u among).2
    have follows := follows_addAll proper done outside
    obtain ⟨e, added⟩ := exists_add (v := w.2) usable.2.1 usable.2.2 fun note =>
      follows.mapping.2 (notes.2 ((follows.isNote_iff _).1 note))
    exact ⟨e, by rw [addAll_concat, done]; exact added⟩

end Runs

end Context

end TableGateway
