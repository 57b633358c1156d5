import Mathlib.Data.List.Induction
import TableGateway.Proofs.CatalogRows

/-!
# What becomes of the rows

When the rows of the catalog are read to a schema, every row is accounted for: its column is there, at the place of
the first row of that name and as the last row of that name describes it, and the row is noted where its type is not
known.

- **`keys_written`**, **`lookup_written`**: a table in which values are written under names in turn;
- **`readRows_eq_ok`**: the table that the rows write, and the notes on them;
- **`read_keeps`**: columns, attributes, usability, notes, and what the attributes say.
-/

namespace TableGateway

/-! ## Tables written in turn -/

theorem eraseDups_concat (names : List String) (name : String) :
    (names ++ [name]).eraseDups = if name ∈ names then names.eraseDups else names.eraseDups ++ [name] := by
  rw [List.eraseDups_append]
  split
  · next again => simp [List.removeAll, again]
  · next new => simp [List.removeAll, new, List.eraseDups_cons]

theorem nodup_eraseDups (names : List String) : names.eraseDups.Nodup := by
  induction names using List.reverseRecOn with
  | nil => exact List.nodup_nil
  | append_singleton names name ih =>
    rw [eraseDups_concat]
    split
    · exact ih
    · next new => simpa [List.nodup_append, ih] using fun s there (same : s = name) => new (same ▸ there)

namespace Keyed

variable {α β : Type} {name : α → String} {value : α → β}

/-- The table in which each item has written its value under its name, in turn. -/
def written (name : α → String) (value : α → β) (items : List α) : Keyed β :=
  ofList (items.map fun i => (.text (name i), value i))

theorem written_concat (items : List α) (i : α) :
    written name value (items ++ [i]) = (written name value items).put (.text (name i)) (value i) := by
  simp [written, ofList]

/-- Each name is a key once, at the place where it came first. -/
theorem keys_written (items : List α) : (written name value items).keys = (items.map name).eraseDups.map .text := by
  induction items using List.reverseRecOn with
  | nil => rfl
  | append_singleton items i ih =>
    have known : (written name value items).has (.text (name i)) = true ↔ name i ∈ items.map name := by
      rw [has_text, ih, List.mem_map_of_injective fun s t same => Value.text.inj same, List.mem_eraseDups]
    rw [written_concat, keys_put, ih, List.map_append, List.map_singleton, eraseDups_concat]
    by_cases again : name i ∈ items.map name
    · rw [if_pos (known.2 again), if_pos again]
    · rw [if_neg (mt known.1 again), if_neg again, List.map_append, List.map_singleton]

/-- Under each name is the value of the last item of that name. -/
theorem lookup_written (items : List α) (s : String) :
    (written name value items).lookup (.text s) = (items.reverse.find? (name · == s)).map value := by
  induction items using List.reverseRecOn with
  | nil => rfl
  | append_singleton items i ih =>
    rw [written_concat, lookup_put, Value.same_text_text, ih, List.reverse_append, List.reverse_singleton,
      List.singleton_append, List.find?_cons]
    by_cases same : name i = s
    · simp [same]
    · simp [beq_false_of_ne same, Ne.symm same]

theorem distinct_written (items : List α) : (written name value items).Distinct := by
  induction items using List.reverseRecOn with
  | nil => exact distinct_nil
  | append_singleton items i ih =>
    rw [written_concat]
    exact distinct_put ih

theorem lookup_of_mem {t : Keyed β} {s : String} {v : β} (distinct : t.Distinct) (there : (.text s, v) ∈ t.entries) :
    t.lookup (.text s) = some v := by
  obtain ⟨es⟩ := t
  induction es with
  | nil => cases there
  | cons e es ih =>
    obtain ⟨first, rest⟩ := List.pairwise_cons.1 distinct
    rcases List.mem_cons.1 there with rfl | there
    · simp [lookup, lookupIn]
    · have other : (Value.text s).same e.1 = false := by rw [Value.same_comm]; exact first _ there
      have found := ih rest there
      simpa [lookup, lookupIn, other] using found

/-- The values are those found under names. -/
theorem mem_values_written (items : List α) (v : β) :
    v ∈ (written name value items).values ↔ ∃ s, (written name value items).lookup (.text s) = some v := by
  constructor
  · intro there
    obtain ⟨⟨k, v⟩, entry, rfl⟩ := List.mem_map.1 there
    have key : k ∈ (written name value items).keys := List.mem_map_of_mem entry
    rw [keys_written] at key
    obtain ⟨s, -, rfl⟩ := List.mem_map.1 key
    exact ⟨s, lookup_of_mem (distinct_written items) entry⟩
  · rintro ⟨s, found⟩
    exact mem_values_of_lookup found

end Keyed

namespace Catalog

/-! ## The last row of each name -/

/-- The last row whose column has this name. -/
def lastNamed (name : String) (rows : List (Keyed Value)) : Option (Keyed Value) :=
  rows.reverse.find? (columnName · == name)

/-- The type that a row names, in capitals and without blanks at its ends. -/
def nativeName (row : Keyed Value) : String := Text.upper (word (entry row "TYPENAME"))

/-- Is the type in the table of native types? -/
def isMapped (row : Keyed Value) : Bool := (NativeType.logicalTypes.map Prod.fst).contains (nativeName row)

/-- What becomes of rows that are read. -/
structure Keeps (table : Value) (rows : List (Keyed Value)) (notes : List Note) (s : Schema) : Prop where
  named : s.table = table
  /-- The columns are the names in the order in which they first came. -/
  columns : s.columns = (rows.map columnName).eraseDups.map .text
  once : s.columns.Nodup
  /-- A column's attribute is the one read from the last row of its name alone. -/
  last : ∀ name a, s.attributes.lookup (.text name) = some a ↔ ∃ row, lastNamed name rows = some row ∧
    (read table [.ofKeyed row]).2 = .ok (some ⟨table, ⟨[(.text name, a)]⟩⟩)
  usable : s.isUsable = true ↔ ∀ name row, lastNamed name rows = some row → isMapped row = true
  /-- There is a note on every row without a known type, in the order of the rows. -/
  noted : notes = (rows.filter fun row => !isMapped row).map fun row =>
    unmappedNote table row (word (entry row "TYPENAME"))
  required : ∀ name a row, s.attributes.lookup (.text name) = some a → lastNamed name rows = some row →
    a.required.isTruthy = true → Text.upper (word (entry row "NULLS")) = "N"
  counted : ∀ a ∈ s.attributes.values, a.autoIncrement = true → a.primaryKey = true ∧ a.unique = true

/-! ## The rows that were read -/

section Rows

variable {table : Value} {name : String} {row : Keyed Value} {a : Attribute} {ps : List (Keyed Value × Attribute)}

theorem isMapped_eq (row : Keyed Value) :
    isMapped row = (NativeType.logical? (word (entry row "TYPENAME"))).isSome := by
  have twice : NativeType.canonical (word (entry row "TYPENAME")) = nativeName row := by
    rw [NativeType.canonical, word, Text.strip_strip]
    rfl
  rw [isMapped, NativeType.logical?, twice, Bool.eq_iff_iff]
  cases found : NativeType.logicalTypes.lookup (nativeName row) with
  | none =>
    rw [List.lookup_eq_none_iff] at found
    simpa using fun t listed => by simpa using found _ listed
  | some t =>
    obtain ⟨before, after, whole, -⟩ := List.lookup_eq_some_iff.1 found
    simp [whole]

/-- One row alone makes a schema of its column. -/
theorem read_single : (read table [.ofKeyed row]).2 = .ok (some ⟨table, ⟨[(.text name, a)]⟩⟩) ↔
    columnOf row = .ok (.text name, a) := by
  rw [read_cons]
  cases read : columnOf row with
  | error f => simp [readRows_cons_error table read, Except.map]
  | ok c =>
    obtain ⟨k, b⟩ := c
    rw [readRows_cons_ok table read]
    simp [readRows, Except.map, Keyed.put, Keyed.putIn]

/-- The attribute is the one that is read from the row. -/
def Reads (p : Keyed Value × Attribute) : Prop := columnOf p.1 = .ok (.text (columnName p.1), p.2)

theorem exists_reads {c : Value × Attribute} (read : columnOf row = .ok c) :
    ∃ a, c = (.text (columnName row), a) ∧ Reads (row, a) := by
  obtain ⟨-, -, a, -, rfl⟩ := columnOf_eq_ok_iff.1 read
  exact ⟨a, rfl, read⟩

/-- What the rows have written when all of them could be read, and the notes on them. -/
theorem readRows_eq_ok {rows : List Value} {done t : Keyed Attribute} (made : (readRows table rows done).2 = .ok t) :
    ∃ ps : List (Keyed Value × Attribute), (∀ p ∈ ps, Reads p) ∧ rows = (ps.map Prod.fst).map .ofKeyed ∧
      (readRows table rows done).1 = (ps.map Prod.fst).flatMap (notesOf table) ∧
      t = ps.foldl (fun t p => t.put (.text (columnName p.1)) p.2) done := by
  -- The later rows write into what the first one has left, so the induction is for every table there may be before.
  induction rows generalizing done with
  | nil =>
    cases made
    exact ⟨[], by simp, rfl, rfl, rfl⟩
  | cons row rows ih =>
    cases row with
    | map es =>
      cases read : columnOf ⟨es⟩ with
      | error f =>
        have ended := readRows_cons_error table read rows done
        rw [Value.ofKeyed] at ended
        simp [ended] at made
      | ok c =>
        have step := readRows_cons_ok table read rows done
        rw [Value.ofKeyed] at step
        rw [step] at made ⊢
        obtain ⟨a, rfl, first⟩ := exists_reads read
        obtain ⟨ps, reads, rfl, notes, rfl⟩ := ih made
        refine ⟨(⟨es⟩, a) :: ps, List.forall_mem_cons.2 ⟨first, reads⟩, rfl, ?_, rfl⟩
        rw [List.map_cons, List.flatMap_cons]
        exact congrArg (notesOf table ⟨es⟩ ++ ·) notes
    | _ => cases made

theorem lastNamed_map_fst (name : String) (ps : List (Keyed Value × Attribute)) :
    lastNamed name (ps.map Prod.fst) = (ps.reverse.find? fun p => columnName p.1 == name).map Prod.fst := by
  rw [lastNamed, ← List.map_reverse, List.find?_map]
  rfl

/-- What the last row of a name is read to. -/
theorem exists_of_lastNamed (reads : ∀ p ∈ ps, Reads p) (last : lastNamed name (ps.map Prod.fst) = some row) :
    ∃ a, columnOf row = .ok (.text name, a) ∧
      (ps.reverse.find? fun p => columnName p.1 == name).map Prod.snd = some a := by
  rw [lastNamed_map_fst] at last
  obtain ⟨p, found, rfl⟩ := Option.map_eq_some_iff.1 last
  have named : columnName p.1 = name := by simpa using List.find?_some found
  have among : p ∈ ps := List.mem_reverse.1 (List.mem_of_find?_eq_some found)
  exact ⟨p.2, named ▸ reads p among, by rw [found]; rfl⟩

/-- Under a name is what the last row of the name is read to. -/
theorem lookup_read (reads : ∀ p ∈ ps, Reads p) :
    (Keyed.written (fun p => columnName p.1) Prod.snd ps).lookup (.text name) = some a ↔
      ∃ row, lastNamed name (ps.map Prod.fst) = some row ∧ columnOf row = .ok (.text name, a) := by
  rw [Keyed.lookup_written]
  constructor
  · intro there
    obtain ⟨p, found, -⟩ := Option.map_eq_some_iff.1 there
    have last : lastNamed name (ps.map Prod.fst) = some p.1 := by
      rw [lastNamed_map_fst, found]
      rfl
    obtain ⟨b, read, there'⟩ := exists_of_lastNamed reads last
    cases there.symm.trans there'
    exact ⟨p.1, last, read⟩
  · rintro ⟨row, last, read⟩
    obtain ⟨b, read', there⟩ := exists_of_lastNamed reads last
    cases read.symm.trans read'
    exact there

/-- A row that is read has its type in the notes unless the type is known. -/
theorem notesOf_eq (typed : Writes (entry row "TYPENAME")) : notesOf table row =
    if isMapped row then [] else [unmappedNote table row (word (entry row "TYPENAME"))] := by
  have named : typeName row = .ok (word (entry row "TYPENAME")) := stripped_eq_ok_iff.2 ⟨typed, rfl⟩
  rw [notesOf, named, isMapped_eq]
  dsimp only
  generalize NativeType.logical? (word (entry row "TYPENAME")) = type
  cases type <;> rfl

theorem flatMap_notesOf {rows : List (Keyed Value)} (typed : ∀ row ∈ rows, Writes (entry row "TYPENAME")) :
    rows.flatMap (notesOf table) = (rows.filter fun row => !isMapped row).map fun row =>
      unmappedNote table row (word (entry row "TYPENAME")) := by
  induction rows with
  | nil => rfl
  | cons row rows ih =>
    obtain ⟨first, rest⟩ := List.forall_mem_cons.1 typed
    rw [List.flatMap_cons, notesOf_eq first, ih rest, List.filter_cons]
    cases isMapped row <;> rfl

/-- An attribute that was read is made of its row. -/
theorem exists_attributeWith (read : columnOf row = .ok (.text name, a)) : ∃ required,
    isRequired (entry row "NULLS") (entry row "DEFAULT") = .ok required ∧ attributeWith row required = a := by
  obtain ⟨-, -, b, described, same⟩ := columnOf_eq_ok_iff.1 read
  obtain ⟨-, -, required, requires, made⟩ := attributeOf_eq_ok_iff.1 described
  exact ⟨required, requires, made.trans (Prod.mk.inj same).2⟩

/-- What an attribute that was read says about its row. -/
theorem attribute_of_columnOf (read : columnOf row = .ok (.text name, a)) :
    a.type.isSome = isMapped row ∧
      (a.required.isTruthy = true → Text.upper (word (entry row "NULLS")) = "N") ∧
      (a.autoIncrement = true → a.primaryKey = true ∧ a.unique = true) := by
  obtain ⟨required, requires, rfl⟩ := exists_attributeWith read
  refine ⟨?_, fun needed => ?_, fun counted => ⟨?_, ?_⟩⟩
  · rw [isMapped_eq, attributeWith]
  · obtain ⟨told, letter, rest⟩ := bind_eq_ok requires
    cases told with
    | false =>
      cases Except.ok.inj rest
      simp [attributeWith, Value.isTruthy] at needed
    | true => exact beq_iff_eq.1 (saysLetter_eq_ok_iff.1 letter).2
  · exact Attribute.primaryKey_of_autoIncrement counted
  · cases identity : isCounted row with
    | true => simp [attributeWith, identity]
    | false => simp [attributeWith, Attribute.autoIncrement, identity] at counted

theorem typed_of_reads (reads : ∀ p ∈ ps, Reads p) : ∀ row ∈ ps.map Prod.fst, Writes (entry row "TYPENAME") := by
  intro row among
  obtain ⟨p, there, rfl⟩ := List.mem_map.1 among
  obtain ⟨-, -, a, described, -⟩ := columnOf_eq_ok_iff.1 (reads p there)
  exact (attributeOf_eq_ok_iff.1 described).1

/-- A schema of what was written is usable when the last rows have known types. -/
theorem isUsable_written (reads : ∀ p ∈ ps, Reads p) :
    Schema.isUsable ⟨table, Keyed.written (fun p => columnName p.1) Prod.snd ps⟩ = true ↔
      ∀ name row, lastNamed name (ps.map Prod.fst) = some row → isMapped row = true := by
  simp only [Schema.isUsable, List.all_eq_true, Keyed.mem_values_written]
  constructor
  · intro typed name row last
    obtain ⟨a, read, -⟩ := exists_of_lastNamed reads last
    rw [← (attribute_of_columnOf read).1]
    exact typed a ⟨name, (lookup_read reads).2 ⟨row, last, read⟩⟩
  · rintro mapped a ⟨name, found⟩
    obtain ⟨row, last, read⟩ := (lookup_read reads).1 found
    rw [(attribute_of_columnOf read).1]
    exact mapped name row last

theorem keeps_written (reads : ∀ p ∈ ps, Reads p) :
    Keeps table (ps.map Prod.fst) ((ps.map Prod.fst).flatMap (notesOf table))
      ⟨table, Keyed.written (fun p => columnName p.1) Prod.snd ps⟩ := by
  have columns : (Keyed.written (fun p => columnName p.1) Prod.snd ps).keys =
      ((ps.map Prod.fst).map columnName).eraseDups.map .text := by
    rw [Keyed.keys_written, List.map_map]
    rfl
  have noted := @flatMap_notesOf table _ (typed_of_reads reads)
  refine ⟨rfl, columns, ?once, ?last, isUsable_written reads, noted, ?required, ?counted⟩
  case once =>
    rw [Schema.columns, columns]
    exact List.Pairwise.map Value.text (fun s t apart same => apart (Value.text.inj same)) (nodup_eraseDups _)
  case last =>
    intro name a
    simp only [read_single, lookup_read reads]
  case required =>
    intro name a row there last needed
    obtain ⟨row', last', read⟩ := (lookup_read reads).1 there
    cases last.symm.trans last'
    exact (attribute_of_columnOf read).2.1 needed
  case counted =>
    intro a there counted
    obtain ⟨name, found⟩ := (Keyed.mem_values_written ps a).1 there
    obtain ⟨row, -, read⟩ := (lookup_read reads).1 found
    exact (attribute_of_columnOf read).2.2 counted

/-- A schema that was read is what its rows have written. -/
theorem read_eq_ok {rows : List Value} {notes : List Note} {s : Schema}
    (made : read table rows = (notes, .ok (some s))) :
    ∃ ps : List (Keyed Value × Attribute), (∀ p ∈ ps, Reads p) ∧ rows = (ps.map Prod.fst).map .ofKeyed ∧
      notes = (ps.map Prod.fst).flatMap (notesOf table) ∧
      s = ⟨table, Keyed.written (fun p => columnName p.1) Prod.snd ps⟩ := by
  cases rows with
  | nil => cases made
  | cons row rows =>
    rw [read_cons] at made
    obtain ⟨noted, whole⟩ := Prod.mk.inj made
    obtain ⟨t, written, given⟩ := map_eq_ok whole
    cases given
    obtain ⟨ps, reads, alike, notes, rfl⟩ := readRows_eq_ok written
    refine ⟨ps, reads, alike, noted.symm.trans notes, ?_⟩
    rw [Keyed.written, Keyed.ofList, List.foldl_map]

end Rows

/-- **What becomes of the rows.** When rows are read to a schema, its columns are their names in the order in which they
first came, each once, and a column's attribute is the one read from the last row of its name alone. The schema is
usable exactly when the types of these last rows are known. There is one note for each row with an unknown type, in the
order of the rows. A value is required only where the row says N about missing values, and counted columns are unique
primary keys. -/
theorem read_keeps {table : Value} {rows : List Value} {notes : List Note} {s : Schema}
    (made : read table rows = (notes, .ok (some s))) : ∃ rs, rows = rs.map .ofKeyed ∧ Keeps table rs notes s := by
  obtain ⟨ps, reads, alike, rfl, rfl⟩ := read_eq_ok made
  exact ⟨ps.map Prod.fst, alike, keeps_written reads⟩

/-- Rows of which two have one name without blanks, and two have types that nobody knows. -/
def repeatedRows : List (Keyed Value) :=
  [columnRow "ID " "ROWID" "n" .null "N", columnRow "NOTE" " xml" "Y" .null "N",
    columnRow " ID" "integer " "N" (.text "7") " y", columnRow "SPOT" "POINT" "N" (.text "0") "N"]

/-- What is read from them. -/
def repeatedSchema : Schema where
  table := .text "notes"
  attributes := ⟨[(.text "ID", { type := some .integer, maxLength := .int 4, role := .counted, unique := true }),
    (.text "NOTE", { type := some .text, maxLength := .int 4 }),
    (.text "SPOT", { type := none, maxLength := .int 4, required := .bool true })]⟩

/-- The second row of a name counts, at the place of the first one. -/
theorem read_keeps_repeated : ∃ notes,
    read (.text "notes") (repeatedRows.map .ofKeyed) = (notes, .ok (some repeatedSchema)) ∧ notes.length = 2 ∧
    ∃ rs, repeatedRows.map Value.ofKeyed = rs.map .ofKeyed ∧ Keeps (.text "notes") rs notes repeatedSchema := by
  have made : read (.text "notes") (repeatedRows.map .ofKeyed) =
      ((read (.text "notes") (repeatedRows.map .ofKeyed)).1, .ok (some repeatedSchema)) := by rfl
  exact ⟨_, made, rfl, read_keeps made⟩

/-- A value is required by a row that says a small n, which is not N. -/
theorem required_small :
    let row := columnRow "ID" "INTEGER" "n" .null "N"
    ∃ a, (read (.text "notes") [.ofKeyed row]).2 = .ok (some ⟨.text "notes", ⟨[(.text "ID", a)]⟩⟩) ∧
      a.required.isTruthy = true ∧ word (entry row "NULLS") ≠ "N" :=
  ⟨_, rfl, rfl, by decide⟩

end Catalog

end TableGateway
