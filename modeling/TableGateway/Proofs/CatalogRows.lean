import TableGateway.Proofs.Origins
import TableGateway.Proofs.Reflected

/-!
# What the catalog may hold

The rows of the catalog hold whatever the engine keeps there. A row is read without a fault (`Legible`) when a text can
be made of each entry that is looked at, and when its default, which is looked at only where nothing may be missing, is
not one that cannot be compared with zero. Numerals of signaling non-numbers are such defaults: they pass for numbers,
and comparing them breaks the reading.

- **`stripped_eq_ok_iff`**, **`saysLetter_eq_ok_iff`**: what an entry says, and when it says anything;
- **`columnOf_eq_ok_iff`**, **`attributeOf_eq_ok_iff`**: what is read off a row, and when;
- **`exists_columnOf_iff`**, **`exists_readRows_iff`**: when a row is read, and when all rows are;
- **`reads_iff`**: when the rows make a schema, and when a table is described by them.
-/

namespace TableGateway

namespace Catalog

/-! ## Entries as texts -/

section Entries

variable {v nulls default : Value} {letter t : String} {b : Bool}

/-- A text can be made of the entry; of what does not count as given none is made. -/
def Writes (v : Value) : Prop := (v.orElse (.text "")).isWritable = true

/-- What an entry says: its text without blanks at its ends, and nothing where nothing is given. -/
def word (v : Value) : String := Text.strip (v.orElse (.text "")).shown

theorem stripped_eq_ok_iff : stripped v = .ok t ↔ Writes v ∧ word v = t := by
  unfold stripped Value.writeShown Writes word
  split
  · next writes => simp [Except.map, writes]
  · next writes => simp [Except.map, writes]

theorem saysLetter_eq_ok_iff : saysLetter letter v = .ok b ↔ Writes v ∧ (Text.upper (word v) == letter) = b := by
  unfold saysLetter
  constructor
  · intro told
    obtain ⟨t, written, same⟩ := map_eq_ok told
    obtain ⟨writes, rfl⟩ := stripped_eq_ok_iff.1 written
    exact ⟨writes, same⟩
  · rintro ⟨writes, same⟩
    rw [stripped_eq_ok_iff.2 ⟨writes, rfl⟩, ← same]
    rfl

theorem exists_saysLetter_iff (letter : String) : (∃ b, saysLetter letter v = .ok b) ↔ Writes v := by
  simp [saysLetter_eq_ok_iff]

/-- Whether a value is required can be told unless the entry cannot be written, or the default is looked at and cannot
be compared. -/
theorem exists_isRequired_iff : (∃ b, isRequired nulls default = .ok b) ↔
    Writes nulls ∧ (saysLetter "N" nulls = .ok true → Comparable default) := by
  constructor
  · rintro ⟨b, required⟩
    obtain ⟨told, read, rest⟩ := bind_eq_ok required
    refine ⟨(exists_saysLetter_iff "N").1 ⟨told, read⟩, fun notNull => ?_⟩
    cases read.symm.trans notNull
    obtain ⟨n, number, compared⟩ := bind_eq_ok rest
    refine ⟨n, number, fun x among => ?_⟩
    cases among
    cases signaling : x.isSignaling with
    | false => rfl
    | true => simp [comparesToZero, signaling] at compared
  · rintro ⟨writes, comparable⟩
    obtain ⟨told, read⟩ := (exists_saysLetter_iff "N").2 writes
    cases told with
    | false => exact ⟨false, isRequired_nullable read⟩
    | true => exact isRequired_comparable read (comparable read)

end Entries

/-! ## Reading rows -/

section Rows

variable {row : Keyed Value}

/-- The row can be read. -/
structure Legible (row : Keyed Value) : Prop where
  type : Writes (entry row "TYPENAME")
  nulls : Writes (entry row "NULLS")
  default : saysLetter "N" (entry row "NULLS") = .ok true → Comparable (entry row "DEFAULT")
  identity : Writes (entry row "IDENTITY")
  name : (entry row "COLNAME").isWritable = true

theorem entry_of_lookup {name : String} {v : Value} (found : row.lookup (.text name) = some v) :
    entry row name = v := by
  simp [entry, Keyed.getD, found]

/-- The name of the row's column. -/
def columnName (row : Keyed Value) : String := Text.strip (entry row "COLNAME").shown

/-- Is the row's column counted up? -/
def isCounted (row : Keyed Value) : Bool := Text.upper (word (entry row "IDENTITY")) == "Y"

/-- The attribute of the row's column, once it is told whether a value is required. -/
def attributeWith (row : Keyed Value) (required : Bool) : Attribute where
  type := NativeType.logical? (word (entry row "TYPENAME"))
  maxLength := entry row "LENGTH"
  required := .bool required
  role := if isCounted row then .counted else .plain
  unique := isCounted row

theorem attributeOf_eq_ok_iff {a : Attribute} : attributeOf row = .ok a ↔
    Writes (entry row "TYPENAME") ∧ Writes (entry row "IDENTITY") ∧ ∃ required,
      isRequired (entry row "NULLS") (entry row "DEFAULT") = .ok required ∧ attributeWith row required = a := by
  constructor
  · intro described
    obtain ⟨type, typed, described⟩ := bind_eq_ok described
    obtain ⟨required, requires, described⟩ := bind_eq_ok described
    obtain ⟨counted, counts, described⟩ := bind_eq_ok described
    obtain ⟨types, rfl⟩ := stripped_eq_ok_iff.1 typed
    obtain ⟨identifies, rfl⟩ := saysLetter_eq_ok_iff.1 counts
    exact ⟨types, identifies, required, requires, Except.ok.inj described⟩
  · rintro ⟨types, identifies, required, requires, rfl⟩
    have typed : typeName row = .ok (word (entry row "TYPENAME")) := stripped_eq_ok_iff.2 ⟨types, rfl⟩
    have counts : saysLetter "Y" (entry row "IDENTITY") = .ok (isCounted row) :=
      saysLetter_eq_ok_iff.2 ⟨identifies, rfl⟩
    rw [attributeOf, typed, requires, counts]
    rfl

/-- What is read off a row that names its column. -/
theorem columnOf_eq_ok_iff {c : Value × Attribute} : columnOf row = .ok c ↔
    row.has (.text "COLNAME") = true ∧ (entry row "COLNAME").isWritable = true ∧
      ∃ a, attributeOf row = .ok a ∧ (.text (columnName row), a) = c := by
  unfold columnOf columnName Keyed.has
  cases described : attributeOf row with
  | error f => simp [bind, Except.bind]
  | ok a =>
    cases found : row.lookup (.text "COLNAME") with
    | none => simp [bind, Except.bind, throw, throwThe, MonadExceptOf.throw]
    | some name =>
      rw [entry_of_lookup found]
      by_cases writes : name.isWritable = true <;>
        simp [bind, Except.bind, pure, Except.pure, Value.writeShown, writes]

/-- A row that names its column is read exactly when it is legible. -/
theorem exists_columnOf_iff (named : row.has (.text "COLNAME") = true) :
    (∃ c, columnOf row = .ok c) ↔ Legible row := by
  constructor
  · rintro ⟨c, read⟩
    obtain ⟨-, name, a, described, -⟩ := columnOf_eq_ok_iff.1 read
    obtain ⟨type, identity, required, requires, -⟩ := attributeOf_eq_ok_iff.1 described
    obtain ⟨nulls, default⟩ := exists_isRequired_iff.1 ⟨required, requires⟩
    exact ⟨type, nulls, default, identity, name⟩
  · intro legible
    obtain ⟨required, requires⟩ := exists_isRequired_iff.2 ⟨legible.nulls, legible.default⟩
    have described := attributeOf_eq_ok_iff.2 ⟨legible.type, legible.identity, required, requires, rfl⟩
    exact ⟨_, columnOf_eq_ok_iff.2 ⟨named, legible.name, _, described, rfl⟩⟩

theorem readRows_cons_ok (table : Value) {c : Value × Attribute} (read : columnOf row = .ok c) (rows : List Value)
    (done : Keyed Attribute) : readRows table (.ofKeyed row :: rows) done =
      (notesOf table row ++ (readRows table rows (done.put c.1 c.2)).1,
        (readRows table rows (done.put c.1 c.2)).2) := by
  rw [readRows, Value.ofKeyed, readRow, read]

theorem readRows_cons_error (table : Value) {f : Fault} (broken : columnOf row = .error f) (rows : List Value)
    (done : Keyed Attribute) : readRows table (.ofKeyed row :: rows) done = (notesOf table row, .error f) := by
  rw [readRows, Value.ofKeyed, readRow, broken]

/-- Rows that name their columns are read exactly when all of them are legible. -/
theorem exists_readRows_iff (table : Value) {rows : List (Keyed Value)}
    (named : ∀ row ∈ rows, row.has (.text "COLNAME") = true) (done : Keyed Attribute) :
    (∃ t, (readRows table (rows.map .ofKeyed) done).2 = .ok t) ↔ ∀ row ∈ rows, Legible row := by
  induction rows generalizing done with
  | nil => simp [readRows]
  | cons row rows ih =>
    have first := exists_columnOf_iff (named row (.head _))
    have rest (done : Keyed Attribute) := ih (fun row among => named row (.tail _ among)) done
    rw [List.map_cons, List.forall_mem_cons, ← first]
    cases read : columnOf row with
    | error f => simp [readRows_cons_error table read]
    | ok c => simp [readRows_cons_ok table read, rest]

theorem read_cons (table row : Value) (rows : List Value) : read table (row :: rows) =
    ((readRows table (row :: rows) {}).1, (readRows table (row :: rows) {}).2.map fun as => some ⟨table, as⟩) := rfl

/-- There is a schema exactly when there are rows. -/
theorem eq_none_iff_of_read {table : Value} {rows : List Value} {s : Option Schema}
    (made : (read table rows).2 = .ok s) : s = none ↔ rows = [] := by
  cases rows with
  | nil =>
    cases made
    simp
  | cons row rows =>
    obtain ⟨t, -, rfl⟩ := map_eq_ok made
    simp

/-- Rows that name their columns are read, to a schema or to nothing, exactly when all of them are legible. -/
theorem exists_read_iff (table : Value) {rows : List (Keyed Value)}
    (named : ∀ row ∈ rows, row.has (.text "COLNAME") = true) :
    (∃ s, (read table (rows.map .ofKeyed)).2 = .ok s) ↔ ∀ row ∈ rows, Legible row := by
  rw [← exists_readRows_iff table named {}]
  cases rows with
  | nil => simp [read, readRows]
  | cons row rows =>
    rw [List.map_cons, read_cons]
    cases (readRows table (.ofKeyed row :: rows.map .ofKeyed) {}).2 <;> simp [Except.map]

/-! ## The notes on rows -/

/-- What is noted while rows are read is about one of the rows. -/
theorem exists_of_mem_notes {table : Value} {rows : List (Keyed Value)} {done : Keyed Attribute} {n : Note}
    (among : n ∈ (readRows table (rows.map .ofKeyed) done).1) : ∃ row ∈ rows, n ∈ notesOf table row := by
  induction rows generalizing done with
  | nil => cases among
  | cons row rows ih =>
    rw [List.map_cons] at among
    cases read : columnOf row with
    | error f =>
      rw [readRows_cons_error table read] at among
      exact ⟨row, .head _, among⟩
    | ok c =>
      rw [readRows_cons_ok table read] at among
      rcases List.mem_append.1 among with own | later
      · exact ⟨row, .head _, own⟩
      · obtain ⟨row', there, noted⟩ := ih later
        exact ⟨row', .tail _ there, noted⟩

/-- A record can hold what is noted when it can hold the names of the table and of the columns. -/
theorem plain_of_read {table : Value} {rows : List (Keyed Value)} {n : Note} (held : LogSetup.Holds table)
    (columns : ∀ row ∈ rows, LogSetup.Holds (entry row "COLNAME")) (among : n ∈ (read table (rows.map .ofKeyed)).1) :
    n.Plain := by
  have noted : n ∈ (readRows table (rows.map .ofKeyed) {}).1 := by
    cases rows with
    | nil => cases among
    | cons row rows => exact among
  obtain ⟨row, there, noted⟩ := exists_of_mem_notes noted
  unfold notesOf at noted
  split at noted
  · cases noted
  · next type _ =>
    split at noted
    · rw [List.mem_singleton.1 noted]
      exact .cons (by decide) held (.cons (by decide) (columns row there) (.one (by decide) (LogSetup.holds_text type)))
    · cases noted

end Rows

end Catalog

/-! ## Describing tables -/

namespace Gateway

variable {σ κ π : Type} {g : Gateway} {identity schemaName : Value} {st : Statement} {w v : World σ κ π}

/-- When the catalog has been asked, a table is described as its rows are read. -/
theorem fst_describe {rows : Dispatcher.Rows} (asks : Operation.describing g w.registry identity schemaName = .ok st)
    (answered : (g.dispatcher.execute identity st schemaName).run w = (.ok (.ok rows), v))
    (takes : ∀ table, Operation.tableOf w.registry identity schemaName = .ok table →
      v.Takes (· ∈ (Catalog.read table rows).1)) :
    ∃ table, Operation.tableOf w.registry identity schemaName = .ok table ∧
      ((g.describe identity schemaName).run w).1 = match (Catalog.read table rows).2 with
        | .ok s => .ok (.ok s)
        | .error f => .error (.broken f) := by
  obtain ⟨table, named, asks⟩ := bind_eq_ok asks
  refine ⟨table, named, ?_⟩
  obtain ⟨u, noted, -⟩ := Run.run_logAll_ok (takes table named)
  have asked : (Run.lift (liftM (Catalog.describe g.dialect table)) : Run σ κ π _).run w = (.ok st, w) := by
    rw [Run.run_lift, asks]
  -- The journal takes the notes on the rows, so after the catalog's answer only their reading can fail.
  rw [describe, run_answered_bind still_tableName, fst_tableName, named]
  dsimp only
  rw [Run.run_bind_ok asked, Run.run_bind_ok answered]
  unfold readCatalog
  dsimp only
  rw [Run.run_bind, Run.run_bind_ok noted]
  cases (Catalog.read table rows).2 <;> rfl

end Gateway

namespace Catalog

variable {σ κ π : Type}

/-- **When the catalog is read.** Take rows that name their columns. They are read, to nothing exactly where there are
none and else to a schema, exactly when every row is legible. When the catalog answers with them, and the journal takes
what is noted on them, the table is described exactly when every row is legible. -/
theorem reads_iff {rows : List (Keyed Value)} (named : ∀ row ∈ rows, row.has (.text "COLNAME") = true) :
    (∀ table, (∃ s, (read table (rows.map .ofKeyed)).2 = .ok s ∧ (s = none ↔ rows = [])) ↔ ∀ row ∈ rows, Legible row) ∧
    ∀ (g : Gateway) (identity schemaName : Value) (st : Statement) (w v : World σ κ π),
      Operation.describing g w.registry identity schemaName = .ok st →
      (g.dispatcher.execute identity st schemaName).run w = (.ok (.ok (rows.map .ofKeyed)), v) →
      (∀ table, Operation.tableOf w.registry identity schemaName = .ok table →
        v.Takes (· ∈ (read table (rows.map .ofKeyed)).1)) →
      ((∃ s, ((g.describe identity schemaName).run w).1 = .ok (.ok s)) ↔ ∀ row ∈ rows, Legible row) := by
  refine ⟨fun table => ?_, ?_⟩
  · rw [← exists_read_iff table named]
    refine exists_congr fun s => and_iff_left_of_imp fun made => ?_
    rw [eq_none_iff_of_read made, List.map_eq_nil_iff]
  · intro g identity schemaName st w v asks answered takes
    obtain ⟨table, -, described⟩ := Gateway.fst_describe asks answered takes
    rw [described, ← exists_read_iff table named]
    cases (read table (rows.map .ofKeyed)).2 <;> simp

/-- A catalog that answers every statement with these rows, for a connection under the identity `a`. The journal is
written as records. -/
def answering (rows : List (Keyed Value)) : World Unit Unit Unit where
  engine := ()
  registry :=
    { driver := .steady (.ok ()) (.ok (rows.map .ofKeyed)) (.ok ())
      entries := ⟨[(.text "a", { config := { identity := .text "a" } })]⟩ }
  writes := LogSetup.recording.takes ""

/-- Rows with blanks, odd kinds of values and a type that nobody knows. A default that signals does no harm where values
may be missing. -/
def oddRows : List (Keyed Value) :=
  [columnRow " ID " "integer  " " n" (.decimal (.infinite true)) "y",
    columnRow "NOTE" "ROWID" "Y" (.text "sNaN") "N",
    ⟨[(.text "COLNAME", .null), (.text "TYPENAME", .tuple [.null]), (.text "NULLS", .text "N"),
      (.text "DEFAULT", .text "0x"), (.text "IDENTITY", .bool true)]⟩]

/-- The odd rows make a schema, and the table is described by it. -/
theorem reads_odd :
    (∃ s, (read (.text "notes") (oddRows.map .ofKeyed)).2 = .ok (some s)) ∧
    ∃ s, ((({} : Gateway).describe (.text "a") (.text "notes")).run (answering oddRows)).1 = .ok (.ok s) := by
  have named : ∀ row ∈ oddRows, row.has (.text "COLNAME") = true := by decide
  have legible : ∀ row ∈ oddRows, Legible row := by
    simp only [oddRows, List.forall_mem_cons, List.not_mem_nil, false_implies, implies_true, and_true]
    exact ⟨⟨by rfl, by rfl, fun _ => ⟨_, rfl, by decide +kernel⟩, by rfl, by rfl⟩,
      ⟨by rfl, by rfl, fun notNull => absurd notNull (by decide), by rfl, by rfl⟩,
      ⟨by rfl, by rfl, fun _ => ⟨_, rfl, by decide +kernel⟩, by rfl, by rfl⟩⟩
  obtain ⟨parses, describes⟩ := reads_iff (σ := Unit) (κ := Unit) (π := Unit) named
  constructor
  · obtain ⟨s, made, some⟩ := (parses (.text "notes")).2 legible
    obtain ⟨s, rfl⟩ := Option.ne_none_iff_exists'.1 fun none => absurd (some.1 none) (by simp [oddRows])
    exact ⟨s, made⟩
  · have columns : ∀ row ∈ oddRows, LogSetup.Holds (entry row "COLNAME") := by
      simp only [oddRows, List.forall_mem_cons, List.not_mem_nil, false_implies, implies_true, and_true]
      exact ⟨LogSetup.holds_text _, LogSetup.holds_text _, LogSetup.holds_null⟩
    refine (describes {} (.text "a") (.text "notes") _ (answering oddRows) _ rfl rfl fun table named => ?_).2 legible
    cases named
    exact World.takes_of_plain LogSetup.holds_recording rfl Bindings.plain_nil fun _ =>
      plain_of_read (LogSetup.holds_text _) columns

/-- A default that signals, where nothing may be missing: it passes for a number and cannot be compared with zero. -/
theorem reads_signaling :
    let row := columnRow "ID" "INTEGER" "N" (.text "sNaN") "N"
    (read (.text "notes") [.ofKeyed row]).2 = .error .decimalSignal ∧
    ((({} : Gateway).describe (.text "a") (.text "notes")).run (answering [row])).1 = .error (.broken .decimalSignal) :=
  ⟨rfl, rfl⟩

end Catalog

end TableGateway
