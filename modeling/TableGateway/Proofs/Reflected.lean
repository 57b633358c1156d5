import Mathlib.Data.List.Forall2
import TableGateway.Proofs.Entries
import TableGateway.Schema.Catalog
import TableGateway.Schema.Create

/-!
# Tables as the catalog reflects them

A table is created with one definition for each column, and the catalog reports one row for each, by what the
definition says: its type's word, whether it forbids missing values, whether the engine counts the column up. Reading
these rows gives the columns back in their order, the plain ones with their type and whether they are required, the
counted ones as counted keys.

- **`columnOf_reports`**: what the row of one column is read as;
- **`readRows_reports`**: what the rows of all columns are read as;
- **`read_reports`**: the schema that is read for a created table.
-/

namespace TableGateway

namespace Catalog

/-! ## What a definition says -/

/-- The definition ends with these words. -/
def EndsWith (definition words : String) : Prop := words.toList <:+ definition.toList

/-- The definition forbids missing values. -/
def SaysNotNull (definition : String) : Prop :=
  EndsWith definition " NOT NULL" ∨ EndsWith definition " NOT NULL PRIMARY KEY"

/-- The definition has the column counted up. -/
def SaysIdentity (definition : String) : Prop :=
  EndsWith definition " GENERATED ALWAYS AS IDENTITY PRIMARY KEY"

instance (definition words : String) : Decidable (EndsWith definition words) :=
  inferInstanceAs (Decidable (words.toList <:+ definition.toList))

instance (definition : String) : Decidable (SaysNotNull definition) :=
  inferInstanceAs (Decidable (EndsWith definition " NOT NULL" ∨ EndsWith definition " NOT NULL PRIMARY KEY"))

instance (definition : String) : Decidable (SaysIdentity definition) :=
  inferInstanceAs (Decidable (EndsWith definition " GENERATED ALWAYS AS IDENTITY PRIMARY KEY"))

/-- The word of the type: what stands between the name and the next blank or parenthesis. -/
def typeWord (name definition : String) : String :=
  String.ofList ((definition.toList.drop (name.length + 1)).takeWhile fun c => c != ' ' && c != '(')

/-- A row that the catalog has for a column of this name and definition. -/
structure Reports (name definition : String) (row : Keyed Value) : Prop where
  named : row.lookup (.text "COLNAME") = some (.text name)
  typed : ∃ blanks : List Char, blanks.all Text.isBlank = true ∧
    entry row "TYPENAME" = .text (typeWord name definition ++ String.ofList blanks)
  notNull : SaysNotNull definition ∨ SaysIdentity definition → entry row "NULLS" = .text "N"
  nullable : ¬ (SaysNotNull definition ∨ SaysIdentity definition) → saysLetter "N" (entry row "NULLS") = .ok false
  bare : SaysNotNull definition → entry row "DEFAULT" = .null
  counted : SaysIdentity definition → entry row "IDENTITY" = .text "Y"
  uncounted : ¬ SaysIdentity definition → saysLetter "Y" (entry row "IDENTITY") = .ok false

/-- A default that can be compared with zero: no signaling number, and no whole number that cannot be written. -/
def Comparable (default : Value) : Prop :=
  ∃ n, numericDefault default = .ok n ∧ ∀ x ∈ n, x.isSignaling = false

/-! ## The definitions of columns -/

/-- Two endings of one text end one in the other. -/
theorem not_endsWith {lead words other : String} (apart : ¬ other.toList <:+ words.toList)
    (apart' : ¬ words.toList <:+ other.toList) : ¬ EndsWith (lead ++ words) other := by
  intro ends
  rw [EndsWith, String.toList_append] at ends
  rcases List.suffix_or_suffix_of_suffix ends (List.suffix_append _ _) with h | h
  · exact apart h
  · exact apart' h

theorem endsWith_append (lead words : String) : EndsWith (lead ++ words) words := by
  rw [EndsWith, String.toList_append]
  exact List.suffix_append _ _

/-- The four ways in which a column's definition ends. -/
inductive Ending where
  | counted
  | primary
  | required
  | optional

namespace Ending

def words : Ending → String
  | .counted => " GENERATED ALWAYS AS IDENTITY PRIMARY KEY"
  | .primary => " NOT NULL PRIMARY KEY"
  | .required => " NOT NULL"
  | .optional => " WITH DEFAULT"

/-- The ending of an attribute's definition. -/
def of (a : Attribute) : Ending :=
  match a.role with
  | .counted => .counted
  | .primary => .primary
  | .plain => if a.required.isTruthy then .required else .optional

theorem of_eq_counted {a : Attribute} : of a = .counted ↔ a.role = .counted := by
  unfold of
  cases a.role <;> simp
  split <;> simp

theorem saysIdentity_words (lead : String) (e : Ending) : SaysIdentity (lead ++ e.words) ↔ e = .counted := by
  cases e with
  | counted => exact iff_of_true (endsWith_append _ _) rfl
  | primary => exact iff_of_false (not_endsWith (by decide) (by decide)) (by simp)
  | required => exact iff_of_false (not_endsWith (by decide) (by decide)) (by simp)
  | optional => exact iff_of_false (not_endsWith (by decide) (by decide)) (by simp)

theorem saysNotNull_words (lead : String) (e : Ending) :
    SaysNotNull (lead ++ e.words) ↔ e = .primary ∨ e = .required := by
  have none (words : String) (a₁ : ¬ " NOT NULL".toList <:+ words.toList) (a₂ : ¬ words.toList <:+ " NOT NULL".toList)
      (b₁ : ¬ " NOT NULL PRIMARY KEY".toList <:+ words.toList)
      (b₂ : ¬ words.toList <:+ " NOT NULL PRIMARY KEY".toList) : ¬ SaysNotNull (lead ++ words) :=
    not_or.2 ⟨not_endsWith a₁ a₂, not_endsWith b₁ b₂⟩
  cases e with
  | counted => exact iff_of_false (none _ (by decide) (by decide) (by decide) (by decide)) (by simp)
  | primary => exact iff_of_true (.inr (endsWith_append _ _)) (.inl rfl)
  | required => exact iff_of_true (.inl (endsWith_append _ _)) (.inr rfl)
  | optional => exact iff_of_false (none _ (by decide) (by decide) (by decide) (by decide)) (by simp)

end Ending

variable {keyType name definition : String} {a : Attribute}

theorem exists_of_nativeOf {type : Option LogicalType} {native : String}
    (named : LogicalType.nativeOf (Attribute.typeValue type) = .ok native) :
    ∃ t, type = some t ∧ native = t.native := by
  cases type with
  | none => cases named
  | some t =>
    rw [Attribute.typeValue, LogicalType.nativeOf, LogicalType.ofValue?, LogicalType.ofName?_name] at named
    cases named
    exact ⟨t, rfl, rfl⟩

/-- A definition is a name, a blank, a type and an ending; the type of a plain column begins with its native word. -/
theorem definition_eq (defined : Schema.columnDefinition keyType (.text name) a = .ok definition) :
    ∃ type, definition = name ++ " " ++ type ++ (Ending.of a).words ∧
      (a.role = .plain → ∃ t length, a.type = some t ∧ type = t.native ++ length ∧
        (length = "" ∨ ∃ rest, length = "(" ++ rest)) := by
  cases role : a.role with
  | counted =>
    rw [Schema.column_counted keyType _ role] at defined
    cases defined
    exact ⟨keyType, by rw [Ending.of, role]; rfl, nofun⟩
  | primary =>
    rw [Schema.column_primary keyType _ role] at defined
    cases defined
    exact ⟨keyType, by rw [Ending.of, role]; rfl, nofun⟩
  | plain =>
    rw [Schema.columnDefinition, role] at defined
    obtain ⟨type, written, rfl⟩ := map_eq_ok defined
    refine ⟨type, ?_, fun _ => ?_⟩
    · rw [Ending.of, role]
      cases a.required.isTruthy <;> rfl
    · obtain ⟨word, named, written⟩ := bind_eq_ok written
      obtain ⟨t, typed, rfl⟩ := exists_of_nativeOf named
      cases written
      split
      · exact ⟨t, "(" ++ ((Schema.columnLength t.native a).shown ++ ")"), typed, by simp only [String.append_assoc],
          .inr ⟨_, rfl⟩⟩
      · exact ⟨t, "", typed, by rw [String.append_empty], .inl rfl⟩

/-- A word ends where a blank or a parenthesis stands. -/
theorem typeWord_append {word rest : String} (whole : word.toList.all (fun c => c != ' ' && c != '(') = true)
    (ends : ∀ c ∈ rest.toList.head?, (c != ' ' && c != '(') = false) :
    typeWord name (name ++ " " ++ word ++ rest) = word := by
  have behind : (name ++ " " ++ word ++ rest).toList.drop (name.length + 1) = word.toList ++ rest.toList := by
    simp [← String.length_toList, List.drop_append]
  have stops : rest.toList.takeWhile (fun c => c != ' ' && c != '(') = [] := by
    cases e : rest.toList with
    | nil => rfl
    | cons c r => exact List.takeWhile_cons_of_neg (by simpa using ends c (by rw [e]; rfl))
  rw [typeWord, behind, List.takeWhile_append_of_pos (List.all_eq_true.1 whole), stops, List.append_nil,
    String.ofList_toList]

/-- The type of a plain column is read as its native word. -/
theorem typeWord_definition (defined : Schema.columnDefinition keyType (.text name) a = .ok definition)
    (plain : a.role = .plain) : ∃ t, a.type = some t ∧ typeWord name definition = t.native := by
  obtain ⟨type, rfl, typed⟩ := definition_eq defined
  obtain ⟨t, length, some, rfl, parenthesis⟩ := typed plain
  refine ⟨t, some, ?_⟩
  have apart : name ++ " " ++ (t.native ++ length) ++ (Ending.of a).words =
      name ++ " " ++ t.native ++ (length ++ (Ending.of a).words) := by simp only [String.append_assoc]
  rw [apart]
  refine typeWord_append (by cases t <;> decide) fun c first => ?_
  rcases parenthesis with rfl | ⟨rest, rfl⟩
  · rw [String.empty_append] at first
    cases e : Ending.of a <;> (rw [e] at first; cases first; rfl)
  · rw [String.append_assoc, String.toList_append] at first
    cases first
    rfl

/-! ## Reading one row -/

theorem stripped_text (t : String) : stripped (.text t) = .ok (Text.strip t) := by
  by_cases empty : t = ""
  · rw [empty]
    rfl
  · have given : (Value.text t).isTruthy = true := by simp [empty]
    rw [stripped, Value.orElse, if_pos given, Value.writeShown_text]
    rfl

/-- Blanks behind a text that neither begins nor ends with one are taken off. -/
theorem trim_append_blanks {cs blanks : List Char} (some : cs ≠ []) (first : ∀ c ∈ cs.head?, Text.isBlank c = false)
    (last : ∀ c ∈ cs.getLast?, Text.isBlank c = false) (blank : blanks.all Text.isBlank = true) :
    Text.trim (cs ++ blanks) = cs := by
  obtain ⟨c, r, rfl⟩ := List.exists_cons_of_ne_nil some
  have front : ((c :: r) ++ blanks).dropWhile Text.isBlank = (c :: r) ++ blanks :=
    List.dropWhile_cons_of_neg (by simpa using first c rfl)
  have trimmed : Text.trim (c :: r) = c :: r := Text.trim_of_ends first last
  have front' : (c :: r).dropWhile Text.isBlank = c :: r := List.dropWhile_cons_of_neg (by simpa using first c rfl)
  rw [Text.trim, Text.trimBy, front'] at trimmed
  rw [Text.trim, Text.trimBy, front, List.reverse_append, List.dropWhile_append_of_pos (by simpa using blank),
    trimmed]

variable {row : Keyed Value}

theorem typeName_reports (defined : Schema.columnDefinition keyType (.text name) a = .ok definition)
    (reported : Reports name definition row) :
    ∃ type, typeName row = .ok type ∧ (a.role = .plain → NativeType.logical? type = a.type) := by
  obtain ⟨blanks, blank, typed⟩ := reported.typed
  refine ⟨Text.strip (typeWord name definition ++ String.ofList blanks), by rw [typeName, typed, stripped_text], ?_⟩
  intro plain
  obtain ⟨t, some, word⟩ := typeWord_definition defined plain
  have bare : Text.strip (t.native ++ String.ofList blanks) = t.native := by
    rw [Text.strip, String.toList_append, String.toList_ofList, trim_append_blanks _ _ _ blank, String.ofList_toList]
    · cases t <;> decide
    · cases t <;> (intro c first; cases first; rfl)
    · cases t <;> (intro c last; cases last; rfl)
  rw [word, bare, LogicalType.logical?_native, some]

section Required

variable {nulls default : Value}

theorem isRequired_nullable (nullable : saysLetter "N" nulls = .ok false) : isRequired nulls default = .ok false := by
  rw [isRequired, nullable]
  rfl

theorem isRequired_bare (notNull : saysLetter "N" nulls = .ok true) : isRequired nulls .null = .ok true := by
  rw [isRequired, notNull]
  rfl

theorem isRequired_comparable (notNull : saysLetter "N" nulls = .ok true) (comparable : Comparable default) :
    ∃ required, isRequired nulls default = .ok required := by
  obtain ⟨n, number, quiet⟩ := comparable
  rw [isRequired, notNull]
  show ∃ required, (numericDefault default >>= _) = _
  rw [number]
  cases n with
  | none => exact ⟨true, rfl⟩
  | some x =>
    refine ⟨x.isZero, ?_⟩
    show comparesToZero x = _
    rw [comparesToZero, quiet x rfl]
    rfl

end Required

theorem isRequired_reports (defined : Schema.columnDefinition keyType (.text name) a = .ok definition)
    (reported : Reports name definition row) (comparable : SaysIdentity definition → Comparable (entry row "DEFAULT")) :
    ∃ required, isRequired (entry row "NULLS") (entry row "DEFAULT") = .ok required ∧
      (a.role = .plain → required = a.required.isTruthy) := by
  obtain ⟨type, rfl, _⟩ := definition_eq defined
  have letter : saysLetter "N" (.text "N") = .ok true := by rfl
  have identity := Ending.saysIdentity_words (name ++ " " ++ type) (Ending.of a)
  have notNull := Ending.saysNotNull_words (name ++ " " ++ type) (Ending.of a)
  cases e : Ending.of a with
  | counted =>
    rw [reported.notNull (.inr (identity.2 e))]
    obtain ⟨required, read⟩ := isRequired_comparable letter (comparable (identity.2 e))
    exact ⟨required, read, fun plain => absurd e (by rw [Ending.of, plain]; dsimp only; split <;> simp)⟩
  | primary =>
    rw [reported.notNull (.inl (notNull.2 (.inl e))), reported.bare (notNull.2 (.inl e))]
    exact ⟨true, isRequired_bare letter, fun plain => absurd e (by rw [Ending.of, plain]; dsimp only; split <;> simp)⟩
  | required =>
    rw [reported.notNull (.inl (notNull.2 (.inr e))), reported.bare (notNull.2 (.inr e))]
    refine ⟨true, isRequired_bare letter, fun plain => ?_⟩
    cases given : a.required.isTruthy with
    | true => rfl
    | false => simp [Ending.of, plain, given] at e
  | optional =>
    refine ⟨false, isRequired_nullable (reported.nullable ?_), fun plain => ?_⟩
    · rw [notNull, identity, e]
      simp
    · cases given : a.required.isTruthy with
      | true => simp [Ending.of, plain, given] at e
      | false => rfl

/-- What is read back of a column: its type and whether it is required if it is a plain one, and that it is counted. -/
structure Restores (a b : Attribute) : Prop where
  plain : a.role = .plain → b.role = .plain ∧ b.type = a.type ∧ b.required = .bool a.required.isTruthy
  counted : a.role = .counted → b.autoIncrement = true ∧ b.primaryKey = true

theorem isCounted_reports (defined : Schema.columnDefinition keyType (.text name) a = .ok definition)
    (reported : Reports name definition row) : saysLetter "Y" (entry row "IDENTITY") = .ok (a.role == .counted) := by
  obtain ⟨type, rfl, _⟩ := definition_eq defined
  have identity := Ending.saysIdentity_words (name ++ " " ++ type) (Ending.of a)
  rw [Ending.of_eq_counted] at identity
  by_cases counted : a.role = .counted
  · rw [reported.counted (identity.2 counted), counted]
    rfl
  · rw [reported.uncounted (mt identity.1 counted), beq_false_of_ne counted]

theorem attributeOf_reports (defined : Schema.columnDefinition keyType (.text name) a = .ok definition)
    (reported : Reports name definition row) (comparable : SaysIdentity definition → Comparable (entry row "DEFAULT")) :
    ∃ b, attributeOf row = .ok b ∧ Restores a b := by
  obtain ⟨type, typed, same⟩ := typeName_reports defined reported
  obtain ⟨required, requires, equal⟩ := isRequired_reports defined reported comparable
  have counted := isCounted_reports defined reported
  have read : attributeOf row = .ok
      { type := NativeType.logical? type, maxLength := entry row "LENGTH", required := .bool required,
        role := if a.role == .counted then .counted else .plain, unique := a.role == .counted } := by
    unfold attributeOf
    rw [typed]
    dsimp only [bind, Except.bind]
    rw [requires]
    dsimp only
    rw [counted]
    rfl
  generalize NativeType.logical? type = logical at same read
  refine ⟨_, read, fun plain => ⟨?_, same plain, congrArg Value.bool (equal plain)⟩, fun counted => ?_⟩
  · rw [plain]
    rfl
  · rw [counted]
    exact ⟨rfl, rfl⟩

theorem columnOf_reports (defined : Schema.columnDefinition keyType (.text name) a = .ok definition)
    (unblanked : Text.strip name = name) (reported : Reports name definition row)
    (comparable : SaysIdentity definition → Comparable (entry row "DEFAULT")) :
    ∃ b, columnOf row = .ok (.text name, b) ∧ Restores a b := by
  obtain ⟨b, read, restores⟩ := attributeOf_reports defined reported comparable
  refine ⟨b, ?_, restores⟩
  rw [columnOf, read]
  dsimp only [bind, Except.bind]
  rw [reported.named]
  dsimp only
  rw [Value.writeShown_text]
  dsimp only
  rw [unblanked]
  rfl

/-! ## Reading all rows -/

/-- The catalog has one row for each column of a statement that creates a table, given by the names of the columns and
their definitions, in order. -/
inductive Reflects : List String → List String → List (Keyed Value) → Prop
  | nil : Reflects [] [] []
  | cons {name definition : String} {row : Keyed Value} {names definitions : List String} {rows : List (Keyed Value)}
      (reported : Reports name definition row) (rest : Reflects names definitions rows) :
      Reflects (name :: names) (definition :: definitions) (row :: rows)

/-- The entries of a schema for columns given by their names. -/
def entriesOf (columns : List (String × Attribute)) : List (Value × Attribute) := columns.map fun c => (.text c.1, c.2)

/-- Every column is read back under its name. -/
def Restored (columns : List (String × Attribute)) (entries : List (Value × Attribute)) : Prop :=
  List.Forall₂ (fun c e => e.1 = .text c.1 ∧ Restores c.2 e.2) columns entries

theorem readRows_reports (table : Value) {columns : List (String × Attribute)} {definitions : List String}
    {rows : List (Keyed Value)} (defined : Schema.columnDefinitions keyType (entriesOf columns) = .ok definitions)
    (reflected : Reflects (columns.map Prod.fst) definitions rows) (unblanked : ∀ c ∈ columns, Text.strip c.1 = c.1)
    (comparable : ∀ row ∈ rows, entry row "IDENTITY" = .text "Y" → Comparable (entry row "DEFAULT"))
    (distinct : (columns.map Prod.fst).Nodup) (done : Keyed Attribute)
    (fresh : ∀ c ∈ columns, done.lookup (.text c.1) = none) :
    ∃ es, (readRows table (rows.map Value.ofKeyed) done).2 = .ok ⟨done.entries ++ es⟩ ∧ Restored columns es := by
  induction columns generalizing definitions rows done with
  | nil =>
    cases reflected
    exact ⟨[], by rw [List.append_nil]; rfl, .nil⟩
  | cons c columns ih =>
    obtain ⟨name, a⟩ := c
    obtain ⟨definition, first, defined⟩ := bind_eq_ok defined
    obtain ⟨definitions, others, defined⟩ := bind_eq_ok defined
    cases defined
    cases reflected with
    | @cons _ _ row _ _ rows reported rest =>
      obtain ⟨b, read, restores⟩ := columnOf_reports first (unblanked (name, a) (.head _)) reported
        fun identity => comparable row (.head _) (reported.counted identity)
      obtain ⟨other, distinct⟩ := List.nodup_cons.1 distinct
      have put : done.put (.text name) b = ⟨done.entries ++ [(.text name, b)]⟩ :=
        Keyed.put_new (fresh (name, a) (.head _))
      have fresh' : ∀ c ∈ columns, (done.put (.text name) b).lookup (.text c.1) = none := by
        intro c hc
        have apart : c.1 ≠ name := by
          intro e
          rw [← e] at other
          exact other (List.mem_map.2 ⟨c, hc, rfl⟩)
        rw [Keyed.lookup_put, Value.same_text_text, decide_eq_false apart]
        exact fresh c (.tail _ hc)
      obtain ⟨es, readRest, restored⟩ := ih others rest (fun c hc => unblanked c (.tail _ hc))
        (fun r hr => comparable r (.tail _ hr)) distinct (done.put (.text name) b) fresh'
      refine ⟨(.text name, b) :: es, ?_, .cons ⟨rfl, restores⟩ restored⟩
      have step : (readRows table ((row :: rows).map Value.ofKeyed) done).2 =
          (readRows table (rows.map Value.ofKeyed) (done.put (.text name) b)).2 := by
        rw [List.map_cons, readRows, Value.ofKeyed, readRow, read]
      rw [step, readRest, put, List.append_assoc]
      rfl

/-- **A table is read back as it was defined.** For a statement that creates a table with some columns, reading the
rows that the catalog has for them gives a schema of the same columns in the same order, every plain column with its
type and whether it is required, and every counted column as a counted key. -/
theorem read_reports {d : Dialect} {table : Value} {columns : List (String × Attribute)} {st : Statement}
    (created : Schema.createTable d keyType table ⟨table, ⟨entriesOf columns⟩⟩ = .ok st) (some : columns ≠ [])
    (distinct : (columns.map Prod.fst).Nodup) (unblanked : ∀ c ∈ columns, Text.strip c.1 = c.1) :
    ∃ token definitions, d.tableName table = .ok token ∧
      Schema.columnDefinitions keyType (entriesOf columns) = .ok definitions ∧
      st.sql = "CREATE TABLE " ++ token.shown ++ " (" ++ ", ".intercalate definitions ++ ")" ∧
      ∀ rows, Reflects (columns.map Prod.fst) definitions rows →
        (∀ row ∈ rows, entry row "IDENTITY" = .text "Y" → Comparable (entry row "DEFAULT")) →
        ∃ s, (read table (rows.map Value.ofKeyed)).2 = .ok (.some s) ∧ s.table = table ∧
          Restored columns s.attributes.entries := by
  obtain ⟨definitions, defined, created⟩ := bind_eq_ok created
  obtain ⟨token, named, created⟩ := bind_eq_ok created
  cases created
  have defined := Failure.ok_of_lift_error defined
  refine ⟨token, definitions, Failure.ok_of_lift_fault named, defined, rfl, fun rows reflected comparable => ?_⟩
  obtain ⟨es, readAll, restored⟩ :=
    readRows_reports table defined reflected unblanked comparable distinct {} fun _ _ => rfl
  refine ⟨⟨table, ⟨es⟩⟩, ?_, rfl, restored⟩
  have there : (rows.map Value.ofKeyed).isEmpty = false := by
    obtain ⟨c, columns, rfl⟩ := List.exists_cons_of_ne_nil some
    cases reflected
    rfl
  rw [read, if_neg (by rw [there]; decide)]
  show (readRows table (rows.map Value.ofKeyed) {}).2.map _ = _
  rw [readAll]
  rfl

/-- A counted column, one that requires a value, and one that does not. -/
def noteColumns : List (String × Attribute) :=
  [("ID", { role := .counted }), ("NAME", { required := .bool true }), ("NOTE", { type := some .text })]

/-- A row with a name, a type, whether nothing may be missing, a default and whether the column is counted. -/
def columnRow (name type nulls : String) (default : Value) (identity : String) : Keyed Value :=
  ⟨[(.text "COLNAME", .text name), (.text "TYPENAME", .text type), (.text "LENGTH", .int 4),
    (.text "NULLS", .text nulls), (.text "DEFAULT", default), (.text "IDENTITY", .text identity)]⟩

/-- The rows for them, with blanks behind types, and with defaults where there may be any. -/
def noteRows : List (Keyed Value) :=
  [columnRow "ID" "INTEGER  " "N" (.text "7") "Y", columnRow "NAME" "VARCHAR" "N" .null "N",
    columnRow "NOTE" "CLOB " "Y" (.text "sNaN") "N"]

theorem read_reports_notes :
    Schema.createTable {} "INTEGER" (.text "notes") ⟨.text "notes", ⟨entriesOf noteColumns⟩⟩ =
      .ok ⟨"CREATE TABLE notes (ID INTEGER GENERATED ALWAYS AS IDENTITY PRIMARY KEY, NAME VARCHAR(32704) NOT NULL, " ++
        "NOTE CLOB(2147483647) WITH DEFAULT)", []⟩ ∧
    ∃ s, (read (.text "notes") (noteRows.map Value.ofKeyed)).2 = .ok (some s) ∧ s.table = .text "notes" ∧
      Restored noteColumns s.attributes.entries := by
  have created : Schema.createTable {} "INTEGER" (.text "notes") ⟨.text "notes", ⟨entriesOf noteColumns⟩⟩ =
      .ok ⟨"CREATE TABLE notes (ID INTEGER GENERATED ALWAYS AS IDENTITY PRIMARY KEY, NAME VARCHAR(32704) NOT NULL, " ++
        "NOTE CLOB(2147483647) WITH DEFAULT)", []⟩ := by rfl
  refine ⟨created, ?_⟩
  obtain ⟨_, definitions, _, defined, _, restored⟩ :=
    read_reports created (by decide) (by decide) (by decide +kernel)
  have written : Schema.columnDefinitions "INTEGER" (entriesOf noteColumns) =
      .ok ["ID INTEGER GENERATED ALWAYS AS IDENTITY PRIMARY KEY", "NAME VARCHAR(32704) NOT NULL",
        "NOTE CLOB(2147483647) WITH DEFAULT"] := by rfl
  cases written.symm.trans defined
  refine restored noteRows (.cons ?_ (.cons ?_ (.cons ?_ .nil))) fun row among identity => ?_
  · exact ⟨rfl, ⟨[' ', ' '], by decide, by rfl⟩, fun _ => rfl, fun h => absurd (.inr (by decide)) h,
      fun h => absurd h (by decide), fun _ => rfl, fun h => absurd (by decide) h⟩
  · exact ⟨rfl, ⟨[], by decide, by rfl⟩, fun _ => rfl, fun h => absurd (.inl (by decide)) h, fun _ => rfl,
      fun h => absurd h (by decide), fun _ => by rfl⟩
  · exact ⟨rfl, ⟨[' '], by decide, by rfl⟩, fun h => absurd h (by decide), fun _ => by rfl,
      fun h => absurd h (by decide), fun h => absurd h (by decide), fun _ => by rfl⟩
  · simp only [noteRows, List.mem_cons, List.not_mem_nil, or_false] at among
    rcases among with rfl | rfl | rfl
    · exact ⟨Decimal.parse (Text.strip "7"), rfl, by decide +kernel⟩
    · exact absurd (Value.text.inj identity) (by decide)
    · exact absurd (Value.text.inj identity) (by decide)

/-- A table without columns has no rows, and without rows no table is known. -/
theorem read_columnless :
    Schema.createTable {} "INTEGER" (.text "notes") ⟨.text "notes", ⟨entriesOf []⟩⟩ =
      .ok ⟨"CREATE TABLE notes ()", []⟩ ∧
    Schema.columnDefinitions "INTEGER" (entriesOf []) = .ok [] ∧ Reflects [] [] [] ∧
    (read (.text "notes") []).2 = .ok none :=
  ⟨rfl, rfl, .nil, rfl⟩

end Catalog

end TableGateway
