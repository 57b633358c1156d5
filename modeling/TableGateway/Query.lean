import TableGateway.Query.Options
import TableGateway.Schema
import TableGateway.Sql.Clause

/-!
# Queries

The statements of the operations on the rows of a table. Whatever names no column of the schema is left out: a
filter, an order, a wanted column, a value. A change answers with the rows as they stand after it.

- **`known_mem`**: only columns of the schema are kept, with their values and in their order.
-/

namespace TableGateway.Query

/-- The name of the column that holds a count. -/
def countColumn : String := "CNT"

/-! ## Parts of a query -/

/-- The entries whose key is a column of the schema. -/
def known {β : Type} (s : Schema) (t : Keyed β) : List (Value × β) :=
  t.entries.filter fun e => s.attributes.has e.1

/-- The filter of a query. -/
def filterClause (s : Schema) (o : Options) : Clause :=
  .filter ((known s o.filter).map fun e => .eq e.1 e.2)

/-- The order of a query. -/
def orderClause (s : Schema) (o : Options) : Clause :=
  .orderBy ((known s o.sort).map fun e => (e.1, .text e.2.word))

/-- None of the wanted columns is there. -/
def noColumn (names : List String) : Error :=
  .option "select names no column of the schema" (.text "select") (.list (names.map .text))

/-- None of the values is for a column. -/
def noValue : Error := .option "create names no column of the schema" (.text "values")

/-- None of the values is for a column that can be changed. -/
def notAssignable : Error := .option "update has no assignable columns" (.text "values")

/-- The columns to answer with: all, or those wanted that there are, of which there must be some. -/
def projection (s : Schema) : Option (List String) → Except Error (List Value)
  | none => .ok s.columns
  | some names =>
    let columns := (names.map Value.text).filter s.attributes.has
    if columns.isEmpty then .error (noColumn names) else .ok columns

/-- The values that a change may write. -/
def assignable (s : Schema) (values : Keyed Value) : List (Value × Value) :=
  (known s values).filter fun e =>
    match s.attributes.lookup e.1 with
    | some a => !a.autoIncrement
    | none => false

/-! ## Reading -/

/-- The clauses that read rows. -/
def findClauses (columns : List Value) (table : Value) (s : Schema) (o : Options) : List Clause :=
  [.select columns o.distinct, .fromTable table, filterClause s o, orderClause s o,
    .limit (Options.countValue o.limit), .offset (Options.countValue o.skip)]

def findWith (d : Dialect) (s : Schema) (o : Options) : Except Failure Statement := do
  let columns ← projection s o.select
  let table ← d.tableName s.table
  Clause.statement d (findClauses columns table s o)

/-- The rows that match. -/
def find (d : Dialect) (s : Schema) (given : OptionsGiven) : Except Failure Statement := do
  findWith d s (← Options.coerce given)

/-- The first row that matches. -/
def findOne (d : Dialect) (s : Schema) (given : OptionsGiven) : Except Failure Statement := do
  let o ← Options.coerce given
  findWith d s (← o.withLimit (.int 1))

/-- A count wants no columns. -/
def checkCountable (o : Options) : Except Error Unit :=
  match o.select with
  | some names => .error (.option "count does not accept select" (.text "select") (.tuple (names.map .text)))
  | none => .ok ()

def countWith (d : Dialect) (s : Schema) (o : Options) : Except Failure Statement := do
  checkCountable o
  let table ← d.tableName s.table
  Clause.statement d [.raw (.text ("SELECT COUNT(*) AS " ++ countColumn)), .fromTable table, filterClause s o]

/-- The number of rows that match. -/
def count (d : Dialect) (s : Schema) (given : OptionsGiven) : Except Failure Statement := do
  countWith d s (← Options.coerce given)

/-! ## Changing -/

/-- A new row. -/
def create (d : Dialect) (s : Schema) (values : Value) : Except Failure Statement := do
  let pairs := known s (← values.entries?)
  if pairs.isEmpty then throw (.refused noValue)
  let table ← d.tableName s.table
  Clause.statement d [.finalTable s.columns [.insertInto table pairs]]

def updateWith (d : Dialect) (s : Schema) (o : Options) (values : Keyed Value) : Except Failure Statement := do
  let pairs := assignable s values
  if pairs.isEmpty then throw (.refused notAssignable)
  let table ← d.tableName s.table
  Clause.statement d
    [.finalTable s.columns [.updateSet table pairs, filterClause s o, .fetchFirst (Options.countValue o.limit)]]

/-- New values for the rows that match. -/
def update (d : Dialect) (s : Schema) (given : OptionsGiven) (values : Value) : Except Failure Statement := do
  let o ← Options.coerce given
  updateWith d s o (← values.entries?)

def destroyWith (d : Dialect) (s : Schema) (o : Options) : Except Failure Statement := do
  let table ← d.tableName s.table
  Clause.statement d [.deleteFrom table, filterClause s o, .fetchFirst (Options.countValue o.limit)]

/-- No more rows that match. -/
def destroy (d : Dialect) (s : Schema) (given : OptionsGiven) : Except Failure Statement := do
  destroyWith d s (← Options.coerce given)

/-! ## Whole tables -/

/-- No more rows. -/
def truncate (d : Dialect) (s : Schema) : Except Fault Statement := do
  return ⟨"TRUNCATE TABLE " ++ (← d.tableName s.table).shown ++ " IMMEDIATE", []⟩

/-- No more table. -/
def drop (d : Dialect) (table : Value) : Except Fault Statement := do
  return ⟨"DROP TABLE " ++ (← d.tableName table).shown, []⟩

/-! ## What is kept -/

theorem known_mem {β : Type} {s : Schema} {t : Keyed β} {e : Value × β} :
    e ∈ known s t ↔ e ∈ t.entries ∧ s.attributes.has e.1 = true := by
  simp [known]

end TableGateway.Query
