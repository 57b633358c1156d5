import TableGateway.Query
import TableGateway.Registry
import TableGateway.Value.Members

/-!
# Requests

A `Request` is what is asked of the rows of a table. It becomes a statement by the schema that is registered. Where a
plain value stands in a schema's place, it fails: by its own options or values where these are looked at first, and
otherwise because the value has nothing of a schema.
-/

namespace TableGateway

inductive Request where
  | find (options : OptionsGiven)
  | findOne (options : OptionsGiven)
  | count (options : OptionsGiven)
  | create (values : Value)
  | update (options : OptionsGiven) (values : Value)
  | destroy (options : OptionsGiven)
  | truncate

namespace Request

/-- The statement of a request to a table. -/
def statement (d : Dialect) (s : Schema) : Request → Except Failure Statement
  | .find options => Query.find d s options
  | .findOne options => Query.findOne d s options
  | .count options => Query.count d s options
  | .create values => Query.create d s values
  | .update options values => Query.update d s options values
  | .destroy options => Query.destroy d s options
  | .truncate => liftM (Query.truncate d s)

/-! ## Without a schema -/

/-- The wanted columns have to be in the value. -/
def checkSelect (v : Value) (o : Options) : Except Failure Unit :=
  match o.select with
  | none => .ok ()
  | some names => do
    if (← names.filterM fun n => v.contains (.text n)).isEmpty then throw (.refused (Query.noColumn names))

/-- Some of the values have to be for what is in the value. -/
def checkValues (v values : Value) (otherwise : Error) : Except Failure Unit := do
  let t ← values.entries?
  if (← t.keys.filterM fun k => v.contains k).isEmpty then throw (.refused otherwise)

/-- What a request looks at before it looks for the parts of a schema. -/
def check (v : Value) : Request → Except Failure Unit
  | .find options => do checkSelect v (← Options.coerce options)
  | .findOne options => do
    let o ← Options.coerce options
    checkSelect v (← o.withLimit (.int 1))
  | .count options => do Query.checkCountable (← Options.coerce options)
  | .create values => checkValues v values Query.noValue
  | .update options values => do
    let _ ← Options.coerce options
    checkValues v values Query.notAssignable
  | .destroy options => do
    let _ ← Options.coerce options
  | .truncate => .ok ()

/-- How a request to a plain value fails. -/
def failure (v : Value) (r : Request) : Failure :=
  match r.check v with
  | .error e => e
  | .ok () => .broken .noSuchOperation

/-- The statement of a request to what is registered. -/
def build (d : Dialect) (r : Request) : Registered → Except Failure Statement
  | .schema s => r.statement d s
  | .other v => .error (r.failure v)

end Request

end TableGateway
