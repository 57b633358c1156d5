import TableGateway.Arguments
import TableGateway.Error
import TableGateway.Value.Order
import TableGateway.Value.Whole

/-!
# Options

`Options` say which rows an operation is about: a filter by equality, an order, a number of rows to skip and to take
at most, whether equal rows count once, and which columns are wanted. They are checked once, when they are made.

- **`ofParts_toParts`**: checked options pass the check again unchanged.
- **`withLimit_eq`**: with another limit only that limit is checked, and what is skipped under it.
-/

namespace TableGateway

/-- The direction of an order. -/
inductive Direction where
  | ascending
  | descending
  deriving DecidableEq, Repr

def Direction.word : Direction → String
  | .ascending => "ASC"
  | .descending => "DESC"

structure Options where
  filter : Keyed Value := {}
  sort : Keyed Direction := {}
  limit : Option Nat := none
  skip : Option Nat := none
  distinct : Bool := false
  select : Option (List String) := none

/-- Options as a caller gives them: made already, or described by a value. -/
inductive OptionsGiven where
  | options (o : Options)
  | value (v : Value)

namespace Options

/-- The parts of options before they are checked. -/
structure Parts where
  filter : Value := .map []
  sort : Value := .map []
  limit : Value := .null
  skip : Value := .null
  distinct : Value := .bool false
  select : Value := .null

/-! ## Checking the parts -/

/-- A column is compared with a collection. -/
def notSingle (column v : Value) : Failure :=
  match column.writeShown with
  | .ok name => .refused (.option ("Only equality predicates are supported (column " ++ name ++ ")") (.text "where") v)
  | .error f => .broken f

/-- The filter; only single values can be compared with. -/
def checkEntries : List (Value × Value) → Except Failure Unit
  | [] => .ok ()
  | (column, v) :: es => if v.isCollection then .error (notSingle column v) else checkEntries es

def checkFilter : Value → Except Failure (Keyed Value)
  | .map es => (checkEntries es).map fun _ => ⟨es⟩
  | v => .error (.refused (.option "where must be a mapping" (.text "where") v))

/-- What a direction is told by: a text in capitals, read as a number when it looks like one. -/
def directionKey : Value → Except Fault Value
  | .text s =>
    let key := Text.upper (Text.strip s)
    if Text.allDigits (String.ofList (key.toList.dropWhile (· == '-'))) then
      match Integer.read key with
      | some n => .ok (.int n)
      | none => .error .badValue
    else .ok (.text key)
  | v => .ok v

/-- The direction that a key tells. -/
def directionOf : Value → Option Direction
  | .text s => if s = "ASC" then some .ascending else if s = "DESC" then some .descending else none
  | .int n => if n = 1 then some .ascending else if n = -1 then some .descending else none
  | _ => none

/-- A column is to be sorted in what is no direction. -/
def notDirection (column v : Value) : Failure :=
  match column.writeShown, v.writeLiteral with
  | .ok name, .ok literal =>
    .refused (.option ("Unsupported sort direction for " ++ name ++ ": " ++ literal) (.text "sort") v)
  | .error f, _ | _, .error f => .broken f

def checkDirection (column v : Value) : Except Failure Direction := do
  match directionOf (← directionKey v) with
  | some d => return d
  | none => throw (notDirection column v)

def checkDirections : List (Value × Value) → Except Failure (List (Value × Direction))
  | [] => .ok []
  | (column, v) :: es => do
    let d ← checkDirection column v
    let ds ← checkDirections es
    return (column, d) :: ds

def checkSort : Value → Except Failure (Keyed Direction)
  | .map es => (checkDirections es).map Keyed.mk
  | v => .error (.refused (.option "sort must be a mapping" (.text "sort") v))

/-- A number of rows, or none. -/
def checkCount (name : String) : Value → Except Error (Option Nat)
  | .null => .ok none
  | .int n =>
    if 0 ≤ n then .ok (some n.toNat)
    else .error (.option (name ++ " must be a non-negative integer") (.text name) (.int n))
  | v => .error (.option (name ++ " must be a non-negative integer") (.text name) v)

/-- A number of rows as a value. -/
def countValue : Option Nat → Value
  | some n => .int n
  | none => .null

/-- The number of rows is given and not zero. -/
def isPositive (n : Option Nat) : Bool := n.getD 0 != 0

/-- Rows may be skipped only under a limit. -/
def checkSkip (limit skip : Option Nat) : Except Error Unit :=
  if isPositive skip && !isPositive limit then
    .error (.option "Cannot specify skip without limit" (.text "skip") (countValue skip))
  else .ok ()

/-- The texts of a list of names, if it holds nothing else. -/
def texts? : List Value → Option (List String)
  | [] => some []
  | .text s :: vs => (texts? vs).map (s :: ·)
  | _ :: _ => none

/-- The wanted columns: one name, or any collection of names. -/
def checkSelect : Value → Except Failure (Option (List String))
  | .null => .ok none
  | .text s => .ok (some [s])
  | v => do
    match texts? (← v.members?) with
    | some names => return some names
    | none => throw (.refused (.option "select must list column names" (.text "select") v))

/-- Options from their parts, checked in order. -/
def ofParts (p : Parts) : Except Failure Options := do
  let filter ← checkFilter p.filter
  let sort ← checkSort p.sort
  let limit ← checkCount "limit" p.limit
  let skip ← checkCount "skip" p.skip
  checkSkip limit skip
  let select ← checkSelect p.select
  return { filter := filter, sort := sort, limit := limit, skip := skip, distinct := p.distinct.isTruthy,
           select := select }

/-! ## Making options -/

/-- The names of the parts. -/
def partNames : List String := ["where", "sort", "limit", "skip", "distinct", "select"]

def signature : Signature := ⟨partNames, [], []⟩

/-- Options from parts by name. -/
def ofNamed (given : Keyed Value) : Except Failure Options := do
  let t ← signature.bind [] given
  ofParts { filter := t.getD "where" (.map []), sort := t.getD "sort" (.map []), limit := t.getD "limit" .null,
            skip := t.getD "skip" .null, distinct := t.getD "distinct" (.bool false), select := t.getD "select" .null }

/-- Is the key the name of a part? -/
def isPartName : Value → Bool := Value.isOneOf partNames

/-- The keys that name no part are told in order. -/
def checkNames (t : Keyed Value) : Except Failure Unit := do
  let unknown := t.keys.filter fun k => !isPartName k
  if unknown.isEmpty then return ()
  let sorted ← Value.sort unknown
  match texts? sorted with
  | some names => throw (.refused (.option ("Unknown option(s): " ++ ", ".intercalate names) .null (.list sorted)))
  | none => throw (.broken .wrongKind)

/-- Options as a mapping describes them; an empty filter or order may be anything that does not count as given. -/
def ofMapping (t : Keyed Value) : Except Failure Options := do
  checkNames t
  ofParts { filter := (t.getD "where" .null).orElse (.map []), sort := (t.getD "sort" .null).orElse (.map []),
            limit := t.getD "limit" .null, skip := t.getD "skip" .null,
            distinct := t.getD "distinct" (.bool false), select := t.getD "select" .null }

/-- The options that a caller means. -/
def coerce : OptionsGiven → Except Failure Options
  | .options o => .ok o
  | .value .null => .ok {}
  | .value (.map es) => ofMapping ⟨es⟩
  | .value v => .error (.refused (.option "options must be a mapping" .null v))

/-! ## Options as parts -/

/-- The order as a mapping. -/
def sortValue (sort : Keyed Direction) : Value :=
  .ofKeyed (sort.map fun d => .text d.word)

/-- The wanted columns as a value. -/
def selectValue : Option (List String) → Value
  | some names => .tuple (names.map .text)
  | none => .null

/-- The parts of checked options. -/
def toParts (o : Options) : Parts where
  filter := .ofKeyed o.filter
  sort := sortValue o.sort
  limit := countValue o.limit
  skip := countValue o.skip
  distinct := .bool o.distinct
  select := selectValue o.select

/-- The options as a value. -/
def toRecord (o : Options) : Value :=
  let p := o.toParts
  .record .options
    [("where", p.filter), ("sort", p.sort), ("limit", p.limit), ("skip", p.skip), ("distinct", p.distinct),
      ("select", p.select)]

/-- The options with another limit, checked anew. -/
def withLimit (o : Options) (limit : Value) : Except Failure Options :=
  ofParts { o.toParts with limit := limit }

/-! ## What checked options satisfy -/

/-- What the check establishes. -/
def Checked (o : Options) : Prop :=
  (∀ e ∈ o.filter.entries, e.2.isCollection = false) ∧ (isPositive o.skip = true → isPositive o.limit = true)

theorem checkCount_countValue (name : String) (n : Option Nat) : checkCount name (countValue n) = .ok n := by
  cases n with
  | none => rfl
  | some n => simp [countValue, checkCount]

theorem texts?_map (names : List String) : texts? (names.map .text) = some names := by
  induction names with
  | nil => rfl
  | cons s names ih => simp [texts?, ih]

theorem checkSelect_selectValue (select : Option (List String)) : checkSelect (selectValue select) = .ok select := by
  cases select with
  | none => rfl
  | some names =>
    show (match texts? (names.map .text) with
      | some names => (.ok (some names) : Except Failure (Option (List String)))
      | none => _) = _
    rw [texts?_map]

theorem checkEntries_ok {es : List (Value × Value)} :
    checkEntries es = .ok () ↔ ∀ e ∈ es, e.2.isCollection = false := by
  induction es with
  | nil => simp [checkEntries]
  | cons e es ih =>
    obtain ⟨c, v⟩ := e
    by_cases h : v.isCollection = true <;> simp [checkEntries, h, ih]

theorem directionKey_word (d : Direction) : directionKey (.text d.word) = .ok (.text d.word) := by
  cases d <;> rfl

theorem checkDirection_word (column : Value) (d : Direction) : checkDirection column (.text d.word) = .ok d := by
  have h := directionKey_word d
  cases d <;> rfl

theorem checkDirections_words (es : List (Value × Direction)) :
    checkDirections (es.map fun e => (e.1, .text e.2.word)) = .ok es := by
  induction es with
  | nil => rfl
  | cons e es ih =>
    obtain ⟨c, d⟩ := e
    simp only [List.map_cons, checkDirections, checkDirection_word, ih, bind, Except.bind]
    rfl

theorem checkSkip_ok {limit skip : Option Nat} :
    checkSkip limit skip = .ok () ↔ (isPositive skip = true → isPositive limit = true) := by
  unfold checkSkip
  cases isPositive skip <;> cases isPositive limit <;> simp

theorem checkFilter_ofKeyed {t : Keyed Value} (single : ∀ e ∈ t.entries, e.2.isCollection = false) :
    checkFilter (.ofKeyed t) = .ok t := by
  show (checkEntries t.entries).map (fun _ => (⟨t.entries⟩ : Keyed Value)) = _
  rw [checkEntries_ok.2 single]
  rfl

theorem checkSort_sortValue (sort : Keyed Direction) : checkSort (sortValue sort) = .ok sort := by
  show (checkDirections (sort.entries.map fun e => (e.1, .text e.2.word))).map Keyed.mk = _
  rw [checkDirections_words]
  rfl

/-- With another limit, checked options are checked for that limit and for what they skip under it. -/
theorem withLimit_eq {o : Options} (h : o.Checked) (v : Value) :
    o.withLimit v = (liftM (checkCount "limit" v) : Except Failure (Option Nat)) >>= fun limit =>
      (liftM (checkSkip limit o.skip) : Except Failure Unit) >>= fun _ => .ok { o with limit := limit } := by
  have filter : checkFilter o.toParts.filter = .ok o.filter := checkFilter_ofKeyed h.1
  have sort : checkSort o.toParts.sort = .ok o.sort := checkSort_sortValue _
  have skip : checkCount "skip" o.toParts.skip = .ok o.skip := checkCount_countValue _ _
  have select : checkSelect o.toParts.select = .ok o.select := checkSelect_selectValue _
  unfold withLimit ofParts
  dsimp only
  rw [filter, sort, skip, select]
  rfl

/-- Checked options are made of their own parts. -/
theorem ofParts_toParts {o : Options} (h : o.Checked) : ofParts o.toParts = .ok o := by
  have same : ofParts o.toParts = o.withLimit (countValue o.limit) := rfl
  rw [same, withLimit_eq h, checkCount_countValue]
  show (liftM (checkSkip o.limit o.skip) : Except Failure Unit) >>= (fun _ => .ok o) = _
  rw [checkSkip_ok.2 h.2]
  rfl

end Options

end TableGateway
