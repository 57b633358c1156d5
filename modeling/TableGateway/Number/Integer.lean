import TableGateway.Fault
import TableGateway.Text.Blank
import TableGateway.Text.Digit

/-!
# Whole numbers and their texts

A text is read as a whole number when, blanks at its ends aside, it is an optional sign and digits of any decimal
system, with single underscores between digits. Reading and writing stop at 4300 digits. The four separators before
the space are blank elsewhere and not around a number.

- **`Integer.text_eq`**: a number within the limit is written in the usual way.
-/

namespace TableGateway.Integer

/-- The most digits that a number may have in a text. -/
def digitLimit : Nat := 4300

/-- The number written with these digits. -/
def ofDigits (ds : List Nat) : Nat :=
  ds.foldl (fun n d => 10 * n + d) 0

/-- The digits of a run in which underscores stand only between two digits; `gap` tells whether an underscore may
come next. -/
def readDigits (gap : Bool) : List Char → Option (List Nat)
  | [] => if gap then some [] else none
  | c :: r =>
    if c = '_' then if gap then readDigits false r else none
    else match Text.digitValue? c with
      | some d => (readDigits true r).map (d :: ·)
      | none => none

/-- The number that a run of digits stands for, if it is not too long. -/
def readNatural (cs : List Char) : Option Nat :=
  match readDigits false cs with
  | some ds => if ds.length ≤ digitLimit then some (ofDigits ds) else none
  | none => none

/-- A blank that may stand around a number. -/
def isMargin (c : Char) : Bool :=
  Text.isBlank c && !(28 ≤ c.toNat && c.toNat ≤ 31)

/-- The number that these characters stand for. -/
def readChars (cs : List Char) : Option Int :=
  match Text.trimBy isMargin cs with
  | '-' :: r => (readNatural r).map fun n => -(n : Int)
  | '+' :: r => (readNatural r).map fun n => (n : Int)
  | r => (readNatural r).map fun n => (n : Int)

/-- The number that a text stands for. -/
def read (s : String) : Option Int := readChars s.toList

/-- Has the number at most `digitLimit` digits? -/
def isWritable (n : Int) : Bool := n.natAbs < Nat.pow 10 digitLimit

/-- The decimal text of a number of at most `digitLimit` digits. -/
def text (n : Int) : Except Fault String :=
  if isWritable n then .ok (toString n) else .error .badValue

theorem text_eq {n : Int} (h : n.natAbs < Nat.pow 10 digitLimit) : text n = .ok (toString n) :=
  if_pos (decide_eq_true h)

end TableGateway.Integer
