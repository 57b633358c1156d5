import TableGateway.Number.Rounded
import TableGateway.Value

/-!
# Counting and doubling values

What callers do with the values that operations answer with; the gateway itself computes with none of them. Members are
counted, one is added, and values are doubled. A truth value counts as zero or one; a sequence is doubled by being
followed by itself.
-/

namespace TableGateway.Value

/-- The number of members, of characters or of bytes; a schema has as many as it has columns. -/
def size : Value → Except Fault Nat
  | .text s => .ok s.length
  | .bytes bs => .ok bs.length
  | .list xs | .tuple xs | .set xs => .ok xs.length
  | .map es => .ok es.length
  | .record .schema ps => .ok (columnsIn ps).length
  | _ => .error .wrongKind

/-- A truth value as a number. -/
def ofFlag (b : Bool) : Int := if b then 1 else 0

/-- One more. -/
def addOne : Value → Except Fault Value
  | .bool b => .ok (.int (ofFlag b + 1))
  | .int n => .ok (.int (n + 1))
  | .float x => .ok (.float (.ofFloat (x.toFloat + 1.0)))
  | .decimal d => (d.sum Decimal.grid (.ofNat 1)).map .decimal
  | _ => .error .wrongKind

/-- Twice a number, or a sequence followed by itself. -/
def twice : Value → Except Fault Value
  | .bool b => .ok (.int (ofFlag b * 2))
  | .int n => .ok (.int (n * 2))
  | .float x => .ok (.float (.ofFloat (x.toFloat * 2.0)))
  | .decimal d => (d.product Decimal.grid (.ofNat 2)).map .decimal
  | .text s => .ok (.text (s ++ s))
  | .bytes bs => .ok (.bytes (bs ++ bs))
  | .list xs => .ok (.list (xs ++ xs))
  | .tuple xs => .ok (.tuple (xs ++ xs))
  | _ => .error .wrongKind

end TableGateway.Value
