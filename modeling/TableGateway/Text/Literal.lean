import TableGateway.Text.Printable

/-!
# Quoted literals of texts and bytes

A literal stands between single quotes, or between double quotes when the text holds a single quote and no double
one. The quote in use and the backslash are escaped, as is every character that is not shown as it is.
-/

namespace TableGateway.Text

/-- The quote that a literal of these characters stands between. -/
def quoteFor (cs : List Char) : Char :=
  if cs.contains '\'' && !cs.contains '"' then '"' else '\''

/-- Hexadecimal digits, lower case, at least `width` of them. -/
def hex (width n : Nat) : List Char :=
  let ds := Nat.toDigits 16 n
  List.replicate (width - ds.length) '0' ++ ds

/-- The escape of a character that is not shown: two, four or eight hexadecimal digits. -/
def hexEscape (n : Nat) : List Char :=
  if n < 0x100 then '\\' :: 'x' :: hex 2 n
  else if n < 0x10000 then '\\' :: 'u' :: hex 4 n
  else '\\' :: 'U' :: hex 8 n

/-- One character of a literal between quotes `q`. -/
def escapeChar (q c : Char) : List Char :=
  if c == q || c == '\\' then ['\\', c]
  else if c == '\n' then ['\\', 'n']
  else if c == '\r' then ['\\', 'r']
  else if c == '\t' then ['\\', 't']
  else if isPrintable c then [c]
  else hexEscape c.toNat

/-- The literal of a text. -/
def literal (s : String) : String :=
  let q := quoteFor s.toList
  String.ofList (q :: (s.toList.flatMap (escapeChar q) ++ [q]))

/-- One byte of a literal: as its ASCII character, or escaped. -/
def escapeByte (q : Char) (b : UInt8) : List Char :=
  if b.toNat < 128 then escapeChar q (Char.ofNat b.toNat) else hexEscape b.toNat

/-- The literal of a byte string, marked by a `b`. -/
def bytesLiteral (bs : List UInt8) : String :=
  let q := quoteFor (bs.map fun b => Char.ofNat b.toNat)
  String.ofList ('b' :: q :: (bs.flatMap (escapeByte q) ++ [q]))

end TableGateway.Text
