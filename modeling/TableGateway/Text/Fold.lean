/-!
# Names in either case

Names of settings and variables are compared in lower case. The only character beyond ASCII whose lower-case form is
an ASCII letter is the Kelvin sign.
-/

namespace TableGateway.Text

/-- The lower-case form of a letter, as far as it is an ASCII letter. -/
def foldChar (c : Char) : Char := if c = '\u212a' then 'k' else c.toLower

/-- A name in lower case. -/
def fold (s : String) : String := String.ofList (s.toList.map foldChar)

end TableGateway.Text
