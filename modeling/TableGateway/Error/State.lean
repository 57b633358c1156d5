import TableGateway.Text.Blank
import TableGateway.Text.Upper

/-!
# The state code in an engine's message

An engine's message may name its state: the word `SQLSTATE`, in any case, one or more equal signs, colons or blanks,
and five letters or digits. The first such place counts, and its five characters are taken in upper case. Letters
are compared after case folding, which lets four characters beyond ASCII stand for letters (`foldedLetter`).

- **`stateOf_eq_some`**: a state is found exactly at a place that matches, and only when no earlier place does.
-/

namespace TableGateway

/-- The letter that a character beyond ASCII folds to. -/
def foldedLetter (c : Char) : Option Char :=
  match c.toNat with
  | 0x130 => some 'i'
  | 0x131 => some 'i'
  | 0x17f => some 's'
  | 0x212a => some 'k'
  | _ => none

/-- One of the five characters of a state. -/
def isStateChar (c : Char) : Bool := c.isAlphanum || (foldedLetter c).isSome

/-- Does the character stand for this capital letter of the marking word? -/
def marks (letter c : Char) : Bool := c.toUpper == letter || (letter == 'S' && c.toNat == 0x17f)

/-- What stands between the word and the state. -/
def isStateSeparator (c : Char) : Bool := c == '=' || c == ':' || Text.isBlank c

/-- What follows the word at the start of the characters. -/
def afterWord : List Char → List Char → Option (List Char)
  | [], cs => some cs
  | _ :: _, [] => none
  | w :: ws, c :: cs => if marks w c then afterWord ws cs else none

/-- The five characters of a state at the start of the characters. -/
def fiveStateChars (cs : List Char) : Option (List Char) :=
  let five := cs.take 5
  if five.length = 5 ∧ five.all isStateChar then some five else none

/-- The state that the characters begin with. -/
def stateHere (cs : List Char) : Option (List Char) :=
  match afterWord "SQLSTATE".toList cs with
  | some (c :: r) => if isStateSeparator c then fiveStateChars (r.dropWhile isStateSeparator) else none
  | _ => none

/-- The state at the first place that has one. -/
def stateIn : List Char → Option (List Char)
  | [] => none
  | c :: cs =>
    match stateHere (c :: cs) with
    | some s => some s
    | none => stateIn cs

/-- The state that a message names. -/
def stateOf (message : String) : Option String :=
  (stateIn message.toList).map fun s => Text.upper (String.ofList s)

/-! ## Where a state is found -/

theorem stateIn_eq_some {cs s : List Char} :
    stateIn cs = some s ↔ ∃ before rest, cs = before ++ rest ∧ stateHere rest = some s ∧
      ∀ a b, before = a ++ b → b ≠ [] → stateHere (b ++ rest) = none := by
  induction cs with
  | nil =>
    simp only [stateIn, reduceCtorEq, false_iff]
    rintro ⟨before, rest, h, hs, _⟩
    obtain ⟨rfl, rfl⟩ := List.nil_eq_append_iff.1 h
    simp [stateHere, afterWord] at hs
  | cons c cs ih =>
    rw [stateIn]
    cases hh : stateHere (c :: cs) with
    | some t =>
      constructor
      · intro h
        cases h
        refine ⟨[], c :: cs, rfl, hh, fun a b e nb => ?_⟩
        exact absurd (List.nil_eq_append_iff.1 e).2 nb
      · rintro ⟨before, rest, e, hs, first⟩
        cases before with
        | nil => rw [List.nil_append] at e; rw [e] at hh; rw [hh] at hs; exact hs
        | cons d before =>
          have := first [] (d :: before) rfl (by simp)
          rw [← e, hh] at this
          cases this
    | none =>
      rw [ih]
      constructor
      · rintro ⟨before, rest, rfl, hs, first⟩
        refine ⟨c :: before, rest, rfl, hs, fun a b e nb => ?_⟩
        cases a with
        | nil => rw [List.nil_append] at e; rw [← e]; exact hh
        | cons d a => exact first a b (by simpa using (List.cons.inj e).2) nb
      · rintro ⟨before, rest, e, hs, first⟩
        cases before with
        | nil => rw [List.nil_append] at e; rw [e] at hh; rw [hh] at hs; cases hs
        | cons d before =>
          obtain ⟨rfl, rfl⟩ := List.cons.inj e
          exact ⟨before, rest, rfl, hs, fun a b e' nb => first (c :: a) b (by simp [e']) nb⟩

theorem stateOf_eq_some {message s : String} :
    stateOf message = some s ↔ ∃ before rest five, message.toList = before ++ rest ∧ stateHere rest = some five ∧
      (∀ a b, before = a ++ b → b ≠ [] → stateHere (b ++ rest) = none) ∧ s = Text.upper (String.ofList five) := by
  simp only [stateOf, Option.map_eq_some_iff, stateIn_eq_some]
  constructor
  · rintro ⟨five, ⟨before, rest, h, hs, first⟩, rfl⟩
    exact ⟨before, rest, five, h, hs, first, rfl⟩
  · rintro ⟨before, rest, five, h, hs, first, rfl⟩
    exact ⟨five, ⟨before, rest, h, hs, first⟩, rfl⟩

end TableGateway
