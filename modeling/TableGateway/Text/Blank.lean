/-!
# Blank characters

`isBlank` holds of the 29 characters that count as white space in texts, and `strip` takes them off both ends.

- **`trim_of_ends`**: a list of characters with no blank at either end is its own trimmed form.
- **`strip_strip`**: nothing is left to take off a second time.
-/

namespace TableGateway.Text

/-- The white-space characters: the ASCII controls from tab to carriage return, the four separators before the
space, the space itself, and the spaces and line breaks beyond ASCII. -/
def isBlank (c : Char) : Bool :=
  let n := c.toNat
  (9 ≤ n && n ≤ 13) || (28 ≤ n && n ≤ 32) || n == 0x85 || n == 0xa0 || n == 0x1680 ||
    (0x2000 ≤ n && n ≤ 0x200a) || n == 0x2028 || n == 0x2029 || n == 0x202f || n == 0x205f || n == 0x3000

/-- The characters between the first and the last that `p` does not hold of. -/
def trimBy (p : Char → Bool) (cs : List Char) : List Char :=
  ((cs.dropWhile p).reverse.dropWhile p).reverse

/-- The characters between the first and the last that are not blank. -/
def trim (cs : List Char) : List Char := trimBy isBlank cs

/-- A text without the blanks at its two ends. -/
def strip (s : String) : String :=
  String.ofList (trim s.toList)

theorem toList_strip (s : String) : (strip s).toList = trim s.toList := by
  simp [strip]

/-- A list that neither begins nor ends with a blank is left alone. -/
theorem trim_of_ends {cs : List Char} (first : ∀ c ∈ cs.head?, isBlank c = false)
    (last : ∀ c ∈ cs.getLast?, isBlank c = false) : trim cs = cs := by
  have keep : ∀ ds : List Char, (∀ c ∈ ds.head?, isBlank c = false) → ds.dropWhile isBlank = ds := by
    intro ds h
    cases ds with
    | nil => rfl
    | cons d r => exact List.dropWhile_cons_of_neg (by simpa using h d rfl)
  unfold trim trimBy
  rw [keep cs first, keep cs.reverse (by simpa using last), List.reverse_reverse]

/-- What `p` holds of is not in front any more. -/
theorem head?_dropWhile (p : Char → Bool) (cs : List Char) : ∀ c ∈ (cs.dropWhile p).head?, p c = false := by
  intro c first
  have front := List.head?_dropWhile_not p cs
  rw [Option.mem_def.1 first] at front
  exact front

theorem trim_trim (cs : List Char) : trim (trim cs) = trim cs := by
  have within : trim cs <+: cs.dropWhile isBlank := by
    have shorter := List.dropWhile_suffix isBlank (l := (cs.dropWhile isBlank).reverse)
    simpa [trim, trimBy] using List.reverse_prefix.2 shorter
  obtain ⟨rest, whole⟩ := within
  apply trim_of_ends
  · intro c first
    apply head?_dropWhile isBlank cs
    rw [← whole, List.head?_append, Option.mem_def.1 first]
    rfl
  · intro c last
    apply head?_dropWhile isBlank (cs.dropWhile isBlank).reverse
    simpa [trim, trimBy] using last

theorem strip_strip (s : String) : strip (strip s) = strip s := by
  rw [strip, toList_strip, trim_trim, strip]

end TableGateway.Text
