import TableGateway.Keyed
import TableGateway.Text.Blank

/-!
# Assignment files

Assignment files are read by a library of their own; this is what its documentation says of them, and nothing of the
gateway's. An assignment file holds lines `name=value`. Blank lines and comments, which begin with a `#`, are skipped, a
line may begin with `export`, and values may stand between quotes, where they go on over several lines and know escapes.
A value may refer to variables as `${name}` or `${name:-default}`. A line that cannot be read is passed over.
-/

namespace TableGateway

/-- A name and the value assigned to it; a name may stand alone. -/
structure Assignment where
  name : String
  value : Option String

namespace Assignment

/-! ## Characters -/

/-- Blanks inside a line. -/
def isSpace (c : Char) : Bool := Text.isBlank c && c != '\n'

def skipSpace (cs : List Char) : List Char := cs.dropWhile isSpace

/-- All line ends as line feeds. -/
def unifyLineEnds : List Char → List Char
  | [] => []
  | '\r' :: '\n' :: r => '\n' :: unifyLineEnds r
  | '\r' :: r => '\n' :: unifyLineEnds r
  | c :: r => c :: unifyLineEnds r

/-- What follows the present line. -/
def skipLine (cs : List Char) : List Char := (cs.dropWhile (· != '\n')).drop 1

/-! ## Values -/

/-- A text up to its closing quote, and what follows the quote. A backslash takes the next character into the text,
whatever that is, so a text that is not closed otherwise is not closed at all. -/
def quoted (q : Char) : List Char → Option (List Char × List Char)
  | [] => none
  | [c] => if c = q then some ([], []) else none
  | c :: d :: r =>
    if c = q then some ([], d :: r)
    else if c = '\\' then (quoted q r).map fun (s, rest) => (c :: d :: s, rest)
    else (quoted q (d :: r)).map fun (s, rest) => (c :: s, rest)

/-- A text with its escapes replaced. -/
def unescape (meaning : Char → Option Char) : List Char → List Char
  | [] => []
  | [c] => [c]
  | c :: d :: r =>
    if c = '\\' then
      match meaning d with
      | some e => e :: unescape meaning r
      | none => c :: unescape meaning (d :: r)
    else c :: unescape meaning (d :: r)

/-- The escapes between single quotes. -/
def singleEscape : Char → Option Char
  | '\\' => some '\\'
  | '\'' => some '\''
  | _ => none

/-- The escapes between double quotes. -/
def doubleEscape : Char → Option Char
  | '\\' => some '\\'
  | '\'' => some '\''
  | '"' => some '"'
  | 'a' => some '\x07'
  | 'b' => some '\x08'
  | 'f' => some '\x0c'
  | 'n' => some '\n'
  | 'r' => some '\r'
  | 't' => some '\t'
  | 'v' => some '\x0b'
  | _ => none

/-- The characters before a `#` that follows a blank. -/
def beforeComment : Bool → List Char → List Char
  | _, [] => []
  | afterBlank, c :: r => if afterBlank && c == '#' then [] else c :: beforeComment (Text.isBlank c) r

/-- A value without quotes: the line up to a comment, without the blanks at its end. What comes before the line may
be a blank. -/
def bare (afterBlank : Bool) (line : List Char) : List Char :=
  ((beforeComment afterBlank line).reverse.dropWhile Text.isBlank).reverse

/-- The value at the start of the characters, and what follows it. -/
def valueAt (afterBlank : Bool) : List Char → Option (List Char × List Char)
  | '\'' :: r => (quoted '\'' r).map fun (s, rest) => (unescape singleEscape s, rest)
  | '"' :: r => (quoted '"' r).map fun (s, rest) => (unescape doubleEscape s, rest)
  | cs => some (bare afterBlank (cs.takeWhile (· != '\n')), cs.dropWhile (· != '\n'))

/-! ## Lines -/

/-- What follows a leading `export`. -/
def skipExport (cs : List Char) : List Char :=
  if "export".toList.isPrefixOf cs && (cs.drop 6).head?.any isSpace then skipSpace (cs.drop 6) else cs

/-- The name at the start of the characters, and what follows it. -/
def nameAt : List Char → Option (List Char × List Char)
  | '\'' :: r =>
    let n := r.takeWhile (· != '\'')
    let rest := r.dropWhile (· != '\'')
    if n.isEmpty || rest.isEmpty then none else some (n, rest.drop 1)
  | cs =>
    let stands (c : Char) : Bool := c != '=' && c != '#' && !Text.isBlank c
    if (cs.takeWhile stands).isEmpty then none else some (cs.takeWhile stands, cs.dropWhile stands)

/-- What follows the end of a line, where only a comment may stand before it. -/
def lineEnd? (cs : List Char) : Option (List Char) :=
  let r := skipSpace cs
  match if r.head? = some '#' then r.dropWhile (· != '\n') else r with
  | [] => some []
  | '\n' :: t => some t
  | _ => none

/-- Reads what follows a name. -/
def afterName (name : List Char) (cs : List Char) : Option Assignment × List Char :=
  let close (v : Option (List Char)) (rest : List Char) : Option Assignment × List Char :=
    match lineEnd? rest with
    | some t => (some ⟨String.ofList name, v.map String.ofList⟩, t)
    | none => (none, skipLine rest)
  match skipSpace cs with
  | '=' :: r =>
    let value := skipSpace r
    match valueAt (value.length < r.length) value with
    | some (v, rest) => close (some v) rest
    | none => (none, skipLine value)
  | r => close none r

/-- Reads one line, or several where a quoted value goes on over them. -/
def step (cs : List Char) : Option Assignment × List Char :=
  let r := skipExport (cs.dropWhile Text.isBlank)
  match nameAt r with
  | some (name, rest) => afterName name rest
  | none => (none, skipLine r)

/-- All assignments in order. -/
def readAll (cs : List Char) : List Assignment :=
  let (a, rest) := step cs
  if rest.length < cs.length then a.toList ++ readAll rest else a.toList
termination_by cs.length

/-! ## References -/

/-- A reference whose opening has been read: the variable, the default, and what follows. -/
def reference (cs : List Char) : Option (List Char × Option (List Char) × List Char) :=
  let name := cs.takeWhile fun c => c != '\x7d' && c != ':'
  match cs.dropWhile fun c => c != '\x7d' && c != ':' with
  | '\x7d' :: r => some (name, none, r)
  | ':' :: '-' :: r =>
    match r.dropWhile (· != '\x7d') with
    | _ :: rest => some (name, some (r.takeWhile (· != '\x7d')), rest)
    | [] => none
  | _ => none

theorem length_dropWhile_le (p : Char → Bool) (cs : List Char) : (cs.dropWhile p).length ≤ cs.length :=
  (List.dropWhile_sublist p).length_le

theorem length_of_reference {cs : List Char} {e : List Char × Option (List Char) × List Char}
    (h : reference cs = some e) : e.2.2.length < cs.length := by
  unfold reference at h
  have first := length_dropWhile_le (fun c => c != '\x7d' && c != ':') cs
  split at h
  · next r hr =>
    cases h
    rw [hr, List.length_cons] at first
    show r.length < cs.length
    omega
  · next r hr =>
    have second := length_dropWhile_le (· != '\x7d') r
    split at h
    · next c rest hrest =>
      cases h
      rw [hr] at first
      rw [hrest] at second
      simp only [List.length_cons] at first second ⊢
      omega
    · cases h
  · cases h

/-- The text with its references replaced; a variable may be known to be empty. -/
def expand (known : String → Option (Option String)) (cs : List Char) : List Char :=
  match cs with
  | [] => []
  | c :: r =>
    if c = '$' ∧ r.head? = some '\x7b' then
      match h : reference r.tail with
      | some (name, default, rest) =>
        have : rest.length < r.length + 1 := by
          have := length_of_reference h
          simp only [List.length_tail] at this
          omega
        (match known (String.ofList name) with
          | some v => (v.getD "").toList
          | none => default.getD []) ++ expand known rest
      | none => c :: expand known r
    else c :: expand known r
termination_by cs.length

/-- The names that a file assigns, each with its last value, where references are to names assigned before and to
variables of the environment. -/
def ofFile (environment : String → Option String) (file : String) : Keyed (Option String) :=
  (readAll (unifyLineEnds file.toList)).foldl
    (fun t a =>
      let known (n : String) : Option (Option String) := (t.lookup (.text n)).or ((environment n).map some)
      t.put (.text a.name) (a.value.map fun v => String.ofList (expand known v.toList)))
    ⟨[]⟩

end Assignment

end TableGateway
