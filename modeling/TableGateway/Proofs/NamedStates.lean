import Mathlib.Data.List.Infix
import TableGateway.Error.Build

/-!
# The states that messages name

A place in a message names a state when it holds the marking word, separators and five letters or digits
(`StatePlace`). The search reads the four characters beyond ASCII that fold to letters as these letters; read as they
stand, they are no letters at all. So a message may seem to name a state where it names none, or another one than it
does.

- **`stateHere_eq_some`**: what the search takes for a place that names a state;
- **`StatePlace.seems`**, **`FirstPlace.unique`**: a place that names a state seems to name it, and there is one first
  place;
- **`toList_upper_state`**: the five characters in upper case;
- **`state_named_iff`**: when a message has the state that it names, and when the state of an error is a code.
-/

namespace TableGateway

/-! ## Places -/

/-- The letter that a character folds to; all but four characters are taken as they stand. -/
def plainLetter (c : Char) : Char := (foldedLetter c).getD c

/-- The characters begin with the marking word in either case, one or more separators, and five letters or digits, when
letters are read by `read`. -/
structure StatePlace (read : Char → Char) (cs word five : List Char) : Prop where
  parts : ∃ seps rest, cs = word ++ (seps ++ (five ++ rest)) ∧ seps ≠ [] ∧ ∀ c ∈ seps, isStateSeparator c = true
  word : word.map (fun c => (read c).toUpper) = "SQLSTATE".toList
  size : five.length = 5
  code : ∀ c ∈ five, (read c).isAlphanum = true

/-- The first place of a message that names a state. -/
def FirstPlace (read : Char → Char) (message : String) (word five : List Char) : Prop :=
  ∃ before rest, message.toList = before ++ rest ∧ StatePlace read rest word five ∧
    ∀ a b, before = a ++ b → b ≠ [] → ∀ w f, ¬StatePlace read (b ++ rest) w f

/-- The state that a message names: the five characters at the first place, in capitals. -/
def Names (message s : String) : Prop :=
  ∃ word five, FirstPlace id message word five ∧ s.toList = five.map Char.toUpper

/-- A state is empty or a code of five digits or capitals. -/
def IsStateText (v : Value) : Prop :=
  ∃ s : String, v = .text s ∧ (s = "" ∨ s.length = 5 ∧ ∀ c ∈ s.toList, c.isDigit = true ∨ c.isUpper = true)

/-- The errors of the engine with this message that no state was given for: those that are reported, and those that are
built from arguments. -/
inductive Stateless (message : String) : Error → Prop
  | reported (cause : Option Cause) : Stateless message (.engine message "" cause)
  | built {inOrder : List Value} {byName : Keyed Value} {e : Error}
    (made : Error.build "DriverError" inOrder byName = .ok e) (worded : e.message = .text message)
    (absent : (byName.getD "state" .null).isTruthy = false) : Stateless message e

/-- The capital of one of the five characters; two of the four beyond ASCII have theirs in ASCII. -/
def stateCapital (c : Char) : Char :=
  match c.toNat with
  | 0x131 => 'I'
  | 0x17f => 'S'
  | _ => c.toUpper

/-! ## Characters -/

section Characters

variable {c letter : Char}

theorem forall_ascii {p : Char → Prop} (all : ∀ n < 128, p (Char.ofNat n)) (ascii : c.toNat < 128) : p c := by
  rw [← Char.ofNat_toNat c]
  exact all c.toNat ascii

/-- Four characters fold to letters. -/
theorem foldedLetter_cases (c : Char) :
    foldedLetter c = none ∨ c = '\u0130' ∨ c = '\u0131' ∨ c = '\u017f' ∨ c = '\u212a' := by
  have eq_of_toNat : ∀ d : Char, c.toNat = d.toNat → c = d := by
    intro d same
    rw [← Char.ofNat_toNat c, same, Char.ofNat_toNat]
  unfold foldedLetter
  split
  · next h => exact .inr (.inl (eq_of_toNat _ h))
  · next h => exact .inr (.inr (.inl (eq_of_toNat _ h)))
  · next h => exact .inr (.inr (.inr (.inl (eq_of_toNat _ h))))
  · next h => exact .inr (.inr (.inr (.inr (eq_of_toNat _ h))))
  · exact .inl rfl

theorem plainLetter_of_none (plain : foldedLetter c = none) : plainLetter c = c := by
  rw [plainLetter, plain]
  rfl

theorem stateCapital_of_none (plain : foldedLetter c = none) : stateCapital c = c.toUpper := by
  unfold stateCapital
  split
  · next h => simp [foldedLetter, h] at plain
  · next h => simp [foldedLetter, h] at plain
  · rfl

/-- What holds of the letters of the word can be tried letter by letter. -/
theorem of_mem_word {p : Char → Bool} (all : "SQLSTATE".toList.all p = true) (among : letter ∈ "SQLSTATE".toList) :
    p letter = true := List.all_eq_true.1 all letter among

theorem marks_of_tried (tried : ("SQLSTATE".toList.all fun l => marks l c == ((plainLetter c).toUpper == l)) = true)
    (among : letter ∈ "SQLSTATE".toList) : marks letter c = true ↔ (plainLetter c).toUpper = letter := by
  have same : marks letter c = ((plainLetter c).toUpper == letter) := beq_iff_eq.1 (of_mem_word tried among)
  rw [same, beq_iff_eq]

theorem marks_iff (among : letter ∈ "SQLSTATE".toList) : marks letter c = true ↔ (plainLetter c).toUpper = letter := by
  rcases foldedLetter_cases c with plain | rfl | rfl | rfl | rfl
  · have other : c.toNat ≠ 0x17f := by
      intro same
      simp [foldedLetter, same] at plain
    simp [plainLetter_of_none plain, marks, other]
  all_goals exact marks_of_tried (by decide) among

theorem isStateChar_eq (c : Char) : isStateChar c = (plainLetter c).isAlphanum := by
  rcases foldedLetter_cases c with plain | rfl | rfl | rfl | rfl
  · simp [isStateChar, plainLetter_of_none plain, plain]
  all_goals decide

/-- Letters and digits by their numbers. -/
theorem isAlphanum_iff : c.isAlphanum = true ↔
    ((65 ≤ c.toNat ∧ c.toNat ≤ 90) ∨ (97 ≤ c.toNat ∧ c.toNat ≤ 122)) ∨ (48 ≤ c.toNat ∧ c.toNat ≤ 57) := by
  change ((decide (65 ≤ c.val ∧ c.val ≤ 90) || (decide (97 ≤ c.val) && decide (c.val ≤ 122))) ||
    (decide (48 ≤ c.val) && decide (c.val ≤ 57))) = true ↔ _
  simp only [Bool.or_eq_true, Bool.and_eq_true, decide_eq_true_eq, UInt32.le_iff_toNat_le]
  rfl

/-- No separator is one of the five. -/
theorem not_isStateChar_of_separator (separator : isStateSeparator c = true) : isStateChar c = false := by
  rcases foldedLetter_cases c with plain | rfl | rfl | rfl | rfl
  · rw [isStateChar_eq, plainLetter_of_none plain, Bool.eq_false_iff, ne_eq, isAlphanum_iff]
    simp only [isStateSeparator, Text.isBlank, Bool.or_eq_true, Bool.and_eq_true, beq_iff_eq, decide_eq_true_eq]
      at separator
    rcases separator with (rfl | rfl) | blank
    · decide
    · decide
    · omega
  all_goals exact absurd separator (by decide)

/-- The letters of the word and the five characters are ASCII when they are read as they stand. -/
theorem plain_of_ascii (ascii : c.toNat < 128) : foldedLetter c = none := by
  refine forall_ascii (p := fun c => foldedLetter c = none) ?_ ascii
  decide

theorem toNat_of_toUpper (among : letter ∈ "SQLSTATE".toList) (same : c.toUpper = letter) : c.toNat < 128 := by
  unfold Char.toUpper at same
  split at same
  · next small =>
    have last : c.val.toNat ≤ 122 := UInt32.le_iff_toNat_le.1 small.2
    change c.val.toNat < 128
    omega
  · have capital := of_mem_word (p := fun l => l.toNat < 128) (by decide) among
    exact same ▸ of_decide_eq_true capital

theorem upperChar_state (code : isStateChar c = true) : Text.upperChar c = [stateCapital c] := by
  rcases foldedLetter_cases c with plain | rfl | rfl | rfl | rfl
  · rw [isStateChar_eq, plainLetter_of_none plain, isAlphanum_iff] at code
    rw [Text.upperChar_ascii (by omega), stateCapital_of_none plain]
  all_goals decide +kernel

/-- The capital is one of those in a code unless it lies beyond ASCII. -/
theorem stateCapital_iff (code : isStateChar c = true) :
    ((stateCapital c).isDigit = true ∨ (stateCapital c).isUpper = true) ↔ c ≠ '\u0130' ∧ c ≠ '\u212a' := by
  rcases foldedLetter_cases c with plain | rfl | rfl | rfl | rfl
  · rw [isStateChar_eq, plainLetter_of_none plain] at code
    rw [stateCapital_of_none plain]
    have ascii : c.toNat < 128 := by
      rw [isAlphanum_iff] at code
      omega
    revert code
    refine forall_ascii (p := fun c => c.isAlphanum = true → ((c.toUpper.isDigit = true ∨ c.toUpper.isUpper = true) ↔
      c ≠ '\u0130' ∧ c ≠ '\u212a')) ?_ ascii
    decide
  all_goals decide

end Characters

/-! ## What the search takes for a place -/

section Search

variable {cs word five r : List Char}

theorem afterWord_eq_some {ws : List Char} (letters : ∀ l ∈ ws, l ∈ "SQLSTATE".toList) :
    afterWord ws cs = some r ↔ ∃ word, cs = word ++ r ∧ word.map (fun c => (plainLetter c).toUpper) = ws := by
  induction ws generalizing cs with
  | nil => simp [afterWord]
  | cons w ws ih =>
    obtain ⟨first, rest⟩ := List.forall_mem_cons.1 letters
    cases cs with
    | nil => simp [afterWord]
    | cons c cs =>
      simp only [afterWord, marks_iff first]
      constructor
      · intro found
        split at found
        · next same =>
          obtain ⟨word, rfl, spelled⟩ := (ih rest).1 found
          exact ⟨c :: word, rfl, by rw [List.map_cons, same, spelled]⟩
        · cases found
      · rintro ⟨word, whole, spelled⟩
        cases word with
        | nil => cases spelled
        | cons d word =>
          obtain ⟨rfl, rfl⟩ := List.cons.inj whole
          obtain ⟨same, spelled⟩ := List.cons.inj spelled
          rw [if_pos same]
          exact (ih rest).2 ⟨word, rfl, spelled⟩

theorem fiveStateChars_eq_some : fiveStateChars cs = some five ↔
    (∃ rest, cs = five ++ rest) ∧ five.length = 5 ∧ ∀ c ∈ five, isStateChar c = true := by
  unfold fiveStateChars
  dsimp only
  constructor
  · intro found
    split at found
    · next code =>
      cases found
      exact ⟨⟨cs.drop 5, (List.take_append_drop 5 cs).symm⟩, code.1, List.all_eq_true.1 code.2⟩
    · cases found
  · rintro ⟨⟨rest, rfl⟩, size, code⟩
    have front : (five ++ rest).take 5 = five := by rw [← size, List.take_left]
    rw [front, if_pos ⟨size, List.all_eq_true.2 code⟩]

/-- After the separators come the five characters, none of which is one. -/
theorem dropWhile_separators {seps rest : List Char} (separators : ∀ c ∈ seps, isStateSeparator c = true)
    (size : five.length = 5) (code : ∀ c ∈ five, isStateChar c = true) :
    (seps ++ (five ++ rest)).dropWhile isStateSeparator = five ++ rest := by
  rw [List.dropWhile_append_of_pos separators]
  cases five with
  | nil => cases size
  | cons c five =>
    refine List.dropWhile_cons_of_neg fun separator => ?_
    have both := code c (.head _)
    rw [not_isStateChar_of_separator separator] at both
    cases both

/-- What the search takes for a place that names a state. -/
theorem stateHere_eq_some : stateHere cs = some five ↔ ∃ word, StatePlace plainLetter cs word five := by
  unfold stateHere
  constructor
  · intro found
    split at found
    · next c r after =>
      obtain ⟨word, rfl, spelled⟩ := (afterWord_eq_some fun _ => id).1 after
      split at found
      · next separator =>
        obtain ⟨⟨rest, whole⟩, size, code⟩ := fiveStateChars_eq_some.1 found
        refine ⟨word, ⟨⟨c :: r.takeWhile isStateSeparator, rest, ?_, by simp, ?_⟩, spelled, size, ?_⟩⟩
        · rw [← whole, List.cons_append, List.takeWhile_append_dropWhile]
        · exact List.forall_mem_cons.2 ⟨separator, List.all_eq_true.1 List.all_takeWhile⟩
        · exact fun d among => by rw [← isStateChar_eq, code d among]
      · cases found
    · cases found
  · rintro ⟨word, ⟨seps, rest, rfl, some, separators⟩, spelled, size, code⟩
    have code' : ∀ c ∈ five, isStateChar c = true := fun c among => by rw [isStateChar_eq, code c among]
    rw [(afterWord_eq_some fun _ => id).2 ⟨word, rfl, spelled⟩]
    cases seps with
    | nil => exact absurd rfl some
    | cons c seps =>
      obtain ⟨separator, separators⟩ := List.forall_mem_cons.1 separators
      dsimp only [List.cons_append]
      rw [if_pos separator, dropWhile_separators separators size code']
      exact fiveStateChars_eq_some.2 ⟨⟨rest, rfl⟩, size, code'⟩

end Search

/-! ## First places -/

section Places

variable {message s : String} {cs word five w f : List Char}

/-- What letters are read as matters only for those of the place. -/
theorem StatePlace.reread {read other : Char → Char} (place : StatePlace read cs word five)
    (alike : ∀ c ∈ word ++ five, other c = read c) : StatePlace other cs word five := by
  obtain ⟨parts, spelled, size, code⟩ := place
  refine ⟨parts, ?_, size, fun c among => ?_⟩
  · rw [← spelled]
    exact List.map_congr_left fun c among => by rw [alike c (List.mem_append_left _ among)]
  · rw [alike c (List.mem_append_right _ among)]
    exact code c among

/-- A place without the four characters names a state when it seems to. -/
theorem StatePlace.plain (place : StatePlace plainLetter cs word five)
    (plain : ∀ c ∈ word ++ five, foldedLetter c = none) : StatePlace id cs word five :=
  place.reread fun c among => (plainLetter_of_none (plain c among)).symm

/-- The characters of a place that names a state are none of the four. -/
theorem StatePlace.foldedLetter_eq_none (place : StatePlace id cs word five) :
    ∀ c ∈ word ++ five, foldedLetter c = none := by
  intro c among
  refine plain_of_ascii ?_
  rcases List.mem_append.1 among with marking | code
  · refine toNat_of_toUpper ?_ rfl
    rw [← place.word]
    exact List.mem_map_of_mem marking
  · have letter := isAlphanum_iff.1 (place.code c code)
    rw [id] at letter
    omega

/-- A place that names a state seems to name it. -/
theorem StatePlace.seems (place : StatePlace id cs word five) : StatePlace plainLetter cs word five :=
  place.reread fun c among => plainLetter_of_none (place.foldedLetter_eq_none c among)

theorem StatePlace.five_unique (place : StatePlace id cs word five) (other : StatePlace id cs w f) : five = f := by
  have found := stateHere_eq_some.2 ⟨word, place.seems⟩
  rw [stateHere_eq_some.2 ⟨w, other.seems⟩] at found
  exact (Option.some.inj found).symm

/-- There is one first place. -/
theorem FirstPlace.unique (first : FirstPlace id message word five) (other : FirstPlace id message w f) :
    five = f := by
  obtain ⟨before, rest, whole, place, none⟩ := first
  obtain ⟨before', rest', whole', place', none'⟩ := other
  rw [whole] at whole'
  -- Were one of the places later than the other, the other would be an earlier place that names a state.
  rcases List.append_eq_append_iff.1 whole' with ⟨between, rfl, rfl⟩ | ⟨between, rfl, rfl⟩
  · cases between with
    | nil => exact place.five_unique place'
    | cons c between => exact absurd place (none' before _ rfl (by simp) word five)
  · cases between with
    | nil => exact place.five_unique place'
    | cons c between => exact absurd place' (none before' _ rfl (by simp) w f)

theorem Names.unique {t : String} (names : Names message s) (other : Names message t) : s = t := by
  obtain ⟨word, five, first, capitals⟩ := names
  obtain ⟨w, f, first', capitals'⟩ := other
  rw [first.unique first', ← capitals'] at capitals
  exact String.toList_injective capitals

/-- The search finds the first place that seems to name a state. -/
theorem stateOf_eq_some_iff : stateOf message = some s ↔
    ∃ word five, FirstPlace plainLetter message word five ∧ s = Text.upper (String.ofList five) := by
  have none_iff : ∀ cs, stateHere cs = none ↔ ∀ w f, ¬StatePlace plainLetter cs w f := by
    intro cs
    rw [Option.eq_none_iff_forall_ne_some]
    exact ⟨fun none w f place => none f (stateHere_eq_some.2 ⟨w, place⟩),
      fun none f found => (stateHere_eq_some.1 found).elim fun w place => none w f place⟩
  rw [stateOf_eq_some]
  constructor
  · rintro ⟨before, rest, five, whole, found, first, rfl⟩
    obtain ⟨word, place⟩ := stateHere_eq_some.1 found
    exact ⟨word, five, ⟨before, rest, whole, place, fun a b cut some => (none_iff _).1 (first a b cut some)⟩, rfl⟩
  · rintro ⟨word, five, ⟨before, rest, whole, place, first⟩, rfl⟩
    exact ⟨before, rest, five, whole, stateHere_eq_some.2 ⟨word, place⟩,
      fun a b cut some => (none_iff _).2 (first a b cut some), rfl⟩

/-- A message that seems to name a state somewhere has one. -/
theorem exists_stateIn (found : stateHere cs = some five) (before : List Char) :
    ∃ f, stateIn (before ++ cs) = some f := by
  induction before with
  | nil =>
    cases cs with
    | nil => simp [stateHere, afterWord] at found
    | cons c cs => exact ⟨five, by rw [List.nil_append, stateIn, found]⟩
  | cons c before ih =>
    rw [List.cons_append, stateIn]
    cases stateHere (c :: (before ++ cs)) with
    | none => exact ih
    | some f => exact ⟨f, rfl⟩

theorem exists_stateOf (names : Names message s) : ∃ t, stateOf message = some t := by
  obtain ⟨word, five, ⟨before, rest, whole, place, -⟩, -⟩ := names
  obtain ⟨f, found⟩ := exists_stateIn (stateHere_eq_some.2 ⟨word, place.seems⟩) before
  exact ⟨_, by rw [stateOf, whole, found]; rfl⟩

/-! ## The five characters in capitals -/

theorem toList_upper_state (code : ∀ c ∈ five, isStateChar c = true) :
    (Text.upper (String.ofList five)).toList = five.map stateCapital := by
  rw [Text.toList_upper, String.toList_ofList]
  induction five with
  | nil => rfl
  | cons c five ih =>
    obtain ⟨first, rest⟩ := List.forall_mem_cons.1 code
    rw [List.flatMap_cons, upperChar_state first, ih rest]
    rfl

theorem StatePlace.isStateChar (place : StatePlace plainLetter cs word five) : ∀ c ∈ five, isStateChar c = true :=
  fun c among => by rw [isStateChar_eq, place.code c among]

/-- A first place without the four characters names the state that the message has. -/
theorem names_of_plain (first : FirstPlace plainLetter message word five)
    (plain : ∀ c ∈ word ++ five, foldedLetter c = none) : Names message (Text.upper (String.ofList five)) := by
  obtain ⟨before, rest, whole, place, none⟩ := first
  refine ⟨word, five, ⟨before, rest, whole, place.plain plain,
    fun a b cut some w f earlier => none a b cut some w f earlier.seems⟩, ?_⟩
  rw [toList_upper_state place.isStateChar]
  exact List.map_congr_left fun c among => stateCapital_of_none (plain c (List.mem_append_right _ among))

/-- A message has the state that it names exactly when the first place that seems to name one is written in ASCII, or
names the same as the first place that is. -/
theorem stateOf_iff_names : (∀ s, stateOf message = some s ↔ Names message s) ↔
    ∀ word five, FirstPlace plainLetter message word five →
      (∀ c ∈ word ++ five, foldedLetter c = none) ∨ Names message (Text.upper (String.ofList five)) := by
  constructor
  · exact fun exact word five first => .inr ((exact _).1 (stateOf_eq_some_iff.2 ⟨word, five, first, rfl⟩))
  · intro sound
    have names : ∀ s, stateOf message = some s → Names message s := by
      intro s found
      obtain ⟨word, five, first, rfl⟩ := stateOf_eq_some_iff.1 found
      rcases sound word five first with plain | names
      · exact names_of_plain first plain
      · exact names
    refine fun s => ⟨names s, fun named => ?_⟩
    obtain ⟨t, found⟩ := exists_stateOf named
    rwa [named.unique (names t found)]

end Places

/-! ## The states of errors -/

section Errors

variable {message : String} {e : Error}

/-- The state of an engine's error is given by its name only. -/
theorem getD_state {inOrder : List Value} {byName t : Keyed Value}
    (bound : Signature.bind ⟨["message"], "state" :: Error.reportNames, ["message"]⟩ inOrder byName = .ok t) :
    t.getD "state" .null = byName.getD "state" .null := by
  unfold Signature.bind at bound
  dsimp only at bound
  split at bound
  · next accepted =>
    cases bound
    match inOrder, accepted.1 with
    | [], _ => rfl
    | [v], _ => simp [Keyed.getD, Keyed.lookup, Keyed.lookupIn]
  · cases bound

/-- An error that no state was given for has the state of its message. -/
theorem Stateless.state_eq (stateless : Stateless message e) : e.state = .text ((stateOf message).getD "") := by
  cases stateless with
  | reported cause => rfl
  | @built inOrder byName _ made worded absent =>
    obtain ⟨category, -, made⟩ := bind_eq_ok made
    obtain ⟨context, -, made⟩ := bind_eq_ok made
    obtain ⟨t, bound, made⟩ := bind_eq_ok made
    obtain ⟨kind, read, made⟩ := bind_eq_ok made
    obtain ⟨state, given, rfl⟩ := map_eq_ok read
    cases made
    change t.getD "message" .null = .text message at worded
    change Error.readState (t.getD "message" .null) (t.getD "state" .null) = .ok state at given
    rw [worded, getD_state bound, Error.readState, if_neg (by rw [absent]; decide)] at given
    exact (Except.ok.inj given).symm

/-- The state of a message is a code when none of its characters lacks a capital in ASCII. -/
theorem isStateText_iff : IsStateText (.text ((stateOf message).getD "")) ↔
    ∀ word five, FirstPlace plainLetter message word five → ∀ c ∈ five, c ≠ '\u0130' ∧ c ≠ '\u212a' := by
  have capitals : ∀ {word five}, FirstPlace plainLetter message word five →
      stateOf message = some (Text.upper (String.ofList five)) ∧ (∀ c ∈ five, isStateChar c = true) ∧
        five.length = 5 := by
    rintro word five first
    obtain ⟨before, rest, -, place, -⟩ := id first
    exact ⟨stateOf_eq_some_iff.2 ⟨word, five, first, rfl⟩, place.isStateChar, place.size⟩
  constructor
  · rintro ⟨s, same, code⟩ word five first c among
    obtain ⟨found, letters, size⟩ := capitals first
    cases same
    rw [found, Option.getD_some] at code
    rcases code with empty | ⟨-, code⟩
    · have none := congrArg List.length (toList_upper_state letters)
      rw [empty, List.length_map, size] at none
      cases none
    · refine (stateCapital_iff (letters c among)).1 (code _ ?_)
      rw [toList_upper_state letters]
      exact List.mem_map_of_mem among
  · intro ascii
    refine ⟨_, rfl, ?_⟩
    cases found : stateOf message with
    | none => exact .inl rfl
    | some s =>
      obtain ⟨word, five, first, rfl⟩ := stateOf_eq_some_iff.1 found
      obtain ⟨-, letters, size⟩ := capitals first
      refine .inr ⟨?_, fun d among => ?_⟩
      · rw [Option.getD_some, ← String.length_toList, toList_upper_state letters, List.length_map, size]
      · rw [Option.getD_some, toList_upper_state letters] at among
        obtain ⟨c, there, rfl⟩ := List.mem_map.1 among
        exact (stateCapital_iff (letters c there)).2 (ascii word five first c there)

end Errors

theorem FirstPlace.mem {read : Char → Char} {message : String} {word five : List Char}
    (first : FirstPlace read message word five) : ∀ c ∈ word ++ five, c ∈ message.toList := by
  obtain ⟨before, -, whole, ⟨⟨seps, rest, rfl, -⟩, -⟩, -⟩ := first
  intro c among
  rw [whole]
  simp only [List.mem_append] at among ⊢
  rcases among with marking | code
  · exact .inr (.inl marking)
  · exact .inr (.inr (.inr (.inl code)))

/-- **The states that messages name.** The state of a message is read off the first place that seems to name one. It is
the state that the message names, and there is none where it names none, exactly when that place is written in ASCII or
names the same as the first place that is. An error that no state was given for has no state or a code exactly when
the five characters there are neither the capital I with a dot nor the Kelvin sign. -/
theorem state_named_iff (message : String) :
    (∀ s, stateOf message = some s ↔
      ∃ word five, FirstPlace plainLetter message word five ∧ s = Text.upper (String.ofList five)) ∧
    ((∀ s, stateOf message = some s ↔ Names message s) ↔ ∀ word five, FirstPlace plainLetter message word five →
      (∀ c ∈ word ++ five, foldedLetter c = none) ∨ Names message (Text.upper (String.ofList five))) ∧
    ∀ e, Stateless message e → (IsStateText e.state ↔
      ∀ word five, FirstPlace plainLetter message word five → ∀ c ∈ five, c ≠ '\u0130' ∧ c ≠ '\u212a') := by
  refine ⟨fun s => stateOf_eq_some_iff, stateOf_iff_names, fun e stateless => ?_⟩
  rw [stateless.state_eq]
  exact isStateText_iff

/-- A message in ASCII has the state that it names, here after a place with four characters. -/
theorem state_named_undefined :
    let message := "SQL0204N SQLSTATE=4270 is no state, SqlState:= 4270a is"
    Stateless message (.engine message) ∧ stateOf message = some "4270A" ∧
      (∀ s, stateOf message = some s ↔ Names message s) ∧ IsStateText (Error.engine message).state := by
  intro message
  obtain ⟨-, named, code⟩ := state_named_iff message
  have plain : (message.toList.all fun c => foldedLetter c == none) = true := by decide +kernel
  have ascii : ∀ {word five}, FirstPlace plainLetter message word five → ∀ c ∈ word ++ five, foldedLetter c = none :=
    fun first c among => beq_iff_eq.1 (List.all_eq_true.1 plain c (first.mem c among))
  refine ⟨.reported none, by decide +kernel, named.2 fun word five first => .inl (ascii first),
    (code _ (.reported none)).2 fun word five first c among => ?_⟩
  have letter := ascii first c (List.mem_append_right _ among)
  constructor <;> rintro rfl <;> cases letter

/-- A message that ends with the Kelvin sign has a state, but names none; the state of an error with it is no code. -/
theorem state_unnamed_kelvin :
    let message := "SQLSTATE=4270\u212a"
    stateOf message = some "4270\u212a" ∧ (∀ s, ¬Names message s) ∧ ¬IsStateText (Error.engine message).state := by
  intro message
  have found : stateOf message = some "4270\u212a" := by decide +kernel
  refine ⟨found, ?unnamed, ?uncoded⟩
  case unnamed =>
    rintro s ⟨word, five, ⟨before, rest, whole, place, -⟩, -⟩
    have sign : ∀ cs ∈ message.toList.tails, (stateHere cs).all (·.contains '\u212a') = true := by decide +kernel
    have here := sign rest ((List.mem_tails _ _).2 ⟨before, whole.symm⟩)
    rw [stateHere_eq_some.2 ⟨word, place.seems⟩] at here
    have letter := place.foldedLetter_eq_none '\u212a' (List.mem_append_right _ (by simpa using here))
    cases letter
  case uncoded =>
    rintro ⟨s, same, code⟩
    rw [Stateless.state_eq (.reported none), found] at same
    cases same
    rcases code with empty | ⟨-, code⟩
    · exact absurd empty (by decide)
    · exact absurd (code '\u212a' (by decide +kernel)) (by decide)

end TableGateway
