import Mathlib
import TableGateway.Connection.Config

/-!
# Connection strings read back

A connection string is read by cutting it at every semicolon and each part at its first equality sign. The texts of a
configuration are written into it as they stand, so reading gives them back when none of them has a semicolon, whatever
equality signs they have; a semicolon starts a part of its own, which may name any setting.

- **`read_assignments`**: parts without semicolons, under keys without equality signs, are read as they were written;
- **`Config.ssl_of_string`**: whether the connection is encrypted shows in the last character of the string;
- **`Config.semicolons_connectionString`**: how many semicolons a string has beyond those between its parts;
- **`Config.determined_iff`**: the exact condition under which a string tells the settings.
-/

namespace TableGateway

namespace ConnectionString

/-! ## Reading -/

/-- A part cut at its first equality sign. -/
def cut (part : List Char) : String × String :=
  (String.ofList (part.takeWhile (· != '=')), String.ofList ((part.dropWhile (· != '=')).drop 1))

/-- The settings that a connection string lists. -/
def read (s : String) : List (String × String) := (s.toList.splitOn ';').map cut

/-- A setting as it is written. -/
def assignment (s : String × String) : String := s.1 ++ "=" ++ s.2

theorem cut_assignment {s : String × String} (key : '=' ∉ s.1.toList) : cut (assignment s).toList = s := by
  have passed : ∀ c ∈ s.1.toList, (c != '=') = true := fun c h => by
    simpa using fun e : c = '=' => key (e ▸ h)
  have text : (assignment s).toList = s.1.toList ++ '=' :: s.2.toList := by simp [assignment]
  simp [cut, text, List.takeWhile_append_of_pos passed, List.dropWhile_append_of_pos passed]

theorem read_assignments {settings : List (String × String)} (some : settings ≠ [])
    (keys : ∀ s ∈ settings, '=' ∉ s.1.toList ∧ ';' ∉ s.1.toList) (values : ∀ s ∈ settings, ';' ∉ s.2.toList) :
    read (";".intercalate (settings.map assignment)) = settings := by
  have whole : ∀ l ∈ settings.map fun s => (assignment s).toList, ';' ∉ l := by
    intro l h
    obtain ⟨s, hs, rfl⟩ := List.mem_map.1 h
    simp [assignment, (keys s hs).2, values s hs]
  have parts : (";".intercalate (settings.map assignment)).toList.splitOn ';' =
      settings.map fun s => (assignment s).toList := by
    rw [String.toList_intercalate, List.map_map]
    exact List.splitOn_intercalate ';' whole (by simpa using some)
  rw [read, parts, List.map_map]
  exact (List.map_congr_left fun s hs => cut_assignment (keys s hs).1).trans (List.map_id _)

/-! ## Counting semicolons -/

/-- How many semicolons a text has. -/
def semicolons (s : String) : Nat := s.toList.count ';'

theorem semicolons_eq_zero {s : String} : semicolons s = 0 ↔ ';' ∉ s.toList := List.count_eq_zero

@[simp] theorem semicolons_append (s t : String) : semicolons (s ++ t) = semicolons s + semicolons t := by
  simp [semicolons]

theorem semicolons_toString (n : Nat) : semicolons (toString n) = 0 := by
  rw [semicolons_eq_zero, Nat.toString_eq_repr, Nat.toList_repr]
  exact fun h => absurd (Nat.isDigit_of_mem_toDigits (by decide) (by decide) h) (by decide)

theorem semicolons_assignment {s : String × String} (key : ';' ∉ s.1.toList) :
    semicolons (assignment s) = semicolons s.2 := by
  have sign : semicolons "=" = 0 := by decide
  simp only [assignment, semicolons_append, semicolons_eq_zero.2 key, sign]
  omega

/-- There is a semicolon between parts, and there are those of the values. -/
theorem semicolons_assignments (s : String × String) (ss : List (String × String))
    (keys : ∀ r ∈ s :: ss, ';' ∉ r.1.toList) :
    semicolons (";".intercalate ((s :: ss).map assignment)) = ss.length + ((s :: ss).map (semicolons ·.2)).sum := by
  induction ss generalizing s with
  | nil => simp [String.intercalate_singleton, semicolons_assignment (keys s (by simp))]
  | cons r rs ih =>
    have one : semicolons ";" = 1 := by decide
    have rest := ih r fun q hq => keys q (List.mem_cons_of_mem s hq)
    rw [List.map_cons] at rest
    rw [List.map_cons, List.map_cons, String.intercalate_cons_cons, semicolons_append, semicolons_append, one, rest,
      semicolons_assignment (keys s (by simp))]
    simp only [List.map_cons, List.sum_cons, List.length_cons]
    omega

theorem length_splitOn (x : Char) (cs : List Char) : (cs.splitOn x).length = cs.count x + 1 := by
  induction cs with
  | nil => simp
  | cons c r ih => by_cases e : c = x <;> simp [List.splitOn_cons_eq_if_modifyHead, e, ih]

theorem length_read (s : String) : (read s).length = semicolons s + 1 := by
  rw [read, List.length_map, length_splitOn, semicolons]

/-- Settings are read as they were written exactly when their values have no semicolons. -/
theorem read_assignments_iff (s : String × String) (ss : List (String × String))
    (keys : ∀ r ∈ s :: ss, '=' ∉ r.1.toList ∧ ';' ∉ r.1.toList) :
    read (";".intercalate ((s :: ss).map assignment)) = s :: ss ↔ ((s :: ss).map (semicolons ·.2)).sum = 0 := by
  constructor
  · intro h
    have parts := congrArg List.length h
    rw [length_read, semicolons_assignments s ss fun r hr => (keys r hr).2, List.length_cons] at parts
    omega
  · intro h
    refine read_assignments (List.cons_ne_nil s ss) keys fun r hr => semicolons_eq_zero.1 ?_
    exact List.sum_eq_zero_iff_forall_eq_nat.1 h _ (List.mem_map_of_mem hr)

/-! ## The last part -/

theorem exists_intercalate_concat (p : String) : ∀ ps, ∃ lead, ";".intercalate (ps ++ [p]) = lead ++ p
  | [] => ⟨"", by simp [String.intercalate_singleton]⟩
  | [q] => ⟨q ++ ";", by simp [String.intercalate_cons_cons, String.intercalate_singleton]⟩
  | q :: r :: rs => by
    obtain ⟨lead, e⟩ := exists_intercalate_concat p (r :: rs)
    refine ⟨q ++ ";" ++ lead, ?_⟩
    rw [List.cons_append, List.cons_append, String.intercalate_cons_cons, ← List.cons_append, e]
    simp only [String.append_assoc]

end ConnectionString

open ConnectionString

/-! ## The free texts of a configuration -/

/-- The settings of a connection that are free texts. A user and a password may be missing. -/
structure FreeTexts where
  database : String
  host : String
  user : Option String := none
  password : Option String := none

namespace FreeTexts

/-- The texts as they are written, those that are missing as empty ones. -/
def written (t : FreeTexts) : List String := [t.database, t.host, t.user.getD "", t.password.getD ""]

/-- What a connection string with these texts has to list. -/
def listed (t : FreeTexts) (port : Port) (ssl : Bool) : List (String × String) :=
  ("DRIVER", "\x7bDB2\x7d") ::
    ([("DATABASE", t.database), ("HOSTNAME", t.host), ("UID", t.user.getD ""), ("PWD", t.password.getD ""),
      ("PORT", toString port.number), ("PROTOCOL", "TCPIP")] ++ if ssl then [("SECURITY", "SSL")] else [])

variable (t : FreeTexts) (port : Port) (ssl : Bool)

theorem keys_listed : ∀ s ∈ t.listed port ssl, '=' ∉ s.1.toList ∧ ';' ∉ s.1.toList := by
  cases ssl <;> simp [listed]

theorem semicolons_listed : ((t.listed port ssl).map (semicolons ·.2)).sum = (t.written.map semicolons).sum := by
  have fixed : semicolons "\x7bDB2\x7d" = 0 ∧ semicolons "TCPIP" = 0 ∧ semicolons "SSL" = 0 := by decide
  cases ssl <;> simp [listed, written, fixed, semicolons_toString, -Nat.toString_eq_repr]

variable {t port ssl}

/-- A listing shows the texts, the port, and whether the connection is encrypted. -/
theorem listed_inj {t' : FreeTexts} {port' : Port} {ssl' : Bool} (e : t'.listed port' ssl' = t.listed port ssl) :
    t'.written = t.written ∧ port' = port ∧ ssl' = ssl := by
  obtain ⟨p, _, _⟩ := port
  obtain ⟨p', _, _⟩ := port'
  cases ssl <;> cases ssl' <;> simp_all [listed, written, Nat.repr_inj]

end FreeTexts

namespace Config

/-- Are these the free texts of the configuration? -/
structure Holds (c : Config) (t : FreeTexts) : Prop where
  database : c.database = .text t.database := by rfl
  host : c.host = .text t.host := by rfl
  user : c.user = t.user.elim .null .text := by rfl
  password : c.password = t.password.elim .null .text := by rfl

theorem optionalText_elim (s : Option String) : optionalText (s.elim .null .text) = s.getD "" := by
  cases s with
  | none => rfl
  | some s => by_cases e : s = "" <;> simp [optionalText, Value.orElse, Value.isTruthy, e]

variable {c c' : Config} {t t' : FreeTexts}

theorem connectionString_of_holds (h : c.Holds t) :
    c.connectionString = ";".intercalate ((t.listed c.port c.ssl.isTruthy).map assignment) := by
  have segments : c.segments = t.listed c.port c.ssl.isTruthy := by
    simp [segments, FreeTexts.listed, h.database, h.host, h.user, h.password, optionalText_elim]
  rw [connectionString, segments]
  rfl

theorem read_connectionString_iff (h : c.Holds t) :
    read c.connectionString = t.listed c.port c.ssl.isTruthy ↔ (t.written.map semicolons).sum = 0 := by
  rw [connectionString_of_holds h, ← t.semicolons_listed c.port c.ssl.isTruthy]
  exact read_assignments_iff _ _ (t.keys_listed _ _)

theorem getLast?_connectionString (c : Config) :
    c.connectionString.toList.getLast? = some (if c.ssl.isTruthy then 'L' else 'P') := by
  have parts : c.segments.map assignment = (c.segments.map assignment).dropLast ++
      [if c.ssl.isTruthy then "SECURITY=SSL" else "PROTOCOL=TCPIP"] := by
    cases e : c.ssl.isTruthy <;> simp [segments, assignment, e]
  obtain ⟨lead, e⟩ := exists_intercalate_concat (if c.ssl.isTruthy then "SECURITY=SSL" else "PROTOCOL=TCPIP")
    (c.segments.map assignment).dropLast
  rw [← parts] at e
  rw [show c.connectionString = _ from e]
  cases c.ssl.isTruthy <;> simp

/-- Whether the connection is encrypted shows in the last character. -/
theorem ssl_of_string (same : c'.connectionString = c.connectionString) : c'.ssl.isTruthy = c.ssl.isTruthy := by
  have last := c'.getLast?_connectionString
  rw [same, getLast?_connectionString] at last
  cases e : c.ssl.isTruthy <;> cases e' : c'.ssl.isTruthy <;> simp_all

/-- Configurations with the same string have as many semicolons in their texts. -/
theorem semicolons_of_string (h : c.Holds t) (h' : c'.Holds t') (same : c'.connectionString = c.connectionString) :
    (t'.written.map semicolons).sum = (t.written.map semicolons).sum := by
  have counted {c : Config} {t : FreeTexts} (h : c.Holds t) : semicolons c.connectionString =
      (6 + if c.ssl.isTruthy then 1 else 0) + (t.written.map semicolons).sum := by
    rw [connectionString_of_holds h, ← t.semicolons_listed c.port c.ssl.isTruthy, FreeTexts.listed,
      semicolons_assignments _ _ fun s hs => (t.keys_listed _ _ s hs).2]
    cases c.ssl.isTruthy <;> rfl
  have counts := (counted h').symm.trans ((congrArg semicolons same).trans (counted h))
  rw [ssl_of_string same] at counts
  omega

/-- **A connection string tells the settings**: it lists them, and no other configuration has it. This is so exactly for
texts without semicolons. -/
theorem determined_iff (h : c.Holds t) :
    (read c.connectionString = t.listed c.port c.ssl.isTruthy ∧
      ∀ (c' : Config) (t' : FreeTexts), c'.Holds t' → c'.connectionString = c.connectionString →
        t'.written = t.written ∧ c'.port = c.port ∧ c'.ssl.isTruthy = c.ssl.isTruthy) ↔
      ∀ s ∈ t.written, ';' ∉ s.toList := by
  have plain : (t.written.map semicolons).sum = 0 ↔ ∀ s ∈ t.written, ';' ∉ s.toList := by
    rw [List.sum_eq_zero_iff_forall_eq_nat, List.forall_mem_map]
    exact forall₂_congr fun s _ => semicolons_eq_zero
  rw [← plain]
  refine ⟨fun told => (read_connectionString_iff h).1 told.1, fun none => ⟨(read_connectionString_iff h).2 none, ?_⟩⟩
  intro c' t' h' same
  have none' : (t'.written.map semicolons).sum = 0 := (semicolons_of_string h h' same).trans none
  refine FreeTexts.listed_inj ?_
  rw [← (read_connectionString_iff h').2 none', ← (read_connectionString_iff h).2 none, same]

/-- Equality signs do no harm: a password may have them at any place. -/
theorem determined_equals :
    read { database := .text "SAMPLE", password := .text "=a==b" : Config }.connectionString =
        [("DRIVER", "\x7bDB2\x7d"), ("DATABASE", "SAMPLE"), ("HOSTNAME", "localhost"), ("UID", ""), ("PWD", "=a==b"),
          ("PORT", "50000"), ("PROTOCOL", "TCPIP")] ∧
      ∀ (c' : Config) (t' : FreeTexts), c'.Holds t' →
        c'.connectionString = { database := .text "SAMPLE", password := .text "=a==b" : Config }.connectionString →
        t'.written = ["SAMPLE", "localhost", "", "=a==b"] ∧ c'.port = .usual ∧ c'.ssl.isTruthy = false :=
  (determined_iff { : Holds _ ⟨"SAMPLE", "localhost", none, some "=a==b"⟩ }).2 (by decide)

/-- A semicolon starts a part of its own: here a database's name brings a host along, in the string of another
configuration. -/
theorem undetermined_host :
    let c : Config := { database := .text "A;HOSTNAME=B", host := .text "C" }
    let t : FreeTexts := ⟨"A;HOSTNAME=B", "C", none, none⟩
    let c' : Config := { database := .text "A", host := .text "B;HOSTNAME=C" }
    c.Holds t ∧ c'.Holds ⟨"A", "B;HOSTNAME=C", none, none⟩ ∧
      read c.connectionString ≠ t.listed c.port c.ssl.isTruthy ∧ ("HOSTNAME", "B") ∈ read c.connectionString ∧
      c'.connectionString = c.connectionString :=
  ⟨{}, {}, by decide, by decide, rfl⟩

end Config

end TableGateway
