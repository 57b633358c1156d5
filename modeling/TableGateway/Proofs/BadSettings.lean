import TableGateway.Proofs.BareDescriptions
import TableGateway.Proofs.Services

/-!
# Settings that are no good

What is given for a mode is one of three names or none of them; what is given for a port denotes one or none
(`Denotes`). A configuration is made of the two, or the one that is no good is refused under its name, the mode first
(`Decided`). There are two ways to stumble over what is given instead (`Stumbles`): a text passes for a number by its
digits and cannot be read as one, as superscripts and overlong numerals do, or the refusal cannot be put in words,
since it quotes a whole number that is too long to be written.

- **`readPort_cases`**: how a port is read;
- **`ofSettings_cases`**: how a configuration is made of its settings;
- **`register_unbroken`**: nothing else breaks a registration;
- **`answered_iff_decided`**: when a configuration is decided on, and when its registration is answered.
-/

namespace TableGateway

namespace Config

variable {migrate port v : Value} {t : Keyed Value}

/-! ## What settings denote -/

/-- The port that a value denotes: a whole number in the range, or a text of digits that is read as one. -/
inductive Denotes : Value → Port → Prop
  | number (p : Port) : Denotes (.int p.number) p
  | numeral {s : String} {p : Port} (digits : Text.allDigits (Text.strip s) = true)
    (read : Integer.read s = some (p.number : Int)) : Denotes (.text s) p

/-- A text of digits that cannot be read as a number. -/
def Misread (v : Value) : Prop :=
  ∃ s, v = .text s ∧ Text.allDigits (Text.strip s) = true ∧ Integer.read s = none

/-- A configuration is made of a mode and a port, or the setting that is none of them is refused by its name. -/
inductive Decided (migrate port : Value) : Except Failure Config → Prop
  | made {c : Config} (mode : MigrateMode.ofValue? migrate = some c.migrate) (denotes : Denotes port c.port) :
    Decided migrate port (.ok c)
  | badMode (wrong : MigrateMode.ofValue? migrate = none) :
    Decided migrate port (.error (.refused (.of (.invalidConfig (.text "migrate") migrate))))
  | badPort (mode : (MigrateMode.ofValue? migrate).isSome = true) (wrong : ∀ p, ¬Denotes port p) :
    Decided migrate port (.error (.refused (.of (.invalidConfig (.text "port") port))))

/-- The settings cannot be decided on: one of them is no good and cannot be quoted, or the port is a text of digits that
cannot be read. -/
inductive Stumbles (migrate port : Value) : Prop
  | mode (wrong : MigrateMode.ofValue? migrate = none) (unwritable : migrate.isWritable = false)
  | misread (mode : (MigrateMode.ofValue? migrate).isSome = true) (misread : Misread port)
  | port (mode : (MigrateMode.ofValue? migrate).isSome = true) (wrong : ∀ p, ¬Denotes port p)
    (unwritable : port.isWritable = false)

/-! ## Reading settings -/

theorem denotes_iff {p : Port} : Denotes v p ↔ portNumber v = .ok (.int p.number) := by
  constructor
  · intro denotes
    cases denotes with
    | number => rfl
    | numeral digits read => rw [portNumber, if_pos digits, read]
  · intro number
    cases v with
    | int n =>
      cases number
      exact .number p
    | text s =>
      rw [portNumber] at number
      split at number
      · next digits =>
        split at number
        · next read =>
          cases number
          exact .numeral digits read
        · cases number
      · cases number
    | _ => cases number

theorem Misread.number (misread : Misread v) : portNumber v = .error .badValue := by
  obtain ⟨s, rfl, digits, unread⟩ := misread
  rw [portNumber, if_pos digits, unread]

theorem misread_of_error {f : Fault} (broken : portNumber v = .error f) : Misread v ∧ f = .badValue := by
  cases v with
  | text s =>
    rw [portNumber] at broken
    split at broken
    · next digits =>
      split at broken
      · cases broken
      · next unread =>
        cases broken
        exact ⟨⟨s, rfl, digits, unread⟩, rfl⟩
    · cases broken
  | _ => cases broken

theorem Denotes.not_misread {p : Port} (denotes : Denotes v p) : ¬Misread v := by
  intro misread
  cases (denotes_iff.1 denotes).symm.trans misread.number

theorem readPort_of_number {n : Int} (number : portNumber v = .ok (.int n)) :
    readPort v = match portOf? n with
      | some p => .ok p
      | none => .error (refusal "port" v) := by
  rw [readPort, number]
  rfl

/-- A port is what is denoted, a text of digits breaks the reading when it cannot be read, and all else is refused. -/
theorem readPort_cases (v : Value) : (∃ p, Denotes v p ∧ readPort v = .ok p) ∨
    (Misread v ∧ readPort v = .error (.broken .badValue)) ∨
    (∀ p, ¬Denotes v p) ∧ ¬Misread v ∧ readPort v = .error (refusal "port" v) := by
  simp only [denotes_iff]
  cases number : portNumber v with
  | error f =>
    obtain ⟨misread, rfl⟩ := misread_of_error number
    exact .inr (.inl ⟨misread, by rw [readPort, number]; rfl⟩)
  | ok n =>
    have sound : ¬Misread v := by
      intro misread
      cases number.symm.trans misread.number
    cases n with
    | int n =>
      have read := readPort_of_number number
      cases found : portOf? n with
      | some p =>
        cases portOf?_eq_some.1 found
        exact .inl ⟨p, rfl, by rw [read, found]⟩
      | none =>
        refine .inr (.inr ⟨fun p same => ?_, sound, by rw [read, found]⟩)
        cases found.symm.trans (portOf?_eq_some.2 (Value.int.inj (Except.ok.inj same)))
    | _ => exact .inr (.inr ⟨nofun, sound, by rw [readPort, number]; rfl⟩)

theorem refusal_cases (key : String) (v : Value) :
    (v.isWritable = true ∧ refusal key v = .refused (.of (.invalidConfig (.text key) v))) ∨
      (v.isWritable = false ∧ refusal key v = .broken .badValue) := by
  unfold refusal
  cases v.isWritable with
  | true => exact .inl ⟨rfl, rfl⟩
  | false => exact .inr ⟨rfl, rfl⟩

/-! ## Making configurations -/

/-- What is given for the mode. -/
def givenMode (t : Keyed Value) : Value := t.getD "migrate" (.text MigrateMode.safe.name)

/-- What is given for the port. -/
def givenPort (t : Keyed Value) : Value := t.getD "port" (.int 50000)

section Settings

variable {m : MigrateMode}

theorem exists_ofSettings {p : Port} (mode : readMigrate (givenMode t) = .ok m)
    (port : readPort (givenPort t) = .ok p) : ∃ c, ofSettings t = .ok c ∧ c.migrate = m ∧ c.port = p := by
  unfold givenMode at mode
  unfold givenPort at port
  unfold ofSettings
  rw [mode]
  dsimp only [bind, Except.bind]
  rw [port]
  exact ⟨_, rfl, rfl, rfl⟩

theorem ofSettings_port {f : Failure} (mode : readMigrate (givenMode t) = .ok m)
    (port : readPort (givenPort t) = .error f) : ofSettings t = .error f := by
  unfold givenMode at mode
  unfold givenPort at port
  unfold ofSettings
  rw [mode]
  dsimp only [bind, Except.bind]
  rw [port]

/-- A configuration is decided on, or its settings are stumbled over. -/
theorem ofSettings_cases (t : Keyed Value) :
    (Decided (givenMode t) (givenPort t) (ofSettings t) ∧ ¬Stumbles (givenMode t) (givenPort t)) ∨
      (Stumbles (givenMode t) (givenPort t) ∧ ofSettings t = .error (.broken .badValue)) := by
  cases mode : MigrateMode.ofValue? (givenMode t) with
  | none =>
    have read : readMigrate (givenMode t) = .error (refusal "migrate" (givenMode t)) := by rw [readMigrate, mode]
    rw [ofSettings_migrate_first read]
    rcases refusal_cases "migrate" (givenMode t) with ⟨writable, refused⟩ | ⟨unwritable, broken⟩
    · rw [refused]
      refine .inl ⟨.badMode mode, fun stumbles => ?_⟩
      cases stumbles <;> simp_all
    · exact .inr ⟨.mode mode unwritable, by rw [broken]⟩
  | some m =>
    have read : readMigrate (givenMode t) = .ok m := by rw [readMigrate, mode]
    have right : (MigrateMode.ofValue? (givenMode t)).isSome = true := by rw [mode]; rfl
    rcases readPort_cases (givenPort t) with ⟨p, denotes, port⟩ | ⟨misread, port⟩ | ⟨wrong, sound, port⟩
    · obtain ⟨c, made, rfl, rfl⟩ := exists_ofSettings read port
      rw [made]
      refine .inl ⟨.made mode denotes, fun stumbles => ?_⟩
      cases stumbles with
      | mode wrong => simp [mode] at wrong
      | misread _ misread => exact denotes.not_misread misread
      | port _ wrong => exact wrong _ denotes
    · exact .inr ⟨.misread right misread, ofSettings_port read port⟩
    · rw [ofSettings_port read port]
      rcases refusal_cases "port" (givenPort t) with ⟨writable, refused⟩ | ⟨unwritable, broken⟩
      · rw [refused]
        refine .inl ⟨.badPort right wrong, fun stumbles => ?_⟩
        cases stumbles <;> simp_all
      · exact .inr ⟨.port right wrong unwritable, by rw [broken]⟩

end Settings

/-- Settings under their names are made a configuration as they stand. -/
theorem ofParts_eq (names : ∀ k ∈ t.keys, isSettingName k = true) : ofParts t = ofSettings t := by
  rw [ofParts, Signature.bind_named rfl names]
  rfl

theorem getD_settings {name : String} {d : Value} (setting : isSettingName (.text name) = true) :
    (⟨t.entries.filter fun e => isSettingName e.1⟩ : Keyed Value).getD name d = t.getD name d := by
  unfold Keyed.getD
  rw [Keyed.lookup_filter fun a same => Value.same_text.1 same ▸ setting]

/-- A mapping with an identity is a configuration of its settings, when what is passed over can be put in order. -/
theorem ofMapping_cases {ignored : List Value} (given : (t.getD "identity" .null).isTruthy = true)
    (sorted : Value.sort (t.keys.filter fun k => !isSettingName k) = .ok ignored) :
    (Decided (givenMode t) (givenPort t) (ofMapping t).2 ∧ ¬Stumbles (givenMode t) (givenPort t)) ∨
      (Stumbles (givenMode t) (givenPort t) ∧ (ofMapping t).2 = .error (.broken .badValue)) := by
  have made := ofSettings_cases ⟨t.entries.filter fun e => isSettingName e.1⟩
  have settings : (ofMapping t).2 = ofSettings ⟨t.entries.filter fun e => isSettingName e.1⟩ := by
    unfold ofMapping
    dsimp only
    rw [if_pos given, sorted]
  have mode : givenMode ⟨t.entries.filter fun e => isSettingName e.1⟩ = givenMode t := getD_settings rfl
  have port : givenPort ⟨t.entries.filter fun e => isSettingName e.1⟩ = givenPort t := getD_settings rfl
  rwa [mode, port, ← settings] at made

theorem identity_of_ofSettings {c : Config} (made : ofSettings t = .ok c) :
    c.identity = t.getD "identity" (.text "") := by
  obtain ⟨mode, -, made⟩ := bind_eq_ok made
  obtain ⟨port, -, made⟩ := bind_eq_ok made
  cases made
  rfl

theorem ofSettings_of_ofMapping {c : Config} (made : (ofMapping t).2 = .ok c) :
    ofSettings ⟨t.entries.filter fun e => isSettingName e.1⟩ = .ok c := by
  unfold ofMapping at made
  dsimp only at made
  split at made
  · split at made
    · cases made
    · exact made
  · cases made

theorem identity_of_ofMapping {c : Config} (made : (ofMapping t).2 = .ok c) :
    c.identity = t.getD "identity" (.text "") := by
  rw [identity_of_ofSettings (ofSettings_of_ofMapping made), getD_settings rfl]

end Config

namespace Registry

variable {σ κ π : Type} {given : ConfigGiven} {schemas : Description} {w : World σ κ π} {c : Config}

/-! ## Registrations that only their configuration can break -/

/-- The schemas can be read or are refused, and the names of those that are read have an order; the driver makes a pool
or reports why not; and the journal takes the notes on the registration. -/
structure Smooth (given : ConfigGiven) (schemas : Description) (w : World σ κ π) : Prop where
  coerced : ∀ f, coerceSchemas schemas ≠ .error (.broken f)
  names : ∀ ss, coerceSchemas schemas = .ok ss → ∃ names, Value.sort ss.keys = .ok names
  pool : ∀ cs f, (w.registry.driver.createPool cs w.engine).1 ≠ .error (.broken f)
  journal : w.Takes (RegistrationNotes given schemas)

theorem checkFree_unbroken {identity : Value} (key : identity.isKey = true) (f : Fault) :
    ((checkFree identity).run w).1 ≠ .error (.broken f) := by
  intro broken
  unfold checkFree at broken
  split at broken
  · rw [Run.run_bind_ok (Run.run_registry w), find, Keyed.find, if_pos key] at broken
    cases found : w.registry.entries.lookup identity with
    | none =>
      rw [found] at broken
      cases broken
    | some e =>
      rw [found] at broken
      cases broken
  · cases broken

theorem poolOf_unbroken (pool : ∀ cs f, (w.registry.driver.createPool cs w.engine).1 ≠ .error (.broken f)) (f : Fault) :
    ((poolOf c).run w).1 ≠ .error (.broken f) := by
  unfold poolOf
  split
  · exact Run.fst_bind_ne (pool c.connectionString f) fun _ _ _ => nofun
  · nofun

/-- Making a pool does nothing to the journal. -/
theorem journal_poolOf (c : Config) (w : World σ κ π) :
    ((poolOf c).run w).2.writes = w.writes ∧ ((poolOf c).run w).2.bound = w.bound := by
  unfold poolOf
  split
  · rw [Run.snd_bind_pure]
    exact ⟨rfl, rfl⟩
  · exact ⟨rfl, rfl⟩

/-! ### The notes on a registration -/

/-- A record can hold a setting when it can hold what is given and what is usual. -/
theorem holds_getD {t : Keyed Value} (values : ∀ v ∈ t.values, LogSetup.Holds v) {name : String} {usual : Value}
    (held : LogSetup.Holds usual) : LogSetup.Holds (t.getD name usual) := by
  rw [Keyed.getD]
  cases found : t.lookup (.text name) with
  | none => exact held
  | some v => exact values v (Keyed.mem_values_of_lookup found)

theorem holdsAll_safeSettings {t : Keyed Value} (made : Config.ofSettings t = .ok c)
    (values : ∀ v ∈ t.values, LogSetup.Holds v) : LogSetup.HoldsAll c.safeSettings := by
  obtain ⟨mode, -, made⟩ := bind_eq_ok made
  obtain ⟨port, -, made⟩ := bind_eq_ok made
  cases made
  intro e setting
  simp only [Config.safeSettings, List.mem_cons, List.not_mem_nil, or_false] at setting
  rcases setting with rfl | rfl | rfl | rfl | rfl | rfl | rfl | rfl
  · exact holds_getD values (LogSetup.holds_text _)
  · exact holds_getD values (LogSetup.holds_text _)
  · exact LogSetup.holds_int _
  · exact holds_getD values (LogSetup.holds_text _)
  · exact holds_getD values LogSetup.holds_null
  · exact holds_getD values (LogSetup.holds_bool _)
  · exact holds_getD values (LogSetup.holds_bool _)
  · exact LogSetup.holds_text _

/-- A record can hold the notes on a registration when it can hold the settings with their keys, and the names of the
schemas. -/
theorem plain_of_notes {t : Keyed Value} (values : ∀ v ∈ t.values, LogSetup.Holds v)
    (keys : ∀ k ∈ t.keys, LogSetup.Holds k) (named : ∀ ss names, coerceSchemas schemas = .ok ss →
      Value.sort ss.keys = .ok names → ∀ n ∈ names, LogSetup.Holds n) {n : Note}
    (among : RegistrationNotes (.value (.ofKeyed t)) schemas n) : n.Plain := by
  have settings : ∀ v ∈ (Keyed.mk (t.entries.filter fun e => Config.isSettingName e.1)).values, LogSetup.Holds v := by
    intro v given
    obtain ⟨e, there, rfl⟩ := List.mem_map.1 given
    exact values _ (List.mem_map_of_mem (List.mem_filter.1 there).1)
  cases among with
  | passedOver value tells =>
    cases value
    have noted : n ∈ (Config.ofMapping t).1 := tells
    unfold Config.ofMapping at noted
    dsimp only at noted
    split at noted
    · split at noted
      · cases noted
      · next ignored sorted =>
        have held : ∀ k ∈ ignored, LogSetup.Holds k := fun k passed =>
          keys k (List.mem_filter.1 ((Value.perm_sort sorted).mem_iff.1 passed)).1
        split at noted
        · cases noted
        · rw [List.mem_singleton.1 noted]
          exact .cons (by decide) (holds_getD values LogSetup.holds_null) (.one (by decide) (LogSetup.holds_list held))
    · cases noted
  | registered read coerced sorted =>
    have settings := holdsAll_safeSettings (Config.ofSettings_of_ofMapping read) settings
    exact plain_registeredNote settings (named _ _ coerced sorted)

/-- A configuration that can be read does not break the registration, as long as its identity may be a key. -/
theorem register_unbroken (smooth : Smooth given schemas w) (read : given.read = .ok c) (key : c.identity.isKey = true)
    (f : Fault) : ((register given schemas).run w).1 ≠ .error (.broken f) := by
  obtain ⟨w₁, configured, same, bound⟩ := run_configOf_ok smooth.journal read
  -- Each part may end the registration with a refusal; what would break it is ruled out part by part.
  unfold register
  rw [Run.run_bind_ok configured]
  refine Run.fst_bind_ne (checkFree_unbroken key f) fun _ w₂ free => ?_
  obtain ⟨rfl, -⟩ := run_checkFree_ok free
  rw [Run.run_bind, Run.run_lift]
  cases coerced : coerceSchemas schemas with
  | error failure =>
    intro broken
    cases broken
    exact smooth.coerced f coerced
  | ok ss =>
    have pool : ∀ cs f, (w₂.registry.driver.createPool cs w₂.engine).1 ≠ .error (.broken f) := by
      rw [same.registry, same.engine]
      exact smooth.pool
    refine Run.fst_bind_ne (poolOf_unbroken pool f) fun pool w₃ made => ?_
    obtain ⟨writes, bound'⟩ := journal_poolOf c w₂
    rw [made] at writes bound'
    have journal : w₃.Takes (RegistrationNotes given schemas) :=
      smooth.journal.congr (writes.trans same.writes) (bound'.trans bound)
    obtain ⟨names, sorted⟩ := smooth.names ss coerced
    rw [Run.run_bind_ok (Run.run_changeRegistry _ w₃), sorted]
    refine Run.fst_bind_ne (x := Run.log _) ?_ fun _ _ _ => nofun
    rw [Run.run_log]
    · nofun
    · exact journal _ (.registered read coerced sorted)

/-- A configuration that cannot be read fails the registration in its own way. -/
theorem register_unreadable {f : Failure} (takes : w.Takes (RegistrationNotes given schemas))
    (unread : given.read = .error f) : ((register given schemas).run w).1 = .error f := by
  obtain ⟨v, configured, -⟩ := run_configOf takes
  rw [unread] at configured
  unfold register
  rw [Run.run_bind_error configured]

/-- A registration is answered unless it breaks. -/
theorem answered_iff : (∃ r, ((Gateway.registerConnection given schemas).run w).1 = .ok r) ↔
    ∀ f, ((register given schemas).run w).1 ≠ .error (.broken f) := by
  unfold Gateway.registerConnection
  rcases run : (register given schemas).run w with ⟨r, v⟩
  rcases r with (e | f) | x
  · rw [Run.run_settle_refused run]
    simp
  · rw [Run.run_settle_broken run]
    simp
  · rw [Run.run_settle_ok run]
    simp

end Registry

namespace Config

open Registry

variable {σ κ π : Type}

/-- **Settings that are no good.** A configuration of settings under their names is decided on: it is made of the mode
and the port that are given, or the one that is none is refused under its name, exactly unless the two are stumbled
over. When nothing but the configuration can break a registration, what is passed over has an order and the identity
may be a key, the registration is answered exactly unless an identity is given and the mode and the port are stumbled
over. -/
theorem answered_iff_decided (t : Keyed Value) :
    ((∀ k ∈ t.keys, isSettingName k = true) →
      (Decided (givenMode t) (givenPort t) (ofParts t) ↔ ¬Stumbles (givenMode t) (givenPort t))) ∧
    ∀ (ignored : List Value) (schemas : Description) (w : World σ κ π),
      Value.sort (t.keys.filter fun k => !isSettingName k) = .ok ignored →
      (t.getD "identity" (.text "")).isKey = true → Smooth (.value (.ofKeyed t)) schemas w →
      ((∃ r, ((Gateway.registerConnection (.value (.ofKeyed t)) schemas).run w).1 = .ok r) ↔
        ((t.getD "identity" .null).isTruthy = true → ¬Stumbles (givenMode t) (givenPort t))) := by
  constructor
  · intro names
    rw [ofParts_eq names]
    rcases ofSettings_cases t with ⟨decided, sound⟩ | ⟨stumbles, broken⟩
    · exact iff_of_true decided sound
    · rw [broken]
      exact iff_of_false nofun fun sound => sound stumbles
  · intro ignored schemas w sorted key smooth
    have reads : (ConfigGiven.value (.ofKeyed t)).read = (ofMapping t).2 := rfl
    rw [answered_iff]
    by_cases given : (t.getD "identity" .null).isTruthy = true
    · rcases ofMapping_cases given sorted with ⟨decided, sound⟩ | ⟨stumbles, broken⟩
      · refine iff_of_true (fun f => ?_) fun _ => sound
        rcases made : (ofMapping t).2 with failure | c
        · rw [register_unreadable smooth.journal (reads.trans made)]
          rw [made] at decided
          cases decided <;> nofun
        · exact register_unbroken smooth (reads.trans made) (identity_of_ofMapping made ▸ key) f
      · refine iff_of_false (fun unbroken => ?_) fun sound => sound given stumbles
        exact unbroken _ (register_unreadable smooth.journal (reads.trans broken))
    · have missing : (ofMapping t).2 = .error (.refused (.of .missingIdentity)) := by
        unfold ofMapping
        dsimp only
        rw [if_neg given]
      refine iff_of_true (fun f => ?_) fun truthy => absurd truthy given
      rw [register_unreadable smooth.journal (reads.trans missing)]
      nofun

/-- An identity, a mode and a port in digits of another script. -/
def foreignSettings : Keyed Value :=
  ⟨[(.text "identity", .text "a"), (.text "migrate", .text "alter"), (.text "port", .text " ٥٠٠٠١ ")]⟩

/-- Digits of another script denote a port, and the registration is answered. -/
theorem answered_foreign :
    Decided (.text "alter") (.text " ٥٠٠٠١ ") (ofParts foreignSettings) ∧
    ∃ r, ((Gateway.registerConnection (.value (.ofKeyed foreignSettings)) (.value .null)).run vacant).1 = .ok r := by
  have sound : ¬Stumbles (givenMode foreignSettings) (givenPort foreignSettings) := by
    have denotes : Denotes (.text " ٥٠٠٠١ ") ⟨50001, by decide, by decide⟩ := .numeral (by decide) (by decide)
    intro stumbles
    cases stumbles with
    | mode wrong => cases wrong
    | misread _ misread => exact denotes.not_misread misread
    | port _ wrong => exact wrong _ denotes
  obtain ⟨decides, answers⟩ := answered_iff_decided (σ := Unit) (κ := Unit) (π := Unit) foreignSettings
  have smooth : Smooth (.value (.ofKeyed foreignSettings)) (.value .null) vacant := by
    refine ⟨nofun, fun ss coerced => ?_, nofun, ?_⟩
    · cases coerced
      exact ⟨[], rfl⟩
    · refine World.takes_of_plain LogSetup.holds_recording rfl Bindings.plain_nil fun n among => ?_
      refine plain_of_notes (fun v given => ?_) (fun k given => ?_) (fun ss names coerced sorted => ?_) among
      · simp only [foreignSettings, Keyed.values, List.map_cons, List.map_nil, List.mem_cons, List.not_mem_nil,
          or_false] at given
        rcases given with rfl | rfl | rfl <;> exact LogSetup.holds_text _
      · simp only [foreignSettings, Keyed.keys, List.map_cons, List.map_nil, List.mem_cons, List.not_mem_nil,
          or_false] at given
        rcases given with rfl | rfl | rfl <;> exact LogSetup.holds_text _
      · cases coerced
        cases sorted
        nofun
  exact ⟨(decides (by decide)).2 sound, (answers [] _ vacant rfl rfl smooth).2 fun _ => sound⟩

/-- A superscript is a digit and no number: the configuration and its registration break. -/
theorem unanswered_superscript :
    let t : Keyed Value := ⟨[(.text "identity", .text "a"), (.text "port", .text "²")]⟩
    ofParts t = .error (.broken .badValue) ∧ ¬Decided (givenMode t) (givenPort t) (ofParts t) ∧
      ((Gateway.registerConnection (.value (.ofKeyed t)) (.value .null)).run vacant).1 = .error (.broken .badValue) :=
  ⟨rfl, nofun, rfl⟩

end Config

end TableGateway
