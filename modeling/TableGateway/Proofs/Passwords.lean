import TableGateway.Proofs.PairedServices
import TableGateway.Proofs.Entries
import TableGateway.Proofs.Recorded

/-!
# Passwords stay where they are

A password goes from the configuration into the connection string, and the connection string goes to the driver. Here
are two runs of the same services, whose configurations differ in the passwords alone, with drivers that give the same
answers (`SameAnswers`). No caller, no reader of the journal and no listener can tell the two runs apart.

- **`ofMapping_alike`**: what is refused in a configuration, and what is noted about it, does not tell the password.
- **`lawful`**: drivers that give the same answers keep records that differ in connection strings alone.
- **`passwords_kept`**: the two runs end the same, service by service, with the same journal and the same statements
  heard.
-/

namespace TableGateway

variable {σ κ π σ' κ' π' α β : Type}

/-! ## Configurations -/

namespace Keyed

/-- What is found under one key does not depend on the entry of another one. -/
theorem lookup_of_others {t u : Keyed β} {k l : Value} (h : t.others k = u.others k) (other : l.same k = false) :
    t.lookup l = u.lookup l := by
  have kept (t : Keyed β) : (⟨t.others k⟩ : Keyed β).lookup l = t.lookup l := by
    refine lookup_filter (p := fun a => !k.same a) fun a found => ?_
    rw [← same_congr_right found, Value.same_comm, other]
    rfl
  rw [← kept t, ← kept u, h]

end Keyed

namespace Config

/-- The key of the password among the settings. -/
def passwordKey : Value := .text "password"

/-- Settings that are the same but for the password. -/
def SettingsAlike (t u : Keyed Value) : Prop := t.others passwordKey = u.others passwordKey

theorem SettingsAlike.getD {t u : Keyed Value} (h : SettingsAlike t u) (name : String) (other : name ≠ "password")
    (usual : Value) : u.getD name usual = t.getD name usual := by
  have apart : (Value.text name).same passwordKey = false := by
    rw [passwordKey, Value.same_text_text, decide_eq_false other]
  rw [Keyed.getD, Keyed.getD, Keyed.lookup_of_others h apart]

/-- The settings that are read, and those that are passed over, are the same but for the password. -/
theorem SettingsAlike.filter {t u : Keyed Value} (h : SettingsAlike t u) (p : Value → Bool) :
    SettingsAlike ⟨t.entries.filter fun e => p e.1⟩ ⟨u.entries.filter fun e => p e.1⟩ := by
  have commuted (es : List (Value × Value)) :
      (es.filter fun e => p e.1).filter (fun e => !passwordKey.same e.1) =
        (es.filter fun e => !passwordKey.same e.1).filter fun e => p e.1 := by
    simp only [List.filter_filter, Bool.and_comm]
  unfold SettingsAlike Keyed.others at *
  rw [commuted, commuted, h]

theorem SettingsAlike.ignored {t u : Keyed Value} (h : SettingsAlike t u) :
    u.keys.filter (fun k => !isSettingName k) = t.keys.filter fun k => !isSettingName k := by
  -- the password is a setting, so nothing under its key is passed over
  have kept (es : List (Value × Value)) : (es.map Prod.fst).filter (fun k => !isSettingName k) =
      ((es.filter fun e => !passwordKey.same e.1).map Prod.fst).filter fun k => !isSettingName k := by
    rw [List.filter_map, List.filter_map, List.filter_filter]
    congr 1
    refine List.filter_congr fun e _ => ?_
    by_cases password : passwordKey.same e.1 = true
    · rw [passwordKey, Value.same_text] at password
      simp only [Function.comp, password]
      decide
    · simp [Function.comp, password]
  unfold SettingsAlike Keyed.others at h
  unfold Keyed.keys
  rw [kept, kept t.entries, h]

theorem agree_ofSettings {t u : Keyed Value} (h : SettingsAlike t u) : Agree Alike (ofSettings t) (ofSettings u) := by
  unfold ofSettings
  rw [h.getD "identity" (by decide), h.getD "host" (by decide), h.getD "port" (by decide),
    h.getD "database" (by decide), h.getD "user" (by decide), h.getD "ssl" (by decide), h.getD "pool" (by decide),
    h.getD "migrate" (by decide), h.getD "schema" (by decide)]
  cases readMigrate (t.getD "migrate" (.text MigrateMode.safe.name)) with
  | error e => exact .error _
  | ok migrate =>
    dsimp only [liftM, monadLift, MonadLift.monadLift, bind, Except.bind]
    cases readPort (t.getD "port" (.int 50000)) with
    | error e => exact .error _
    | ok port => exact .ok ⟨_, rfl⟩

theorem ofMapping_alike {t u : Keyed Value} (h : SettingsAlike t u) :
    (ofMapping u).1 = (ofMapping t).1 ∧ Agree Alike (ofMapping t).2 (ofMapping u).2 := by
  have read := agree_ofSettings (h.filter isSettingName)
  unfold ofMapping
  dsimp only
  rw [h.getD "identity" (by decide), h.ignored]
  cases (t.getD "identity" .null).isTruthy with
  | false => exact ⟨rfl, .error _⟩
  | true =>
    cases Value.sort (t.keys.filter fun k => !isSettingName k) with
    | error f => exact ⟨rfl, .error _⟩
    | ok ignored => exact ⟨rfl, read⟩

end Config

/-- The same configuration is handed over but for the password. -/
inductive Registry.ConfigGiven.Alike : Registry.ConfigGiven → Registry.ConfigGiven → Prop
  | built {c c' : Config} (h : c.Alike c') : Alike (.built c) (.built c')
  | settings {es fs : List (Value × Value)} (h : Config.SettingsAlike ⟨es⟩ ⟨fs⟩) :
      Alike (.value (.map es)) (.value (.map fs))
  | value (v : Value) : Alike (.value v) (.value v)

/-- The same is asked, but for the passwords of configurations. -/
inductive Service.Alike : Service → Service → Prop
  | register {c c' : Registry.ConfigGiven} (given : c.Alike c') (schemas : Description) :
      Alike (.register c schemas) (.register c' schemas)
  | teardown (identity : Value) : Alike (.teardown identity) (.teardown identity)
  | operate (identity schemaName : Value) (o : Operation) :
      Alike (.operate identity schemaName o) (.operate identity schemaName o)

/-- The same call with the same answer, but for the password in a connection string. -/
inductive Exchange.Alike : Exchange → Exchange → Prop
  | connect {c c' : Config} (h : c.Alike c') (answer : Except Failure Nat) :
      Alike (.connect c.connectionString answer) (.connect c'.connectionString answer)
  | createPool {c c' : Config} (h : c.Alike c') (answer : Except Failure Nat) :
      Alike (.createPool c.connectionString answer) (.createPool c'.connectionString answer)
  | same (x : Exchange) : Alike x x

/-! ## Drivers that give the same answers -/

/-- The results of two calls: the answers agree, and the states after them are related. -/
structure Came (S : σ → σ' → Prop) (Q : α → β → Prop) (r : Except Failure α × σ) (r' : Except Failure β × σ') :
    Prop where
  answer : Agree Q r.1 r'.1
  state : S r.2 r'.2

/-- The drivers give the same answers, whatever the passwords: there is a relation between their states, and one
between what they hand out, such that related calls in related states come to the same rows and to the same errors. -/
structure SameAnswers (d : Driver σ κ π) (d' : Driver σ' κ' π') where
  state : σ → σ' → Prop
  conn : κ → κ' → Prop
  pool : π → π' → Prop
  connect {c c' : Config} {s : σ} {s' : σ'} (h : c.Alike c') (at_ : state s s') :
    Came state conn (d.connect c.connectionString s) (d'.connect c'.connectionString s')
  createPool {c c' : Config} {s : σ} {s' : σ'} (h : c.Alike c') (at_ : state s s') :
    Came state pool (d.createPool c.connectionString s) (d'.createPool c'.connectionString s')
  acquire {p : π} {p' : π'} {s : σ} {s' : σ'} (h : pool p p') (at_ : state s s') :
    Came state conn (d.acquire p s) (d'.acquire p' s')
  query {c : κ} {c' : κ'} {s : σ} {s' : σ'} (h : conn c c') (at_ : state s s') (sql : String)
    (params : Option (List Value)) : Came state Eq (d.query c sql params s) (d'.query c' sql params s')
  close {c : κ} {c' : κ'} {s : σ} {s' : σ'} (h : conn c c') (at_ : state s s') :
    Came state Eq (d.close c s) (d'.close c' s')
  dispose {p : π} {p' : π'} {s : σ} {s' : σ'} (h : pool p p') (at_ : state s s') :
    Came state Eq (d.dispose p s) (d'.dispose p' s')
  opened : d'.opened = d.opened

/-- The same number, and related items. -/
structure Numbered.Alike (R : α → β → Prop) (a : Numbered α) (b : Numbered β) : Prop where
  number : b.number = a.number
  item : R a.item b.item

namespace SameAnswers

variable {d : Driver σ κ π} {d' : Driver σ' κ' π'} {A : SameAnswers d d'}

/-- Records that differ in connection strings alone, and the same in the journal and in what was heard. -/
structure Outsides (A : SameAnswers d d') (o : Outside (Recorded σ)) (o' : Outside (Recorded σ')) : Prop where
  state : A.state o.engine.engine o'.engine.engine
  exchanges : List.Forall₂ Exchange.Alike o.engine.exchanges o'.engine.exchanges
  journal : o'.journal = o.journal
  heard : o'.heard = o.heard

/-- Alike are worlds that differ in passwords only. -/
def likeness (A : SameAnswers d d') (writes : Logged → Except Fault Unit) :
    Likeness (Recorded σ) (Numbered κ) (Numbered π) (Recorded σ') (Numbered κ') (Numbered π') where
  first := d.recorded
  second := d'.recorded
  writes := writes
  outside := A.Outsides
  config := Config.Alike
  conn := Numbered.Alike A.conn
  pool := Numbered.Alike A.pool
  binds _ := True

theorem Outsides.next {o : Outside (Recorded σ)} {o' : Outside (Recorded σ')} (h : A.Outsides o o') :
    o'.engine.next = o.engine.next :=
  h.exchanges.length_eq.symm

/-- Recording alike results of calls that make a connection or a pool. -/
theorem Outsides.making {o : Outside (Recorded σ)} {o' : Outside (Recorded σ')} (h : A.Outsides o o')
    {Q : α → β → Prop} {r : Except Failure α × σ} {r' : Except Failure β × σ'} (came : Came A.state Q r r')
    {x x' : Except Failure Nat → Exchange} (alike : ∀ n, (x n).Alike (x' n)) :
    Agree (Numbered.Alike Q) (o.engine.making x r).1 (o'.engine.making x' r').1 ∧
      A.Outsides { o with engine := (o.engine.making x r).2 } { o' with engine := (o'.engine.making x' r').2 } := by
  obtain ⟨r, s⟩ := r
  obtain ⟨r', s'⟩ := r'
  obtain ⟨answer, state⟩ := came
  have numbers : (r'.map fun _ => o'.engine.next) = r.map fun _ => o.engine.next := by
    cases answer with
    | ok q => rw [h.next]; rfl
    | error e => rfl
  refine ⟨?_, state, ?_, h.journal, h.heard⟩
  · cases answer with
    | ok q => exact .ok ⟨h.next, q⟩
    | error e => exact .error e
  · show List.Forall₂ _ (o.engine.exchanges ++ [x _]) (o'.engine.exchanges ++ [x' _])
    rw [numbers]
    exact List.rel_append h.exchanges (.cons (alike _) .nil)

/-- Recording alike results of any other calls. -/
theorem Outsides.doing {o : Outside (Recorded σ)} {o' : Outside (Recorded σ')} (h : A.Outsides o o')
    {r : Except Failure α × σ} {r' : Except Failure α × σ'} (came : Came A.state Eq r r')
    (x : Except Failure α → Exchange) :
    Agree Eq (o.engine.doing x r).1 (o'.engine.doing x r').1 ∧
      A.Outsides { o with engine := (o.engine.doing x r).2 } { o' with engine := (o'.engine.doing x r').2 } := by
  refine ⟨came.answer, came.state, ?_, h.journal, h.heard⟩
  show List.Forall₂ _ (o.engine.exchanges ++ [x _]) (o'.engine.exchanges ++ [x _])
  rw [came.answer.eq]
  exact List.rel_append h.exchanges (.cons (.same _) .nil)

theorem lawful (A : SameAnswers d d') (writes : Logged → Except Fault Unit) : (A.likeness writes).Lawful where
  opened := A.opened
  config h := h
  logged l h := ⟨h.state, h.exchanges, congrArg (· ++ [l]) h.journal, h.heard⟩
  connect h _ _ outside := outside.making (A.connect h outside.state) fun _ => .connect h _
  createPool h _ _ outside := outside.making (A.createPool h outside.state) fun _ => .createPool h _
  acquire {p p'} h _ _ outside := by
    obtain ⟨n, p⟩ := p
    obtain ⟨_, p'⟩ := p'
    obtain ⟨rfl, item⟩ := h
    exact outside.making (A.acquire item outside.state) fun _ => .same _
  close {c c'} h _ _ outside := by
    obtain ⟨n, c⟩ := c
    obtain ⟨_, c'⟩ := c'
    obtain ⟨rfl, item⟩ := h
    exact outside.doing (A.close item outside.state) (.close _)
  dispose {p p'} h _ _ outside := by
    obtain ⟨n, p⟩ := p
    obtain ⟨_, p'⟩ := p'
    obtain ⟨rfl, item⟩ := h
    exact outside.doing (A.dispose item outside.state) (.dispose _)

/-! ## Statements and services -/

variable {writes : Logged → Except Fault Unit}

/-- A statement is told to the journal and to the listener in the same words. -/
theorem pairs_announce (dp : Dispatcher) (st : Statement) :
    (A.likeness writes).Pairs Eq (dp.announce st) (dp.announce st) := by
  have lawful := A.lawful writes
  refine Likeness.pairs_bind_same (Likeness.pairs_log lawful _) fun _ => ?_
  cases dp.listener with
  | none => exact Likeness.pairs_pure rfl
  | some l =>
    refine Likeness.pairs_bind Likeness.pairs_world fun w v alike => ?_
    have hears : (A.likeness writes).Pairs Eq (Run.change fun w => { w with heard := w.heard ++ [st.sql] })
        (Run.change fun w => { w with heard := w.heard ++ [st.sql] }) :=
      fun _ _ ⟨registry, outside, bound, binds, first, second⟩ => ⟨.ok rfl, registry,
        ⟨outside.state, outside.exchanges, outside.journal, congrArg (· ++ [st.sql]) outside.heard⟩, bound, binds,
        first, second⟩
    have heard : v.heard = w.heard := alike.outside.heard
    refine Likeness.pairs_bind_same hears fun _ => ?_
    rw [heard]
    cases l.fails w.heard st.sql with
    | true => exact Likeness.pairs_log lawful _
    | false => exact Likeness.pairs_pure rfl

theorem pairs_runOn (dp : Dispatcher) (st : Statement) {c : Numbered κ} {c' : Numbered κ'}
    (h : (A.likeness writes).conn c c') : (A.likeness writes).Pairs Eq (dp.runOn st c) (dp.runOn st c') := by
  obtain ⟨n, c⟩ := c
  obtain ⟨_, c'⟩ := c'
  obtain ⟨rfl, item⟩ := h
  refine Likeness.pairs_bind_same (pairs_announce dp st) fun _ => Likeness.pairs_call fun o o' outside => ?_
  exact outside.doing (A.query item outside.state _ _) (.query _ _ _)

theorem executes (g : Gateway) : (A.likeness writes).Executes g g.dispatcher.listener :=
  fun names st => Likeness.pairs_execute (A.lawful writes) (fun _ _ => pairs_runOn g.dispatcher st) names

theorem asked {s s' : Service} (h : s.Alike s') : (A.likeness writes).Asked s s' := by
  cases h with
  | register given schemas =>
    refine .register ?_ schemas
    cases given with
    | built alike => exact .built alike
    | settings alike =>
      obtain ⟨notes, config⟩ := Config.ofMapping_alike alike
      exact .value notes config
    | value v =>
      refine .value rfl ?_
      cases (Config.ofValue v).2 with
      | ok c => exact .ok ⟨c.password, rfl⟩
      | error f => exact .error f
  | teardown identity => exact .teardown identity
  | operate identity schemaName o => exact .operate (fun _ _ => trivial) o

/-- The worlds differ in passwords alone: in those of the registered configurations, and in those of the connection
strings that the drivers were given so far. -/
def Alike (A : SameAnswers d d') (w : RecordedWorld σ κ π) (v : RecordedWorld σ' κ' π') : Prop :=
  (A.likeness w.writes).Worlds w v

/-- **Passwords stay where they are.** The same services are asked for twice, of worlds and with configurations that
differ in passwords alone, and the drivers give the same answers. Then every service ends the same, with the same value,
error or fault; the journals are the same, with what was bound for every event, and so are the statements that the
listener has heard; and the calls to the drivers differ in connection strings alone. -/
theorem passwords_kept (A : SameAnswers d d') (g : Gateway) {ss ss' : List Service}
    (asked : List.Forall₂ Service.Alike ss ss') {w : RecordedWorld σ κ π} {v : RecordedWorld σ' κ' π'}
    (alike : A.Alike w v) :
    List.Forall₂ (fun a b => b.1 = a.1 ∧ b.2.journal = a.2.journal ∧ b.2.heard = a.2.heard ∧
      List.Forall₂ Exchange.Alike (RecordedWorld.record a.2) (RecordedWorld.record b.2))
      (g.serve ss w) (g.serve ss' v) := by
  have all := Likeness.serve_alike (A.lawful w.writes) (executes g) (asked.imp fun _ _ => SameAnswers.asked) alike
  refine all.imp fun a b ⟨same, after⟩ => ?_
  have outside : A.Outsides a.2.outside b.2.outside := after.outside
  exact ⟨same, outside.journal, outside.heard, outside.exchanges⟩

/-- A driver that does not look at passwords gives the same answers. -/
def ofBlind (d : Driver σ κ π) (connect : ∀ (c : Config) p s,
      d.connect (Config.connectionString { c with password := p }) s = d.connect c.connectionString s)
    (createPool : ∀ (c : Config) p s,
      d.createPool (Config.connectionString { c with password := p }) s = d.createPool c.connectionString s) :
    SameAnswers d d where
  state := Eq
  conn := Eq
  pool := Eq
  connect {c _ s _} h same := by
    obtain ⟨p, rfl⟩ := h
    cases same
    rw [connect c p s]
    exact ⟨.refl _, rfl⟩
  createPool {c _ s _} h same := by
    obtain ⟨p, rfl⟩ := h
    cases same
    rw [createPool c p s]
    exact ⟨.refl _, rfl⟩
  acquire h same := by
    cases h
    cases same
    exact ⟨.refl _, rfl⟩
  query h same sql params := by
    cases h
    cases same
    exact ⟨.refl _, rfl⟩
  close h same := by
    cases h
    cases same
    exact ⟨.refl _, rfl⟩
  dispose h same := by
    cases h
    cases same
    exact ⟨.refl _, rfl⟩
  opened := rfl

/-! ## Two sign-ins -/

/-- A driver that refuses every connection, and says so. -/
def refusing : Driver Unit Unit Unit := .steady (.error (.refused (Error.engine "denied" "28000"))) (.ok []) (.ok ())

def poolSettings (password : Value) : List (Value × Value) :=
  [(.text "identity", .text "pooled"), (.text "password", password), (.text "pool", .bool true)]

/-- One connection without a pool and one with, and a statement on each. -/
def signIn (password : Value) : List Service :=
  [.register (.built { identity := .text "kept", password := password }) (.value .null),
    .register (.value (.map (poolSettings password))) (.value .null),
    .operate (.text "kept") (.text "s") (.query "SELECT 1" .null),
    .operate (.text "pooled") (.text "s") (.query "SELECT 1" .null), .teardown .null]

def atStart : RecordedWorld Unit Unit Unit where
  engine := { engine := () }
  registry := { driver := refusing.recorded }

/-- The connection strings that the driver was given. -/
def strings (w : RecordedWorld Unit Unit Unit) : List String :=
  w.record.filterMap fun
    | .connect cs _ | .createPool cs _ => some cs
    | _ => none

/-- The driver was given two passwords in one run and none in the other, and nobody else can tell. -/
theorem passwords_kept_refused :
    let ended (password : Value) := Gateway.serve {} (signIn password) atStart
    List.Forall₂ Service.Alike (signIn (.text "secret")) (signIn .null) ∧
    List.Forall₂ (fun a b => b.1 = a.1 ∧ b.2.journal = a.2.journal ∧ b.2.heard = a.2.heard ∧
      List.Forall₂ Exchange.Alike (RecordedWorld.record a.2) (RecordedWorld.record b.2))
      (ended (.text "secret")) (ended .null) ∧
    (ended (.text "secret")).map (fun a => strings a.2) ≠ (ended .null).map fun a => strings a.2 := by
  have settings : Config.SettingsAlike ⟨poolSettings (.text "secret")⟩ ⟨poolSettings .null⟩ := rfl
  have asked : List.Forall₂ Service.Alike (signIn (.text "secret")) (signIn .null) :=
    .cons (.register (.built ⟨.null, rfl⟩) _) (.cons (.register (.settings settings) _)
      (.cons (.operate _ _ _) (.cons (.operate _ _ _) (.cons (.teardown _) .nil))))
  refine ⟨asked, passwords_kept (.ofBlind refusing (fun _ _ _ => rfl) fun _ _ _ => rfl) {} asked ?_, by decide⟩
  exact ⟨⟨rfl, rfl, .nil⟩, ⟨rfl, .nil, rfl, rfl⟩, rfl, fun _ _ => trivial, rfl, rfl⟩

end SameAnswers

end TableGateway
