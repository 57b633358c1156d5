import Mathlib.Data.List.Forall2
import TableGateway.Proofs.Scopes

/-!
# Two runs side by side

A `Likeness` says when two worlds are alike: what the driver, the journal and the listener have come to is related, and
so are the entries of the two registries, one by one. `Pairs Q x y` says that the runs `x` and `y`, started in alike
worlds, end alike: both fail in the same way or both answer, with values related by `Q`, and the worlds are alike
again. The laws of a likeness concern calls to the two drivers and the journal alone.

- **`pairs_bind`**, **`pairs_settle`**, **`pairs_ensure`**, **`pairs_binding`**: the relation follows the way runs are
  put together.
- **`pairs_register`**, **`pairs_teardown`**: registering and tearing down keep the registries alike.
- **`pairs_execute`**: so does running a statement, when it does with the connection in hand.
-/

namespace TableGateway

variable {σ κ π σ' κ' π' : Type} {ε δ α β α' β' : Type}

/-- Both fail in the same way, or both are well and their values related. -/
inductive Agree (Q : α → β → Prop) : Except ε α → Except ε β → Prop
  | ok {a : α} {b : β} (h : Q a b) : Agree Q (.ok a) (.ok b)
  | error (e : ε) : Agree Q (.error e) (.error e)

namespace Agree

variable {Q : α → β → Prop}

theorem refl (r : Except ε α) : Agree Eq r r := by
  cases r with
  | ok a => exact .ok rfl
  | error e => exact .error e

theorem eq {r s : Except ε α} (h : Agree Eq r s) : s = r := by
  cases h with
  | ok same => rw [same]
  | error e => rfl

theorem mono {P : α → β → Prop} {r : Except ε α} {s : Except ε β} (h : Agree Q r s) (le : ∀ a b, Q a b → P a b) :
    Agree P r s := by
  cases h with
  | ok q => exact .ok (le _ _ q)
  | error e => exact .error e

theorem lift {r : Except Fault α} {s : Except Fault β} (h : Agree Q r s) :
    Agree Q (liftM r : Except Failure α) (liftM s : Except Failure β) := by
  cases h with
  | ok q => exact .ok q
  | error f => exact .error _

theorem settle {r : Except Failure α} {s : Except Failure β} (h : Agree Q r s) :
    Agree (Agree Q) (Outcome.settle r) (Outcome.settle s) := by
  cases h with
  | ok q => exact .ok (.ok q)
  | error e =>
    cases e with
    | refused e => exact .ok (.error e)
    | broken f => exact .error f

end Agree

namespace Keyed

variable {R : α → β → Prop} {t : Keyed α} {u : Keyed β}

/-- The same keys in the same order, and related values under them. -/
def Alike (R : α → β → Prop) (t : Keyed α) (u : Keyed β) : Prop :=
  List.Forall₂ (fun a b => a.1 = b.1 ∧ R a.2 b.2) t.entries u.entries

section Entries

variable {es : List (Value × α)} {fs : List (Value × β)}

theorem rel_lookupIn (h : List.Forall₂ (fun a b => a.1 = b.1 ∧ R a.2 b.2) es fs) (k : Value) :
    Option.Rel R (lookupIn es k) (lookupIn fs k) := by
  induction h with
  | nil => exact .none
  | @cons a b _ _ ab _ ih =>
    obtain ⟨i, x⟩ := a
    obtain ⟨j, y⟩ := b
    obtain ⟨rfl, xy⟩ := ab
    unfold lookupIn
    split
    · exact .some xy
    · exact ih

theorem rel_putIn (h : List.Forall₂ (fun a b => a.1 = b.1 ∧ R a.2 b.2) es fs) (k : Value) {v : α} {w : β} (vw : R v w) :
    List.Forall₂ (fun a b => a.1 = b.1 ∧ R a.2 b.2) (putIn es k v) (putIn fs k w) := by
  induction h with
  | nil => exact .cons ⟨rfl, vw⟩ .nil
  | @cons a b _ _ ab rest ih =>
    obtain ⟨i, x⟩ := a
    obtain ⟨j, y⟩ := b
    obtain ⟨rfl, xy⟩ := ab
    unfold putIn
    split
    · exact .cons ⟨rfl, vw⟩ rest
    · exact .cons ⟨rfl, xy⟩ ih

theorem rel_eraseIn (h : List.Forall₂ (fun a b => a.1 = b.1 ∧ R a.2 b.2) es fs) (k : Value) :
    List.Forall₂ (fun a b => a.1 = b.1 ∧ R a.2 b.2) (eraseIn es k) (eraseIn fs k) := by
  induction h with
  | nil => exact .nil
  | @cons a b _ _ ab rest ih =>
    obtain ⟨i, x⟩ := a
    obtain ⟨j, y⟩ := b
    obtain ⟨rfl, xy⟩ := ab
    unfold eraseIn
    split
    · exact ih
    · exact .cons ⟨rfl, xy⟩ ih

end Entries

theorem Alike.lookup (h : t.Alike R u) (k : Value) : Option.Rel R (t.lookup k) (u.lookup k) := rel_lookupIn h k

theorem Alike.find (h : t.Alike R u) (k : Value) : Agree (Option.Rel R) (t.find k) (u.find k) := by
  unfold Keyed.find
  split
  · exact .ok (h.lookup k)
  · exact .error _

theorem Alike.put (h : t.Alike R u) (k : Value) {a : α} {b : β} (ab : R a b) : (t.put k a).Alike R (u.put k b) :=
  rel_putIn h k ab

theorem Alike.erase (h : t.Alike R u) (k : Value) : (t.erase k).Alike R (u.erase k) := rel_eraseIn h k

end Keyed

/-- The configurations differ at most in the password. -/
def Config.Alike (c c' : Config) : Prop := ∃ p, c' = { c with password := p }

/-- What a world knows beside its registry and what is bound for logging. -/
structure Outside (σ : Type) where
  engine : σ
  journal : List Logged
  heard : List String

def World.outside (w : World σ κ π) : Outside σ := ⟨w.engine, w.journal, w.heard⟩

/-- The same with one more event in the journal. -/
def Outside.logged (o : Outside σ) (l : Logged) : Outside σ := { o with journal := o.journal ++ [l] }

/-- What counts as alike in worlds with one driver and with another. -/
structure Likeness (σ κ π σ' κ' π' : Type) where
  first : Driver σ κ π
  second : Driver σ' κ' π'
  /-- What both journals can write. -/
  writes : Logged → Except Fault Unit
  outside : Outside σ → Outside σ' → Prop
  config : Config → Config → Prop
  conn : κ → κ' → Prop
  pool : π → π' → Prop
  /-- What may be bound for logging. -/
  binds : String × Value → Prop

namespace Likeness

variable {L : Likeness σ κ π σ' κ' π'}

structure Entries (L : Likeness σ κ π σ' κ' π') (e : Entry κ π) (e' : Entry κ' π') : Prop where
  config : L.config e.config e'.config
  schemas : e'.schemas = e.schemas
  pool : Option.Rel L.pool e.pool e'.pool
  conn : Option.Rel L.conn e.conn e'.conn

structure Registries (L : Likeness σ κ π σ' κ' π') (r : Registry σ κ π) (r' : Registry σ' κ' π') : Prop where
  first : r.driver = L.first
  second : r'.driver = L.second
  entries : r.entries.Alike L.Entries r'.entries

structure Worlds (L : Likeness σ κ π σ' κ' π') (w : World σ κ π) (v : World σ' κ' π') : Prop where
  registry : L.Registries w.registry v.registry
  outside : L.outside w.outside v.outside
  bound : v.bound = w.bound
  binds : ∀ e ∈ w.bound.entries, L.binds e
  first : w.writes = L.writes
  second : v.writes = L.writes

/-- A call to the first driver and one to the second come to alike results. -/
def Calls (L : Likeness σ κ π σ' κ' π') (Q : α → β → Prop) (f : Driver σ κ π → σ → Except Failure α × σ)
    (g : Driver σ' κ' π' → σ' → Except Failure β × σ') : Prop :=
  ∀ o o', L.outside o o' → Agree Q (f L.first o.engine).1 (g L.second o'.engine).1 ∧
    L.outside { o with engine := (f L.first o.engine).2 } { o' with engine := (g L.second o'.engine).2 }

/-- The drivers answer alike to alike calls, statements aside; and the journal does not tell the worlds apart. -/
structure Lawful (L : Likeness σ κ π σ' κ' π') : Prop where
  opened : L.second.opened = L.first.opened
  config : ∀ {c c'}, L.config c c' → c.Alike c'
  logged : ∀ {o o'} l, L.outside o o' → L.outside (o.logged l) (o'.logged l)
  connect : ∀ {c c'}, L.config c c' →
    L.Calls L.conn (fun d => d.connect c.connectionString) fun d => d.connect c'.connectionString
  createPool : ∀ {c c'}, L.config c c' →
    L.Calls L.pool (fun d => d.createPool c.connectionString) fun d => d.createPool c'.connectionString
  acquire : ∀ {p p'}, L.pool p p' → L.Calls L.conn (fun d => d.acquire p) fun d => d.acquire p'
  close : ∀ {c c'}, L.conn c c' → L.Calls Eq (fun d => d.close c) fun d => d.close c'
  dispose : ∀ {p p'}, L.pool p p' → L.Calls Eq (fun d => d.dispose p) fun d => d.dispose p'

/-- From alike worlds both runs end alike, in alike worlds. -/
def Pairs (L : Likeness σ κ π σ' κ' π') (Q : α → β → Prop) (x : Run σ κ π α) (y : Run σ' κ' π' β) : Prop :=
  ∀ w v, L.Worlds w v → Agree Q (x.run w).1 (y.run v).1 ∧ L.Worlds (x.run w).2 (y.run v).2

/-! ## How runs are put together -/

section Combining

variable {Q : α → β → Prop} {P : α' → β' → Prop} {x : Run σ κ π α} {y : Run σ' κ' π' β}

theorem pairs_pure {a : α} {b : β} (h : Q a b) : L.Pairs Q (pure a) (pure b) := fun _ _ alike => ⟨.ok h, alike⟩

theorem pairs_fail (e : Failure) : L.Pairs Q (Run.fail e) (Run.fail e) := fun _ _ alike => ⟨.error e, alike⟩

theorem pairs_lift {r : Except Failure α} {s : Except Failure β} (h : Agree Q r s) :
    L.Pairs Q (Run.lift r) (Run.lift s) :=
  fun _ _ alike => ⟨h, alike⟩

theorem pairs_lift_same (r : Except Failure α) : L.Pairs Eq (Run.lift r) (Run.lift r) := pairs_lift (.refl r)

theorem Pairs.mono {P : α → β → Prop} (hx : L.Pairs Q x y) (le : ∀ a b, Q a b → P a b) : L.Pairs P x y :=
  fun w v alike => ⟨(hx w v alike).1.mono le, (hx w v alike).2⟩

theorem pairs_bind {f : α → Run σ κ π α'} {g : β → Run σ' κ' π' β'} (hx : L.Pairs Q x y)
    (hf : ∀ a b, Q a b → L.Pairs P (f a) (g b)) : L.Pairs P (x >>= f) (y >>= g) := by
  intro w v alike
  obtain ⟨ends, after⟩ := hx w v alike
  rw [Run.run_bind, Run.run_bind]
  revert ends after
  rcases x.run w with ⟨r, w'⟩
  rcases y.run v with ⟨s, v'⟩
  intro ends after
  cases ends with
  | ok q => exact hf _ _ q _ _ after
  | error e => exact ⟨.error e, after⟩

/-- The second part goes on with the same value. -/
theorem pairs_bind_same {x : Run σ κ π α} {y : Run σ' κ' π' α} {f : α → Run σ κ π α'} {g : α → Run σ' κ' π' β'}
    (hx : L.Pairs Eq x y) (hf : ∀ a, L.Pairs P (f a) (g a)) : L.Pairs P (x >>= f) (y >>= g) :=
  pairs_bind hx fun a _ same => same ▸ hf a

theorem pairs_settle (hx : L.Pairs Q x y) : L.Pairs (Agree Q) (Run.settle x) (Run.settle y) := by
  intro w v alike
  obtain ⟨ends, after⟩ := hx w v alike
  have settled := ends.settle
  unfold Run.settle
  dsimp only
  revert settled
  rcases Outcome.settle (x.run w).1 with f | r <;> rcases Outcome.settle (y.run v).1 with g | s <;> intro settled <;>
    cases settled
  · exact ⟨.error _, after⟩
  · next agree => exact ⟨.ok agree, after⟩

/-- What ends the same is settled the same. -/
theorem pairs_settle_same {x : Run σ κ π α} {y : Run σ' κ' π' α} (hx : L.Pairs Eq x y) :
    L.Pairs Eq (Run.settle x) (Run.settle y) :=
  (pairs_settle hx).mono fun _ _ agree => agree.eq.symm

theorem pairs_attempt (hx : L.Pairs Q x y) : L.Pairs (Agree Q) (Run.attempt x) (Run.attempt y) :=
  fun w v alike => ⟨.ok (hx w v alike).1, (hx w v alike).2⟩

theorem pairs_ensure {after : Run σ κ π Unit} {after' : Run σ' κ' π' Unit} (hx : L.Pairs Q x y)
    (hafter : L.Pairs Eq after after') : L.Pairs Q (Run.ensure x after) (Run.ensure y after') := by
  intro w v alike
  obtain ⟨ends, inside⟩ := hx w v alike
  obtain ⟨ended, outside⟩ := hafter _ _ inside
  unfold Run.ensure
  dsimp only
  revert ended outside
  rcases after.run (x.run w).2 with ⟨r, w'⟩
  rcases after'.run (y.run v).2 with ⟨s, v'⟩
  intro ended outside
  cases ended with
  | ok _ => exact ⟨ends, outside⟩
  | error e => exact ⟨.error e, outside⟩

theorem pairs_binding {given : List (String × Value)} (may : ∀ e ∈ Bindings.present given, L.binds e)
    (hx : L.Pairs Q x y) : L.Pairs Q (Run.binding given x) (Run.binding given y) := by
  intro w v ⟨registry, outside, bound, binds, first, second⟩
  have entered : L.Worlds { w with bound := w.bound.enter given } { v with bound := v.bound.enter given } :=
    ⟨registry, outside, by rw [bound], fun e h => (Bindings.mem_enter h).elim (may e) (binds e), first, second⟩
  obtain ⟨ends, left⟩ := hx _ _ entered
  exact ⟨ends, left.registry, left.outside, congrArg (Bindings.leave · given) left.bound,
    fun e h => left.binds e (Bindings.mem_leave h), left.first, left.second⟩

end Combining

/-! ## What runs do -/

theorem pairs_registry : L.Pairs L.Registries Run.registry Run.registry := fun _ _ alike => ⟨.ok alike.registry, alike⟩

theorem pairs_world : L.Pairs L.Worlds Run.world Run.world := fun _ _ alike => ⟨.ok alike, alike⟩

theorem pairs_changeRegistry {f : Registry σ κ π → Registry σ κ π} {g : Registry σ' κ' π' → Registry σ' κ' π'}
    (changes : ∀ r r', L.Registries r r' → L.Registries (f r) (g r')) :
    L.Pairs Eq (Run.changeRegistry f) (Run.changeRegistry g) :=
  fun _ _ alike => ⟨.ok rfl, changes _ _ alike.registry, alike.outside, alike.bound, alike.binds, alike.first,
    alike.second⟩

theorem pairs_update (identity : Value) {e : Entry κ π} {e' : Entry κ' π'} (h : L.Entries e e') :
    L.Pairs Eq (Run.changeRegistry fun r => r.update identity e) (Run.changeRegistry fun r => r.update identity e') :=
  pairs_changeRegistry fun _ _ alike => ⟨alike.first, alike.second, alike.entries.put identity h⟩

theorem pairs_call {Q : α → β → Prop} {f : Driver σ κ π → σ → Except Failure α × σ}
    {g : Driver σ' κ' π' → σ' → Except Failure β × σ'} (h : L.Calls Q f g) :
    L.Pairs Q (Run.call f) (Run.call g) := by
  intro w v ⟨registry, outside, bound, binds, first, second⟩
  obtain ⟨ends, after⟩ := h _ _ outside
  unfold Run.call
  dsimp only
  rw [registry.first, registry.second]
  exact ⟨ends, registry, after, bound, binds, first, second⟩

theorem pairs_log (lawful : L.Lawful) (n : Note) : L.Pairs Eq (Run.log n) (Run.log n) := by
  intro w v alike
  have bound := alike.bound
  have same : v.writes ⟨n, v.bound⟩ = w.writes ⟨n, w.bound⟩ := by rw [bound, alike.first, alike.second]
  unfold Run.log
  dsimp only
  rw [same, bound]
  cases w.writes ⟨n, w.bound⟩ with
  | ok _ => exact ⟨.ok rfl, alike.registry, lawful.logged _ alike.outside, rfl, alike.binds, alike.first,
    alike.second⟩
  | error f => exact ⟨.error _, alike⟩

theorem pairs_logAll (lawful : L.Lawful) (ns : List Note) : L.Pairs Eq (Run.logAll ns) (Run.logAll ns) := by
  induction ns with
  | nil => exact pairs_pure rfl
  | cons n ns ih => exact pairs_bind_same (pairs_log lawful n) fun _ => ih

/-! ## The registry read -/

section Reading

variable {r : Registry σ κ π} {r' : Registry σ' κ' π'}

theorem Registries.resolve (h : L.Registries r r') (identity : Value) :
    Agree L.Entries (r.resolve identity) (r'.resolve identity) := by
  have found := (h.entries.find identity).lift
  unfold Registry.resolve Registry.find
  revert found
  generalize (liftM (r.entries.find identity) : Except Failure _) = a
  generalize (liftM (r'.entries.find identity) : Except Failure _) = b
  intro found
  cases found with
  | error f => exact .error _
  | ok same =>
    cases same with
    | some alike => exact .ok alike
    | none => exact .error _

theorem Entries.identity (lawful : L.Lawful) {e : Entry κ π} {e' : Entry κ' π'} (h : L.Entries e e') :
    e'.identity = e.identity := by
  obtain ⟨p, same⟩ := lawful.config h.config
  rw [Entry.identity, same]
  rfl

theorem Entries.schema (lawful : L.Lawful) {e : Entry κ π} {e' : Entry κ' π'} (h : L.Entries e e') (name : Value) :
    e'.schema name = e.schema name := by
  unfold Entry.schema
  rw [h.schemas, h.identity lawful]

theorem Entries.addSchema {e : Entry κ π} {e' : Entry κ' π'} (h : L.Entries e e') (name : Value) (s : Registered) :
    L.Entries (e.addSchema name s) (e'.addSchema name s) :=
  ⟨h.config, congrArg (Keyed.put · name s) h.schemas, h.pool, h.conn⟩

theorem Entries.keeping {e : Entry κ π} {e' : Entry κ' π'} (h : L.Entries e e') {c : κ} {c' : κ'}
    (opened : L.conn c c') : L.Entries { e with conn := some c } { e' with conn := some c' } :=
  ⟨h.config, h.schemas, h.pool, .some opened⟩

theorem pairs_resolved (identity : Value) :
    L.Pairs L.Entries (Registry.resolved identity) (Registry.resolved identity) :=
  pairs_bind pairs_registry fun _ _ alike => pairs_lift (alike.resolve identity)

end Reading

/-! ## Registering -/

/-- Configurations handed over alike are read alike. -/
inductive Given (L : Likeness σ κ π σ' κ' π') : Registry.ConfigGiven → Registry.ConfigGiven → Prop
  | built {c c' : Config} (h : L.config c c') : Given L (.built c) (.built c')
  | value {v v' : Value} (notes : (Config.ofValue v').1 = (Config.ofValue v).1)
      (config : Agree L.config (Config.ofValue v).2 (Config.ofValue v').2) : Given L (.value v) (.value v')

theorem pairs_configOf (lawful : L.Lawful) {c c' : Registry.ConfigGiven} (given : L.Given c c') :
    L.Pairs L.config (Registry.configOf c) (Registry.configOf c') := by
  cases given with
  | built h => exact pairs_pure h
  | value notes config =>
    unfold Registry.configOf
    dsimp only
    rw [notes]
    exact pairs_bind_same (pairs_logAll lawful _) fun _ => pairs_lift config

theorem pairs_checkFree (identity : Value) :
    L.Pairs Eq (Registry.checkFree identity) (Registry.checkFree identity) := by
  unfold Registry.checkFree
  cases identity.isTruthy with
  | false => exact pairs_fail _
  | true =>
    refine pairs_bind pairs_registry fun r r' alike => ?_
    refine pairs_bind (pairs_lift (alike.entries.find identity).lift) fun found found' same => ?_
    cases same with
    | some _ => exact pairs_fail _
    | none => exact pairs_pure rfl

theorem pairs_poolOf (lawful : L.Lawful) {c c' : Config} (h : L.config c c') :
    L.Pairs (Option.Rel L.pool) (Registry.poolOf c) (Registry.poolOf c') := by
  obtain ⟨p, rfl⟩ := lawful.config h
  unfold Registry.poolOf
  dsimp only
  cases c.pool.isTruthy with
  | false => exact pairs_pure .none
  | true => exact pairs_bind (pairs_call (lawful.createPool h)) fun _ _ made => pairs_pure (.some made)

theorem pairs_register (lawful : L.Lawful) {c c' : Registry.ConfigGiven} (given : L.Given c c')
    (schemas : Description) : L.Pairs Eq (Registry.register c schemas) (Registry.register c' schemas) := by
  refine pairs_bind (pairs_configOf lawful given) fun c c' config => ?_
  have differ := lawful.config config
  obtain ⟨p, rfl⟩ := differ
  refine pairs_bind_same (pairs_checkFree c.identity) fun _ => ?_
  refine pairs_bind_same (pairs_lift_same _) fun ss => ?_
  refine pairs_bind (pairs_poolOf lawful config) fun pool pool' made => ?_
  refine pairs_bind_same (pairs_update c.identity ⟨config, rfl, made, .none⟩) fun _ => ?_
  refine pairs_bind_same (pairs_lift_same _) fun names => ?_
  exact pairs_bind_same (pairs_log lawful _) fun _ => pairs_pure rfl

theorem pairs_addSchema (identity name : Value) (s : Registered) :
    L.Pairs Eq (Registry.addSchema identity name s) (Registry.addSchema identity name s) := by
  refine pairs_bind (pairs_resolved identity) fun e e' alike => ?_
  cases name.isKey with
  | true => exact pairs_update identity (alike.addSchema name s)
  | false => exact pairs_fail _

/-! ## Closing and tearing down -/

theorem pairs_enginesError? {x : Run σ κ π Unit} {y : Run σ' κ' π' Unit} (hx : L.Pairs Eq x y) :
    L.Pairs Eq (Registry.enginesError? x) (Registry.enginesError? y) := by
  refine pairs_bind (pairs_attempt hx) fun r s same => ?_
  cases same with
  | ok _ => exact pairs_pure rfl
  | error e =>
    cases e with
    | broken f => exact pairs_fail _
    | refused e =>
      dsimp only
      cases e.isDriver with
      | true => exact pairs_pure rfl
      | false => exact pairs_fail _

theorem pairs_release {Q : α → β → Prop} {held : Option α} {held' : Option β} (alike : Option.Rel Q held held')
    {close : Driver σ κ π → α → σ → Except Failure Unit × σ}
    {close' : Driver σ' κ' π' → β → σ' → Except Failure Unit × σ'}
    (closes : ∀ a b, Q a b → L.Calls Eq (fun d => close d a) fun d => close' d b) :
    L.Pairs Eq (Registry.release held close) (Registry.release held' close') := by
  cases alike with
  | none => exact pairs_pure rfl
  | some q => exact pairs_enginesError? (pairs_call (closes _ _ q))

theorem pairs_closeHeld (lawful : L.Lawful) {e : Entry κ π} {e' : Entry κ' π'} (alike : L.Entries e e') :
    L.Pairs Eq (Registry.closeHeld e) (Registry.closeHeld e') := by
  refine pairs_bind_same (pairs_release alike.conn fun _ _ => lawful.close) fun first => ?_
  refine pairs_bind_same (pairs_release alike.pool fun _ _ => lawful.dispose) fun second => ?_
  cases first.or second with
  | none => exact pairs_pure rfl
  | some e => exact pairs_fail _

theorem pairs_closeRemoved (lawful : L.Lawful) (identity : Value) {e : Entry κ π} {e' : Entry κ' π'}
    (alike : L.Entries e e') :
    L.Pairs Eq (Registry.closeRemoved identity e) (Registry.closeRemoved identity e') := by
  refine pairs_bind_same (pairs_enginesError? (pairs_closeHeld lawful alike)) fun first => ?_
  cases first <;> exact pairs_bind_same (pairs_log lawful _) fun _ => pairs_pure rfl

theorem pairs_tearDownEach (lawful : L.Lawful) {es : List (Value × Entry κ π)} {es' : List (Value × Entry κ' π')}
    (alike : List.Forall₂ (fun a b => a.1 = b.1 ∧ L.Entries a.2 b.2) es es') :
    L.Pairs Eq (Registry.tearDownEach es) (Registry.tearDownEach es') := by
  induction alike with
  | nil => exact pairs_pure rfl
  | @cons a b _ _ ab rest ih =>
    obtain ⟨identity, e⟩ := a
    obtain ⟨_, e'⟩ := b
    obtain ⟨rfl, ab⟩ := ab
    refine pairs_bind_same (pairs_changeRegistry fun _ _ h => ⟨h.first, h.second, rest⟩) fun _ => ?_
    refine pairs_bind_same (pairs_closeRemoved lawful identity ab) fun first => ?_
    exact pairs_bind_same ih fun later => pairs_pure rfl

theorem pairs_report (e : Option Error) : L.Pairs Eq (Registry.report e) (Registry.report e) := by
  cases e with
  | none => exact pairs_pure rfl
  | some e => exact pairs_fail _

theorem pairs_tearDownOne (lawful : L.Lawful) (identity : Value) {e : Entry κ π} {e' : Entry κ' π'}
    (alike : L.Entries e e') : L.Pairs Eq (Registry.tearDownOne identity e) (Registry.tearDownOne identity e') := by
  have removes : L.Pairs Eq (Run.changeRegistry fun r => r.remove identity)
      (Run.changeRegistry fun r => r.remove identity) :=
    pairs_changeRegistry fun _ _ h => ⟨h.first, h.second, h.entries.erase identity⟩
  exact pairs_bind_same removes fun _ => pairs_closeRemoved lawful identity alike

theorem pairs_teardown (lawful : L.Lawful) (identity : Value) :
    L.Pairs Eq (Registry.teardown identity) (Registry.teardown identity) := by
  refine pairs_bind pairs_registry fun r r' alike => ?_
  cases identity.isNull with
  | true => exact pairs_bind_same (pairs_tearDownEach lawful alike.entries) pairs_report
  | false =>
    refine pairs_bind (pairs_lift (alike.entries.find identity).lift) fun found found' same => ?_
    cases same with
    | some entry => exact pairs_bind_same (pairs_tearDownOne lawful identity entry) pairs_report
    | none => exact pairs_log lawful _

/-! ## Statements -/

section Statements

variable {identity schemaName : Value} {e : Entry κ π} {e' : Entry κ' π'}

theorem pairs_openKept (lawful : L.Lawful) (identity : Value) (alike : L.Entries e e') :
    L.Pairs L.conn (Dispatcher.openKept identity e) (Dispatcher.openKept identity e') := by
  refine pairs_bind (pairs_call (lawful.connect alike.config)) fun c c' opened => ?_
  refine pairs_bind pairs_registry fun r r' registries => ?_
  rw [registries.first, registries.second, lawful.opened]
  refine pairs_bind_same (pairs_logAll lawful _) fun _ => ?_
  refine pairs_bind_same (pairs_update identity (alike.keeping opened)) fun _ => ?_
  exact pairs_bind_same (pairs_log lawful _) fun _ => pairs_pure opened

/-- What is alike with any two connections that are alike is alike with those of the entries. -/
theorem pairs_withConnection (lawful : L.Lawful) (alike : L.Entries e e') {Q : α → β → Prop}
    {body : κ → Run σ κ π α} {body' : κ' → Run σ' κ' π' β}
    (run : ∀ c c', L.conn c c' → L.Pairs Q (body c) (body' c')) :
    L.Pairs Q (Dispatcher.withConnection identity e body) (Dispatcher.withConnection identity e' body') := by
  have opens := pairs_openKept lawful identity alike
  obtain ⟨config, schemas, pool, conn⟩ := e
  obtain ⟨config', schemas', pool', conn'⟩ := e'
  obtain ⟨_, _, pools, conns⟩ := alike
  unfold Dispatcher.withConnection
  dsimp only at pools conns ⊢
  cases pools with
  | some p =>
    refine pairs_bind (pairs_call (lawful.acquire p)) fun c c' acquired => ?_
    exact pairs_ensure (run c c' acquired) (pairs_call (lawful.close acquired))
  | none =>
    cases conns with
    | some c => exact run _ _ c
    | none => exact pairs_bind opens run

theorem pairs_classify (lawful : L.Lawful) (dp : Dispatcher) (e : Error) :
    L.Pairs Eq (dp.classify e) (dp.classify e) := by
  refine pairs_bind_same (pairs_lift_same _) fun warns => ?_
  cases warns with
  | true => exact pairs_bind_same (pairs_log lawful _) fun _ => pairs_pure rfl
  | false => exact pairs_pure rfl

theorem pairs_answer (lawful : L.Lawful) (dp : Dispatcher) (st : Statement) (r : Except Failure Dispatcher.Rows) :
    L.Pairs Eq (dp.answer identity schemaName st r) (dp.answer identity schemaName st r) := by
  unfold Dispatcher.answer
  split
  · exact pairs_pure rfl
  · exact pairs_fail _
  · next e =>
    cases e.isDriver with
    | true => exact pairs_bind_same (pairs_log lawful _) fun _ => pairs_classify lawful dp _
    | false => exact pairs_pure rfl

end Statements

end Likeness

/-- The dispatcher with another listener, or with none. -/
def Dispatcher.withListener (dp : Dispatcher) (l : Option Listener) : Dispatcher := { dp with listener := l }

namespace Likeness

variable {L : Likeness σ κ π σ' κ' π'}

/-- The scope of a statement may be bound. -/
def Names (L : Likeness σ κ π σ' κ' π') (identity schemaName : Value) : Prop :=
  ∀ e ∈ Bindings.present (Dispatcher.scopeOf identity schemaName), L.binds e

/-- Dispatchers that differ at most in the listener run a statement alike, when they run it alike on any two
connections that are alike. -/
theorem pairs_execute (lawful : L.Lawful) {dp : Dispatcher} {l : Option Listener} {st : Statement}
    (runs : ∀ c c', L.conn c c' → L.Pairs Eq (dp.runOn st c) ((dp.withListener l).runOn st c'))
    {identity schemaName : Value} (names : L.Names identity schemaName) :
    L.Pairs Eq (dp.execute identity st schemaName) ((dp.withListener l).execute identity st schemaName) := by
  refine pairs_binding names (pairs_bind (pairs_settle (pairs_resolved identity)) fun r r' resolved => ?_)
  cases resolved with
  | error e => exact pairs_pure rfl
  | ok entry =>
    refine pairs_bind (pairs_attempt (pairs_withConnection lawful entry runs)) fun r r' tried => ?_
    rw [tried.eq]
    exact pairs_answer lawful dp st r

end Likeness

end TableGateway
