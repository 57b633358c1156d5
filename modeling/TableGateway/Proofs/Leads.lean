import TableGateway.Gateway

/-!
# Where runs lead

A relation between worlds holds across a run when it holds across the parts of the run, as long as it is transitive
and sees nothing of what is only logged, bound or heard (`Follows`). `Leads R x` says that `x` leads from every world
to a related one, however it ends.

- **`leads_bind_of`**, **`leads_binding`**, **`leads_settle`**: the relation follows the way runs are put together;
- **`leads_register`**, **`leads_teardown`**, **`leads_withConnection`**, ...: what changes the registry or calls the
  driver leads where its calls and its changes lead;
- **`Quiet`**: most parts of an operation only read the registry and log; they lead to a related world whatever the
  relation (`Quiet.leads`).
-/

namespace TableGateway

variable {σ κ π α β : Type}

/-- The second world differs from the first at most in what is logged, bound and heard. -/
structure World.Alike (w v : World σ κ π) : Prop where
  engine : v.engine = w.engine
  registry : v.registry = w.registry
  writes : v.writes = w.writes

/-- The journal takes these notes, with what is bound now. -/
def World.Takes (w : World σ κ π) (notes : Note → Prop) : Prop := ∀ n, notes n → w.writes ⟨n, w.bound⟩ = .ok ()

theorem World.Takes.congr {w v : World σ κ π} {notes : Note → Prop} (h : w.Takes notes) (writes : v.writes = w.writes)
    (bound : v.bound = w.bound) : v.Takes notes := by
  intro n among
  rw [writes, bound]
  exact h n among

theorem World.Takes.mono {w : World σ κ π} {notes notes' : Note → Prop} (h : w.Takes notes)
    (fewer : ∀ n, notes' n → notes n) : w.Takes notes' :=
  fun n among => h n (fewer n among)

/-- The relation can be followed through a run. -/
structure Follows (R : World σ κ π → World σ κ π → Prop) : Prop where
  alike : ∀ {w v}, w.Alike v → R w v
  trans : ∀ {u v w}, R u v → R v w → R u w

namespace World.Alike

theorem refl (w : World σ κ π) : w.Alike w := ⟨rfl, rfl, rfl⟩

theorem trans {u v w : World σ κ π} (h : u.Alike v) (g : v.Alike w) : u.Alike w :=
  ⟨g.engine.trans h.engine, g.registry.trans h.registry, g.writes.trans h.writes⟩

theorem follows : Follows (World.Alike (σ := σ) (κ := κ) (π := π)) := ⟨id, trans⟩

end World.Alike

/-- The relation holds across every call to the driver but the opening of a connection. -/
structure FollowsCalls (R : World σ κ π → World σ κ π → Prop) : Prop where
  createPool : ∀ cs w, R w ((Run.call fun d => d.createPool cs).run w).2
  acquire : ∀ p w, R w ((Run.call fun d => d.acquire p).run w).2
  query : ∀ c sql params w, R w ((Run.call fun d => d.query c sql params).run w).2
  close : ∀ c w, R w ((Run.call fun d => d.close c).run w).2
  dispose : ∀ p w, R w ((Run.call fun d => d.dispose p).run w).2

/-- No call to the driver changes the registry. -/
theorem FollowsCalls.of_registry {R : World σ κ π → World σ κ π → Prop}
    (h : ∀ {w v : World σ κ π}, v.registry = w.registry → R w v) : FollowsCalls R :=
  ⟨fun _ _ => h rfl, fun _ _ => h rfl, fun _ _ _ _ => h rfl, fun _ _ => h rfl, fun _ _ => h rfl⟩

theorem Follows.refl {R : World σ κ π → World σ κ π → Prop} (h : Follows R) (w : World σ κ π) : R w w :=
  h.alike (.refl w)

/-- What every world keeps by itself can be followed, when it depends on the engine, the registry and the journal's
rules alone. -/
theorem follows_of_invariant {I : World σ κ π → Prop} (h : ∀ {w v : World σ κ π}, w.Alike v → I w → I v) :
    Follows (fun w v => I w → I v) :=
  ⟨h, fun g k i => k (g i)⟩

namespace Run

/-- The run leads from every world to a related one, however it ends. -/
def Leads (R : World σ κ π → World σ κ π → Prop) (x : Run σ κ π α) : Prop := ∀ w, R w (x.run w).2

/-- The run neither calls the driver nor changes the registry. -/
def Quiet (x : Run σ κ π α) : Prop := Leads World.Alike x

theorem Quiet.leads {R : World σ κ π → World σ κ π → Prop} {x : Run σ κ π α} (q : Quiet x) (h : Follows R) :
    Leads R x :=
  fun w => h.alike (q w)

/-! ## How runs are put together -/

section Combining

variable {R : World σ κ π → World σ κ π → Prop}

/-- The second part starts in a world to which the first one led, with what it answered. -/
theorem leads_bind_of (h : Follows R) {x : Run σ κ π α} {f : α → Run σ κ π β} (hx : Leads R x)
    (hf : ∀ w a v, x.run w = (.ok a, v) → R v ((f a).run v).2) : Leads R (x >>= f) := by
  intro w
  have first := hx w
  rw [run_bind]
  cases e : x.run w with
  | mk r v =>
    rw [e] at first
    cases r with
    | ok a => exact h.trans first (hf w a v e)
    | error _ => exact first

theorem leads_bind (h : Follows R) {x : Run σ κ π α} {f : α → Run σ κ π β} (hx : Leads R x)
    (hf : ∀ a, Leads R (f a)) : Leads R (x >>= f) :=
  leads_bind_of h hx fun _ a v _ => hf a v

/-- What a run answers may be dropped. -/
theorem leads_dropped (h : Follows R) {x : Run σ κ π α} (hx : Leads R x) : Leads R (do let _ ← x) :=
  leads_bind h hx fun _ _ => h.alike ⟨rfl, rfl, rfl⟩

theorem snd_settle (x : Run σ κ π α) (w : World σ κ π) : ((settle x).run w).2 = (x.run w).2 := by
  simp only [settle]
  split <;> rfl

theorem leads_settle {x : Run σ κ π α} (hx : Leads R x) : Leads R (settle x) := by
  intro w
  rw [snd_settle]
  exact hx w

theorem snd_bind_pure (x : Run σ κ π α) (f : α → β) (w : World σ κ π) :
    ((do return f (← x)).run w).2 = (x.run w).2 := by
  rw [run_bind]
  cases x.run w with
  | mk r v => cases r <;> rfl

theorem fst_lift_bind (r : Except Failure α) (f : α → Run σ κ π β) (w : World σ κ π) :
    ((lift r >>= f).run w).1 = r.bind fun a => ((f a).run w).1 := by
  cases r <;> rfl

theorem snd_ensure (x : Run σ κ π α) (after : Run σ κ π Unit) (w : World σ κ π) :
    ((ensure x after).run w).2 = (after.run (x.run w).2).2 := by
  unfold ensure
  dsimp only
  split <;> simp_all

theorem leads_ensure (h : Follows R) {x : Run σ κ π α} {after : Run σ κ π Unit} (hx : Leads R x)
    (hafter : Leads R after) : Leads R (ensure x after) := by
  intro w
  rw [snd_ensure]
  exact h.trans (hx w) (hafter _)

theorem leads_binding (h : Follows R) (given : List (String × Value)) {x : Run σ κ π α} (hx : Leads R x) :
    Leads R (binding given x) := by
  intro w
  have inside := hx { w with bound := w.bound.enter given }
  have before : R w { w with bound := w.bound.enter given } := h.alike ⟨rfl, rfl, rfl⟩
  exact h.trans before (h.trans inside (h.alike ⟨rfl, rfl, rfl⟩))

end Combining

/-! ## Quiet runs -/

theorem quiet_pure (a : α) : Quiet (pure a : Run σ κ π α) := fun w => .refl w

theorem quiet_fail (e : Failure) : Quiet (fail e : Run σ κ π α) := fun w => .refl w

theorem quiet_lift (r : Except Failure α) : Quiet (lift r : Run σ κ π α) := fun w => .refl w

theorem quiet_world : Quiet (world : Run σ κ π _) := fun w => .refl w

theorem quiet_registry : Quiet (registry : Run σ κ π _) := fun w => .refl w

theorem quiet_bind {x : Run σ κ π α} {f : α → Run σ κ π β} (hx : Quiet x) (hf : ∀ a, Quiet (f a)) :
    Quiet (x >>= f) :=
  leads_bind World.Alike.follows hx hf

theorem quiet_settle {x : Run σ κ π α} (hx : Quiet x) : Quiet (settle x) := leads_settle hx

theorem quiet_log (n : Note) : Quiet (log n : Run σ κ π Unit) := by
  intro w
  unfold log
  dsimp only
  split
  · exact ⟨rfl, rfl, rfl⟩
  · exact .refl w

/-- Only the journal's refusal makes logging fail, which is a fault. -/
theorem fst_log (n : Note) (w : World σ κ π) :
    ((log n).run w).1 = .ok () ∨ ∃ l f, w.writes l = .error f ∧ ((log n).run w).1 = .error (.broken f) := by
  unfold log
  dsimp only
  split
  · exact Or.inl rfl
  · next f refused => exact Or.inr ⟨_, f, refused, rfl⟩

theorem quiet_logAll (ns : List Note) : Quiet (logAll ns : Run σ κ π Unit) := by
  induction ns with
  | nil => exact quiet_pure ()
  | cons n ns ih => exact quiet_bind (quiet_log n) fun _ => ih

/-- When the journal takes the notes, logging them ends well. -/
theorem run_logAll_ok {ns : List Note} {w : World σ κ π} (h : ∀ n ∈ ns, w.writes ⟨n, w.bound⟩ = .ok ()) :
    ∃ v, (logAll ns).run w = (.ok (), v) ∧ w.Alike v := by
  induction ns generalizing w with
  | nil => exact ⟨w, rfl, .refl w⟩
  | cons n ns ih =>
    have first := run_log (h n (.head _))
    obtain ⟨v, hv, hw⟩ := ih (w := { w with journal := w.journal ++ [⟨n, w.bound⟩] }) fun m hm => h m (.tail _ hm)
    exact ⟨v, by rw [logAll, run_bind_ok first, hv], ⟨hw.engine, hw.registry, hw.writes⟩⟩

end Run

/-! ## The registry read -/

namespace Registry

theorem run_resolved (identity : Value) (w : World σ κ π) :
    (resolved identity).run w = (w.registry.resolve identity, w) := rfl

/-- What follows an entry follows the registry's. -/
theorem fst_resolved_bind (identity : Value) (f : Entry κ π → Run σ κ π α) (w : World σ κ π) :
    ((resolved identity >>= f).run w).1 = (w.registry.resolve identity).bind fun e => ((f e).run w).1 := by
  rw [Run.run_bind, run_resolved]
  cases w.registry.resolve identity <;> rfl

/-- What is resolved is the entry in the registry. -/
theorem resolve_of_settled {identity : Value} {w v : World σ κ π} {e : Entry κ π}
    (h : (Run.settle (resolved identity)).run w = (.ok (.ok e), v)) :
    v = w ∧ w.registry.resolve identity = .ok e := by
  have still := congrArg Prod.snd h
  rw [Run.snd_settle, run_resolved] at still
  refine ⟨still.symm, ?_⟩
  simp only [Run.settle, run_resolved] at h
  revert h
  cases w.registry.resolve identity with
  | ok e' => intro h; cases h; rfl
  | error f => cases f <;> (intro h; cases h)

theorem quiet_resolved (identity : Value) : Run.Quiet (resolved identity : Run σ κ π _) :=
  Run.quiet_bind Run.quiet_registry fun _ => Run.quiet_lift _

theorem quiet_configOf (given : ConfigGiven) : Run.Quiet (configOf given : Run σ κ π _) := by
  cases given with
  | built c => exact Run.quiet_pure c
  | value v => exact Run.quiet_bind (Run.quiet_logAll _) fun _ => Run.quiet_lift _

theorem quiet_report (e : Option Error) : Run.Quiet (report e : Run σ κ π _) := by
  cases e with
  | none => exact Run.quiet_pure ()
  | some e => exact Run.quiet_fail _

theorem quiet_checkFree (identity : Value) : Run.Quiet (checkFree identity : Run σ κ π _) := by
  unfold checkFree
  split
  · refine Run.quiet_bind Run.quiet_registry fun r => Run.quiet_bind (Run.quiet_lift _) fun found => ?_
    cases found with
    | none => exact Run.quiet_pure ()
    | some e => exact Run.quiet_fail _
  · exact Run.quiet_fail _

/-- A free identity is not registered. -/
theorem run_checkFree_ok {identity : Value} {w v : World σ κ π} (h : (checkFree identity).run w = (.ok (), v)) :
    v = w ∧ w.registry.entries.lookup identity = none := by
  unfold checkFree at h
  split at h
  · rw [Run.run_bind_ok (Run.run_registry w), Run.run_bind, Run.run_lift, find, Keyed.find] at h
    by_cases key : identity.isKey = true
    · rw [if_pos key] at h
      cases found : w.registry.entries.lookup identity with
      | some e => rw [found] at h; cases h
      | none => rw [found] at h; cases h; exact ⟨rfl, rfl⟩
    · rw [if_neg key] at h; cases h
  · cases h

/-! ## Closing -/

theorem snd_enginesError? (x : Run σ κ π Unit) (w : World σ κ π) : ((enginesError? x).run w).2 = (x.run w).2 := by
  unfold enginesError?
  rw [Run.run_bind_ok (Run.run_attempt x w)]
  split
  · rfl
  · split <;> rfl
  · rfl

section Closing

variable {R : World σ κ π → World σ κ π → Prop} {identity : Value} {e : Entry κ π}

theorem leads_release (h : Follows R) {held : Option α} {close : Driver σ κ π → α → σ → Except Failure Unit × σ}
    (closes : ∀ a, held = some a → Run.Leads R (Run.call fun d => close d a)) : Run.Leads R (release held close) := by
  cases held with
  | none => exact (Run.quiet_pure _).leads h
  | some a =>
    intro w
    rw [release, snd_enginesError?]
    exact closes a rfl w

/-- Closing what an entry held leads where the calls on it lead. -/
theorem leads_closeHeld_of (h : Follows R)
    (closes : ∀ c, e.conn = some c → Run.Leads R (Run.call fun d => d.close c))
    (disposes : ∀ p, e.pool = some p → Run.Leads R (Run.call fun d => d.dispose p)) : Run.Leads R (closeHeld e) := by
  refine Run.leads_bind h (leads_release h closes) fun first => ?_
  refine Run.leads_bind h (leads_release h disposes) fun second => ?_
  split
  · exact (Run.quiet_pure _).leads h
  · exact (Run.quiet_fail _).leads h

theorem leads_closeHeld (h : Follows R) (calls : FollowsCalls R) : Run.Leads R (closeHeld e) :=
  leads_closeHeld_of h (fun c _ => calls.close c) fun p _ => calls.dispose p

/-- Without a pool, closing what an entry held is closing its connection. -/
theorem snd_closeHeld_of_noPool (noPool : e.pool = none) (w : World σ κ π) :
    ((closeHeld e).run w).2 = ((release e.conn Driver.close).run w).2 := by
  unfold closeHeld
  rw [noPool, Run.run_bind]
  cases (release e.conn Driver.close).run w with
  | mk r v =>
    cases r with
    | error f => rfl
    | ok first => cases first <;> rfl

/-- Without a connection, it is closing its pool. -/
theorem snd_closeHeld_of_noConn (noConn : e.conn = none) (w : World σ κ π) :
    ((closeHeld e).run w).2 = ((release e.pool Driver.dispose).run w).2 := by
  unfold closeHeld
  rw [noConn, release, Run.run_bind_ok (Run.run_pure none w), Run.run_bind]
  cases (release e.pool Driver.dispose).run w with
  | mk r v =>
    cases r with
    | error f => rfl
    | ok second => cases second <;> rfl

/-- Closing what a removed entry held leads where closing it leads; the rest is told to the journal. -/
theorem alike_closeRemoved (identity : Value) (e : Entry κ π) (w : World σ κ π) :
    ((closeHeld e).run w).2.Alike ((closeRemoved identity e).run w).2 := by
  unfold closeRemoved
  rw [Run.run_bind, ← snd_enginesError?]
  cases (enginesError? (closeHeld e)).run w with
  | mk r v =>
    cases r with
    | error f => exact .refl v
    | ok first => cases first <;> exact (Run.quiet_bind (Run.quiet_log _) fun _ => Run.quiet_pure _) v

/-- Closing leaves the registry as it is. -/
theorem closeRemoved_registry (identity : Value) (e : Entry κ π) :
    Run.Leads (fun w v : World σ κ π => v.registry = w.registry) (closeRemoved identity e) := by
  have follows : Follows (fun w v : World σ κ π => v.registry = w.registry) :=
    ⟨fun a => a.registry, fun h g => g.trans h⟩
  intro w
  rw [(alike_closeRemoved identity e w).registry]
  exact leads_closeHeld follows (.of_registry fun same => same) w

/-- Tearing all entries down leads where tearing down the first of some leads. -/
theorem leads_tearDownEach (h : Follows R)
    (first : ∀ (w : World σ κ π) identity e es, w.registry.entries.entries = (identity, e) :: es →
      R w ((closeRemoved identity e).run { w with registry := { w.registry with entries := ⟨es⟩ } }).2)
    (es : List (Value × Entry κ π)) (w : World σ κ π) (entries : w.registry.entries.entries = es) :
    R w ((tearDownEach es).run w).2 := by
  -- The entries still to be torn down are those that the registry holds.
  induction es generalizing w with
  | nil => exact h.refl w
  | cons a es ih =>
    obtain ⟨identity, e⟩ := a
    have removed := first w identity e es entries
    have left := closeRemoved_registry identity e { w with registry := { w.registry with entries := ⟨es⟩ } }
    rw [tearDownEach, Run.run_bind_ok (Run.run_changeRegistry _ w), Run.run_bind]
    revert removed left
    cases (closeRemoved identity e).run { w with registry := { w.registry with entries := ⟨es⟩ } } with
    | mk r v =>
      intro removed left
      cases r with
      | error f => exact removed
      | ok one =>
        have later := ih v (congrArg (fun r => r.entries.entries) left)
        refine h.trans removed ?_
        show R v ((do return one.or (← tearDownEach es) : Run σ κ π _).run v).2
        rw [Run.snd_bind_pure]
        exact later

/-- A teardown leads where the teardown of all entries or of the one leads. -/
theorem leads_teardown (h : Follows R)
    (all : identity.isNull = true → ∀ w : World σ κ π, R w ((tearDownEach w.registry.entries.entries).run w).2)
    (one : ∀ (w : World σ κ π) e, w.registry.entries.lookup identity = some e →
      R w ((tearDownOne identity e).run w).2) : Run.Leads R (teardown identity) := by
  have reported (w : World σ κ π) (x : Run σ κ π (Option Error)) (hx : R w (x.run w).2) :
      R w ((x >>= report).run w).2 := by
    rw [Run.run_bind]
    revert hx
    cases x.run w with
    | mk r v =>
      intro hx
      cases r with
      | ok first => exact h.trans hx (h.alike (quiet_report first v))
      | error f => exact hx
  intro w
  rw [teardown, Run.run_bind_ok (Run.run_registry w)]
  split
  · next every => exact reported w _ (all every w)
  · by_cases key : identity.isKey = true
    · rw [Run.run_bind, Run.run_lift, find, Keyed.find, if_pos key]
      cases found : w.registry.entries.lookup identity with
      | some e => exact reported w _ (one w e found)
      | none => exact h.alike (Run.quiet_log _ w)
    · rw [Run.run_bind, Run.run_lift, find, Keyed.find, if_neg key]
      exact h.refl w

end Closing

/-! ## Entries that come and change -/

section Changing

variable {R : World σ κ π → World σ κ π → Prop} {identity : Value}

theorem leads_addSchema (h : Follows R) {name : Value} {s : Registered}
    (adds : ∀ (w : World σ κ π) e, w.registry.resolve identity = .ok e →
      R w { w with registry := w.registry.update identity (e.addSchema name s) }) :
    Run.Leads R (addSchema identity name s) := by
  refine Run.leads_bind_of h ((quiet_resolved identity).leads h) fun w e v resolved => ?_
  rw [run_resolved] at resolved
  obtain ⟨found, rfl⟩ := Prod.mk.inj resolved
  split
  · exact adds w e found
  · exact h.refl w

theorem leads_closeEntry (h : Follows R) (calls : FollowsCalls R)
    (bares : ∀ (w : World σ κ π) e, w.registry.resolve identity = .ok e →
      R w { w with registry := w.registry.update identity e.bare }) : Run.Leads R (closeEntry identity) := by
  refine Run.leads_bind_of h ((quiet_resolved identity).leads h) fun w e v resolved => ?_
  rw [run_resolved] at resolved
  obtain ⟨found, rfl⟩ := Prod.mk.inj resolved
  rw [Run.run_bind_ok (Run.run_changeRegistry _ w)]
  exact h.trans (bares w e found) (leads_closeHeld h calls _)

/-- A registration leads where making the pool leads and, if that ends well, adding the entry after it. -/
theorem leads_register_of (h : Follows R) {schemas : Description}
    (adds : ∀ (w : World σ κ π) (c : Config) ss, coerceSchemas schemas = .ok ss →
      w.registry.entries.lookup c.identity = none → match (poolOf c).run w with
      | (.error _, v) => R w v
      | (.ok pool, v) =>
        let e := { config := c, schemas := ss.map .schema, pool := pool }
        R w { v with registry := v.registry.update c.identity e })
    (given : ConfigGiven) : Run.Leads R (register given schemas) := by
  refine Run.leads_bind h ((quiet_configOf given).leads h) fun c => ?_
  refine Run.leads_bind_of h ((quiet_checkFree c.identity).leads h) fun v _ w free => ?_
  obtain ⟨rfl, absent⟩ := run_checkFree_ok free
  rw [Run.run_bind, Run.run_lift]
  cases coerced : coerceSchemas schemas with
  | error f => exact h.refl w
  | ok ss =>
    have added := adds w c ss coerced absent
    have rest : Run.Quiet (do
        let names ← Run.lift (liftM (Value.sort ss.keys))
        Run.log (registeredNote c names)
        return c.identity : Run σ κ π _) :=
      Run.quiet_bind (Run.quiet_lift _) fun _ => Run.quiet_bind (Run.quiet_log _) fun _ => Run.quiet_pure _
    dsimp only
    rcases made : (poolOf c).run w with ⟨r, u⟩
    rw [made] at added
    cases r with
    | error f =>
      rw [Run.run_bind_error made]
      exact added
    | ok pool =>
      rw [Run.run_bind_ok made, Run.run_bind_ok (Run.run_changeRegistry _ u)]
      exact h.trans added (h.alike (rest _))

theorem leads_register (h : Follows R) (calls : FollowsCalls R)
    (adds : ∀ (w : World σ κ π) (c : Config) (ss : Keyed Registered) pool,
      w.registry.entries.lookup c.identity = none →
      R w { w with registry := w.registry.update c.identity { config := c, schemas := ss, pool := pool } })
    (given : ConfigGiven) (schemas : Description) : Run.Leads R (register given schemas) := by
  refine leads_register_of h (fun w c ss _ absent => ?_) given
  unfold poolOf
  by_cases asks : c.pool.isTruthy = true
  · have made := calls.createPool c.connectionString w
    rw [if_pos asks, Run.run_bind]
    generalize called : (Run.call fun d => d.createPool c.connectionString).run w = result at made
    have still : result.2.registry = w.registry := by rw [← called]; rfl
    obtain ⟨r, u⟩ := result
    cases r with
    | error f => exact made
    | ok p =>
      refine h.trans made (adds u c (ss.map .schema) (some p) ?_)
      rw [still]
      exact absent
  · rw [if_neg asks]
    exact adds w c (ss.map .schema) none absent

end Changing

end Registry

/-! ## Statements told and answered -/

namespace Dispatcher

theorem quiet_announce (d : Dispatcher) (s : Statement) : Run.Quiet (d.announce s : Run σ κ π _) := by
  refine Run.quiet_bind (Run.quiet_log _) fun _ => ?_
  cases d.listener with
  | none => exact Run.quiet_pure ()
  | some l =>
    refine Run.quiet_bind Run.quiet_world fun w => Run.quiet_bind (fun _ => ⟨rfl, rfl, rfl⟩) fun _ => ?_
    split
    · exact Run.quiet_log _
    · exact Run.quiet_pure ()

/-- The notes about a statement before it runs. -/
inductive Announces (d : Dispatcher) (s : Statement) : Note → Prop
  | executed : Announces d s (executedNote s)
  | listenerFailed {l : Listener} {heard : List String} (listens : d.listener = some l)
    (fails : l.fails heard s.sql = true) : Announces d s listenerFailedNote

/-- When the journal takes the notes about it, a statement is announced without fail. -/
theorem run_announce_ok (d : Dispatcher) (s : Statement) {w : World σ κ π} (takes : w.Takes (d.Announces s)) :
    ∃ v, (d.announce s).run w = (.ok (), v) ∧ w.Alike v := by
  refine ⟨((d.announce s).run w).2, Prod.ext ?_ rfl, quiet_announce d s w⟩
  unfold announce
  rw [Run.run_bind_ok (Run.run_log (takes _ .executed))]
  cases listens : d.listener with
  | none => rfl
  | some l =>
    dsimp only
    rw [Run.run_bind_ok (Run.run_world _), Run.run_bind_ok (Run.run_change _ _)]
    split
    · next fails =>
      rw [Run.run_log]
      exact takes _ (.listenerFailed listens fails)
    · rfl

theorem quiet_classify (d : Dispatcher) (e : Error) : Run.Quiet (d.classify e : Run σ κ π _) := by
  refine Run.quiet_bind (Run.quiet_lift _) fun warns => ?_
  split
  · exact Run.quiet_bind (Run.quiet_log _) fun _ => Run.quiet_pure _
  · exact Run.quiet_pure _

theorem quiet_answer (d : Dispatcher) (identity schemaName : Value) (s : Statement) (r : Except Failure Rows) :
    Run.Quiet (d.answer identity schemaName s r : Run σ κ π _) := by
  unfold answer
  split
  · exact Run.quiet_pure _
  · exact Run.quiet_fail _
  · split
    · exact Run.quiet_bind (Run.quiet_log _) fun _ => quiet_classify d _
    · exact Run.quiet_pure _

section Running

variable {R : World σ κ π → World σ κ π → Prop} {dp : Dispatcher} {s : Statement}

theorem leads_runOn (h : Follows R) (calls : FollowsCalls R) (c : κ) : Run.Leads R (dp.runOn s c) :=
  Run.leads_bind h ((quiet_announce dp s).leads h) fun _ => calls.query c s.sql _

/-- A run of a statement with a connection leads where getting hold of the connection does. -/
theorem leads_withConnection (h : Follows R) (calls : FollowsCalls R) {identity : Value} {e : Entry κ π}
    {w : World σ κ π} (opens : e.conn = none → R w ((openKept identity e).run w).2) :
    R w ((withConnection identity e (dp.runOn s)).run w).2 := by
  have runs (c : κ) : Run.Leads R (dp.runOn s c) := leads_runOn h calls c
  unfold withConnection
  split
  · next p _ => exact Run.leads_bind h (calls.acquire p) (fun c => Run.leads_ensure h (runs c) (calls.close c)) w
  · split
    · next c _ => exact runs c w
    · next noConn =>
      have opened := opens noConn
      rw [Run.run_bind]
      revert opened
      cases (openKept identity e).run w with
      | mk r v =>
        intro opened
        cases r with
        | ok c => exact h.trans opened (runs c v)
        | error f => exact opened

/-- Opening a connection leads where the driver leads, and where the entry leads that keeps it. -/
theorem leads_openKept_of (h : Follows R) {identity : Value} {e : Entry κ π} {w : World σ κ π}
    (connects : ∀ cs, Run.Leads R (Run.call fun d => d.connect cs))
    (keeps : ∀ (v : World σ κ π) c, v.registry = w.registry →
      R v { v with registry := v.registry.update identity { e with conn := some c } }) :
    R w ((openKept identity e).run w).2 := by
  have opened := connects e.connectionString w
  unfold openKept
  rw [Run.run_bind]
  generalize called : (Run.call fun d => d.connect e.connectionString).run w = result at opened
  have still : result.2.registry = w.registry := by rw [← called]; rfl
  obtain ⟨r, v⟩ := result
  cases r with
  | error f => exact opened
  | ok c =>
    refine h.trans opened ?_
    dsimp only
    rw [Run.run_bind_ok (Run.run_registry v), Run.run_bind]
    have logged := Run.quiet_logAll v.registry.driver.opened v
    rcases told : (Run.logAll v.registry.driver.opened).run v with ⟨q, u⟩
    rw [told] at logged
    cases q with
    | error f => exact h.alike logged
    | ok _ =>
      refine h.trans (h.alike logged) ?_
      dsimp only
      rw [Run.run_bind_ok (Run.run_changeRegistry _ u)]
      refine h.trans (keeps u c (logged.registry.trans still)) (h.alike ?_)
      exact Run.quiet_bind (Run.quiet_log _) (fun _ => Run.quiet_pure _) _

theorem leads_openKept (h : Follows R) {identity : Value} {e : Entry κ π}
    (connects : ∀ cs, Run.Leads R (Run.call fun d => d.connect cs))
    (keeps : ∀ (w : World σ κ π) c, R w { w with registry := w.registry.update identity { e with conn := some c } }) :
    Run.Leads R (openKept identity e) :=
  fun _ => leads_openKept_of h connects fun v c _ => keeps v c

end Running

/-- A dispatcher leads wherever running the statement with the entry's connection leads. -/
theorem leads_execute {R : World σ κ π → World σ κ π → Prop} (h : Follows R) {d : Dispatcher}
    {identity schemaName : Value} {s : Statement}
    (run : ∀ w e, w.registry.resolve identity = .ok e → R w ((withConnection identity e (d.runOn s)).run w).2) :
    Run.Leads R (d.execute identity s schemaName) := by
  refine Run.leads_binding h _ (Run.leads_bind_of h ((Run.quiet_settle (Registry.quiet_resolved identity)).leads h) ?_)
  intro w r v hr
  cases r with
  | error e => exact h.refl v
  | ok e =>
    obtain ⟨rfl, found⟩ := Registry.resolve_of_settled hr
    have tried := run v e found
    show R v ((d.executeFor identity schemaName s e).run v).2
    exact h.trans tried (h.alike (quiet_answer d identity schemaName s _ _))

end Dispatcher

/-! ## Operations -/

namespace Gateway

theorem quiet_answered (identity schemaName : Value) {x : Run σ κ π α} (hx : Run.Quiet x) :
    Run.Quiet (answered identity schemaName x) := by
  refine Run.quiet_bind (Run.quiet_settle hx) fun r => ?_
  cases r <;> exact Run.quiet_pure _

/-- An answer is good only when the run was. -/
theorem fst_answered_ok {identity schemaName : Value} {x : Run σ κ π α} {w : World σ κ π} {a : α}
    (h : ((answered identity schemaName x).run w).1 = .ok (.ok a)) : (x.run w).1 = .ok a := by
  rcases ended : x.run w with ⟨r, v⟩
  cases r with
  | ok b =>
    rw [answered, Run.run_bind_ok (Run.run_settle_ok ended)] at h
    cases h
    rfl
  | error f =>
    cases f with
    | refused e =>
      rw [answered, Run.run_bind_ok (Run.run_settle_refused ended)] at h
      cases h
    | broken f =>
      rw [answered, Run.run_bind_error (Run.run_settle_broken ended)] at h
      cases h

theorem quiet_registered (identity schemaName : Value) : Run.Quiet (registered identity schemaName : Run σ κ π _) :=
  Run.quiet_bind (Registry.quiet_resolved identity) fun _ => Run.quiet_lift _

theorem quiet_tableName (identity schemaName : Value) : Run.Quiet (tableName identity schemaName : Run σ κ π _) := by
  refine Run.quiet_bind (Registry.quiet_resolved identity) fun e => Run.quiet_bind (Run.quiet_lift _) fun found => ?_
  cases found with
  | none => exact Run.quiet_pure _
  | some s => exact Run.quiet_bind (Run.quiet_lift _) fun _ => Run.quiet_pure _

theorem quiet_readCatalog (table : Value) (rows : Dispatcher.Rows) :
    Run.Quiet (readCatalog table rows : Run σ κ π _) :=
  Run.quiet_bind (Run.quiet_logAll _) fun _ => Run.quiet_lift _

variable {R : World σ κ π → World σ κ π → Prop}

theorem leads_mapped (h : Follows R) {f : α → Except Fault β} {x : Run σ κ π (Outcome Error α)} (hx : Run.Leads R x) :
    Run.Leads R (mapped f x) :=
  Run.leads_bind h hx fun _ => (Run.quiet_lift _).leads h

variable {g : Gateway} {identity schemaName : Value}

theorem leads_request (h : Follows R) (run : ∀ st, Run.Leads R (g.dispatcher.execute identity st schemaName))
    (r : Request) : Run.Leads R (g.request identity schemaName r) := by
  have built : Run.Quiet (do
      let s ← registered identity schemaName
      Run.lift (r.build g.dialect s) : Run σ κ π _) :=
    Run.quiet_bind (quiet_registered identity schemaName) fun _ => Run.quiet_lift _
  refine Run.leads_bind h ((quiet_answered identity schemaName built).leads h) fun b => ?_
  cases b with
  | ok st => exact run st
  | error e => exact (Run.quiet_pure _).leads h

theorem leads_dropEach (h : Follows R) (run : ∀ st, Run.Leads R (g.dispatcher.execute identity st schemaName))
    (last : Value) (relations : List Value) : Run.Leads R (g.dropEach identity schemaName last relations) := by
  induction relations with
  | nil => exact Run.leads_bind h ((Run.quiet_lift _).leads h) run
  | cons relation relations ih =>
    refine Run.leads_bind h ((Run.quiet_lift _).leads h) fun st => Run.leads_bind h (run st) fun r => ?_
    cases r with
    | ok rows => exact ih
    | error e =>
      dsimp only
      split
      · exact Run.leads_bind h ((Run.quiet_log _).leads h) fun _ => ih
      · exact (Run.quiet_pure _).leads h

end Gateway

end TableGateway
