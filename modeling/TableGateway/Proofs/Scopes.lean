import TableGateway.Proofs.Recorded

/-!
# What a scope leaves behind

A scope takes the names that it bound away again when it is left; it does not know what they were bound to before. So
what was bound on entering is there again exactly when none of the names had been bound. This is made precise here for
running a statement, which happens in a scope for its identity and its schema, and for any code made of scopes.

- **`bound_execute`**: running a statement enters one scope and leaves it, however it ends.
- **`get?_run`**: what is bound after any code made of scopes.
- **`restored_iff`**: when everything is bound again as it was.
-/

namespace TableGateway

variable {σ κ π α β : Type}

/-! ## Runs that bind nothing -/

namespace Run

/-- The run leaves what is bound for logging as it was, however it ends. -/
def LeavesBound (x : Run σ κ π α) : Prop := ∀ w, (x.run w).2.bound = w.bound

theorem leavesBound_pure (a : α) : LeavesBound (pure a : Run σ κ π α) := fun _ => rfl

theorem leavesBound_fail (e : Failure) : LeavesBound (fail e : Run σ κ π α) := fun _ => rfl

theorem leavesBound_lift (r : Except Failure α) : LeavesBound (lift r : Run σ κ π α) := fun _ => rfl

theorem leavesBound_registry : LeavesBound (registry : Run σ κ π _) := fun _ => rfl

theorem leavesBound_changeRegistry (f : Registry σ κ π → Registry σ κ π) : LeavesBound (changeRegistry f) :=
  fun _ => rfl

theorem leavesBound_call (f : Driver σ κ π → σ → Except Failure α × σ) : LeavesBound (call f) := fun _ => rfl

theorem leavesBound_log (n : Note) : LeavesBound (log n : Run σ κ π Unit) := by
  intro w
  unfold log
  dsimp only
  split <;> rfl

theorem leavesBound_bind {x : Run σ κ π α} {f : α → Run σ κ π β} (hx : LeavesBound x) (hf : ∀ a, LeavesBound (f a)) :
    LeavesBound (x >>= f) := by
  intro w
  have first := hx w
  rw [run_bind]
  revert first
  rcases x.run w with ⟨r, v⟩
  intro first
  cases r with
  | ok a => exact (hf a v).trans first
  | error e => exact first

theorem leavesBound_attempt {x : Run σ κ π α} (hx : LeavesBound x) : LeavesBound (attempt x) := hx

theorem leavesBound_settle {x : Run σ κ π α} (hx : LeavesBound x) : LeavesBound (settle x) := by
  intro w
  rw [snd_settle]
  exact hx w

theorem leavesBound_ensure {x : Run σ κ π α} {after : Run σ κ π Unit} (hx : LeavesBound x)
    (hafter : LeavesBound after) : LeavesBound (ensure x after) := by
  intro w
  rw [snd_ensure]
  exact (hafter _).trans (hx w)

theorem leavesBound_logAll (ns : List Note) : LeavesBound (logAll ns : Run σ κ π Unit) := by
  induction ns with
  | nil => exact leavesBound_pure ()
  | cons n ns ih => exact leavesBound_bind (leavesBound_log n) fun _ => ih

/-- Within a scope only the scope itself changes what is bound: what it was given, taken away on leaving. -/
theorem bound_binding_of {given : List (String × Value)} {x : Run σ κ π α} (hx : LeavesBound x) (w : World σ κ π) :
    ((binding given x).run w).2.bound = (w.bound.enter given).leave given :=
  (bound_binding given x w).trans (congrArg (Bindings.leave · given) (hx _))

end Run

/-! ## Running a statement -/

namespace Dispatcher

theorem leavesBound_announce (dp : Dispatcher) (st : Statement) : Run.LeavesBound (dp.announce st : Run σ κ π _) := by
  refine Run.leavesBound_bind (Run.leavesBound_log _) fun _ => ?_
  cases dp.listener with
  | none => exact Run.leavesBound_pure ()
  | some l =>
    refine Run.leavesBound_bind (fun _ => rfl) fun w => Run.leavesBound_bind (fun _ => rfl) fun _ => ?_
    split
    · exact Run.leavesBound_log _
    · exact Run.leavesBound_pure ()

theorem leavesBound_openKept (identity : Value) (e : Entry κ π) :
    Run.LeavesBound (openKept identity e : Run σ κ π _) :=
  Run.leavesBound_bind (Run.leavesBound_call _) fun _ => Run.leavesBound_bind Run.leavesBound_registry fun _ =>
    Run.leavesBound_bind (Run.leavesBound_logAll _) fun _ =>
      Run.leavesBound_bind (Run.leavesBound_changeRegistry _) fun _ =>
        Run.leavesBound_bind (Run.leavesBound_log _) fun _ => Run.leavesBound_pure _

theorem leavesBound_withConnection (identity : Value) (e : Entry κ π) {body : κ → Run σ κ π α}
    (run : ∀ c, Run.LeavesBound (body c)) : Run.LeavesBound (withConnection identity e body) := by
  unfold withConnection
  split
  · exact Run.leavesBound_bind (Run.leavesBound_call _) fun c =>
      Run.leavesBound_ensure (run c) (Run.leavesBound_call _)
  · split
    · exact run _
    · exact Run.leavesBound_bind (leavesBound_openKept identity e) run

theorem leavesBound_answer (dp : Dispatcher) (identity schemaName : Value) (st : Statement) (r : Except Failure Rows) :
    Run.LeavesBound (dp.answer identity schemaName st r : Run σ κ π _) := by
  unfold answer
  split
  · exact Run.leavesBound_pure _
  · exact Run.leavesBound_fail _
  · split
    · refine Run.leavesBound_bind (Run.leavesBound_log _) fun _ =>
        Run.leavesBound_bind (Run.leavesBound_lift _) fun warns => ?_
      cases warns with
      | true => exact Run.leavesBound_bind (Run.leavesBound_log _) fun _ => Run.leavesBound_pure _
      | false => exact Run.leavesBound_pure _
    · exact Run.leavesBound_pure _

/-- What a statement's scope is given. -/
def scopeOf (identity schemaName : Value) : List (String × Value) := [("identity", identity), ("schema", schemaName)]

/-- Running a statement enters one scope and leaves it, however it ends. -/
theorem bound_execute (dp : Dispatcher) (identity schemaName : Value) (st : Statement) (w : World σ κ π) :
    ((dp.execute identity st schemaName).run w).2.bound =
      (w.bound.enter (scopeOf identity schemaName)).leave (scopeOf identity schemaName) := by
  have resolved : Run.LeavesBound (Registry.resolved identity : Run σ κ π _) :=
    Run.leavesBound_bind Run.leavesBound_registry fun _ => Run.leavesBound_lift _
  refine Run.bound_binding_of (Run.leavesBound_bind (Run.leavesBound_settle resolved) fun r => ?_) w
  cases r with
  | error e => exact Run.leavesBound_pure _
  | ok e =>
    refine Run.leavesBound_bind (Run.leavesBound_attempt (leavesBound_withConnection identity e fun c => ?_))
      fun r => leavesBound_answer dp identity schemaName st r
    exact Run.leavesBound_bind (leavesBound_announce dp st) fun _ => Run.leavesBound_call _

end Dispatcher

/-! ## What a scope binds -/

namespace Bindings

theorem mem_bind {b : Bindings} {given : List (String × Value)} {e : String × Value} (h : e ∈ (b.bind given).entries) :
    e ∈ given ∨ e ∈ b.entries := by
  induction given generalizing b with
  | nil => exact Or.inr h
  | cons a given ih =>
    rcases ih h with later | one
    · exact Or.inl (.tail _ later)
    · rcases List.mem_cons.1 one with same | before
      · exact Or.inl (same ▸ .head _)
      · exact Or.inr (List.mem_filter.1 before).1

/-- What is bound inside a scope is what it was given or was bound before. -/
theorem mem_enter {b : Bindings} {given : List (String × Value)} {e : String × Value}
    (h : e ∈ (b.enter given).entries) : e ∈ present given ∨ e ∈ b.entries :=
  mem_bind h

theorem mem_leave {b : Bindings} {given : List (String × Value)} {e : String × Value}
    (h : e ∈ (b.leave given).entries) : e ∈ b.entries :=
  (List.mem_filter.1 h).1

end Bindings

/-! ## Code made of scopes -/

/-- Code made of scopes, as far as what is bound goes. -/
inductive Block where
  /-- Code without a scope, and how it ends. -/
  | plain (ended : Except Failure Unit)
  | scope (given : List (String × Value)) (body : Block)
  /-- One after the other, unless the first fails. -/
  | next (first second : Block)
  /-- Code whose failure is caught. -/
  | caught (body : Block)

namespace Block

/-- Runs the code. -/
def run : Block → Run σ κ π Unit
  | plain ended => Run.lift ended
  | scope given body => do
    Run.lift (liftM (Bindings.checkScope given))
    Run.binding given body.run
  | next first second => do
    first.run
    second.run
  | caught body => do
    let _ ← Run.attempt body.run

/-- How the code ends. -/
def ended : Block → Except Failure Unit
  | plain ended => ended
  | scope given body => do
    liftM (Bindings.checkScope given)
    body.ended
  | next first second => do
    first.ended
    second.ended
  | caught _ => .ok ()

/-- The names bound by the scopes that are entered. -/
def names : Block → List String
  | plain _ => []
  | scope given body =>
    match Bindings.checkScope given with
    | .ok _ => (Bindings.present given).map Prod.fst ++ body.names
    | .error _ => []
  | next first second =>
    first.names ++
      match first.ended with
      | .ok _ => second.names
      | .error _ => []
  | caught body => body.names

theorem fst_run (b : Block) (w : World σ κ π) : (b.run.run w).1 = b.ended := by
  induction b generalizing w with
  | plain ended => rfl
  | scope given body ih =>
    rw [run, Run.run_bind, Run.run_lift, ended]
    cases Bindings.checkScope given with
    | error f => rfl
    | ok _ => exact ih _
  | next first second ih ih' =>
    have one := ih w
    rw [run, Run.run_bind, ended]
    revert one
    rcases first.run.run w with ⟨r, v⟩
    rintro rfl
    cases first.ended with
    | error e => rfl
    | ok _ => exact ih' v
  | caught body _ => rfl

/-- A name is unbound after the code when a scope has bound it, and bound as before otherwise. -/
theorem get?_run (b : Block) (w : World σ κ π) (name : String) :
    (b.run.run w).2.bound.get? name = if name ∈ b.names then none else w.bound.get? name := by
  induction b generalizing w with
  | plain ended => rfl
  | scope given body ih =>
    rw [run, Run.run_bind, Run.run_lift, names]
    cases Bindings.checkScope given with
    | error f => rfl
    | ok _ =>
      dsimp only [liftM, monadLift, MonadLift.monadLift]
      rw [Run.bound_binding, Bindings.leave, Bindings.get?_unbind, ih]
      by_cases own : name ∈ (Bindings.present given).map Prod.fst
      · rw [if_pos own, if_pos (List.mem_append_left _ own)]
      · rw [if_neg own, Bindings.get?_enter_of_not_mem own]
        simp only [List.mem_append, own, false_or]
  | next first second ih ih' =>
    have one := ih w
    have ends := fst_run first w
    rw [run, Run.run_bind, names]
    revert one ends
    rcases first.run.run w with ⟨r, v⟩
    intro one ends
    dsimp only at one ends ⊢
    subst ends
    cases first.ended with
    | error e => rw [List.append_nil]; exact one
    | ok _ =>
      dsimp only
      rw [ih', one]
      by_cases first : name ∈ first.names <;> simp [first]
  | caught body ih => exact ih w

end Block

/-! ## When everything is bound again as it was -/

/-- The same is bound under every name. -/
def Bindings.Same (b c : Bindings) : Prop := ∀ name, b.get? name = c.get? name

theorem Bindings.same_leave_enter_iff {b : Bindings} {given : List (String × Value)} :
    ((b.enter given).leave given).Same b ↔ ∀ e ∈ present given, b.get? e.1 = none := by
  constructor
  · intro same e he
    rw [← same e.1, leave, get?_unbind, if_pos (List.mem_map_of_mem he)]
  · exact fun fresh _ => get?_leave_enter fresh

theorem Block.same_iff (b : Block) (w : World σ κ π) :
    (b.run.run w).2.bound.Same w.bound ↔ ∀ name ∈ b.names, w.bound.get? name = none := by
  constructor
  · intro same name bound
    rw [← same name, get?_run, if_pos bound]
  · intro fresh name
    rw [get?_run]
    split
    · next bound => exact (fresh name bound).symm
    · rfl

/-- **What is bound is restored exactly when it was not bound over.**

1. After a statement was run, for any identity and schema and however it ended, everything is bound as before exactly
   when nothing was bound before under the names of its scope: `identity`, and `schema` if one is given.
2. After any code made of scopes, everything is bound as before exactly when nothing was bound before under the names
   that the entered scopes have bound. -/
theorem Bindings.restored_iff :
    (∀ (dp : Dispatcher) (identity schemaName : Value) (st : Statement) (w : World σ κ π),
      ((dp.execute identity st schemaName).run w).2.bound.Same w.bound ↔
        ∀ e ∈ Bindings.present [("identity", identity), ("schema", schemaName)], w.bound.get? e.1 = none) ∧
    ∀ (b : Block) (w : World σ κ π),
      (b.run.run w).2.bound.Same w.bound ↔ ∀ name ∈ b.names, w.bound.get? name = none := by
  refine ⟨fun dp identity schemaName st w => ?_, Block.same_iff⟩
  rw [Dispatcher.bound_execute]
  exact same_leave_enter_iff

/-- A caller who has bound an identity of its own has none after one statement, or after a scope that binds another. -/
theorem Bindings.unrestored_identity :
    let w : World Unit Unit Unit :=
      { engine := (), registry := { driver := .steady (.ok ()) (.ok []) (.ok ()) },
        bound := ⟨[("identity", .text "outer")]⟩ }
    w.bound.get? "identity" = some (.text "outer") ∧
      ((Dispatcher.execute {} (.text "a") ⟨"SELECT 1", []⟩).run w).2.bound.get? "identity" = none ∧
      ((Block.scope [("identity", .text "inner")] (.plain (.ok ()))).run.run w).2.bound.get? "identity" = none :=
  ⟨rfl, rfl, rfl⟩

end TableGateway
