import TableGateway.Proofs.PairedServices
import TableGateway.Proofs.Sent

/-!
# The listener's trail

Whoever listens is told every statement before the driver is asked to run it. Two runs of the same services are set side
by side here, one with a listener, who may fail whenever he likes, and one without.

- **`pairs_runOn`**: with a connection in hand, a statement is heard exactly when the driver is asked to run it, and
  the driver is asked the same as if nobody listened.
- **`trail`**: over all services, what was heard are the statements that the driver was asked to run, in turn, and the
  services end as if nobody listened.
-/

namespace TableGateway

variable {σ κ π α : Type}

/-- The statements that a driver was asked to run. -/
def statements (xs : List Exchange) : List String := (xs.filterMap Exchange.asked?).map Prod.fst

theorem statements_append (xs ys : List Exchange) : statements (xs ++ ys) = statements xs ++ statements ys := by
  rw [statements, List.filterMap_append, List.map_append]
  rfl

/-- The journal takes the note about a listener who fails, whatever of this is bound. -/
def Listener.Noted (l : Listener) (writes : Logged → Except Fault Unit) (bound : List (String × Value)) : Prop :=
  ∀ heard sql, l.fails heard sql = true → ∀ b : Bindings, (∀ e ∈ b.entries, e ∈ bound) →
    writes ⟨Dispatcher.listenerFailedNote, b⟩ = .ok ()

/-- What is bound while a service runs its statements. -/
def Service.scope : Service → List (String × Value)
  | .operate identity schemaName _ => Bindings.present (Dispatcher.scopeOf identity schemaName)
  | _ => []

/-- The calls to the two drivers came to the same, and since the start the statements heard on the first side are those
that the driver was asked to run. -/
structure Followed (start o o' : Outside (Recorded σ)) : Prop where
  engine : o'.engine = o.engine
  heard : ∃ xs, o.engine.exchanges = start.engine.exchanges ++ xs ∧ o.heard = start.heard ++ statements xs

/-- Alike are worlds that differ at most in what was heard and in what the journal says about it. -/
def Followed.likeness (d : Driver σ κ π) (writes : Logged → Except Fault Unit) (bound : List (String × Value))
    (start : Outside (Recorded σ)) :
    Likeness (Recorded σ) (Numbered κ) (Numbered π) (Recorded σ) (Numbered κ) (Numbered π) where
  first := d.recorded
  second := d.recorded
  writes := writes
  outside := Followed start
  config := Eq
  conn := Eq
  pool := Eq
  binds e := e ∈ bound

namespace Followed

variable {d : Driver σ κ π} {writes : Logged → Except Fault Unit} {bound : List (String × Value)}
  {start o o' : Outside (Recorded σ)}

/-- An exchange that is no statement leaves no trace in what was heard. -/
theorem adds (h : Followed start o o') {x : Exchange} (silent : x.asked? = none) (s : σ) :
    Followed start { o with engine := ⟨s, o.engine.exchanges ++ [x]⟩ }
      { o' with engine := ⟨s, o.engine.exchanges ++ [x]⟩ } := by
  obtain ⟨xs, record, heard⟩ := h.heard
  refine ⟨rfl, xs ++ [x], ?_, ?_⟩
  · rw [record, List.append_assoc]
  · have nothing : statements [x] = [] := by rw [statements, List.filterMap_cons, silent]; rfl
    rw [statements_append, nothing, List.append_nil]
    exact heard

/-- A statement that was heard leaves its trace there. -/
theorem adds_query (h : Followed start o o') (n : Nat) (sql : String) (params : Option (List Value))
    (answer : Except Failure (List Value)) (s : σ) (journal journal' : List Logged) (heard' : List String) :
    Followed start ⟨⟨s, o.engine.exchanges ++ [.query n sql params answer]⟩, journal, o.heard ++ [sql]⟩
      ⟨⟨s, o.engine.exchanges ++ [.query n sql params answer]⟩, journal', heard'⟩ := by
  obtain ⟨xs, record, heard⟩ := h.heard
  refine ⟨rfl, xs ++ [.query n sql params answer], ?_, ?_⟩
  · rw [record, List.append_assoc]
  · rw [statements_append, heard, List.append_assoc]
    rfl

/-- A call that is no statement comes to the same on both sides. -/
theorem calls {f : Driver (Recorded σ) (Numbered κ) (Numbered π) → Recorded σ → Except Failure α × Recorded σ}
    (silent : ∀ s : Recorded σ, ∃ x t, (f d.recorded s).2 = ⟨t, s.exchanges ++ [x]⟩ ∧ x.asked? = none) :
    (likeness d writes bound start).Calls Eq f f := by
  intro o o' outside
  obtain ⟨engine, journal, heard⟩ := o'
  obtain rfl : engine = o.engine := outside.engine
  obtain ⟨x, t, left, silent⟩ := silent o.engine
  refine ⟨.refl _, ?_⟩
  show Followed start { o with engine := (f d.recorded o.engine).2 } ⟨(f d.recorded o.engine).2, journal, heard⟩
  rw [left]
  exact outside.adds silent t

theorem lawful (d : Driver σ κ π) (writes : Logged → Except Fault Unit) (bound : List (String × Value))
    (start : Outside (Recorded σ)) :
    (likeness d writes bound start).Lawful where
  opened := rfl
  config {c _} h := ⟨c.password, h.symm⟩
  logged _ h := ⟨h.engine, h.heard⟩
  connect h := h ▸ calls fun _ => ⟨_, _, rfl, rfl⟩
  createPool h := h ▸ calls fun _ => ⟨_, _, rfl, rfl⟩
  acquire h := h ▸ calls fun _ => ⟨_, _, rfl, rfl⟩
  close h := h ▸ calls fun _ => ⟨_, _, rfl, rfl⟩
  dispose h := h ▸ calls fun _ => ⟨_, _, rfl, rfl⟩

/-! ## A statement heard and run -/

/-- A listener who is told a statement has heard it, also when he fails. -/
theorem run_announce {dp : Dispatcher} {l : Listener} (listens : dp.listener = some l) {st : Statement}
    {w v : RecordedWorld σ κ π} (noted : l.Noted v.writes bound) (binds : ∀ e ∈ v.bound.entries, e ∈ bound)
    (logged : (Run.log (Dispatcher.executedNote st)).run w = (.ok (), v)) :
    ∃ journal, (dp.announce st).run w = (.ok (), { v with heard := v.heard ++ [st.sql], journal := journal }) := by
  unfold Dispatcher.announce
  rw [Run.run_bind_ok logged, listens]
  dsimp only
  rw [Run.run_bind_ok (Run.run_world _), Run.run_bind_ok (Run.run_change _ _)]
  split
  · next fails => exact ⟨_, Run.run_log (noted _ _ fails _ binds)⟩
  · exact ⟨v.journal, rfl⟩

/-- With a connection in hand, a statement is heard exactly when the driver is asked to run it, and the driver is asked
the same as if nobody listened. -/
theorem pairs_runOn {dp : Dispatcher} {l : Listener} (listens : dp.listener = some l) (noted : l.Noted writes bound)
    (st : Statement) (c : Numbered κ) :
    (likeness d writes bound start).Pairs Eq (dp.runOn st c) ((dp.withListener none).runOn st c) := by
  intro w v alike
  have logged := Likeness.pairs_log (lawful d writes bound start) (Dispatcher.executedNote st) w v alike
  unfold Dispatcher.runOn
  rcases first : (Run.log (Dispatcher.executedNote st)).run w with ⟨r, w'⟩
  rcases second : (Run.log (Dispatcher.executedNote st)).run v with ⟨s, v'⟩
  rw [first, second] at logged
  obtain ⟨ends, after⟩ := logged
  cases ends with
  | error e =>
    have firstFails : (dp.announce st).run w = (.error e, w') := Run.run_bind_error first
    have secondFails : ((dp.withListener none).announce st).run v = (.error e, v') := Run.run_bind_error second
    rw [Run.run_bind_error firstFails, Run.run_bind_error secondFails]
    exact ⟨.error e, after⟩
  | ok _ =>
    obtain ⟨journal, heard⟩ := run_announce listens (by rw [after.first]; exact noted) after.binds first
    have unheard : ((dp.withListener none).announce st).run v = (.ok (), v') := Run.run_bind_ok second
    rw [Run.run_bind_ok heard, Run.run_bind_ok unheard]
    obtain ⟨registry, outside, same, binds, writesFirst, writesSecond⟩ := after
    obtain ⟨engine, r', bound', journal', writes', heard'⟩ := v'
    obtain rfl : engine = w'.engine := outside.engine
    unfold Run.call
    dsimp only
    rw [registry.first, registry.second]
    exact ⟨.refl _, registry, outside.adds_query _ _ _ _ _ _ _ _, same, binds, writesFirst, writesSecond⟩

/-! ## The registries on both sides -/

theorem rel_eq {a b : Option α} : Option.Rel Eq a b ↔ a = b := by
  constructor
  · rintro (same | _)
    · rw [same]
    · rfl
  · rintro rfl
    cases a with
    | none => exact .none
    | some a => exact .some rfl

theorem entries_iff {e e' : Entry (Numbered κ) (Numbered π)} :
    (likeness d writes bound start).Entries e e' ↔ e = e' := by
  constructor
  · rintro ⟨config, schemas, pool, conn⟩
    obtain ⟨c, ss, p, k⟩ := e
    obtain ⟨c', ss', p', k'⟩ := e'
    obtain rfl : c = c' := config
    obtain rfl : ss' = ss := schemas
    obtain rfl : p = p' := rel_eq.1 pool
    obtain rfl : k = k' := rel_eq.1 conn
    rfl
  · rintro rfl
    exact ⟨rfl, rfl, rel_eq.2 rfl, rel_eq.2 rfl⟩

/-- The registries on both sides are the same one. -/
theorem registries_iff {r r' : Registry (Recorded σ) (Numbered κ) (Numbered π)} :
    (likeness d writes bound start).Registries r r' ↔ r.driver = d.recorded ∧ r' = r := by
  have under : (fun a b : Value × Entry (Numbered κ) (Numbered π) =>
      a.1 = b.1 ∧ (likeness d writes bound start).Entries a.2 b.2) = Eq := by
    funext a b
    rw [entries_iff, Prod.ext_iff]
  constructor
  · rintro ⟨first, second, entries⟩
    obtain ⟨driver, es⟩ := r
    obtain ⟨driver', es'⟩ := r'
    obtain rfl : driver = d.recorded := first
    obtain rfl : driver' = d.recorded := second
    rw [Keyed.Alike, under, List.forall₂_eq_eq_eq] at entries
    obtain ⟨es⟩ := es
    obtain ⟨es'⟩ := es'
    obtain rfl : es = es' := entries
    exact ⟨rfl, rfl⟩
  · rintro ⟨driver, rfl⟩
    refine ⟨driver, driver, ?_⟩
    rw [Keyed.Alike, under, List.forall₂_eq_eq_eq]

end Followed

/-- **The listener's trail.** Whoever listens, and however often he fails as long as the journal takes the note about
it, after every service of a run

1. the statements that were heard since the start are those that the driver was asked to run, in turn, whether they then
   failed or not;
2. the service ended, and left the driver with the calls made to it and the registry, as if nobody had listened. -/
theorem Gateway.trail {d : Driver σ κ π} {w : RecordedWorld σ κ π} (driver : w.registry.driver = d.recorded)
    {l : Listener} {ss : List Service} (noted : l.Noted w.writes (w.bound.entries ++ ss.flatMap Service.scope))
    (g : Gateway) :
    List.Forall₂ (fun a b =>
        (∃ xs, RecordedWorld.record a.2 = w.record ++ xs ∧ a.2.heard = w.heard ++ statements xs) ∧
        b.1 = a.1 ∧ b.2.engine = a.2.engine ∧ b.2.registry = a.2.registry)
      ((g.withListener (some l)).serve ss w) ((g.withListener none).serve ss w) := by
  let L := Followed.likeness d w.writes (w.bound.entries ++ ss.flatMap Service.scope) w.outside
  have lawful : L.Lawful := Followed.lawful d w.writes _ w.outside
  have runs : L.Executes (g.withListener (some l)) none := fun names st =>
    Likeness.pairs_execute lawful (fun c c' (same : c = c') => same ▸ Followed.pairs_runOn rfl noted st c) names
  have start : L.Worlds w w :=
    ⟨Followed.registries_iff.2 ⟨driver, rfl⟩, ⟨rfl, [], (List.append_nil _).symm, (List.append_nil _).symm⟩, rfl,
      fun _ h => List.mem_append_left _ h, rfl, rfl⟩
  have asked : List.Forall₂ L.Asked ss ss := List.forall₂_same.2 fun s hs => by
    cases s with
    | register config schemas =>
      refine .register ?_ schemas
      cases config with
      | built c => exact .built rfl
      | value v => exact .value rfl (.refl _)
    | teardown identity => exact .teardown identity
    | operate identity schemaName o =>
      exact .operate (fun e h => List.mem_append_right _ (List.mem_flatMap.2 ⟨_, hs, h⟩)) o
  refine (Likeness.serve_alike lawful runs asked start).imp fun a b ⟨same, after⟩ => ?_
  have outside : Followed w.outside a.2.outside b.2.outside := after.outside
  exact ⟨outside.heard, same, outside.engine, (Followed.registries_iff.1 after.registry).2⟩

/-! ## Log setups that take the note -/

/-- Every log setup takes the note about a listener when a record can hold what is bound, and nothing is bound under the
name that stands for the record itself. -/
theorem LogSetup.noted {s : LogSetup} (service : Holds s.service) (now : String) {bound : List (String × Value)}
    (held : HoldsAll bound) (unnamed : "_record" ∉ bound.map Prod.fst) (l : Listener) :
    l.Noted (s.takes now) bound := by
  intro heard sql _ b within
  refine takes_plain service now (.one (by decide) (holds_bool true)) ⟨fun e he => held e (within e he), ?_⟩
  rintro e he named
  exact unnamed (named ▸ List.mem_map_of_mem (within e he))

/-! ## A listener who fails every other time -/

namespace Listener

def unsteady : Listener where
  fails heard _ := heard.length % 2 == 0

/-- A statement that fails, and a drop of two tables that are not there. -/
def someFail : List Service :=
  [.register (.built { identity := .text "a" }) (.value .null),
    .operate (.text "a") (.text "s") (.query "SELECT 1" .null),
    .operate (.text "a") (.text "s") (.drop (.tuple [.text "r"]))]

/-- The engine has no tables, and events are written as records. -/
def emptied : RecordedWorld Unit Unit Unit where
  engine := { engine := () }
  registry :=
    { driver := (Driver.steady (.ok ()) (.error (.refused (Error.engine "gone" "42704"))) (.ok ())).recorded }
  bound := ⟨[("request", .text "r1")]⟩
  writes := LogSetup.recording.takes ""

/-- What fails is heard, and the listener's own failures do not count. -/
theorem trail_unsteady :
    let ended (l : Option Listener) := (Gateway.withListener {} l).serve someFail emptied
    List.Forall₂ (fun a b =>
        (∃ xs, RecordedWorld.record a.2 = emptied.record ++ xs ∧ a.2.heard = emptied.heard ++ statements xs) ∧
        b.1 = a.1 ∧ b.2.engine = a.2.engine ∧ b.2.registry = a.2.registry) (ended (some unsteady)) (ended none) ∧
    (ended (some unsteady)).map (fun a => a.2.heard) =
      [[], ["SELECT 1"], ["SELECT 1", "DROP TABLE r", "DROP TABLE s"]] := by
  have texts : LogSetup.HoldsAll (emptied.bound.entries ++ someFail.flatMap Service.scope) := by
    intro e he
    have within : e ∈ [("request", .text "r1"), ("identity", .text "a"), ("schema", .text "s"),
      ("identity", .text "a"), ("schema", .text "s")] := he
    simp only [List.mem_cons, List.not_mem_nil, or_false] at within
    rcases within with rfl | rfl | rfl | rfl | rfl <;> exact LogSetup.holds_text _
  exact ⟨Gateway.trail rfl (LogSetup.noted LogSetup.holds_recording "" texts (by decide) unsteady) {}, rfl⟩

end Listener

end TableGateway
