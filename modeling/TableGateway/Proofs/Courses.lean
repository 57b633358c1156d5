import TableGateway.Proofs.Services

/-!
# Courses of services

A course is a run of services on one registry, from the moment at which nothing is registered yet: any services, in any
order, through any gateways, however the driver behaves. `Course deeds w` says that the services of `deeds`, the latest
first, lead to the world `w`. What a service does to the schemas of the identities is told by a relation between the
schemas before and after it (`Alters`); most services leave all of them as they are.

- **`retains_perform`**, **`define_cases`**: of the operations only a definition that is answered well changes schemas;
- **`effect`**: what one service does to the schemas of one identity;
- **`eq_overlaid`**: after every service of a course, the schemas of an identity are those that it was registered with,
  overlaid by what was defined since.
-/

namespace TableGateway

variable {σ κ π α β : Type}

/-- The schemas of an identity that is registered. -/
def Registry.schemasOf (r : Registry σ κ π) (i : Value) : Option (Keyed Registered) :=
  (r.entries.lookup i).map Entry.schemas

/-- The identities stay distinct, and the schemas of each are related so before and after. -/
def World.Alters (P : Value → Option (Keyed Registered) → Option (Keyed Registered) → Prop) (w v : World σ κ π) :
    Prop :=
  w.registry.entries.Distinct → v.registry.entries.Distinct ∧ ∀ i, P i (w.registry.schemasOf i) (v.registry.schemasOf i)

/-- The schemas stay. -/
def Retained (_ : Value) (before after : Option (Keyed Registered)) : Prop := after = before

/-- The schemas stay, or they are gone with the identity, which is this one or any. -/
def Removed (identity i : Value) (before after : Option (Keyed Registered)) : Prop :=
  after = before ∨ after = none ∧ (identity.isNull = true ∨ i.same identity = true)

/-- The schemas stay, or they have come with the identity. -/
def Added (schemas : Description) (_ : Value) (before after : Option (Keyed Registered)) : Prop :=
  after = before ∨ before = none ∧ ∃ ss, Registry.coerceSchemas schemas = .ok ss ∧ after = some (ss.map .schema)

/-- The schemas stay but for this one, which those of the identity now hold under its name. -/
def Defined (identity name : Value) (s : Schema) (i : Value) (before after : Option (Keyed Registered)) : Prop :=
  after = if i.same identity = true then before.map fun t => t.put name (.schema s) else before

section Relations

variable {P : Value → Option (Keyed Registered) → Option (Keyed Registered) → Prop} {w v : World σ κ π}

theorem alters_of_registry (refl : ∀ i a, P i a a) (same : v.registry = w.registry) : w.Alters P v := by
  unfold World.Alters
  rw [same]
  exact fun distinct => ⟨distinct, fun i => refl i _⟩

theorem follows_alters (refl : ∀ i a, P i a a) (trans : ∀ i {a b c}, P i a b → P i b c → P i a c) :
    Follows (World.Alters (σ := σ) (κ := κ) (π := π) P) := by
  refine ⟨fun a => alters_of_registry refl a.registry, fun h g distinct => ?_⟩
  obtain ⟨distinct, first⟩ := h distinct
  obtain ⟨distinct, second⟩ := g distinct
  exact ⟨distinct, fun i => trans i (first i) (second i)⟩

theorem follows_retained : Follows (World.Alters (σ := σ) (κ := κ) (π := π) Retained) :=
  follows_alters (fun _ _ => rfl) fun _ _ _ _ first second => second.trans first

theorem follows_removed (identity : Value) : Follows (World.Alters (σ := σ) (κ := κ) (π := π) (Removed identity)) := by
  refine follows_alters (fun _ _ => Or.inl rfl) fun i a b c first second => ?_
  rcases second with rfl | gone
  · exact first
  · exact Or.inr gone

theorem follows_added (schemas : Description) : Follows (World.Alters (σ := σ) (κ := κ) (π := π) (Added schemas)) := by
  refine follows_alters (fun _ _ => Or.inl rfl) fun i a b c first second => ?_
  rcases first with rfl | ⟨absent, ss, coerced, rfl⟩
  · exact second
  · rcases second with rfl | ⟨impossible, _⟩
    · exact Or.inr ⟨absent, ss, coerced, rfl⟩
    · cases impossible

/-- An entry may be changed in all but its schemas. -/
theorem retains_update {identity : Value} {e e' : Entry κ π} (found : w.registry.resolve identity = .ok e)
    (same : e'.schemas = e.schemas) :
    w.Alters Retained { w with registry := w.registry.update identity e' } := by
  refine fun distinct => ⟨Keyed.distinct_put distinct, fun i => ?_⟩
  unfold Retained Registry.schemasOf Registry.update
  rw [Keyed.lookup_put]
  split
  · next here => rw [Keyed.lookup_congr here, Registry.lookup_of_resolve found, Option.map_some, Option.map_some, same]
  · rfl

/-- What a schema is added to has kept its schemas. -/
theorem defines_addSchema {identity name : Value} {s : Schema} {e : Entry κ π} (retains : w.Alters Retained v)
    (found : v.registry.resolve identity = .ok e) :
    w.Alters (Defined identity name s)
      { v with registry := v.registry.update identity (e.addSchema name (.schema s)) } := by
  intro distinct
  obtain ⟨distinct, retains⟩ := retains distinct
  refine ⟨Keyed.distinct_put distinct, fun i => ?_⟩
  unfold Defined
  rw [← retains i]
  unfold Registry.schemasOf Registry.update
  rw [Keyed.lookup_put]
  split
  · next here => rw [Keyed.lookup_congr here, Registry.lookup_of_resolve found]; rfl
  · rfl

end Relations

/-! ## What services do to schemas -/

namespace Dispatcher

theorem retains_execute (dp : Dispatcher) (identity schemaName : Value) (st : Statement) :
    Run.Leads (World.Alters Retained) (dp.execute identity st schemaName : Run σ κ π _) := by
  have calls : FollowsCalls (World.Alters (σ := σ) (κ := κ) (π := π) Retained) :=
    .of_registry (alters_of_registry fun _ _ => rfl)
  refine leads_execute follows_retained fun w e found => leads_withConnection follows_retained calls fun _ => ?_
  refine leads_openKept_of follows_retained (fun _ _ => alters_of_registry (fun _ _ => rfl) rfl) fun v c same => ?_
  have still : v.registry.resolve identity = .ok e := by rw [same]; exact found
  exact retains_update still rfl

end Dispatcher

/-- A schema is added to the entry of its identity, or nothing is done. -/
theorem Registry.run_addSchema (identity name : Value) (s : Registered) (w : World σ κ π) :
    (∃ e, w.registry.resolve identity = .ok e ∧ (addSchema identity name s).run w =
      (.ok (), { w with registry := w.registry.update identity (e.addSchema name s) })) ∨
    ∃ f, (addSchema identity name s).run w = (.error f, w) := by
  cases found : w.registry.resolve identity with
  | error f =>
    have unresolved : (resolved identity).run w = (.error f, w) := by rw [run_resolved, found]
    exact Or.inr ⟨f, Run.run_bind_error unresolved⟩
  | ok e =>
    have resolved : (resolved identity).run w = (.ok e, w) := by rw [run_resolved, found]
    rw [addSchema, Run.run_bind_ok resolved]
    split
    · exact Or.inl ⟨e, rfl, rfl⟩
    · exact Or.inr ⟨_, rfl⟩

namespace Gateway

variable {g : Gateway} {identity schemaName : Value}

/-- No operation but a definition changes schemas. -/
theorem retains_perform {o : Operation} (other : ∀ d, o ≠ .define d) :
    Run.Leads (World.Alters Retained) (g.perform identity schemaName o : Run σ κ π _) := by
  have executes (st : Statement) :=
    Dispatcher.retains_execute (σ := σ) (κ := κ) (π := π) g.dispatcher identity schemaName st
  cases o with
  | define d => exact absurd rfl (other d)
  | describe => exact leads_answering follows_retained (leads_describe follows_retained executes)
  | drop relations => exact leads_answering follows_retained (leads_drop follows_retained executes relations)
  | query sql params =>
    exact leads_answering follows_retained
      (Run.leads_bind follows_retained ((Run.quiet_lift _).leads follows_retained) executes)
  | request q => exact leads_performRequest follows_retained executes q

/-- A definition that is answered well puts the schema that it means under its name; any other one leaves the schemas as
they are. -/
theorem define_cases {d : Description} {w v : World σ κ π} {r : Except Failure (Outcome Error Dispatcher.Rows)}
    (h : (g.define identity schemaName d).run w = (r, v)) :
    (∃ rows s st, r = .ok (.ok rows) ∧ Operation.making g w.registry identity schemaName d = .ok (s, st) ∧
      w.Alters (Defined identity schemaName s) v) ∨
    (∀ rows, r ≠ .ok (.ok rows)) ∧ w.Alters Retained v := by
  rw [run_define] at h
  split at h
  · next made making =>
    obtain ⟨s, st⟩ := made
    have retains := Dispatcher.retains_execute g.dispatcher identity schemaName st w
    unfold defineMade at h
    rcases executed : (g.dispatcher.execute identity st schemaName).run w with ⟨q, u⟩
    rw [executed] at retains
    rcases q with f | e | rows
    · rw [Run.run_bind_error executed] at h
      cases h
      exact Or.inr ⟨nofun, retains⟩
    · rw [Run.run_bind_ok executed] at h
      cases h
      exact Or.inr ⟨nofun, retains⟩
    · rw [Run.run_bind_ok executed] at h
      dsimp only at h
      rcases Registry.run_addSchema identity schemaName (.schema s) u with ⟨e, found, added⟩ | ⟨f, added⟩
      · rw [Run.run_bind_ok added] at h
        cases h
        exact Or.inl ⟨rows, s, st, rfl, making, defines_addSchema retains found⟩
      · rw [Run.run_bind_error added] at h
        cases h
        exact Or.inr ⟨nofun, retains⟩
  · cases h
    exact Or.inr ⟨nofun, alters_of_registry (fun _ _ => rfl) rfl⟩
  · cases h
    exact Or.inr ⟨nofun, alters_of_registry (fun _ _ => rfl) rfl⟩

end Gateway

/-! ### Connections -/

namespace Registry

variable {w : World σ κ π}

theorem registry_poolOf (c : Config) (w : World σ κ π) : ((poolOf c).run w).2.registry = w.registry := by
  unfold poolOf
  split
  · rw [Run.snd_bind_pure]
    rfl
  · rfl

/-- A new entry brings its schemas. -/
theorem adds_update {schemas : Description} {ss : Keyed Schema} {e : Entry κ π} {identity : Value}
    (coerced : coerceSchemas schemas = .ok ss) (absent : w.registry.entries.lookup identity = none)
    (held : e.schemas = ss.map .schema) (v : World σ κ π) (same : v.registry = w.registry) :
    w.Alters (Added schemas) { v with registry := v.registry.update identity e } := by
  intro distinct
  dsimp only
  rw [same]
  refine ⟨Keyed.distinct_put distinct, fun i => ?_⟩
  unfold schemasOf update
  rw [Keyed.lookup_put]
  split
  · next here =>
    refine Or.inr ⟨?_, ss, coerced, ?_⟩
    · rw [Keyed.lookup_congr here, absent]
      rfl
    · rw [Option.map_some, held]
  · exact Or.inl rfl

/-- A registration adds the schemas that it hands over, or nothing. -/
theorem adds_register (given : ConfigGiven) (schemas : Description) :
    Run.Leads (World.Alters (Added schemas)) (register given schemas : Run σ κ π _) := by
  refine leads_register_of (follows_added schemas) (fun w c ss coerced absent => ?_) given
  have pooled := registry_poolOf c w
  rcases made : (poolOf c).run w with ⟨r, v⟩
  rw [made] at pooled
  cases r with
  | error f => exact alters_of_registry (fun _ _ => Or.inl rfl) pooled
  | ok pool => exact adds_update coerced absent rfl v pooled

/-- A teardown removes schemas with their identity, and leaves all others. -/
theorem removes_teardown (identity : Value) :
    Run.Leads (World.Alters (Removed identity)) (teardown identity : Run σ κ π _) := by
  have follows := follows_removed (σ := σ) (κ := κ) (π := π) identity
  refine leads_teardown follows (fun every w => ?_) fun w e found => ?_
  · refine leads_tearDownEach follows (fun w j e es entries => ?_) _ w rfl
    intro distinct
    rw [closeRemoved_registry j e { w with registry := { w.registry with entries := ⟨es⟩ } }]
    have whole : w.registry.entries = ⟨(j, e) :: es⟩ := by rw [← entries]
    rw [whole] at distinct
    refine ⟨(List.pairwise_cons.1 distinct).2, fun i => ?_⟩
    unfold schemasOf
    rw [whole]
    rcases Keyed.lookup_tail distinct i with gone | same
    · exact Or.inr ⟨by rw [gone]; rfl, Or.inl every⟩
    · exact Or.inl (by rw [same])
  · intro distinct
    rw [tearDownOne, Run.run_bind_ok (Run.run_changeRegistry _ w), closeRemoved_registry identity e]
    refine ⟨Keyed.distinct_erase distinct, fun i => ?_⟩
    unfold schemasOf remove
    rw [Keyed.lookup_erase]
    split
    · next here => exact Or.inr ⟨rfl, Or.inr here⟩
    · exact Or.inl rfl

end Registry

/-! ## Courses -/

/-- A service that was asked for: through which gateway, how it ended, and the registry before and after it. -/
structure Deed (σ κ π : Type) where
  through : Gateway
  asked : Service
  before : Registry σ κ π
  ended : Except Failure (Outcome Error Reply)
  after : Registry σ κ π

namespace Deed

/-- The service asked for in a world. -/
def of (g : Gateway) (s : Service) (w : World σ κ π) : Deed σ κ π where
  through := g
  asked := s
  before := w.registry
  ended := ((s.run g).run w).1
  after := ((s.run g).run w).2.registry

variable {i : Value} {x : Deed σ κ π}

/-- The schemas with which the service made an entry for the identity: those handed over to a registration before which
there was none, and after which there is one. -/
def made? (i : Value) (x : Deed σ κ π) : Option (Keyed Registered) :=
  match x.asked with
  | .register _ schemas =>
    if !x.before.entries.has i && x.after.entries.has i then
      (Registry.coerceSchemas schemas).toOption.map fun ss => ss.map .schema
    else none
  | _ => none

/-- The schema that the service defined under the identity, with its name: that of a definition that was answered
well. -/
def defined? (i : Value) (x : Deed σ κ π) : Option (Value × Schema) :=
  match x.asked, x.ended with
  | .operate identity name (.define d), .ok (.ok _) =>
    if i.same identity then (Gateway.schemaMeant name d).toOption.map fun s => (name, s) else none
  | _, _ => none

/-- The identity was to be torn down, alone or with all others. -/
def tearsDown (i : Value) (x : Deed σ κ π) : Bool :=
  match x.asked with
  | .teardown identity => identity.isNull || i.same identity
  | _ => false

/-- What a service does to the schemas of an identity. -/
inductive Effect (i : Value) (x : Deed σ κ π) : Prop
  | kept (undefined : x.defined? i = none) (same : x.after.schemasOf i = x.before.schemasOf i)
  | removed (undefined : x.defined? i = none) (torn : x.tearsDown i = true) (gone : x.after.schemasOf i = none)
  | made {t : Keyed Registered} (undefined : x.defined? i = none) (absent : x.before.schemasOf i = none)
    (made : x.made? i = some t) (now : x.after.schemasOf i = some t)
  | defined {name : Value} {s : Schema} {t : Keyed Registered} (defined : x.defined? i = some (name, s))
    (old : x.before.schemasOf i = some t) (now : x.after.schemasOf i = some (t.put name (.schema s)))

theorem has_eq_isSome (r : Registry σ κ π) (i : Value) : r.entries.has i = (r.schemasOf i).isSome := by
  unfold Registry.schemasOf Keyed.has
  rw [Option.isSome_map]

/-- What is there before and after was not made in between. -/
theorem made?_eq_none (same : x.after.schemasOf i = x.before.schemasOf i) : x.made? i = none := by
  unfold made?
  split
  · rw [has_eq_isSome, has_eq_isSome, same, if_neg]
    cases (x.before.schemasOf i).isSome <;> decide
  · rfl

/-- A definition makes no entry. -/
theorem made?_of_defined {made : Value × Schema} (defined : x.defined? i = some made) : x.made? i = none := by
  unfold made?
  split
  · next asked =>
    unfold defined? at defined
    rw [asked] at defined
    cases defined
  · rfl

theorem effect_register (g : Gateway) (config : Registry.ConfigGiven) (schemas : Description) {w : World σ κ π}
    (distinct : w.registry.entries.Distinct) (i : Value) :
    (of g (.register config schemas) w).after.entries.Distinct ∧ (of g (.register config schemas) w).Effect i := by
  have ended : (of g (.register config schemas) w).after = ((Registry.register config schemas).run w).2.registry := by
    show ((do return Except.map Reply.registered (← Gateway.registerConnection config schemas) :
      Run σ κ π _).run w).2.registry = _
    rw [Run.snd_bind_pure, Gateway.registerConnection, Run.snd_settle]
  obtain ⟨distinct, adds⟩ := Registry.adds_register config schemas w distinct
  rw [← ended] at distinct adds
  refine ⟨distinct, ?_⟩
  rcases adds i with same | ⟨absent, ss, coerced, now⟩
  · exact .kept rfl same
  · have absent : (of g (.register config schemas) w).before.schemasOf i = none := absent
    refine .made rfl absent ?_ now
    show (if !Keyed.has _ i && Keyed.has _ i then (Registry.coerceSchemas schemas).toOption.map _ else none) = _
    rw [has_eq_isSome, has_eq_isSome, absent, now, coerced]
    rfl

theorem effect_teardown (g : Gateway) (identity : Value) {w : World σ κ π} (distinct : w.registry.entries.Distinct)
    (i : Value) : (of g (.teardown identity) w).after.entries.Distinct ∧ (of g (.teardown identity) w).Effect i := by
  have ended : (of g (.teardown identity) w).after = ((Registry.teardown identity).run w).2.registry := by
    show ((do return Except.map (fun _ => Reply.tornDown) (← Gateway.teardown identity) :
      Run σ κ π _).run w).2.registry = _
    rw [Run.snd_bind_pure, Gateway.teardown, Run.snd_settle]
  obtain ⟨distinct, removes⟩ := Registry.removes_teardown identity w distinct
  rw [← ended] at distinct removes
  refine ⟨distinct, ?_⟩
  rcases removes i with same | ⟨gone, torn⟩
  · exact .kept rfl same
  · exact .removed rfl (Bool.or_eq_true_iff.2 torn) gone

/-- The service of a definition ends as the definition does. -/
theorem of_define {g : Gateway} {identity schemaName : Value} {d : Description} {w v : World σ κ π}
    {r : Except Failure (Outcome Error Dispatcher.Rows)} (ended : (g.define identity schemaName d).run w = (r, v)) :
    of g (.operate identity schemaName (.define d)) w =
      ⟨g, .operate identity schemaName (.define d), w.registry,
        r.map (Except.map fun rows => .answered (.rows rows)), v.registry⟩ := by
  have run : ((Service.operate identity schemaName (.define d)).run g).run w =
      (r.map (Except.map fun rows => .answered (.rows rows)), v) := by
    cases r with
    | error f =>
      have performed : (g.perform identity schemaName (.define d)).run w = (.error f, v) := Run.run_bind_error ended
      exact Run.run_bind_error performed
    | ok answer =>
      have performed : (g.perform identity schemaName (.define d)).run w = (.ok (Except.map .rows answer), v) :=
        Run.run_bind_ok ended
      refine (Run.run_bind_ok performed).trans ?_
      cases answer <;> rfl
  rw [of, run]

theorem effect_define (g : Gateway) (identity schemaName : Value) (d : Description) {w : World σ κ π}
    (distinct : w.registry.entries.Distinct) (i : Value) :
    (of g (.operate identity schemaName (.define d)) w).after.entries.Distinct ∧
      (of g (.operate identity schemaName (.define d)) w).Effect i := by
  rcases ended : (g.define identity schemaName d).run w with ⟨r, v⟩
  rw [of_define ended]
  rcases Gateway.define_cases ended with ⟨rows, s, st, rfl, making, defines⟩ | ⟨other, retains⟩
  · obtain ⟨e, found, meant, _⟩ := Operation.of_making making
    obtain ⟨distinct, defines⟩ := defines distinct
    have defines := defines i
    unfold Defined at defines
    refine ⟨distinct, ?_⟩
    by_cases here : i.same identity = true
    · rw [if_pos here] at defines
      have old : w.registry.schemasOf i = some e.schemas := by
        unfold Registry.schemasOf
        rw [Keyed.lookup_congr here, Registry.lookup_of_resolve found]
        rfl
      rw [old] at defines
      refine .defined ?_ old defines
      show (if i.same identity then _ else none) = _
      rw [if_pos here, meant]
      rfl
    · rw [if_neg here] at defines
      exact .kept (if_neg here) defines
  · obtain ⟨distinct, retains⟩ := retains distinct
    refine ⟨distinct, .kept ?_ (retains i)⟩
    rcases r with f | e | rows
    · rfl
    · rfl
    · exact absurd rfl (other rows)

/-- What a service does to the schemas of an identity. -/
theorem effect (g : Gateway) (s : Service) {w : World σ κ π} (distinct : w.registry.entries.Distinct) (i : Value) :
    (of g s w).after.entries.Distinct ∧ (of g s w).Effect i := by
  cases s with
  | register config schemas => exact effect_register g config schemas distinct i
  | teardown identity => exact effect_teardown g identity distinct i
  | operate identity schemaName o =>
    by_cases other : ∀ d, o ≠ .define d
    · have after : (of g (.operate identity schemaName o) w).after =
          ((g.perform identity schemaName o).run w).2.registry := by
        show ((do return Except.map Reply.answered (← g.perform identity schemaName o) :
          Run σ κ π _).run w).2.registry = _
        rw [Run.snd_bind_pure]
      obtain ⟨distinct, retains⟩ := Gateway.retains_perform other w distinct
      rw [← after] at distinct retains
      refine ⟨distinct, .kept ?_ (retains i)⟩
      unfold defined?
      split
      · next asked _ =>
        cases asked
        exact absurd rfl (other _)
      · rfl
    · obtain ⟨d, rfl⟩ : ∃ d, o = .define d := by simpa using other
      exact effect_define g identity schemaName d distinct i

end Deed

/-- The schemas that an identity has after some services, the latest first: those that its entry was made with, overlaid
by every schema defined since. -/
def overlaid (i : Value) : List (Deed σ κ π) → Keyed Registered
  | [] => {}
  | x :: earlier =>
    match x.made? i, x.defined? i with
    | some t, _ => t
    | none, some (name, s) => (overlaid i earlier).put name (.schema s)
    | none, none => overlaid i earlier

/-- The services, the latest first, lead from an empty registry to the world. Between them everything may change but the
registry. -/
inductive Course : List (Deed σ κ π) → World σ κ π → Prop
  | start {w : World σ κ π} (entries : w.registry.entries = {}) : Course [] w
  | serve {deeds : List (Deed σ κ π)} {w : World σ κ π} (c : Course deeds w) (g : Gateway) (s : Service) :
    Course (.of g s w :: deeds) ((s.run g).run w).2
  | aside {deeds : List (Deed σ κ π)} {w v : World σ κ π} (c : Course deeds w) (registry : v.registry = w.registry) :
    Course deeds v

namespace Course

variable {deeds : List (Deed σ κ π)} {w : World σ κ π} {i : Value}

theorem distinct (c : Course deeds w) : w.registry.entries.Distinct := by
  induction c with
  | start entries => rw [entries]; exact Keyed.distinct_nil
  | serve c g s ih => exact (Deed.effect g s ih .null).1
  | aside c registry ih => rw [registry]; exact ih

/-- The schemas of an identity are those that it was registered with, overlaid by what was defined since. -/
theorem eq_overlaid (c : Course deeds w) {t : Keyed Registered} (found : w.registry.schemasOf i = some t) :
    t = overlaid i deeds := by
  induction c generalizing t with
  | start entries =>
    unfold Registry.schemasOf at found
    rw [entries] at found
    cases found
  | @serve deeds w c g s ih =>
    have found : (Deed.of g s w).after.schemasOf i = some t := found
    rw [overlaid]
    cases (Deed.effect g s c.distinct i).2 with
    | kept undefined same =>
      rw [Deed.made?_eq_none same, undefined]
      exact ih (same.symm.trans found)
    | removed _ _ gone => cases gone.symm.trans found
    | made _ _ made now =>
      rw [made]
      exact Option.some.inj (found.symm.trans now)
    | @defined name s' old defined before now =>
      have unmade : (Deed.of g s w).made? i = none := Deed.made?_of_defined defined
      rw [unmade, defined, ← ih before]
      exact Option.some.inj (found.symm.trans now)
  | aside c registry ih =>
    rw [registry] at found
    exact ih found

end Course

end TableGateway
