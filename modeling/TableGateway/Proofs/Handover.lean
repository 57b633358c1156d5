import TableGateway.Proofs.Recorded

/-!
# Registries handed over

A gateway can be made on a registry that its owner goes on using. Whether both then work with one and the same registry
is decided once, by what the gateway takes when it is made: a registry with entries is taken over, an empty one is left
with its owner, and the gateway works with a new one. `Handover` follows the two registries, and calls through the
gateway and on the owner's registry alternate in any order.

- **`driver_run`**: no call changes the driver of a registry.
- **`owners_make`**: the owner's registry is the one that was handed over.
- **`shared_iff`**: gateway and owner share the registry, and its driver, exactly when it was handed over with entries.
-/

namespace TableGateway

variable {σ κ π : Type}

/-- No call changes the driver of the registry. -/
theorem Call.driver_run (g : Gateway) (c : Call) (w : World σ κ π) :
    ((c.run g).run w).2.registry.driver = w.registry.driver := by
  have follows : Follows fun w v : World σ κ π => v.registry.driver = w.registry.driver :=
    ⟨fun a => congrArg Registry.driver a.registry, fun h k => k.trans h⟩
  exact Call.leads_run follows (.of_registry fun same => congrArg Registry.driver same) (fun _ _ => rfl)
    (fun _ still w => still w.registry) g c w

/-- A world with the registry that a gateway works with, and the owner's registry when that is another one. -/
structure Handover (σ κ π : Type) where
  world : World σ κ π
  apart : Option (Registry σ κ π)

/-- What the gateway or the owner does. -/
inductive Act where
  /-- A call through the gateway. -/
  | through (g : Gateway) (c : Call)
  /-- A call on the owner's registry. -/
  | aside (g : Gateway) (c : Call)

namespace Handover

/-- A gateway is made on the registry of the world, which stays with its owner when the gateway makes a new one. -/
def make (w : World σ κ π) (driver : Option (Driver σ κ π)) (usual : Driver σ κ π) : Handover σ κ π where
  world := { w with registry := Gateway.registryFor (some w.registry) driver usual }
  apart := match Gateway.takeRegistry (some w.registry) driver usual with
    | .given _ => none
    | .made _ => some w.registry

/-- The owner's registry. -/
def owners (h : Handover σ κ π) : Registry σ κ π := h.apart.getD h.world.registry

def act (h : Handover σ κ π) : Act → Handover σ κ π
  | .through g c => { h with world := ((c.run g).run h.world).2 }
  | .aside g c =>
    match h.apart with
    | none => { h with world := ((c.run g).run h.world).2 }
    | some r =>
      let v := ((c.run g).run { h.world with registry := r }).2
      { world := { v with registry := h.world.registry }, apart := some v.registry }

/-- What is done in turn. -/
def after (h : Handover σ κ π) (acts : List Act) : Handover σ κ π := acts.foldl act h

/-- Gateway and owner work with one registry, which has the driver `d`. -/
structure Shared (d : Driver σ κ π) (h : Handover σ κ π) : Prop where
  together : h.apart = none
  driver : h.world.registry.driver = d

theorem Shared.act {d : Driver σ κ π} {h : Handover σ κ π} (shared : h.Shared d) (a : Act) : (h.act a).Shared d := by
  obtain ⟨w, apart⟩ := h
  obtain ⟨rfl, driver⟩ := shared
  cases a with
  | through g c => exact ⟨rfl, (Call.driver_run g c w).trans driver⟩
  | aside g c => exact ⟨rfl, (Call.driver_run g c w).trans driver⟩

theorem Shared.after {d : Driver σ κ π} {h : Handover σ κ π} (shared : h.Shared d) (acts : List Act) :
    (h.after acts).Shared d := by
  induction acts generalizing h with
  | nil => exact shared
  | cons a acts ih => exact ih (shared.act a)

/-- A registry with entries is taken over as it is. -/
theorem make_given {w : World σ κ π} (entries : w.registry.entries.isEmpty = false) (driver : Option (Driver σ κ π))
    (usual : Driver σ κ π) : make w driver usual = ⟨w, none⟩ := by
  rw [make, Gateway.registryFor, Gateway.takeRegistry_given entries]
  rfl

/-- An empty registry is left with its owner. -/
theorem make_empty {w : World σ κ π} (empty : w.registry.entries.isEmpty = true) (driver : Option (Driver σ κ π))
    (usual : Driver σ κ π) :
    make w driver usual = ⟨{ w with registry := { driver := driver.getD usual } }, some w.registry⟩ := by
  rw [make, Gateway.registryFor, Gateway.takeRegistry_empty empty]
  rfl

/-- Making a gateway does nothing to the registry that its owner handed over. -/
theorem owners_make (w : World σ κ π) (driver : Option (Driver σ κ π)) (usual : Driver σ κ π) :
    (make w driver usual).owners = w.registry := by
  cases none : w.registry.entries.isEmpty with
  | true => rw [make_empty none, owners]; rfl
  | false => rw [make_given none, owners]; rfl

/-- Registers a plain connection. -/
def signUp : Call := .registerConnection (.built { identity := .text "a" }) (.value .null)

/-- In an empty registry the connection is registered, whatever the journal says. -/
theorem registry_signUp (g : Gateway) (w : World σ κ π) (driver : Driver σ κ π) :
    ((signUp.run g).run { w with registry := { driver := driver } }).2.registry =
      Registry.update { driver := driver } (.text "a") { config := { identity := .text "a" } } := by
  let c : Config := { identity := .text "a" }
  let v : World σ κ π := { w with registry := { driver := driver } }
  let u : World σ κ π := { w with registry := Registry.update { driver := driver } (.text "a") { config := c } }
  have dropped : ((signUp.run g).run v).2 = ((Registry.register (.built c) (.value .null)).run v).2 :=
    (Run.snd_bind_pure _ (fun _ => ()) v).trans (Run.snd_settle _ v)
  -- once the entry is there, only the journal is left to be told
  have registering : (Registry.register (.built c) (.value .null)).run v =
      (do
        Run.log (Registry.registeredNote c [])
        return c.identity : Run σ κ π Value).run u := rfl
  have told : Run.Quiet (do
      Run.log (Registry.registeredNote c [])
      return c.identity : Run σ κ π Value) :=
    Run.quiet_bind (Run.quiet_log _) fun _ => Run.quiet_pure _
  rw [dropped, registering]
  exact (told u).registry

/-- **One registry or two.** A gateway is made on a registry, and its owner still has this registry then. Whatever is
done afterwards through the gateway and on the owner's registry, in any order, both work with the same registry, and
with the driver that it was handed over with, exactly when the registry had entries. -/
theorem shared_iff (w : World σ κ π) (driver : Option (Driver σ κ π)) (usual : Driver σ κ π) :
    (make w driver usual).owners = w.registry ∧
    ((∀ acts, ((make w driver usual).after acts).owners = ((make w driver usual).after acts).world.registry ∧
        ((make w driver usual).after acts).world.registry.driver = w.registry.driver) ↔
      w.registry.entries.isEmpty = false) := by
  refine ⟨owners_make w driver usual, ?_, ?_⟩
  · intro always
    rw [Bool.eq_false_iff]
    intro none
    -- what is registered through the gateway does not reach the owner
    have same := (always [.through {} signUp]).1
    rw [make_empty none] at same
    have registered := registry_signUp {} w (driver.getD usual)
    have reaches : w.registry.entries =
        Keyed.put {} (.text "a") { config := { identity := .text "a" } } :=
      (congrArg Registry.entries same).trans (congrArg Registry.entries registered)
    rw [reaches] at none
    cases none
  · intro entries acts
    have start : (make w driver usual).Shared w.registry.driver := by
      rw [make_given entries]
      exact ⟨rfl, rfl⟩
    obtain ⟨together, still⟩ := start.after acts
    exact ⟨by rw [owners, together]; rfl, still⟩

/-! ## An empty registry -/

/-- The owner's registry is empty, and its driver answers with a row. -/
def ownersWorld : World Unit Unit Unit where
  engine := ()
  registry := { driver := .steady (.ok ()) (.ok [.int 1]) (.ok ()) }

/-- The driver of a gateway that is given none. -/
def unavailable : Driver Unit Unit Unit := .steady (.error (.refused (Error.engine "no driver" ""))) (.ok []) (.ok ())

/-- Made on an empty registry, the gateway registers a connection elsewhere, and statements go to another driver. -/
theorem owner_left_out :
    let h := (make ownersWorld none unavailable).after [.through {} signUp]
    h.world.registry.entries.has (.text "a") = true ∧ h.owners.entries.has (.text "a") = false ∧
      (((Dispatcher.execute {} (.text "a") ⟨"SELECT 1", []⟩).run h.world).1.map Outcome.isErr = .ok true) ∧
      ∃ c, (h.owners.driver.connect "" ()).1 = .ok c ∧
        (h.owners.driver.query c "SELECT 1" none ()).1 = .ok [.int 1] :=
  ⟨rfl, rfl, rfl, (), rfl, rfl⟩

end Handover

end TableGateway
