import TableGateway.Proofs.LastRows
import TableGateway.Schema.Create

/-!
# Schemas that are written down

A schema is written down as a mapping, which leaves out what is absent or false and names some parts otherwise than a
description may. It is read back as it was when whether a value is required is told by a flag (`HasFlag`); so it is in
schemas from plain descriptions and in those from the catalog, whatever the types of their columns.

- **`hasFlag_of_ofDescription`**, **`Catalog.hasFlag_of_read`**: the attributes of these schemas have flags;
- **`read_back`**: such a schema is read back, and creates the table that its mapping creates.
-/

namespace TableGateway

/-- Is every column described by a mapping? No built attribute stands for one. -/
def Description.IsPlain : Description → Prop
  | .mapping es => ∀ e ∈ es, ∀ a, e.2 ≠ .attribute a
  | _ => True

namespace Schema

variable {table : Value} {d : Description} {s : Schema}

theorem hasFlag_of_attribute : ∀ {d : Description} {a : Attribute}, (∀ b, d ≠ .attribute b) → d.attribute? = .ok a →
    a.HasFlag
  | .value _, _, _, made => by
    obtain ⟨t, -, read⟩ := bind_eq_ok made
    exact Attribute.hasFlag_of_ofMapping (Failure.ok_of_lift_error read)
  | .attribute b, _, plain, _ => absurd rfl (plain b)
  | .mapping _, _, _, made => Attribute.hasFlag_of_ofMapping (Failure.ok_of_lift_error made)

theorem hasFlag_of_readAttributes {es : List (Value × Description)} {as : List (Value × Attribute)}
    (plain : ∀ e ∈ es, ∀ a, e.2 ≠ .attribute a) (made : readAttributes es = .ok as) : ∀ e ∈ as, e.2.HasFlag := by
  induction es generalizing as with
  | nil =>
    cases made
    simp
  | cons e es ih =>
    obtain ⟨a, first, made⟩ := bind_eq_ok made
    obtain ⟨bs, rest, made⟩ := bind_eq_ok made
    cases made
    obtain ⟨plainFirst, plainRest⟩ := List.forall_mem_cons.1 plain
    exact List.forall_mem_cons.2 ⟨hasFlag_of_attribute plainFirst first, ih plainRest rest⟩

theorem not_attribute_of_entries : ∀ {d : Description} {t : Keyed Description}, d.IsPlain → d.entries? = .ok t →
    ∀ e ∈ t.entries, ∀ a, e.2 ≠ .attribute a
  | .value (.map _), _, _, entries => by
    cases entries
    intro e among a
    obtain ⟨e, -, rfl⟩ := List.mem_map.1 among
    nofun
  | .mapping _, _, plain, entries => by
    cases entries
    exact plain

theorem hasFlag_of_ofDescription (plain : d.IsPlain) (made : ofDescription table d = .ok s) :
    ∀ a ∈ s.attributes.values, a.HasFlag := by
  obtain ⟨t, entries, made⟩ := bind_eq_ok made
  obtain ⟨as, read, made⟩ := bind_eq_ok made
  cases made
  have plain := not_attribute_of_entries plain (Failure.ok_of_lift_fault entries)
  intro a there
  obtain ⟨e, among, rfl⟩ := List.mem_map.1 there
  exact hasFlag_of_readAttributes plain read e among

end Schema

/-- The attributes of a schema that was read from the catalog have flags. -/
theorem Catalog.hasFlag_of_read {table : Value} {rows : List Value} {notes : List Note} {s : Schema}
    (made : read table rows = (notes, .ok (some s))) : ∀ a ∈ s.attributes.values, a.HasFlag := by
  obtain ⟨ps, reads, -, -, rfl⟩ := read_eq_ok made
  intro a there
  obtain ⟨name, found⟩ := (Keyed.mem_values_written ps a).1 there
  obtain ⟨row, -, read⟩ := (lookup_read reads).1 found
  obtain ⟨required, -, rfl⟩ := exists_attributeWith read
  exact ⟨required, rfl⟩

namespace Schema

/-- The ways to a schema that no caller has built: a plain description, and the rows of the catalog. -/
inductive Unbuilt (s : Schema) : Prop where
  | described {table : Value} {d : Description} (plain : d.IsPlain) (made : ofDescription table d = .ok s)
  | reflected {table : Value} {rows : List Value} {notes : List Note}
      (made : Catalog.read table rows = (notes, .ok (some s)))

/-- **Reading back.** A schema from a plain description or from the catalog is described by the mapping that it is
written to, and the statement that creates a table from this mapping, or its error, is the schema's own. -/
theorem read_back {s : Schema} (unbuilt : s.Unbuilt) :
    ofDescription s.table (.value (.ofKeyed s.toDescription)) = .ok s ∧
      ∀ d keyType table, createDescribed d keyType table (.value (.ofKeyed s.toDescription)) =
        createDescribed d keyType table (.schema s) := by
  have flags : ∀ a ∈ s.attributes.values, a.HasFlag := by
    cases unbuilt with
    | described plain made => exact hasFlag_of_ofDescription plain made
    | reflected made => exact Catalog.hasFlag_of_read made
  have back (table : Value) : ofDescription table (.value (.ofKeyed s.toDescription)) = .ok ⟨table, s.attributes⟩ :=
    ofDescription_toDescription (s := ⟨table, s.attributes⟩) flags
  refine ⟨back s.table, fun d keyType table => ?_⟩
  have described : createDescribed d keyType table (.value (.ofKeyed s.toDescription)) =
      (ofDescription table (.value (.ofKeyed s.toDescription)) >>= createTable d keyType table) := rfl
  rw [described, back]
  rfl

/-- Columns under both kinds of names, one of them counted and one without a logical type. -/
def mixedDescription : Description :=
  .value (.map [
    (.text "id", .map [(.text "type", .text "integer"), (.text "auto_increment", .int 1)]),
    (.text "spot", .map [(.text "type", .null), (.text "max_length", .int 4), (.text "required", .text "yes")]),
    (.text "name", .map [(.text "maxLength", .null), (.text "max_length", .int 9), (.text "unique", .bool true)])])

/-- A schema that was described, and one that was read from the catalog with a type that nobody knows. -/
theorem read_back_mixed :
    (∃ s, ofDescription (.text "notes") mixedDescription = .ok s ∧ s.isUsable = false ∧
      ofDescription s.table (.value (.ofKeyed s.toDescription)) = .ok s) ∧
    let s := Catalog.repeatedSchema
    ofDescription (.text "notes") (.value (.ofKeyed s.toDescription)) = .ok s ∧
      createDescribed {} "INTEGER" (.text "notes") (.value (.ofKeyed s.toDescription)) =
        .error (.refused (.of (.unknownLogicalType .null))) := by
  have made : ∃ s, ofDescription (.text "notes") mixedDescription = .ok s ∧ s.isUsable = false := ⟨_, rfl, rfl⟩
  obtain ⟨s, made, unusable⟩ := made
  have described : s.Unbuilt := .described (d := mixedDescription) trivial made
  let rows := Catalog.repeatedRows.map Value.ofKeyed
  have read : Catalog.read (.text "notes") rows =
      ((Catalog.read (.text "notes") rows).1, .ok (some Catalog.repeatedSchema)) := by rfl
  obtain ⟨back, creates⟩ := read_back (.reflected read)
  exact ⟨⟨s, made, unusable, (read_back described).1⟩, back, (creates {} "INTEGER" _).trans rfl⟩

end Schema

end TableGateway
