import TableGateway.Proofs.Entries
import TableGateway.Proofs.Refusals
import TableGateway.Proofs.Texts

/-!
# Options by name and options in a mapping

The parts of options are given by name, or as the entries of a mapping under the same names. Both ways lead to one
check, and by name it gets the parts as they are. Of a mapping it gets another filter or order where what is there does
not count as given: then there is none. So the two ways part where a filter or an order is no mapping (`Stray`): by name
it is always refused, and in a mapping it is refused if it counts as given, and overlooked otherwise.

- **`ofNamed_eq`**, **`coerce_eq`**: the parts that are checked;
- **`ofNamed_of_stray`**, **`coerce_of_stray`**, **`coerce_erase`**: what becomes of a filter that is no mapping;
- **`coerce_eq_ofNamed`**: the two ways are one where nothing is overlooked;
- **`concur_iff`**: when they agree.
-/

namespace TableGateway.Options

variable {t : Keyed Value} {p : Parts} {name : String} {v : Value}

/-! ## The parts that are checked -/

/-- The parts that are given by name. -/
def named (t : Keyed Value) : Parts where
  filter := t.getD "where" (.map [])
  sort := t.getD "sort" (.map [])
  limit := t.getD "limit" .null
  skip := t.getD "skip" .null
  distinct := t.getD "distinct" (.bool false)
  select := t.getD "select" .null

theorem ofNamed_eq (names : ∀ k ∈ t.keys, isPartName k = true) : ofNamed t = ofParts (named t) := by
  unfold ofNamed
  rw [Signature.bind_named rfl names]
  rfl

theorem coerce_ofKeyed (t : Keyed Value) :
    coerce (.value (.ofKeyed t)) = checkNames t >>= fun _ => ofParts (described t) := rfl

theorem coerce_eq (names : ∀ k ∈ t.keys, isPartName k = true) :
    coerce (.value (.ofKeyed t)) = ofParts (described t) := by
  rw [coerce_ofKeyed, checkNames_eq_ok.2 names]
  rfl

/-- A part is left as it is if it is a mapping or counts as given. -/
theorem orElse_getD (solid : ∀ v, t.lookup (.text name) = some v → (∀ es, v ≠ .map es) → v.isTruthy = true) :
    (t.getD name .null).orElse (.map []) = t.getD name (.map []) := by
  unfold Keyed.getD
  cases there : t.lookup (.text name) with
  | none => rfl
  | some v =>
    show (if v.isTruthy then v else .map []) = v
    cases v with
    | map es =>
      cases es with
      | nil => rfl
      | cons e es => rfl
    | _ => rw [if_pos (solid _ there nofun)]

/-- A part that does not count as given might as well not be there. -/
theorem orElse_erase (there : t.lookup (.text name) = some v) (blank : v.isTruthy = false) :
    (t.getD name .null).orElse (.map []) = ((t.erase (.text name)).getD name .null).orElse (.map []) := by
  rw [Keyed.getD_of_lookup there, Keyed.getD_erase, if_pos rfl, Value.orElse, blank]
  rfl

/-! ## What is no mapping -/

/-- The part has to be a mapping, and is none. -/
def noMapping (name : String) (v : Value) : Failure :=
  .refused (.option (name ++ " must be a mapping") (.text name) v)

theorem checkFilter_of_no_map (other : ∀ es, v ≠ .map es) : checkFilter v = .error (noMapping "where" v) := by
  cases v with
  | map es => exact absurd rfl (other es)
  | _ => rfl

theorem checkSort_of_no_map (other : ∀ es, v ≠ .map es) : checkSort v = .error (noMapping "sort" v) := by
  cases v with
  | map es => exact absurd rfl (other es)
  | _ => rfl

theorem ofParts_of_filter {f : Failure} (failed : checkFilter p.filter = .error f) : ofParts p = .error f := by
  unfold ofParts
  rw [failed]
  rfl

theorem ofParts_of_sort {filter : Keyed Value} {f : Failure} (filtered : checkFilter p.filter = .ok filter)
    (failed : checkSort p.sort = .error f) : ofParts p = .error f := by
  unfold ofParts
  rw [filtered, failed]
  rfl

/-- This is given for the filter and is no mapping, or it is given for the order and the filter is in order. -/
inductive Stray (t : Keyed Value) : String → Value → Prop
  | filter {v : Value} (there : t.lookup (.text "where") = some v) (other : ∀ es, v ≠ .map es) : Stray t "where" v
  | sort {v : Value} {filter : Keyed Value} (filtered : checkFilter (named t).filter = .ok filter)
    (there : t.lookup (.text "sort") = some v) (other : ∀ es, v ≠ .map es) : Stray t "sort" v

/-- A filter that passes by name is read from a mapping as it is. -/
theorem filter_described {filter : Keyed Value} (filtered : checkFilter (named t).filter = .ok filter) :
    (described t).filter = (named t).filter := by
  apply orElse_getD
  intro v there other
  rw [named, Keyed.getD_of_lookup there, checkFilter_of_no_map other] at filtered
  cases filtered

/-- By name it is refused. -/
theorem ofNamed_of_stray (names : ∀ k ∈ t.keys, isPartName k = true) (stray : Stray t name v) :
    ofNamed t = .error (noMapping name v) := by
  rw [ofNamed_eq names]
  cases stray with
  | filter there other =>
    apply ofParts_of_filter
    rw [named, Keyed.getD_of_lookup there]
    exact checkFilter_of_no_map other
  | sort filtered there other =>
    apply ofParts_of_sort filtered
    rw [named, Keyed.getD_of_lookup there]
    exact checkSort_of_no_map other

/-- The two ways lead to the same where no such part is without anything that counts as given. -/
theorem coerce_eq_ofNamed (names : ∀ k ∈ t.keys, isPartName k = true)
    (solid : ∀ name v, Stray t name v → v.isTruthy = true) : coerce (.value (.ofKeyed t)) = ofNamed t := by
  have filters : (described t).filter = (named t).filter :=
    orElse_getD fun v there other => solid _ v (.filter there other)
  rw [coerce_eq names, ofNamed_eq names]
  cases filtered : checkFilter (named t).filter with
  | error f => rw [ofParts_of_filter (filters.symm ▸ filtered), ofParts_of_filter filtered]
  | ok filter =>
    have sorts : (described t).sort = (named t).sort :=
      orElse_getD fun v there other => solid _ v (.sort filtered there other)
    have same : described t = named t := by
      show Parts.mk (described t).filter (described t).sort _ _ _ _ = _
      rw [filters, sorts]
      rfl
    rw [same]

/-- In a mapping it is refused likewise if it counts as given. -/
theorem coerce_of_stray (names : ∀ k ∈ t.keys, isPartName k = true) (stray : Stray t name v)
    (counts : v.isTruthy = true) : coerce (.value (.ofKeyed t)) = .error (noMapping name v) := by
  have kept : v.orElse (.map []) = v := if_pos counts
  rw [coerce_eq names]
  cases stray with
  | filter there other =>
    apply ofParts_of_filter
    rw [described, Keyed.getD_of_lookup there, kept]
    exact checkFilter_of_no_map other
  | sort filtered there other =>
    apply ofParts_of_sort ((filter_described filtered).symm ▸ filtered)
    rw [described, Keyed.getD_of_lookup there, kept]
    exact checkSort_of_no_map other

/-- Otherwise it is overlooked: the options are those of the mapping without it. -/
theorem coerce_erase (names : ∀ k ∈ t.keys, isPartName k = true) (stray : Stray t name v)
    (blank : v.isTruthy = false) :
    coerce (.value (.ofKeyed t)) = coerce (.value (.ofKeyed (t.erase (.text name)))) := by
  rw [coerce_eq names, coerce_eq fun k key => names k (Keyed.keys_erase_subset key)]
  cases stray with
  | filter there other =>
    unfold described
    rw [orElse_erase there blank]
    simp only [Keyed.getD_erase, String.reduceEq, if_false]
  | sort _ there other =>
    unfold described
    rw [orElse_erase there blank]
    simp only [Keyed.getD_erase, String.reduceEq, if_false]

/-! ## When they agree -/

/-- Both ways lead to the same options, or fail with errors of one kind. -/
def Concur (x y : Except Failure Options) : Prop := x.mapError Failure.sort = y.mapError Failure.sort

/-- What agrees with a refused part is refused. -/
theorem refused_of_concur {x : Except Failure Options} (same : Concur x (.error (noMapping name v))) :
    ∃ e, x = .error (.refused e) := by
  cases x with
  | ok o => cases same
  | error f =>
    cases f with
    | refused e => exact ⟨e, rfl⟩
    | broken f => cases same

/-- **When the two ways agree.** By name, a filter or an order that is no mapping is always refused. In a mapping it is
refused with the same error if it counts as given; otherwise the options are those of the mapping without it. So the two
ways lead to the same unless that happens, and then they agree exactly when the rest of the mapping is refused too. -/
theorem concur_iff (names : ∀ k ∈ t.keys, isPartName k = true) :
    (Concur (coerce (.value (.ofKeyed t))) (ofNamed t) ↔ ∀ name v, Stray t name v → v.isTruthy = false →
      ∃ e, coerce (.value (.ofKeyed (t.erase (.text name)))) = .error (.refused e)) ∧
    ((∀ name v, Stray t name v → v.isTruthy = true) → coerce (.value (.ofKeyed t)) = ofNamed t) ∧
    ∀ name v, Stray t name v → ofNamed t = .error (noMapping name v) ∧
      coerce (.value (.ofKeyed t)) = if v.isTruthy then .error (noMapping name v)
        else coerce (.value (.ofKeyed (t.erase (.text name)))) := by
  refine ⟨⟨?_, ?_⟩, coerce_eq_ofNamed names, ?_⟩
  · intro concur name v stray blank
    rw [ofNamed_of_stray names stray, coerce_erase names stray blank] at concur
    exact refused_of_concur concur
  · intro refuses
    by_cases solid : ∀ name v, Stray t name v → v.isTruthy = true
    · rw [coerce_eq_ofNamed names solid]
      rfl
    · simp only [Classical.not_forall, Bool.not_eq_true] at solid
      obtain ⟨name, v, stray, blank⟩ := solid
      obtain ⟨e, refused⟩ := refuses name v stray blank
      obtain ⟨message, field, value, rfl⟩ := (judged_coerce _).option refused
      rw [coerce_erase names stray blank, refused, ofNamed_of_stray names stray]
      rfl
  · intro name v stray
    refine ⟨ofNamed_of_stray names stray, ?_⟩
    cases counts : v.isTruthy with
    | true =>
      rw [if_pos rfl]
      exact coerce_of_stray names stray counts
    | false =>
      rw [if_neg (by decide)]
      exact coerce_erase names stray counts

/-- An order that is a text is refused in both ways. -/
theorem concur_text :
    let t : Keyed Value := ⟨[(.text "where", .map [(.text "id", .int 1)]), (.text "sort", .text "name")]⟩
    Concur (coerce (.value (.ofKeyed t))) (ofNamed t) ∧
      coerce (.value (.ofKeyed t)) = .error (noMapping "sort" (.text "name")) := by
  intro t
  have names : ∀ k ∈ t.keys, isPartName k = true := by decide
  have stray : Stray t "sort" (.text "name") := .sort rfl rfl nofun
  have solid : ∀ name v, Stray t name v → v.isTruthy = true := by
    intro name v stray
    cases stray with
    | filter there other =>
      cases there
      exact absurd rfl (other _)
    | sort _ there _ =>
      cases there
      rfl
  obtain ⟨concur, -, strays⟩ := concur_iff names
  refine ⟨concur.2 fun name v stray blank => ?_, (strays _ _ stray).2⟩
  cases (solid name v stray).symm.trans blank

/-- An empty list in place of a filter is overlooked, and all users are deleted. -/
theorem overlooked_list :
    let t : Keyed Value := ⟨[(.text "where", .list [])]⟩
    let s : Schema := ⟨.text "users", ⟨[(.text "id", {}), (.text "name", {})]⟩⟩
    ofNamed t = .error (noMapping "where" (.list [])) ∧ coerce (.value (.ofKeyed t)) = .ok {} ∧
      ¬Concur (coerce (.value (.ofKeyed t))) (ofNamed t) ∧
      Query.destroy {} s (.value (.ofKeyed t)) = .ok ⟨"DELETE FROM users", []⟩ := by
  intro t s
  refine ⟨rfl, rfl, ?_, rfl⟩
  intro concur
  cases concur

end TableGateway.Options
