import TableGateway.Registry

/-!
# Tables with distinct keys

Writing and erasing, seen as what they do to the values of a table: writing under a key that is there replaces one
value and keeps the rest, writing under a new key adds one, erasing takes one away.

- **`distinct_put`**, **`distinct_erase`**: the keys stay distinct.
- **`exists_rest`**: the value under a key, and the rest that neither writing there nor erasing touches.
- **`put_new`**, **`values_put_new`**: a new key goes to the end, and its value comes last.
- **`lookup_filter`**: what is kept is still found.
- **`others_put`**, **`others_erase`**: the entries under other keys and their order stay.
-/

namespace TableGateway.Keyed

variable {β : Type}

/-- No key occurs twice. A key that is not even the same as itself may be there several times. -/
def Distinct (t : Keyed β) : Prop := t.entries.Pairwise fun a b => a.1.same b.1 = false

theorem distinct_nil : Distinct (⟨[]⟩ : Keyed β) := List.Pairwise.nil

theorem mem_putIn {t : List (Value × β)} {k : Value} {v : β} {e : Value × β} (h : e ∈ putIn t k v) :
    (∃ e' ∈ t, e'.1 = e.1) ∨ e = (k, v) := by
  induction t with
  | nil => exact Or.inr (List.mem_singleton.1 h)
  | cons a t ih =>
    obtain ⟨a, w⟩ := a
    rw [putIn] at h
    split at h
    · rcases List.mem_cons.1 h with rfl | h
      · exact Or.inl ⟨(a, w), .head _, rfl⟩
      · exact Or.inl ⟨e, .tail _ h, rfl⟩
    · rcases List.mem_cons.1 h with rfl | h
      · exact Or.inl ⟨(a, w), .head _, rfl⟩
      · rcases ih h with ⟨e', he', same⟩ | rfl
        · exact Or.inl ⟨e', .tail _ he', same⟩
        · exact Or.inr rfl

theorem mem_of_mem_eraseIn {t : List (Value × β)} {k : Value} {e : Value × β} (h : e ∈ eraseIn t k) : e ∈ t := by
  induction t with
  | nil => exact h
  | cons a t ih =>
    obtain ⟨a, w⟩ := a
    rw [eraseIn] at h
    split at h
    · exact .tail _ (ih h)
    · rcases List.mem_cons.1 h with rfl | h
      · exact .head _
      · exact .tail _ (ih h)

theorem distinct_put {t : Keyed β} {k : Value} {v : β} (h : t.Distinct) : (t.put k v).Distinct := by
  obtain ⟨es⟩ := t
  unfold Distinct put at *
  dsimp only at *
  induction es with
  | nil => exact List.pairwise_singleton _ _
  | cons a es ih =>
    obtain ⟨a, w⟩ := a
    obtain ⟨first, rest⟩ := List.pairwise_cons.1 h
    rw [putIn]
    split
    · exact List.pairwise_cons.2 ⟨first, rest⟩
    · next fresh =>
      refine List.pairwise_cons.2 ⟨fun e he => ?_, ih rest⟩
      rcases mem_putIn he with ⟨e', he', same⟩ | rfl
      · rw [← same]
        exact first e' he'
      · rw [Value.same_comm]
        simpa using fresh

theorem distinct_erase {t : Keyed β} {k : Value} (h : t.Distinct) : (t.erase k).Distinct := by
  obtain ⟨es⟩ := t
  unfold Distinct erase at *
  dsimp only at *
  induction es with
  | nil => exact h
  | cons a es ih =>
    obtain ⟨first, rest⟩ := List.pairwise_cons.1 h
    rw [eraseIn]
    split
    · exact ih rest
    · exact List.pairwise_cons.2 ⟨fun e he => first e (mem_of_mem_eraseIn he), ih rest⟩

theorem keys_erase_subset {t : Keyed β} {k : Value} : (t.erase k).keys ⊆ t.keys := by
  intro l there
  obtain ⟨e, among, rfl⟩ := List.mem_map.1 there
  exact List.mem_map_of_mem (mem_of_mem_eraseIn among)

theorem getD_of_lookup {t : Keyed β} {name : String} {v d : β} (there : t.lookup (.text name) = some v) :
    t.getD name d = v := by
  rw [getD, there]
  rfl

theorem getD_of_absent {t : Keyed β} {name : String} {d : β} (absent : t.has (.text name) = false) :
    t.getD name d = d := by
  rw [getD, Option.not_isSome_iff_eq_none.1 (Bool.eq_false_iff.1 absent)]
  rfl

theorem getD_erase {t : Keyed β} {name other : String} {d : β} :
    (t.erase (.text name)).getD other d = if other = name then d else t.getD other d := by
  unfold getD
  rw [lookup_erase, Value.same_text_text]
  by_cases same : other = name <;> simp [same]

theorem getD_put {t : Keyed β} {name other : String} {v d : β} :
    (t.put (.text name) v).getD other d = if other = name then v else t.getD other d := by
  unfold getD
  rw [lookup_put, Value.same_text_text]
  by_cases same : other = name <;> simp [same]

/-- Nothing is erased where the key is not. -/
theorem eraseIn_eq_self {t : List (Value × β)} {k : Value} (h : ∀ e ∈ t, k.same e.1 = false) : eraseIn t k = t := by
  induction t with
  | nil => rfl
  | cons a t ih =>
    have first := h a (.head _)
    rw [eraseIn, first, ih fun e he => h e (.tail _ he)]
    rfl

/-- The value under a key, and the rest, which writing there and erasing leave alone. -/
theorem exists_rest {t : Keyed β} {k : Value} {v : β} (h : t.Distinct) (found : t.lookup k = some v) :
    ∃ rest, t.values.Perm (v :: rest) ∧ (∀ v', (t.put k v').values.Perm (v' :: rest)) ∧
      (t.erase k).values.Perm rest := by
  obtain ⟨es⟩ := t
  unfold lookup at found
  unfold Distinct values put erase at *
  dsimp only at *
  -- Once the key is found, distinctness keeps erasing from touching what comes after.
  induction es with
  | nil => cases found
  | cons a es ih =>
    obtain ⟨a, w⟩ := a
    obtain ⟨first, rest⟩ := List.pairwise_cons.1 h
    rw [lookupIn] at found
    split at found
    · next same =>
      cases found
      have others : ∀ e ∈ es, k.same e.1 = false := by
        intro e he
        rw [same_congr same]
        exact first e he
      refine ⟨es.map Prod.snd, .refl _, fun v' => ?_, ?_⟩
      · rw [putIn, if_pos same]
        exact .refl _
      · rw [eraseIn, if_pos same, eraseIn_eq_self others]
    · next other =>
      obtain ⟨r, values, put, erase⟩ := ih rest found
      refine ⟨w :: r, (values.cons w).trans (.swap _ _ _), fun v' => ?_, ?_⟩
      · rw [putIn, if_neg other]
        exact ((put v').cons w).trans (.swap _ _ _)
      · rw [eraseIn, if_neg other]
        exact erase.cons w

theorem lookupIn_congr {t : List (Value × β)} {k l : Value} (h : k.same l = true) : lookupIn t k = lookupIn t l := by
  induction t with
  | nil => rfl
  | cons a t ih => rw [lookupIn, lookupIn, same_congr h, ih]

theorem lookupIn_eq_none {t : List (Value × β)} {k : Value} (h : ∀ e ∈ t, k.same e.1 = false) :
    lookupIn t k = none := by
  induction t with
  | nil => rfl
  | cons a t ih =>
    have first := h a (.head _)
    rw [lookupIn, first, ih fun e he => h e (.tail _ he)]
    rfl

/-- The same key finds the same. -/
theorem lookup_congr {t : Keyed β} {k l : Value} (h : k.same l = true) : t.lookup k = t.lookup l := lookupIn_congr h

/-- Without its first entry, a table finds what it found, or nothing. -/
theorem lookup_tail {a : Value × β} {es : List (Value × β)} (h : (⟨a :: es⟩ : Keyed β).Distinct) (k : Value) :
    (⟨es⟩ : Keyed β).lookup k = none ∨ (⟨es⟩ : Keyed β).lookup k = (⟨a :: es⟩ : Keyed β).lookup k := by
  obtain ⟨first, _⟩ := List.pairwise_cons.1 h
  by_cases same : k.same a.1 = true
  · refine Or.inl ?_
    have others : ∀ e ∈ es, k.same e.1 = false := by
      intro e he
      rw [same_congr same]
      exact first e he
    exact lookupIn_eq_none others
  · refine Or.inr ?_
    unfold lookup
    rw [lookupIn, if_neg same]

/-- What is found under a key is the value of an entry with the same key. -/
theorem exists_same_of_lookup {t : Keyed β} {k : Value} {v : β} (found : t.lookup k = some v) :
    ∃ a, (a, v) ∈ t.entries ∧ k.same a = true := by
  obtain ⟨es⟩ := t
  unfold lookup at found
  dsimp only at *
  induction es with
  | nil => cases found
  | cons a es ih =>
    rw [lookupIn] at found
    split at found
    · next same =>
      cases found
      exact ⟨a.1, .head _, same⟩
    · obtain ⟨b, there, same⟩ := ih found
      exact ⟨b, .tail _ there, same⟩

/-- What is kept for its key is still found. -/
theorem lookup_filter {t : Keyed β} {p : Value → Bool} {k : Value} (kept : ∀ a, k.same a = true → p a = true) :
    (⟨t.entries.filter fun e => p e.1⟩ : Keyed β).lookup k = t.lookup k := by
  obtain ⟨es⟩ := t
  unfold lookup
  dsimp only
  induction es with
  | nil => rfl
  | cons e es ih =>
    by_cases passed : p e.1 = true
    · rw [List.filter_cons_of_pos (by simpa using passed), lookupIn, lookupIn, ih]
    · have other : ¬k.same e.1 = true := fun same => passed (kept e.1 same)
      rw [List.filter_cons_of_neg (by simpa using passed), ih, lookupIn, if_neg other]

theorem mem_values_of_lookup {t : Keyed β} {k : Value} {v : β} (found : t.lookup k = some v) : v ∈ t.values := by
  obtain ⟨a, there, _⟩ := exists_same_of_lookup found
  exact List.mem_map_of_mem there

/-- A new key goes to the end, with its value. -/
theorem put_new {t : Keyed β} {k : Value} {v : β} (absent : t.lookup k = none) :
    t.put k v = ⟨t.entries ++ [(k, v)]⟩ := by
  obtain ⟨es⟩ := t
  unfold lookup at absent
  unfold put
  dsimp only at *
  refine congrArg Keyed.mk ?_
  induction es with
  | nil => rfl
  | cons a es ih =>
    obtain ⟨a, w⟩ := a
    rw [lookupIn] at absent
    split at absent
    · cases absent
    · next other => rw [putIn, if_neg other, ih absent, List.cons_append]

theorem values_put_new {t : Keyed β} {k : Value} {v : β} (absent : t.lookup k = none) :
    (t.put k v).values = t.values ++ [v] := by
  rw [put_new absent]
  exact List.map_append

/-! ## Other entries -/

/-- The entries under other keys than `k`, in order. -/
def others (t : Keyed β) (k : Value) : List (Value × β) := t.entries.filter fun e => !k.same e.1

/-- Writing under a key that is one leaves the others alone. -/
theorem others_put {t : Keyed β} {k : Value} {v : β} (key : k.same k = true) : (t.put k v).others k = t.others k := by
  obtain ⟨es⟩ := t
  unfold others put
  dsimp only
  induction es with
  | nil => rw [putIn, List.filter_cons_of_neg (by rw [key]; decide)]
  | cons a es ih =>
    obtain ⟨a, w⟩ := a
    rw [putIn]
    by_cases same : k.same a = true
    · rw [if_pos same, List.filter_cons_of_neg (by rw [same]; decide), List.filter_cons_of_neg (by rw [same]; decide)]
    · have other : (!k.same a) = true := by rw [Bool.eq_false_iff.2 same]; rfl
      rw [if_neg same, List.filter_cons, if_pos other, List.filter_cons, if_pos other, ih]

theorem others_erase {t : Keyed β} {k : Value} : (t.erase k).others k = t.others k := by
  obtain ⟨es⟩ := t
  unfold others erase
  dsimp only
  induction es with
  | nil => rfl
  | cons a es ih =>
    obtain ⟨a, w⟩ := a
    rw [eraseIn]
    by_cases same : k.same a = true
    · rw [if_pos same, List.filter_cons_of_neg (by rw [same]; decide), ih]
    · have other : (!k.same a) = true := by rw [Bool.eq_false_iff.2 same]; rfl
      rw [if_neg same, List.filter_cons, if_pos other, List.filter_cons, if_pos other, ih]

theorem same_self_of_lookup {t : Keyed β} {k : Value} {v : β} (found : t.lookup k = some v) : k.same k = true := by
  obtain ⟨_, _, same⟩ := exists_same_of_lookup found
  exact same_self_of same

/-- What is there under a key may be asked for. -/
theorem find_of_lookup {t : Keyed β} {k : Value} {v : β} (found : t.lookup k = some v) : t.find k = .ok (some v) := by
  obtain ⟨ks, key, _⟩ := Value.same_iff.1 (same_self_of_lookup found)
  rw [find, if_pos (Value.isKey_of_key? key), found]

theorem mem_values_put {t : Keyed β} {k : Value} {v u : β} (h : u ∈ (t.put k v).values) : u = v ∨ u ∈ t.values := by
  obtain ⟨es⟩ := t
  unfold put values at *
  dsimp only at *
  induction es with
  | nil => exact Or.inl (List.mem_singleton.1 h)
  | cons a es ih =>
    obtain ⟨a, w⟩ := a
    rw [putIn] at h
    split at h
    · rcases List.mem_cons.1 h with new | old
      · exact Or.inl new
      · exact Or.inr (.tail _ old)
    · rcases List.mem_cons.1 h with first | rest
      · exact Or.inr (first ▸ .head _)
      · rcases ih rest with new | old
        · exact Or.inl new
        · exact Or.inr (.tail _ old)

theorem mem_of_mem_values_erase {t : Keyed β} {k : Value} {u : β} (h : u ∈ (t.erase k).values) : u ∈ t.values := by
  obtain ⟨e, found, rfl⟩ := List.mem_map.1 h
  exact List.mem_map.2 ⟨e, mem_of_mem_eraseIn found, rfl⟩

end TableGateway.Keyed
