import TableGateway.Proofs.CheckedOptions
import TableGateway.Proofs.Places
import TableGateway.Proofs.TwoForms

/-!
# One row

One row is found as rows are found under a limit of one, but the limit is set after the options of the caller have been
checked. So a limit that is left out of a mapping may as well be written into it as one: the unknown names are the same,
and what else is wrong is found in the same order. The one check that takes notice of the limit is that rows are skipped
under a limit alone; options that skip rows without one are refused before one row can be asked for.

- **`coerce_oneRow`**, **`ofParts_one`**: the two ways to a limit of one;
- **`coerce_of_skipsAlone`**: which options are refused on the first;
- **`findOne_eq_iff`**: when one row is found as rows are under a limit of one.
-/

namespace TableGateway

namespace Options

variable {t : Keyed Value} {p : Parts} {filter : Keyed Value} {sort : Keyed Direction} {skip : Option Nat}

/-- The mapping with a limit of one. -/
def oneRow (t : Keyed Value) : Keyed Value := t.put (.text "limit") (.int 1)

/-! ## The names -/

theorem unknownKeys_oneRow (t : Keyed Value) : unknownKeys (oneRow t) = unknownKeys t := by
  unfold unknownKeys oneRow
  rw [Keyed.keys_put]
  split
  · rfl
  · rw [List.filter_append]
    exact List.append_nil _

theorem described_oneRow (t : Keyed Value) : described (oneRow t) = { described t with limit := .int 1 } := by
  unfold described oneRow
  simp only [Keyed.getD_put, String.reduceEq, if_false, if_true]

theorem coerce_oneRow (t : Keyed Value) :
    coerce (.value (.ofKeyed (oneRow t))) = checkNames t >>= fun _ => ofParts { described t with limit := .int 1 } := by
  rw [coerce_ofKeyed, checkNames_eq, unknownKeys_oneRow, ← checkNames_eq, described_oneRow]

/-! ## The parts -/

/-- What is checked behind the filter and the order. -/
theorem ofParts_of_sorted (filtered : checkFilter p.filter = .ok filter) (sorted : checkSort p.sort = .ok sort) :
    ofParts p = (liftM (checkCount "limit" p.limit) : Except Failure (Option Nat)) >>= fun limit =>
      (liftM (checkCount "skip" p.skip) : Except Failure (Option Nat)) >>= fun skip =>
        (liftM (checkSkip limit skip) : Except Failure Unit) >>= fun _ =>
          (checkSelect p.select).map fun select => ⟨filter, sort, limit, skip, p.distinct.isTruthy, select⟩ := by
  unfold ofParts
  rw [filtered, sorted]
  rfl

/-- Without a limit, no rows may be skipped. -/
theorem ofParts_unlimited (filtered : checkFilter p.filter = .ok filter) (sorted : checkSort p.sort = .ok sort)
    (unlimited : p.limit = .null) (skips : checkCount "skip" p.skip = .ok skip) :
    ofParts p = if isPositive skip then .error (.refused (loneSkip skip)) else
      (checkSelect p.select).map fun select => ⟨filter, sort, none, skip, p.distinct.isTruthy, select⟩ := by
  rw [ofParts_of_sorted filtered sorted, unlimited, skips]
  show (liftM (checkSkip none skip) : Except Failure Unit) >>= _ = _
  rw [checkSkip_of_not_pos rfl]
  split <;> rfl

/-- Under a limit of one, rows may be skipped. -/
theorem ofParts_limited (filtered : checkFilter p.filter = .ok filter) (sorted : checkSort p.sort = .ok sort)
    (limited : p.limit = .int 1) (skips : checkCount "skip" p.skip = .ok skip) : ofParts p =
      (checkSelect p.select).map fun select => ⟨filter, sort, some 1, skip, p.distinct.isTruthy, select⟩ := by
  have allowed : checkSkip (some 1) skip = .ok () := checkSkip_ok.2 fun _ => rfl
  rw [ofParts_of_sorted filtered sorted, limited, skips]
  show (liftM (checkSkip (some 1) skip) : Except Failure Unit) >>= _ = _
  rw [allowed]
  rfl

theorem ofParts_of_skip {limit : Option Nat} {e : Error} (filtered : checkFilter p.filter = .ok filter)
    (sorted : checkSort p.sort = .ok sort) (limited : checkCount "limit" p.limit = .ok limit)
    (failed : checkCount "skip" p.skip = .error e) : ofParts p = .error (.refused e) := by
  rw [ofParts_of_sorted filtered sorted, limited, failed]
  rfl

/-- A limit of one may be set afterwards or before, unless rows are skipped. -/
theorem ofParts_one (unlimited : p.limit = .null)
    (free : ∀ filter sort skip, checkFilter p.filter = .ok filter → checkSort p.sort = .ok sort →
      checkCount "skip" p.skip = .ok skip → isPositive skip = false) :
    (ofParts p >>= fun o => o.withLimit (.int 1)) = ofParts { p with limit := .int 1 } := by
  -- The checks are gone through in their order: what fails before rows are skipped fails in the same way on both sides.
  let q : Parts := { p with limit := .int 1 }
  show _ = ofParts q
  cases filtered : checkFilter p.filter with
  | error f =>
    rw [ofParts_of_filter filtered, ofParts_of_filter (p := q) filtered]
    rfl
  | ok filter =>
    cases sorted : checkSort p.sort with
    | error f =>
      rw [ofParts_of_sort filtered sorted, ofParts_of_sort (p := q) filtered sorted]
      rfl
    | ok sort =>
      have none : checkCount "limit" p.limit = .ok none := by
        rw [unlimited]
        rfl
      cases skips : checkCount "skip" p.skip with
      | error e =>
        rw [ofParts_of_skip filtered sorted none skips, ofParts_of_skip (p := q) filtered sorted rfl skips]
        rfl
      | ok skip =>
        have made := ofParts_unlimited filtered sorted unlimited skips
        rw [free filter sort skip filtered sorted skips, if_neg (by decide)] at made
        rw [made, ofParts_limited (p := q) filtered sorted rfl skips]
        show _ = (checkSelect p.select).map _
        cases selected : checkSelect p.select with
        | error f => rfl
        | ok select =>
          rw [selected] at made
          exact withLimit_checked (checked_ofParts made) 1 (by decide)

/-! ## Rows skipped without a limit -/

/-- Numbers of rows, and nothing, are all that passes for a number of rows. -/
theorem checkCount_eq_ok {name : String} {v : Value} {n : Option Nat} :
    checkCount name v = .ok n ↔ v = countValue n := by
  constructor
  · intro counts
    cases v with
    | null =>
      cases counts
      rfl
    | int k =>
      by_cases natural : 0 ≤ k
      · rw [checkCount, if_pos natural] at counts
        cases counts
        rw [countValue, Int.toNat_of_nonneg natural]
      · rw [checkCount, if_neg natural] at counts
        cases counts
    | _ => cases counts
  · rintro rfl
    exact checkCount_countValue name n

/-- Rows are skipped, and all that is checked before that is in order. -/
structure SkipsAlone (t : Keyed Value) (k : Nat) : Prop where
  names : ∀ key ∈ t.keys, isPartName key = true
  filtered : ∃ filter, checkFilter (described t).filter = .ok filter
  sorted : ∃ sort, checkSort (described t).sort = .ok sort
  skips : (described t).skip = .int k
  pos : 0 < k

theorem limit_described (unlimited : t.has (.text "limit") = false) : (described t).limit = .null :=
  Keyed.getD_of_absent unlimited

/-- Without a limit, such options are refused. -/
theorem coerce_of_skipsAlone {k : Nat} (unlimited : t.has (.text "limit") = false) (alone : SkipsAlone t k) :
    coerce (.value (.ofKeyed t)) = .error (.refused (loneSkip (some k))) := by
  obtain ⟨names, ⟨filter, filtered⟩, ⟨sort, sorted⟩, skips, pos⟩ := alone
  have skip : checkCount "skip" (described t).skip = .ok (some k) := checkCount_eq_ok.2 skips
  rw [coerce_eq names, ofParts_unlimited filtered sorted (limit_described unlimited) skip,
    if_pos (isPositive_some.2 pos)]

/-- Otherwise a limit of one may be set afterwards or written into the mapping. -/
theorem coerce_one (unlimited : t.has (.text "limit") = false) (free : ∀ k, ¬SkipsAlone t k) :
    (coerce (.value (.ofKeyed t)) >>= fun o => o.withLimit (.int 1)) = coerce (.value (.ofKeyed (oneRow t))) := by
  rw [coerce_ofKeyed, coerce_oneRow]
  cases named : checkNames t with
  | error f => rfl
  | ok _ =>
    apply ofParts_one (limit_described unlimited)
    intro filter sort skip filtered sorted skips
    rw [Bool.eq_false_iff]
    intro counts
    obtain ⟨k, pos, rfl⟩ := isPositive_iff_some.1 counts
    exact free k ⟨checkNames_eq_ok.1 named, ⟨filter, filtered⟩, ⟨sort, sorted⟩, checkCount_eq_ok.1 skips, pos⟩

/-- With the limit in the mapping, such options are made unless the wanted columns are none. -/
theorem coerce_oneRow_of_skipsAlone {k : Nat} (alone : SkipsAlone t k) : ∃ make : Option (List String) → Options,
    coerce (.value (.ofKeyed (oneRow t))) = (checkSelect (described t).select).map make := by
  obtain ⟨names, ⟨filter, filtered⟩, ⟨sort, sorted⟩, skips, -⟩ := alone
  let q : Parts := { described t with limit := .int 1 }
  have skip : checkCount "skip" q.skip = .ok (some k) := checkCount_eq_ok.2 skips
  refine ⟨fun select => ⟨filter, sort, some 1, some k, q.distinct.isTruthy, select⟩, ?_⟩
  rw [coerce_oneRow, checkNames_eq_ok.2 names]
  exact ofParts_limited (p := q) filtered sorted rfl skip

/-- Wanted columns are refused with this error alone. -/
theorem only_checkSelect (v : Value) :
    Only (Failure.Refuses (· = .option "select must list column names" (.text "select") v)) (checkSelect v) := by
  unfold checkSelect
  split
  · exact only_ok _
  · exact only_ok _
  · refine (refuses_fault v.members?).bind fun vs => ?_
    split
    · exact only_ok _
    · exact only_error rfl

end Options

/-! ## Finding one row -/

namespace Query

open Options

variable {d : Dialect} {s : Schema} {t : Keyed Value}

theorem findOne_eq_bind (d : Dialect) (s : Schema) (given : OptionsGiven) :
    findOne d s given = (coerce given >>= fun o => o.withLimit (.int 1)) >>= findWith d s := by
  rw [bind_assoc]
  rfl

/-- With options in hand, only wanted columns that are not there are refused. -/
theorem only_findWith (o : Options) : Only (Failure.Refuses fun e => ∃ names, e = noColumn names) (findWith d s o) :=
  (only_projection s o.select).refuses.bind fun _ => (refuses_fault _).bind fun _ => refuses_fault _

/-- What is refused is refused for the options. -/
theorem option_of_find_refused {given : OptionsGiven} {e : Error} (refused : find d s given = .error (.refused e)) :
    ∃ message field value, e = .option message field value := by
  unfold find at refused
  cases means : coerce given with
  | error f =>
    rw [means] at refused
    cases refused
    exact (judged_coerce given).option means
  | ok o =>
    rw [means] at refused
    obtain ⟨names, rfl⟩ := only_findWith o _ refused
    exact ⟨_, _, _, rfl⟩

/-- Under a limit of one, nothing is said about rows to skip. -/
theorem find_oneRow_ne {k : Nat} (alone : SkipsAlone t k) :
    find d s (.value (.ofKeyed (oneRow t))) ≠ .error (.refused (loneSkip (some k))) := by
  -- What can be refused now are the wanted columns alone, and these errors say something else.
  obtain ⟨make, means⟩ := coerce_oneRow_of_skipsAlone alone
  have message {text : String} {field value : Value} (other : "Cannot specify skip without limit" ≠ text)
      (same : loneSkip (some k) = .option text field value) : False :=
    other (Value.text.inj (congrArg Error.message same))
  intro refused
  unfold find at refused
  rw [means] at refused
  cases selected : checkSelect (described t).select with
  | error f =>
    rw [selected] at refused
    cases refused
    exact message (by decide) (only_checkSelect _ _ selected)
  | ok select =>
    rw [selected] at refused
    obtain ⟨names, same⟩ := only_findWith (make select) _ refused
    exact message (by decide) same

/-- **When one row is found as rows are under a limit of one.** For options in a mapping that tells no limit, the two
end alike, with the same statement or the same failure, exactly unless rows are to be skipped and what is checked before
that is in order; then one row is refused, because rows are skipped without a limit. Whatever is refused when rows are
found is refused for the options. -/
theorem findOne_eq_iff (unlimited : t.has (.text "limit") = false) :
    (findOne d s (.value (.ofKeyed t)) = find d s (.value (.ofKeyed (oneRow t))) ↔ ∀ k, ¬SkipsAlone t k) ∧
    (∀ k, SkipsAlone t k → findOne d s (.value (.ofKeyed t)) = .error (.refused (loneSkip (some k)))) ∧
    ∀ e, find d s (.value (.ofKeyed (oneRow t))) = .error (.refused e) →
      ∃ message field value, e = .option message field value := by
  have refuses (k : Nat) (alone : SkipsAlone t k) :
      findOne d s (.value (.ofKeyed t)) = .error (.refused (loneSkip (some k))) := by
    rw [findOne_eq_bind, coerce_of_skipsAlone unlimited alone]
    rfl
  refine ⟨⟨?_, ?_⟩, refuses, fun e refused => option_of_find_refused refused⟩
  · intro same k alone
    exact find_oneRow_ne alone (same.symm.trans (refuses k alone))
  · intro free
    rw [findOne_eq_bind, coerce_one unlimited free]
    rfl

/-- One user is found by number, and an order that is no direction is refused before the rows to skip are looked at. -/
theorem findOne_user :
    let s : Schema := ⟨.text "users", ⟨[(.text "id", {}), (.text "name", {})]⟩⟩
    let t : Keyed Value := ⟨[(.text "where", .map [(.text "id", .int 7)])]⟩
    let u : Keyed Value := ⟨[(.text "sort", .map [(.text "id", .text "up")]), (.text "skip", .int 2)]⟩
    t.has (.text "limit") = false ∧ u.has (.text "limit") = false ∧
      findOne {} s (.value (.ofKeyed t)) = find {} s (.value (.ofKeyed (oneRow t))) ∧
      findOne {} s (.value (.ofKeyed u)) = find {} s (.value (.ofKeyed (oneRow u))) := by
  intro s t u
  have alone {k : Nat} (alone : SkipsAlone t k) : False := by
    cases alone.skips
  have unsorted {k : Nat} (alone : SkipsAlone u k) : False := by
    obtain ⟨sort, sorted⟩ := alone.sorted
    cases sorted
  exact ⟨rfl, rfl, (findOne_eq_iff rfl).1.2 fun _ => alone, (findOne_eq_iff rfl).1.2 fun _ => unsorted⟩

/-- Where two users are to be skipped, one user is refused, and users are found under a limit of one. -/
theorem findOne_skip :
    let s : Schema := ⟨.text "users", ⟨[(.text "id", {}), (.text "name", {})]⟩⟩
    let t : Keyed Value := ⟨[(.text "skip", .int 2)]⟩
    findOne {} s (.value (.ofKeyed t)) = .error (.refused (loneSkip (some 2))) ∧
      (∃ st, find {} s (.value (.ofKeyed (oneRow t))) = .ok st ∧
        st.sql = "SELECT id, name FROM users LIMIT 1 OFFSET 2") ∧
      findOne {} s (.value (.ofKeyed t)) ≠ find {} s (.value (.ofKeyed (oneRow t))) := by
  intro s t
  let o : Options := { limit := some 1, skip := some 2 }
  have refused : findOne {} s (.value (.ofKeyed t)) = .error (.refused (loneSkip (some 2))) := rfl
  have found : find {} s (.value (.ofKeyed (oneRow t))) = .ok (reading ["id", "name"] (.text "users") s o) := by
    rw [find_of_means (o := o) rfl]
    exact findWith_eq_ok.2
      ⟨["id", "name"], _, rfl, rfl, writable_digit (by decide), writable_digit (by decide), rfl⟩
  refine ⟨refused, ⟨_, found, by decide +kernel⟩, ?_⟩
  rw [refused, found]
  nofun

end Query

end TableGateway
