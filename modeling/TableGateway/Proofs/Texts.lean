import TableGateway.Proofs.Blanks

/-!
# Texts and data

The text of a statement depends on a schema, a dialect and on which columns of the schema a request names, never on the
values that go with them nor on what the request names beside the schema. Two requests that name the same columns
(`Request.Alike`) fail with errors of one kind, or build the same text; and the values they bind, one by one, are those
that each gave for the same column.

- **`Options.SameShape`**: what options have to agree on;
- **`matches_findWith`**, **`matches_updateWith`**, ...: the two runs of each builder;
- **`statement_alike`**: the two runs of any request.
-/

namespace TableGateway

/-- What a failure is: an error, told by the name of its kind, or a fault. -/
def Failure.sort : Failure → String ⊕ Fault
  | .refused e => .inl e.name
  | .broken f => .inr f

namespace Query

/-- The columns of the schema that are named, in order. -/
def columnsOf {β : Type} (s : Schema) (t : Keyed β) : List Value := (known s t).map Prod.fst

/-- The wanted columns that there are. -/
def wanted (s : Schema) (select : Option (List String)) : List Value :=
  ((select.getD []).map Value.text).filter s.attributes.has

end Query

open Query

/-- The options agree on everything but the values to compare with and on what is no column of the schema. -/
structure Options.SameShape (s : Schema) (o o' : Options) : Prop where
  distinct : o.distinct = o'.distinct
  limit : o.limit = o'.limit
  skip : o.skip = o'.skip
  selects : o.select.isSome = o'.select.isSome
  select : wanted s o.select = wanted s o'.select
  filter : columnsOf s o.filter = columnsOf s o'.filter
  sort : known s o.sort = known s o'.sort

/-- Two runs: both fail in one way, or both build a statement with the same text, and each binds what it was given. -/
def Matches (given given' : List (Value × Value)) (x x' : Except Failure Statement) : Prop :=
  (∃ f f', x = .error f ∧ x' = .error f' ∧ f.sort = f'.sort) ∨
    ∃ st st', x = .ok st ∧ x' = .ok st' ∧ st.sql = st'.sql ∧ st.params = given.map Prod.snd ∧
      st'.params = given'.map Prod.snd

namespace Query

variable {d : Dialect} {s : Schema} {o o' : Options} {given given' : List (Value × Value)}

/-- Clauses that differ in the values that they bind alone. -/
theorem matches_statement {cs cs' : List Clause} (same : Clause.blankAll cs = Clause.blankAll cs')
    (bound : Clause.boundAll cs = given.map Prod.snd) (bound' : Clause.boundAll cs' = given'.map Prod.snd) :
    Matches given given' (liftM (Clause.statement d cs)) (liftM (Clause.statement d cs')) := by
  have texts := Clause.sql_statement_congr (d := d) same
  cases built : Clause.statement d cs with
  | error f =>
    cases built' : Clause.statement d cs' with
    | error f' =>
      rw [built, built'] at texts
      cases texts
      exact Or.inl ⟨_, _, rfl, rfl, rfl⟩
    | ok st' => rw [built, built'] at texts; cases texts
  | ok st =>
    cases built' : Clause.statement d cs' with
    | error f' => rw [built, built'] at texts; cases texts
    | ok st' =>
      rw [built, built'] at texts
      refine Or.inr ⟨st, st', rfl, rfl, Except.ok.inj texts, ?_, ?_⟩
      · rw [Clause.params_statement built, bound]
      · rw [Clause.params_statement built', bound']

/-! ## Clauses -/

theorem blank_filterClause (s : Schema) (o : Options) :
    (filterClause s o).blank = .filter ((columnsOf s o.filter).map fun c => .eq c .null) := by
  rw [filterClause, Clause.blank, Clause.blankAll_eq_map, columnsOf, List.map_map, List.map_map]
  rfl

theorem boundAll_eq_flatMap (cs : List Clause) : Clause.boundAll cs = cs.flatMap Clause.bound := by
  induction cs with
  | nil => rfl
  | cons c cs ih => rw [Clause.boundAll, ih, List.flatMap_cons]

theorem bound_filterClause (s : Schema) (o : Options) : (filterClause s o).bound = (known s o.filter).map Prod.snd := by
  rw [filterClause, Clause.bound, boundAll_eq_flatMap, List.flatMap_map]
  induction known s o.filter with
  | nil => rfl
  | cons e es ih => rw [List.flatMap_cons, ih]; rfl

/-- Written values are blanked out by column. -/
theorem blanked_of_fst {ps ps' : List (Value × Value)} (same : ps.map Prod.fst = ps'.map Prod.fst) :
    (ps.map fun e => (e.1, Value.null)) = ps'.map fun e => (e.1, Value.null) := by
  have columns := congrArg (List.map fun c : Value => (c, Value.null)) same
  rw [List.map_map, List.map_map] at columns
  exact columns

/-! ## Wanted columns -/

/-- The same columns are answered with, or none of the wanted ones is there on both sides. -/
theorem projection_alike (same : o.SameShape s o') :
    (∃ cs, projection s o.select = .ok cs ∧ projection s o'.select = .ok cs) ∨
      ∃ e e', projection s o.select = .error e ∧ projection s o'.select = .error e' ∧ e.name = e'.name := by
  have selects := same.selects
  have select := same.select
  unfold wanted at select
  cases h : o.select with
  | none =>
    cases h' : o'.select with
    | none => exact Or.inl ⟨_, rfl, rfl⟩
    | some names' => rw [h, h'] at selects; cases selects
  | some names =>
    cases h' : o'.select with
    | none => rw [h, h'] at selects; cases selects
    | some names' =>
      rw [h, h'] at select
      simp only [Option.getD_some] at select
      unfold projection
      dsimp only
      rw [select]
      split
      · exact Or.inr ⟨_, _, rfl, rfl, rfl⟩
      · exact Or.inl ⟨_, rfl, rfl⟩

/-! ## The builders -/

/-- Both runs read the same table's name. -/
theorem matches_table {table : Except Fault Value} {f f' : Value → Except Failure Statement}
    (h : ∀ t, Matches given given' (f t) (f' t)) :
    Matches given given' ((liftM table : Except Failure Value) >>= f)
      ((liftM table : Except Failure Value) >>= f') := by
  cases table with
  | error e => exact Or.inl ⟨_, _, rfl, rfl, rfl⟩
  | ok t => exact h t

theorem matches_findWith (same : o.SameShape s o') :
    Matches (known s o.filter) (known s o'.filter) (findWith d s o) (findWith d s o') := by
  unfold findWith
  rcases projection_alike same with ⟨cs, h, h'⟩ | ⟨e, e', h, h', names⟩
  · rw [h, h']
    refine matches_table fun t => matches_statement ?_ ?_ ?_
    · have order : orderClause s o = orderClause s o' := by rw [orderClause, same.sort, orderClause]
      unfold findClauses
      simp only [Clause.blankAll, blank_filterClause, same.filter, same.distinct, same.limit, same.skip, order]
    · simp only [findClauses, Clause.boundAll, bound_filterClause]
      simp [Clause.bound, orderClause]
    · simp only [findClauses, Clause.boundAll, bound_filterClause]
      simp [Clause.bound, orderClause]
  · rw [h, h']
    exact Or.inl ⟨_, _, rfl, rfl, congrArg Sum.inl names⟩

theorem matches_countWith (same : o.SameShape s o') :
    Matches (known s o.filter) (known s o'.filter) (countWith d s o) (countWith d s o') := by
  have selects := same.selects
  unfold countWith checkCountable
  cases h : o.select with
  | none =>
    cases h' : o'.select with
    | some names' => rw [h, h'] at selects; cases selects
    | none =>
      refine matches_table fun t => matches_statement ?_ ?_ ?_
      · simp only [Clause.blankAll, blank_filterClause, same.filter]
      · simp [Clause.boundAll, bound_filterClause, Clause.bound]
      · simp [Clause.boundAll, bound_filterClause, Clause.bound]
  | some names =>
    cases h' : o'.select with
    | none => rw [h, h'] at selects; cases selects
    | some names' => exact Or.inl ⟨_, _, rfl, rfl, rfl⟩

theorem matches_destroyWith (same : o.SameShape s o') :
    Matches (known s o.filter) (known s o'.filter) (destroyWith d s o) (destroyWith d s o') := by
  unfold destroyWith
  refine matches_table fun t => matches_statement ?_ ?_ ?_
  · simp only [Clause.blankAll, blank_filterClause, same.filter, same.limit]
  · simp [Clause.boundAll, bound_filterClause, Clause.bound]
  · simp [Clause.boundAll, bound_filterClause, Clause.bound]

theorem isEmpty_of_fst {ps ps' : List (Value × Value)} (same : ps.map Prod.fst = ps'.map Prod.fst) :
    ps.isEmpty = ps'.isEmpty := by
  rw [← List.isEmpty_map (f := Prod.fst), same, List.isEmpty_map]

theorem matches_create {es es' : List (Value × Value)} (same : columnsOf s ⟨es⟩ = columnsOf s ⟨es'⟩) :
    Matches (known s ⟨es⟩) (known s ⟨es'⟩) (create d s (.map es)) (create d s (.map es')) := by
  unfold create
  show Matches _ _ (if (known s ⟨es⟩).isEmpty then .error (.refused noValue) else _)
    (if (known s ⟨es'⟩).isEmpty then .error (.refused noValue) else _)
  rw [isEmpty_of_fst same]
  split
  · exact Or.inl ⟨_, _, rfl, rfl, rfl⟩
  · refine matches_table fun t => matches_statement ?_ ?_ ?_
    · simp only [Clause.blankAll, Clause.blank, blanked_of_fst same]
    · simp [Clause.boundAll, Clause.bound]
    · simp [Clause.boundAll, Clause.bound]

/-- Which values may be written depends on their columns. -/
theorem map_fst_assignable (s : Schema) (t : Keyed Value) :
    (assignable s t).map Prod.fst = (columnsOf s t).filter fun c =>
      match s.attributes.lookup c with
      | some a => !a.autoIncrement
      | none => false := by
  rw [columnsOf, List.filter_map]
  rfl

theorem matches_updateWith (same : o.SameShape s o') {t t' : Keyed Value} (columns : columnsOf s t = columnsOf s t') :
    Matches (assignable s t ++ known s o.filter) (assignable s t' ++ known s o'.filter) (updateWith d s o t)
      (updateWith d s o' t') := by
  have written : (assignable s t).map Prod.fst = (assignable s t').map Prod.fst := by
    rw [map_fst_assignable, map_fst_assignable, columns]
  unfold updateWith
  show Matches _ _ (if (assignable s t).isEmpty then .error (.refused notAssignable) else _)
    (if (assignable s t').isEmpty then .error (.refused notAssignable) else _)
  rw [isEmpty_of_fst written]
  split
  · exact Or.inl ⟨_, _, rfl, rfl, rfl⟩
  · refine matches_table fun table => matches_statement ?_ ?_ ?_
    · simp only [Clause.blankAll, Clause.blank, blank_filterClause, blanked_of_fst written, same.filter, same.limit]
    · simp [Clause.boundAll, Clause.bound, bound_filterClause]
    · simp [Clause.boundAll, Clause.bound, bound_filterClause]

end Query

/-! ## Requests -/

namespace Options

/-- The options that a caller means have passed the check. -/
def Accepted (given : OptionsGiven) (o : Options) : Prop := coerce given = .ok o ∧ o.Checked

/-- Whatever passes the check is checked. -/
theorem checked_ofParts {p : Parts} {o : Options} (h : ofParts p = .ok o) : o.Checked := by
  unfold ofParts at h
  obtain ⟨filter, filtered, h⟩ := bind_eq_ok h
  obtain ⟨sort, _, h⟩ := bind_eq_ok h
  obtain ⟨limit, _, h⟩ := bind_eq_ok h
  obtain ⟨skip, _, h⟩ := bind_eq_ok h
  obtain ⟨_, skipped, h⟩ := bind_eq_ok h
  obtain ⟨select, _, h⟩ := bind_eq_ok h
  cases h
  refine ⟨?_, checkSkip_ok.1 (Failure.ok_of_lift_error skipped)⟩
  unfold checkFilter at filtered
  split at filtered
  · next es _ =>
    cases checked : checkEntries es with
    | error e => rw [checked] at filtered; cases filtered
    | ok _ =>
      rw [checked] at filtered
      cases filtered
      exact checkEntries_ok.1 checked
  · cases filtered

/-- Options that a caller describes are accepted as soon as they mean any. -/
theorem accepted_of_value {v : Value} {o : Options} (h : coerce (.value v) = .ok o) : Accepted (.value v) o := by
  refine ⟨h, ?_⟩
  cases v with
  | null =>
    cases h
    exact ⟨fun e he => by (cases he), fun skips => by (cases skips)⟩
  | map es =>
    obtain ⟨_, _, h⟩ := bind_eq_ok (show (checkNames ⟨es⟩ >>= _) = _ from h)
    exact checked_ofParts h
  | _ => cases h

/-- A limit may always be set. -/
theorem withLimit_checked {o : Options} (h : o.Checked) (n : Nat) (pos : 0 < n) :
    o.withLimit (.int n) = .ok { o with limit := some n } := by
  have limited : Checked { o with limit := some n } := by
    refine ⟨h.1, fun _ => ?_⟩
    show (n != 0) = true
    simp
    omega
  exact ofParts_toParts limited

end Options

namespace Request

/-- What the values of a request are compared with. -/
def compared (s : Schema) (given : OptionsGiven) : List (Value × Value) :=
  match Options.coerce given with
  | .ok o => known s o.filter
  | .error _ => []

/-- The table that values are given as. -/
def written : Value → Keyed Value
  | .map es => ⟨es⟩
  | _ => {}

/-- The columns of the schema with the values that a request gives for them: those to be written before those to be
compared with. -/
def given (s : Schema) : Request → List (Value × Value)
  | .find options | .findOne options | .count options | .destroy options => compared s options
  | .create values => known s (written values)
  | .update options values => assignable s (written values) ++ compared s options
  | .truncate => []

/-- Two requests of one kind, with accepted options, that name the same columns of the schema. -/
inductive Alike (s : Schema) : Request → Request → Prop
  | find {g g' : OptionsGiven} {o o' : Options} (h : Options.Accepted g o) (h' : Options.Accepted g' o')
    (same : o.SameShape s o') : Alike s (.find g) (.find g')
  | findOne {g g' : OptionsGiven} {o o' : Options} (h : Options.Accepted g o) (h' : Options.Accepted g' o')
    (same : o.SameShape s o') : Alike s (.findOne g) (.findOne g')
  | count {g g' : OptionsGiven} {o o' : Options} (h : Options.Accepted g o) (h' : Options.Accepted g' o')
    (same : o.SameShape s o') : Alike s (.count g) (.count g')
  | create {es es' : List (Value × Value)} (columns : columnsOf s ⟨es⟩ = columnsOf s ⟨es'⟩) :
    Alike s (.create (.map es)) (.create (.map es'))
  | update {g g' : OptionsGiven} {o o' : Options} (h : Options.Accepted g o) (h' : Options.Accepted g' o')
    (same : o.SameShape s o') {es es' : List (Value × Value)} (columns : columnsOf s ⟨es⟩ = columnsOf s ⟨es'⟩) :
    Alike s (.update g (.map es)) (.update g' (.map es'))
  | destroy {g g' : OptionsGiven} {o o' : Options} (h : Options.Accepted g o) (h' : Options.Accepted g' o')
    (same : o.SameShape s o') : Alike s (.destroy g) (.destroy g')

variable {d : Dialect} {s : Schema} {r r' : Request}

theorem compared_eq {g : OptionsGiven} {o : Options} (h : Options.Accepted g o) : compared s g = known s o.filter := by
  rw [compared, h.1]

/-- Alike requests give values for the same columns. -/
theorem Alike.columns (a : Alike s r r') : (r.given s).map Prod.fst = (r'.given s).map Prod.fst := by
  cases a with
  | find h h' same | findOne h h' same | count h h' same | destroy h h' same =>
    rw [given, given, compared_eq h, compared_eq h']
    exact same.filter
  | create columns => exact columns
  | update h h' same columns =>
    rw [given, given, compared_eq h, compared_eq h', List.map_append, List.map_append, map_fst_assignable,
      map_fst_assignable]
    exact congr (congrArg _ (congrArg _ columns)) same.filter

theorem matches_request (a : Alike s r r') :
    Matches (r.given s) (r'.given s) (r.statement d s) (r'.statement d s) := by
  cases a with
  | @find g g' o o' h h' same =>
    show Matches (compared s g) (compared s g') (Options.coerce g >>= findWith d s)
      (Options.coerce g' >>= findWith d s)
    rw [compared_eq h, compared_eq h', h.1, h'.1]
    exact matches_findWith same
  | @findOne g g' o o' h h' same =>
    show Matches (compared s g) (compared s g') (Options.coerce g >>= fun o => o.withLimit (.int 1) >>= findWith d s)
      (Options.coerce g' >>= fun o => o.withLimit (.int 1) >>= findWith d s)
    rw [compared_eq h, compared_eq h', h.1, h'.1]
    show Matches _ _ (o.withLimit (.int 1) >>= findWith d s) (o'.withLimit (.int 1) >>= findWith d s)
    rw [show o.withLimit (.int 1) = _ from Options.withLimit_checked h.2 1 Nat.one_pos,
      show o'.withLimit (.int 1) = _ from Options.withLimit_checked h'.2 1 Nat.one_pos]
    have limited : Options.SameShape s { o with limit := some 1 } { o' with limit := some 1 } :=
      ⟨same.distinct, rfl, same.skip, same.selects, same.select, same.filter, same.sort⟩
    have found := matches_findWith (d := d) limited
    exact found
  | @count g g' o o' h h' same =>
    show Matches (compared s g) (compared s g') (Options.coerce g >>= countWith d s)
      (Options.coerce g' >>= countWith d s)
    rw [compared_eq h, compared_eq h', h.1, h'.1]
    exact matches_countWith same
  | create columns => exact matches_create columns
  | @update g g' o o' h h' same es es' columns =>
    show Matches (assignable s ⟨es⟩ ++ compared s g) (assignable s ⟨es'⟩ ++ compared s g')
      (Options.coerce g >>= fun o => updateWith d s o ⟨es⟩) (Options.coerce g' >>= fun o => updateWith d s o ⟨es'⟩)
    rw [compared_eq h, compared_eq h', h.1, h'.1]
    exact matches_updateWith same columns
  | @destroy g g' o o' h h' same =>
    show Matches (compared s g) (compared s g') (Options.coerce g >>= destroyWith d s)
      (Options.coerce g' >>= destroyWith d s)
    rw [compared_eq h, compared_eq h', h.1, h'.1]
    exact matches_destroyWith same

/-- **The text does not depend on data.** Of two requests that name the same columns of the schema, both fail with
errors of one kind, or both build the same text; and what they bind is, place by place, what each gave for the same
column. -/
theorem statement_alike (a : Alike s r r') :
    (∃ f f', r.statement d s = .error f ∧ r'.statement d s = .error f' ∧ f.sort = f'.sort) ∨
    ∃ st st', r.statement d s = .ok st ∧ r'.statement d s = .ok st' ∧ st.sql = st'.sql ∧
      st.params.length = st'.params.length ∧ (r.given s).map Prod.fst = (r'.given s).map Prod.fst ∧
      st.params = (r.given s).map Prod.snd ∧ st'.params = (r'.given s).map Prod.snd := by
  rcases matches_request (d := d) a with failed | ⟨st, st', built, built', texts, params, params'⟩
  · exact Or.inl failed
  · have lengths : st.params.length = st'.params.length := by
      have columns := congrArg List.length a.columns
      rw [List.length_map, List.length_map] at columns
      rw [params, params', List.length_map, List.length_map, columns]
    exact Or.inr ⟨st, st', built, built', texts, lengths, a.columns, params, params'⟩

/-- The rows with one name or another, and with something else asked for besides. -/
theorem statement_alike_find :
    let s : Schema := ⟨.text "T", ⟨[(.text "NAME", {})]⟩⟩
    let r := Request.find (.value (.map [(.text "where", .map [(.text "NAME", .text "x")])]))
    let r' := Request.find
      (.value (.map [(.text "where", .map [(.text "OTHER", .null), (.text "NAME", .text "' OR 1=1")])]))
    ∃ st st', r.statement {} s = .ok st ∧ r'.statement {} s = .ok st' ∧ st.sql = st'.sql ∧
      st.params = [.text "x"] ∧ st'.params = [.text "' OR 1=1"] := by
  intro s r r'
  have alike : Request.Alike s r r' :=
    .find (Options.accepted_of_value rfl) (Options.accepted_of_value rfl) ⟨rfl, rfl, rfl, rfl, rfl, rfl, rfl⟩
  rcases statement_alike (d := {}) alike with ⟨f, _, failed, _⟩ | ⟨st, st', built, built', texts, _, _, params, params'⟩
  · cases failed
  · exact ⟨st, st', built, built', texts, params, params'⟩

end Request

end TableGateway
