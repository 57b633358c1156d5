import TableGateway.Proofs.Operation
import TableGateway.Proofs.Recorded

/-!
# Refused options

Making options ends in one of three ways: there are options, they are refused with an error that tells which option is
wrong, or a fault breaks out of the check. `Faults` says of what a caller gives when the last happens: some key is no
text, so that the unknown keys cannot be told in order; the first entry of the filter or of the order that does not
pass cannot be refused either, because a column or a value in the message cannot be written or because a direction
looks like a number and is none; or, all before being in order, the wanted columns are nothing that can be gone through.

- **`Judged`**: a check breaks exactly under a condition, and is settled otherwise;
- **`judged_checkFilter`**, **`judged_checkSort`**, **`judged_checkSelect`**, **`judged_checkNames`**: the single
  checks;
- **`judged_coerce`**: what a caller gives;
- **`refused_iff`**: when bad options are refused, and when an operation answers for them.
-/

namespace TableGateway

namespace Options

variable {α β : Type}

/-- The check passes, or refuses with an error about options. -/
def Settled (x : Except Failure α) : Prop :=
  (∃ a, x = .ok a) ∨ ∃ message field value, x = .error (.refused (.option message field value))

/-- A fault breaks out of the check. -/
def Breaks (x : Except Failure α) : Prop := ∃ fault, x = .error (.broken fault)

/-! ## Checks and their steps -/

section Steps

variable {x : Except Failure α} {f : α → Except Failure β} {a : α}

theorem settled_ok (a : α) : Settled (.ok a : Except Failure α) := Or.inl ⟨a, rfl⟩

theorem settled_refused (message : String) (field value : Value) :
    Settled (.error (.refused (.option message field value)) : Except Failure α) := Or.inr ⟨message, field, value, rfl⟩

theorem breaks_broken (fault : Fault) : Breaks (.error (.broken fault) : Except Failure α) := ⟨fault, rfl⟩

theorem Settled.not_breaks (h : Settled x) : ¬Breaks x := by
  rintro ⟨fault, broken⟩
  rcases h with ⟨a, ok⟩ | ⟨message, field, value, refused⟩
  · cases ok.symm.trans broken
  · cases refused.symm.trans broken

theorem Settled.bind (h : Settled x) (next : ∀ a, x = .ok a → Settled (f a)) : Settled (x >>= f) := by
  rcases h with ⟨a, rfl⟩ | ⟨message, field, value, rfl⟩
  · exact next a rfl
  · exact settled_refused message field value

theorem Settled.map {g : α → β} (h : Settled x) : Settled (x.map g) := by
  rcases h with ⟨a, rfl⟩ | ⟨message, field, value, rfl⟩
  · exact settled_ok (g a)
  · exact settled_refused message field value

theorem Breaks.bind (h : Breaks x) : Breaks (x >>= f) := by
  obtain ⟨fault, rfl⟩ := h
  exact breaks_broken fault

theorem Breaks.after (passed : x = .ok a) (h : Breaks (f a)) : Breaks (x >>= f) := by
  rw [passed]
  exact h

theorem Breaks.map {g : α → β} (h : Breaks x) : Breaks (x.map g) := by
  obtain ⟨fault, rfl⟩ := h
  exact breaks_broken fault

/-- The check breaks under this condition, and is settled otherwise. -/
structure Judged (x : Except Failure α) (faults : Prop) : Prop where
  breaks : faults → Breaks x
  settles : ¬faults → Settled x

theorem Judged.settled_iff {faults : Prop} (h : Judged x faults) : Settled x ↔ ¬faults :=
  ⟨fun settled bad => settled.not_breaks (h.breaks bad), h.settles⟩

/-- What is refused is refused with an error about options. -/
theorem Judged.option {faults : Prop} {e : Error} (h : Judged x faults) (refused : x = .error (.refused e)) :
    ∃ message field value, e = .option message field value := by
  by_cases bad : faults
  · obtain ⟨fault, broken⟩ := h.breaks bad
    cases refused.symm.trans broken
  · rcases h.settles bad with ⟨a, ok⟩ | ⟨message, field, value, told⟩
    · cases refused.symm.trans ok
    · cases refused.symm.trans told
      exact ⟨message, field, value, rfl⟩

theorem Judged.map {faults : Prop} {g : α → β} (h : Judged x faults) : Judged (x.map g) faults where
  breaks bad := (h.breaks bad).map
  settles good := (h.settles good).map

theorem Settled.judged {faults : Prop} (h : Settled x) (good : ¬faults) : Judged x faults where
  breaks bad := absurd bad good
  settles _ := h

end Steps

/-- The first entry that does not pass is one that the check cannot refuse. -/
inductive FirstFaults (passes faults : Value → Value → Prop) : List (Value × Value) → Prop
  | here {column v : Value} {es : List (Value × Value)} (h : faults column v) :
    FirstFaults passes faults ((column, v) :: es)
  | later {column v : Value} {es : List (Value × Value)} (h : passes column v) (rest : FirstFaults passes faults es) :
    FirstFaults passes faults ((column, v) :: es)

/-- In a mapping, the first entry that does not pass is one that the check cannot refuse. -/
def MapFaults (passes faults : Value → Value → Prop) : Value → Prop
  | .map es => FirstFaults passes faults es
  | _ => False

/-! ## The filter -/

/-- A single value can be compared with. -/
def Single (_column v : Value) : Prop := v.isCollection = false

/-- A collection stands for a column that cannot be shown. -/
def EntryFaults (column v : Value) : Prop := v.isCollection = true ∧ column.isWritable = false

theorem judged_notSingle (column v : Value) :
    Judged (.error (notSingle column v) : Except Failure α) (column.isWritable = false) := by
  unfold notSingle Value.writeShown
  cases column.isWritable with
  | true => exact (settled_refused ..).judged (by decide)
  | false => exact ⟨fun _ => breaks_broken _, fun shown => absurd rfl shown⟩

theorem judged_checkEntries (es : List (Value × Value)) :
    Judged (checkEntries es) (FirstFaults Single EntryFaults es) := by
  induction es with
  | nil => exact (settled_ok ()).judged nofun
  | cons e es ih =>
    obtain ⟨column, v⟩ := e
    have refusal := judged_notSingle (α := Unit) column v
    rw [checkEntries]
    cases collection : v.isCollection with
    | true =>
      rw [if_pos rfl]
      constructor
      · intro faults
        cases faults with
        | here h => exact refusal.breaks h.2
        | later single _ => cases collection.symm.trans single
      · intro good
        exact refusal.settles fun unshown => good (.here ⟨collection, unshown⟩)
    | false =>
      rw [if_neg (by decide)]
      constructor
      · intro faults
        cases faults with
        | here h => cases collection.symm.trans h.1
        | later _ rest => exact ih.breaks rest
      · intro good
        exact ih.settles fun rest => good (.later collection rest)

theorem judged_checkFilter (v : Value) : Judged (checkFilter v) (MapFaults Single EntryFaults v) := by
  cases v with
  | map es => exact (judged_checkEntries es).map
  | _ => exact (settled_refused ..).judged id

/-! ## The order -/

/-- The text is taken for a number, and is none that can be read. -/
def Misread (v : Value) : Prop :=
  ∃ s, v = .text s ∧
    Text.allDigits (String.ofList ((Text.upper (Text.strip s)).toList.dropWhile (· == '-'))) = true ∧
    Integer.read (Text.upper (Text.strip s)) = none

/-- The value tells a direction. -/
def Directs (column v : Value) : Prop := ∃ d, checkDirection column v = .ok d

/-- The value tells no direction and cannot be refused: it is taken for a number that it is not, or it or its column
cannot be written. -/
def DirectionFaults (column v : Value) : Prop :=
  Misread v ∨ (∃ key, directionKey v = .ok key ∧ directionOf key = none) ∧
    (column.isWritable = false ∨ v.isWritable = false)

theorem directionKey_eq_error {v : Value} {f : Fault} (h : directionKey v = .error f) : Misread v := by
  cases v with
  | text s =>
    unfold directionKey at h
    dsimp only at h
    split at h
    · next digits =>
      refine ⟨s, rfl, digits, ?_⟩
      split at h
      · cases h
      · next unread => exact unread
    · cases h
  | _ => cases h

theorem directionKey_of_misread {v : Value} (h : Misread v) : directionKey v = .error .badValue := by
  obtain ⟨s, rfl, digits, unread⟩ := h
  unfold directionKey
  dsimp only
  rw [if_pos digits, unread]

theorem checkDirection_of_key {column v key : Value} (h : directionKey v = .ok key) :
    checkDirection column v = match directionOf key with
      | some d => .ok d
      | none => .error (notDirection column v) := by
  unfold checkDirection
  rw [h]
  rfl

theorem judged_notDirection (column v : Value) :
    Judged (.error (notDirection column v) : Except Failure α) (column.isWritable = false ∨ v.isWritable = false) := by
  unfold notDirection Value.writeShown Value.writeLiteral
  cases column.isWritable with
  | false => exact ⟨fun _ => breaks_broken _, fun written => absurd (Or.inl rfl) written⟩
  | true =>
    cases v.isWritable with
    | false => exact ⟨fun _ => breaks_broken _, fun written => absurd (Or.inr rfl) written⟩
    | true => exact (settled_refused ..).judged (by decide)

theorem judged_checkDirection (column v : Value) : Judged (checkDirection column v) (DirectionFaults column v) := by
  cases read : directionKey v with
  | error f =>
    have misread := directionKey_eq_error read
    refine ⟨fun _ => ?_, fun good => absurd (Or.inl misread) good⟩
    unfold checkDirection
    rw [read]
    exact breaks_broken f
  | ok key =>
    have readable : ¬Misread v := by
      intro misread
      cases (directionKey_of_misread misread).symm.trans read
    rw [checkDirection_of_key read]
    cases told : directionOf key with
    | some d =>
      refine (settled_ok d).judged ?_
      rintro (misread | ⟨⟨key', read', none⟩, _⟩)
      · exact readable misread
      · cases read.symm.trans read'
        cases told.symm.trans none
    | none =>
      have refusal := judged_notDirection (α := Direction) column v
      constructor
      · rintro (misread | ⟨_, unwritable⟩)
        · exact absurd misread readable
        · exact refusal.breaks unwritable
      · intro good
        exact refusal.settles fun unwritable => good (Or.inr ⟨⟨key, read, told⟩, unwritable⟩)

theorem judged_checkDirections (es : List (Value × Value)) :
    Judged (checkDirections es) (FirstFaults Directs DirectionFaults es) := by
  induction es with
  | nil => exact (settled_ok []).judged nofun
  | cons e es ih =>
    obtain ⟨column, v⟩ := e
    have first := judged_checkDirection column v
    rw [checkDirections]
    constructor
    · intro faults
      cases faults with
      | here h => exact (first.breaks h).bind
      | later directs rest =>
        obtain ⟨d, passed⟩ := directs
        exact .after passed (ih.breaks rest).bind
    · intro good
      refine (first.settles fun h => good (.here h)).bind ?_
      intro d passed
      refine (ih.settles fun rest => good (.later ⟨d, passed⟩ rest)).bind ?_
      intro ds _
      exact settled_ok _

theorem judged_checkSort (v : Value) : Judged (checkSort v) (MapFaults Directs DirectionFaults v) := by
  cases v with
  | map es => exact (judged_checkDirections es).map
  | _ => exact (settled_refused ..).judged id

/-! ## Numbers of rows and wanted columns -/

theorem settled_checkCount (name : String) (v : Value) :
    Settled (liftM (checkCount name v) : Except Failure (Option Nat)) := by
  cases v with
  | null => exact settled_ok none
  | int n =>
    by_cases natural : 0 ≤ n
    · rw [checkCount, if_pos natural]
      exact settled_ok _
    · rw [checkCount, if_neg natural]
      exact settled_refused ..
  | _ => exact settled_refused ..

theorem settled_checkSkip (limit skip : Option Nat) : Settled (liftM (checkSkip limit skip) : Except Failure Unit) := by
  unfold checkSkip
  split
  · exact settled_refused ..
  · exact settled_ok ()

/-- What is neither nothing nor one name has to be something that can be gone through. -/
def SelectFaults (v : Value) : Prop := v ≠ .null ∧ ∃ fault, v.members? = .error fault

theorem checkSelect_members {v : Value} (given : v ≠ .null) (several : v.isText = false) :
    checkSelect v = (liftM v.members? : Except Failure (List Value)) >>= fun vs => match texts? vs with
      | some names => .ok (some names)
      | none => .error (.refused (.option "select must list column names" (.text "select") v)) := by
  cases v with
  | null => exact absurd rfl given
  | text s => cases several
  | _ => rfl

theorem judged_checkSelect (v : Value) : Judged (checkSelect v) (SelectFaults v) := by
  by_cases given : v = .null
  · rw [given]
    exact (settled_ok none).judged fun faults => faults.1 rfl
  cases several : v.isText with
  | true =>
    cases v with
    | text s =>
      refine (settled_ok _).judged ?_
      rintro ⟨_, fault, broken⟩
      cases broken
    | _ => cases several
  | false =>
    rw [checkSelect_members given several]
    cases members : v.members? with
    | error fault => exact ⟨fun _ => breaks_broken fault, fun good => absurd ⟨given, fault, members⟩ good⟩
    | ok vs =>
      have settled : Settled (match texts? vs with
          | some names => (.ok (some names) : Except Failure (Option (List String)))
          | none => .error (.refused (.option "select must list column names" (.text "select") v))) := by
        cases texts? vs with
        | some names => exact settled_ok _
        | none => exact settled_refused ..
      refine settled.judged ?_
      rintro ⟨_, fault, broken⟩
      cases members.symm.trans broken

/-! ## The parts -/

/-- The parts are checked in order: the filter, the order, the numbers of rows, the wanted columns. The first of them
that does not pass cannot be refused. -/
inductive Parts.Faults (p : Parts) : Prop
  | filter (faults : MapFaults Single EntryFaults p.filter)
  | sort {filter : Keyed Value} (filtered : checkFilter p.filter = .ok filter)
    (faults : MapFaults Directs DirectionFaults p.sort)
  | select {filter : Keyed Value} {sort : Keyed Direction} {limit skip : Option Nat}
    (filtered : checkFilter p.filter = .ok filter) (sorted : checkSort p.sort = .ok sort)
    (limited : checkCount "limit" p.limit = .ok limit) (skipped : checkCount "skip" p.skip = .ok skip)
    (allowed : checkSkip limit skip = .ok ()) (faults : SelectFaults p.select)

theorem judged_ofParts (p : Parts) : Judged (ofParts p) p.Faults := by
  unfold ofParts
  constructor
  · intro faults
    cases faults with
    | filter bad => exact ((judged_checkFilter p.filter).breaks bad).bind
    | sort filtered bad => exact .after filtered ((judged_checkSort p.sort).breaks bad).bind
    | select filtered sorted limited skipped allowed bad =>
      refine .after filtered (.after sorted ?_)
      rw [limited, skipped]
      refine .after rfl (.after rfl ?_)
      rw [allowed]
      exact .after rfl ((judged_checkSelect p.select).breaks bad).bind
  · intro good
    refine ((judged_checkFilter p.filter).settles fun bad => good (.filter bad)).bind ?_
    intro filter filtered
    refine ((judged_checkSort p.sort).settles fun bad => good (.sort filtered bad)).bind ?_
    intro sort sorted
    refine (settled_checkCount "limit" p.limit).bind ?_
    intro limit limited
    refine (settled_checkCount "skip" p.skip).bind ?_
    intro skip skipped
    refine (settled_checkSkip limit skip).bind ?_
    intro _ allowed
    have limited := Failure.ok_of_lift_error limited
    have skipped := Failure.ok_of_lift_error skipped
    have allowed := Failure.ok_of_lift_error allowed
    refine ((judged_checkSelect p.select).settles fun bad => ?_).bind fun _ _ => settled_ok _
    exact good (.select filtered sorted limited skipped allowed bad)

/-! ## The keys -/

theorem texts?_eq_none {vs : List Value} : texts? vs = none ↔ ∃ v ∈ vs, v.isText = false := by
  induction vs with
  | nil => simp [texts?]
  | cons v vs ih =>
    cases v with
    | text s => simp [texts?, ih, Value.isText]
    | _ => simp [texts?, Value.isText]

/-- The keys that name no part. -/
def unknownKeys (t : Keyed Value) : List Value := t.keys.filter fun k => !isPartName k

theorem mem_unknownKeys {t : Keyed Value} {k : Value} : k ∈ unknownKeys t ↔ k ∈ t.keys ∧ isPartName k = false := by
  simp [unknownKeys]

theorem checkNames_eq (t : Keyed Value) : checkNames t =
    if (unknownKeys t).isEmpty then .ok () else
      (liftM (Value.sort (unknownKeys t)) : Except Failure (List Value)) >>= fun sorted => match texts? sorted with
        | some names =>
          .error (.refused (.option ("Unknown option(s): " ++ ", ".intercalate names) .null (.list sorted)))
        | none => .error (.broken .wrongKind) := rfl

/-- With the names of parts alone, the keys are in order. -/
theorem checkNames_eq_ok {t : Keyed Value} : checkNames t = .ok () ↔ ∀ k ∈ t.keys, isPartName k = true := by
  rw [checkNames_eq]
  constructor
  · intro h k key
    split at h
    · next empty =>
      apply eq_true_of_ne_false
      intro unknown
      have found : k ∈ unknownKeys t := mem_unknownKeys.2 ⟨key, unknown⟩
      rw [List.isEmpty_iff.1 empty] at found
      cases found
    · obtain ⟨sorted, _, h⟩ := bind_eq_ok h
      split at h <;> cases h
  · intro names
    have empty : unknownKeys t = [] := by
      rw [List.eq_nil_iff_forall_not_mem]
      intro k found
      obtain ⟨key, unknown⟩ := mem_unknownKeys.1 found
      rw [names k key] at unknown
      cases unknown
    rw [empty]
    rfl

/-- Unknown keys are told in order, and only texts can be. -/
theorem judged_checkNames (t : Keyed Value) : Judged (checkNames t) (∃ k ∈ t.keys, k.isText = false) := by
  rw [checkNames_eq]
  cases empty : (unknownKeys t).isEmpty with
  | true =>
    rw [if_pos rfl]
    refine (settled_ok ()).judged ?_
    rintro ⟨k, key, other⟩
    have named := checkNames_eq_ok.1 (by rw [checkNames_eq, empty]; rfl) k key
    cases (Value.isText_of_isOneOf named).symm.trans other
  | false =>
    rw [if_neg (by decide)]
    constructor
    · rintro ⟨k, key, other⟩
      have unknown : isPartName k = false := by
        apply Bool.eq_false_iff.2
        intro named
        cases (Value.isText_of_isOneOf named).symm.trans other
      cases sorted : Value.sort (unknownKeys t) with
      | error fault => exact Breaks.bind (breaks_broken fault)
      | ok vs =>
        have found : k ∈ vs := (Value.perm_sort sorted).mem_iff.2 (mem_unknownKeys.2 ⟨key, unknown⟩)
        refine .after rfl ?_
        rw [texts?_eq_none.2 ⟨k, found, other⟩]
        exact breaks_broken _
    · intro good
      have texts : ∀ k ∈ unknownKeys t, k.isText = true := by
        intro k unknown
        apply eq_true_of_ne_false
        intro other
        exact good ⟨k, (mem_unknownKeys.1 unknown).1, other⟩
      obtain ⟨vs, sorted⟩ := Value.sort_of_text texts
      rw [sorted]
      refine (settled_ok vs).bind ?_
      intro ws same
      cases same
      cases told : texts? vs with
      | some names => exact settled_refused ..
      | none =>
        obtain ⟨k, found, other⟩ := texts?_eq_none.1 told
        cases (texts k ((Value.perm_sort sorted).mem_iff.1 found)).symm.trans other

/-! ## Options -/

/-- The parts that a mapping describes. -/
def described (t : Keyed Value) : Parts where
  filter := (t.getD "where" .null).orElse (.map [])
  sort := (t.getD "sort" .null).orElse (.map [])
  limit := t.getD "limit" .null
  skip := t.getD "skip" .null
  distinct := t.getD "distinct" (.bool false)
  select := t.getD "select" .null

/-- A fault breaks out of the check of what a caller gives. -/
inductive Faults : OptionsGiven → Prop
  | keys {es : List (Value × Value)} (faults : ∃ k ∈ es.map Prod.fst, k.isText = false) : Faults (.value (.map es))
  | parts {es : List (Value × Value)} (names : ∀ k ∈ es.map Prod.fst, isPartName k = true)
    (faults : (described ⟨es⟩).Faults) : Faults (.value (.map es))

theorem judged_coerce (given : OptionsGiven) : Judged (coerce given) (Faults given) := by
  cases given with
  | options o => exact (settled_ok o).judged nofun
  | value v =>
    cases v with
    | null => exact (settled_ok _).judged nofun
    | map es =>
      have names := judged_checkNames ⟨es⟩
      have parts := judged_ofParts (described ⟨es⟩)
      show Judged (checkNames ⟨es⟩ >>= fun _ => ofParts (described ⟨es⟩)) _
      constructor
      · intro faults
        cases faults with
        | keys bad => exact (names.breaks bad).bind
        | parts named bad => exact .after (checkNames_eq_ok.2 named) (parts.breaks bad)
      · intro good
        refine (names.settles fun bad => good (.keys bad)).bind ?_
        intro _ named
        exact parts.settles fun bad => good (.parts (checkNames_eq_ok.1 named) bad)
    | _ => exact (settled_refused ..).judged nofun

end Options

/-! ## Operations -/

/-- The options that come with a request. -/
def Request.options? : Request → Option OptionsGiven
  | .find options | .findOne options | .count options | .update options _ | .destroy options => some options
  | .create _ | .truncate => none

/-- A request looks at its options first, whatever is registered. -/
theorem Request.build_of_coerce_error {d : Dialect} {q : Request} {given : OptionsGiven} {f : Failure}
    (asks : q.options? = some given) (bad : Options.coerce given = .error f) (reg : Registered) :
    q.build d reg = .error f := by
  have first {α : Type} (next : Options → Except Failure α) : (Options.coerce given >>= next) = .error f := by
    rw [bad]
    rfl
  cases reg with
  | schema s =>
    cases q with
    | create | truncate => cases asks
    | find | findOne | count | update | destroy =>
      cases asks
      exact first _
  | other v =>
    have checked : q.check v = .error f := by
      cases q with
      | create | truncate => cases asks
      | find | findOne | count | update | destroy =>
        cases asks
        exact first _
    show (.error (q.failure v) : Except Failure Statement) = _
    rw [failure, checked]

namespace Gateway

variable {σ κ π α β : Type} {identity schemaName : Value} {f : Failure}

/-- How a call on a schema ends when its statement cannot be built: an error is answered, a fault breaks out. -/
def unbuilt (identity schemaName : Value) : Failure → Except Failure (Outcome Error α)
  | .refused e => .ok (.error (e.within identity schemaName))
  | .broken f => .error (.broken f)

theorem fst_answered_error {x : Run σ κ π α} {w : World σ κ π} (h : (x.run w).1 = .error f) :
    ((answered identity schemaName x).run w).1 = unbuilt identity schemaName f := by
  rcases ended : x.run w with ⟨r, v⟩
  rw [ended] at h
  obtain rfl : r = .error f := h
  cases f with
  | refused e =>
    rw [answered, Run.run_bind_ok (Run.run_settle_refused ended)]
    rfl
  | broken f =>
    rw [answered, Run.run_bind_error (Run.run_settle_broken ended)]
    rfl

/-- What goes on only after a good answer ends as what goes before it does, where that is not built. -/
theorem fst_bind_unbuilt {x : Run σ κ π (Outcome Error α)} {next : Outcome Error α → Run σ κ π (Outcome Error β)}
    {w : World σ κ π} (h : (x.run w).1 = unbuilt identity schemaName f)
    (passes : ∀ e v, ((next (.error e)).run v).1 = .ok (.error e)) :
    ((x >>= next).run w).1 = unbuilt identity schemaName f := by
  rcases ended : x.run w with ⟨r, v⟩
  rw [ended] at h
  obtain rfl : r = unbuilt identity schemaName f := h
  cases f with
  | refused e =>
    rw [Run.run_bind_ok ended]
    exact passes _ v
  | broken f => rw [Run.run_bind_error ended]; rfl

variable {g : Gateway} {w : World σ κ π}

theorem fst_request_unbuilt {q : Request} (h : Operation.requesting g w.registry identity schemaName q = .error f) :
    ((g.request identity schemaName q).run w).1 = unbuilt identity schemaName f := by
  exact fst_bind_unbuilt (fst_answered_error ((fst_request g identity schemaName q w).trans h)) fun _ _ => rfl

/-- A request whose statement cannot be built is answered with the error, or breaks with the fault. -/
theorem fst_performRequest_unbuilt {q : Request}
    (h : Operation.requesting g w.registry identity schemaName q = .error f) :
    ((g.performRequest identity schemaName q).run w).1 = unbuilt identity schemaName f := by
  have asked := fst_request_unbuilt h
  have mapped {k : Dispatcher.Rows → Except Fault Value} :
      ((mapped k (g.request identity schemaName q)).run w).1 = unbuilt identity schemaName f :=
    fst_bind_unbuilt asked fun _ _ => rfl
  cases q with
  | findOne | count | create => exact fst_bind_unbuilt mapped fun _ _ => rfl
  | find | update | destroy | truncate => exact fst_bind_unbuilt asked fun _ _ => rfl

/-- What is registered under the identity and the name of the schema. -/
def found (r : Registry σ κ π) (identity schemaName : Value) : Except Failure Registered :=
  r.resolve identity >>= fun e => e.schema schemaName

/-- A request is looked at when something registered is found for it. -/
theorem requesting_eq (r : Registry σ κ π) (identity schemaName : Value) (q : Request) :
    Operation.requesting g r identity schemaName q = found r identity schemaName >>= q.build g.dialect := by
  unfold Operation.requesting found
  cases r.resolve identity <;> rfl

/-- **When bad options are refused.** Of what a caller gives, options are made or it is refused with an error about
options, unless it is such that a fault breaks out. An operation that is given what makes no options answers with that
error, unless the same fault breaks out of it; where nothing is registered for it, it ends as the lookup does. -/
theorem refused_iff (given : OptionsGiven) :
    (Options.Settled (Options.coerce given) ↔ ¬Options.Faults given) ∧
    ∀ (g : Gateway) (w : World σ κ π) (identity schemaName : Value) (q : Request),
      q.options? = some given → (∀ o, Options.coerce given ≠ .ok o) →
      (∀ f, found w.registry identity schemaName = .error f →
        ((g.perform identity schemaName (.request q)).run w).1 = unbuilt identity schemaName f) ∧
      ∀ reg, found w.registry identity schemaName = .ok reg →
        ((∃ message field value, ((g.perform identity schemaName (.request q)).run w).1 =
          .ok (.error ((Error.option message field value).within identity schemaName))) ↔ ¬Options.Faults given) ∧
        ((∃ fault, ((g.perform identity schemaName (.request q)).run w).1 = .error (.broken fault)) ↔
          Options.Faults given) := by
  have judged := Options.judged_coerce given
  refine ⟨judged.settled_iff, ?_⟩
  intro g w identity schemaName q asks bad
  have ends {f : Failure} (failed : found w.registry identity schemaName >>= q.build g.dialect = .error f) :
      ((g.perform identity schemaName (.request q)).run w).1 = unbuilt identity schemaName f := by
    apply fst_performRequest_unbuilt
    rw [requesting_eq]
    exact failed
  constructor
  · intro f missing
    apply ends
    rw [missing]
    rfl
  intro reg registered
  have refuses {f : Failure} (failed : Options.coerce given = .error f) :
      ((g.perform identity schemaName (.request q)).run w).1 = unbuilt identity schemaName f := by
    apply ends
    rw [registered]
    exact Request.build_of_coerce_error asks failed reg
  by_cases faults : Options.Faults given
  · obtain ⟨fault, broken⟩ := judged.breaks faults
    rw [refuses broken]
    refine ⟨⟨?_, fun good => absurd faults good⟩, ⟨fun _ => faults, fun _ => ⟨fault, rfl⟩⟩⟩
    rintro ⟨_, _, _, answered⟩
    cases answered
  · rcases judged.settles faults with ⟨o, made⟩ | ⟨message, field, value, refused⟩
    · exact absurd made (bad o)
    · rw [refuses refused]
      refine ⟨⟨fun _ => faults, fun _ => ⟨message, field, value, rfl⟩⟩, ⟨?_, fun bad => absurd bad faults⟩⟩
      rintro ⟨_, broken⟩
      cases broken

/-- A connection under the identity `a`, with the schema `s`. -/
def served : World Unit Unit Unit where
  engine := ()
  registry :=
    { driver := .steady (.ok ()) (.ok []) (.ok ())
      entries := ⟨[(.text "a",
        { config := { identity := .text "a" }, schemas := ⟨[(.text "s", .schema ⟨.text "T", {}⟩)]⟩ })]⟩ }

/-- A negative limit is refused, and a direction with two signs breaks the operation. -/
theorem refused_limit :
    let limited : OptionsGiven := .value (.map [(.text "limit", .int (-1))])
    let sorted : OptionsGiven := .value (.map [(.text "sort", .map [(.text "name", .text "--1")])])
    (∃ message field value, ((perform {} (.text "a") (.text "s") (.request (.find limited))).run served).1 =
      .ok (.error ((Error.option message field value).within (.text "a") (.text "s")))) ∧
    ∃ fault, ((perform {} (.text "a") (.text "s") (.request (.destroy sorted))).run served).1 =
      .error (.broken fault) := by
  intro limited sorted
  obtain ⟨limitSettled, limitAnswered⟩ := refused_iff (σ := Unit) (κ := Unit) (π := Unit) limited
  obtain ⟨_, sortAnswered⟩ := refused_iff (σ := Unit) (κ := Unit) (π := Unit) sorted
  constructor
  · have sound : ¬Options.Faults limited := limitSettled.1 (Or.inr ⟨_, _, _, rfl⟩)
    exact ((limitAnswered {} served _ _ _ rfl nofun).2 _ rfl).1.2 sound
  · have misread : Options.DirectionFaults (.text "name") (.text "--1") := Or.inl ⟨"--1", rfl, by decide, by decide⟩
    have faults : Options.Faults sorted := .parts (by decide) (.sort rfl (.here misread))
    exact ((sortAnswered {} served _ _ _ rfl nofun).2 _ rfl).2.2 faults

/-- Two signs before a digit look like a number and are none. -/
theorem broken_direction :
    let given : OptionsGiven := .value (.map [(.text "sort", .map [(.text "name", .text "--1")])])
    Options.coerce given = .error (.broken .badValue) ∧ ¬Options.Settled (Options.coerce given) := by
  intro given
  have broken : Options.coerce given = .error (.broken .badValue) := rfl
  refine ⟨broken, fun settled => settled.not_breaks ⟨_, broken⟩⟩

end Gateway

end TableGateway
