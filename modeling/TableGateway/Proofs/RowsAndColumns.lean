import TableGateway.Proofs.Wording

/-!
# Which rows and which columns

Counting, reading, removing and changing rows select the same rows under the same options: the filter is one text with
one list of values in all four statements, and the statement for a change has its own values before those. What is
written is what the values name: a change writes the columns of the schema that are named and not filled in by the
engine, a new row all columns that are named. They are written in the order in which they are named, each once and each
next to its value, and where there are none the request is refused.

- **`Chosen`**: the entries of a mapping that pass a test, as columns with their values;
- **`same_rows`**: the filter of the four statements;
- **`right_columns`**: what a change and a new row write.
-/

namespace TableGateway

/-- The column is there and it may be set: the engine does not fill it in. -/
def Schema.Settable (s : Schema) (c : String) : Prop :=
  ∃ a, s.attributes.lookup (.text c) = some a ∧ a.autoIncrement = false

/-- The entries of a mapping under texts that pass a test: all of these and no others, in the order of the mapping, and
none of them twice. -/
structure Chosen (es : List (Value × Value)) (takes : String → Prop) (ps : List (String × Value)) : Prop where
  mem : ∀ c v, (c, v) ∈ ps ↔ (.text c, v) ∈ es ∧ takes c
  order : (ps.map fun p => (Value.text p.1, p.2)).Sublist es
  once : (ps.map Prod.fst).Nodup

/-- In a mapping no key is there twice, and so none is in a part of it. -/
theorem nodup_of_sublist {es : List (Value × Value)} {ps : List (String × Value)}
    (distinct : (⟨es⟩ : Keyed Value).Distinct) (order : (ps.map fun p => (Value.text p.1, p.2)).Sublist es) :
    (ps.map Prod.fst).Nodup := by
  have apart : (ps.map fun p => (Value.text p.1, p.2)).Pairwise fun a b => a.1.same b.1 = false :=
    List.Pairwise.sublist order distinct
  rw [List.pairwise_map] at apart
  apply List.pairwise_map.2
  apply apart.imp
  intro p q other same
  rw [Value.same_text_text, same, decide_eq_true rfl] at other
  cases other

/-- The entries that a filter keeps, when it keeps none but those under texts. -/
theorem Chosen.of_filter {es : List (Value × Value)} {keep : Value × Value → Bool} {takes : String → Prop}
    {ps : List (String × Value)} (distinct : (⟨es⟩ : Keyed Value).Distinct)
    (kept : es.filter keep = ps.map fun p => (.text p.1, p.2)) (tests : ∀ c v, keep (.text c, v) = true ↔ takes c) :
    Chosen es takes ps where
  mem c v := by
    have listed : (c, v) ∈ ps ↔ (Value.text c, v) ∈ ps.map fun p => (Value.text p.1, p.2) := by
      constructor
      · intro there
        exact List.mem_map.2 ⟨(c, v), there, rfl⟩
      · intro there
        obtain ⟨p, among, same⟩ := List.mem_map.1 there
        cases same
        exact among
    rw [listed, ← kept, List.mem_filter, tests]
  order := by
    rw [← kept]
    exact List.filter_sublist
  once := by
    apply nodup_of_sublist distinct
    rw [← kept]
    exact List.filter_sublist

namespace Query

open Options

variable {d : Dialect} {s : Schema} {given : OptionsGiven} {o : Options} {table : Value} {names : List String}

/-! ## The same rows -/

/-- **The same rows.** Under options without wanted columns, counting, reading, removing and changing rows name the
table by one token and filter by one text with one list of values: by nothing, or by what stands behind `WHERE`, the
columns of the schema among those that the filter names. What else stands in the statements is before the filter or
after it. -/
theorem same_rows (texts : s.columns = names.map .text) (named : d.tableName s.table = .ok table)
    (means : Options.coerce given = .ok o) (all : o.select = none) (limit : Writable o.limit) (skip : Writable o.skip) :
    ∃ W P, (known s o.filter = [] ∧ W = "" ∨
        W = " WHERE " ++ " AND ".intercalate ((known s o.filter).map fun e => e.1.shown ++ " = ?")) ∧
      P = (known s o.filter).map Prod.snd ∧
      count d s given = .ok ⟨"SELECT COUNT(*) AS CNT FROM " ++ table.shown ++ W, P⟩ ∧
      find d s given = .ok ⟨(if o.distinct then "SELECT DISTINCT " else "SELECT ") ++ ", ".intercalate names ++
        " FROM " ++ table.shown ++ W ++ orderWords s o ++ readWords o, P⟩ ∧
      destroy d s given = .ok ⟨"DELETE FROM " ++ table.shown ++ W ++ changeWords o, P⟩ ∧
      ∀ es, assignable s ⟨es⟩ ≠ [] → update d s given (.map es) =
        .ok ⟨"SELECT " ++ ", ".intercalate names ++ " FROM FINAL TABLE (" ++ ("UPDATE " ++ table.shown ++ " SET " ++
          ", ".intercalate ((assignable s ⟨es⟩).map fun e => e.1.shown ++ " = ?") ++ W ++ changeWords o) ++ ")",
          (assignable s ⟨es⟩).map Prod.snd ++ P⟩ := by
  refine ⟨whereWords s o, whereValues s o, whereWords_eq s o, rfl, ?_, ?_, ?_, ?_⟩
  · rw [count, means]
    exact countWith_eq all named
  · have projected : projection s o.select = .ok (names.map .text) := by
      rw [all, projection, texts]
    rw [find, means]
    exact findWith_eq_ok.2 ⟨names, table, projected, named, limit, skip, rfl⟩
  · rw [destroy, means]
    exact destroyWith_eq limit named
  · intro es some
    rw [update, means]
    exact updateWith_written texts some limit named

/-- A table of notes, numbered by the engine. -/
def noteSchema : Schema :=
  ⟨.text "notes", ⟨[(.text "ID", { role := .counted }), (.text "TITLE", {}), (.text "BODY", {})]⟩⟩

theorem columns_noteSchema : noteSchema.columns = ["ID", "TITLE", "BODY"].map .text := rfl

/-- At most three notes of one title, where the schema has no such column as `pinned`. -/
def titled : Options where
  filter := ⟨[(.text "TITLE", .text "x"), (.text "pinned", .bool true)]⟩
  limit := some 3

theorem writable_titled : Writable titled.limit := writable_digit (by decide)

theorem same_rows_titled : ∃ W P, P = [.text "x"] ∧ W = " WHERE " ++ "TITLE = ?" ∧
    count ⟨true⟩ noteSchema (.options titled) =
      .ok ⟨"SELECT COUNT(*) AS CNT FROM " ++ Text.delimit '"' "notes" ++ W, P⟩ ∧
    destroy ⟨true⟩ noteSchema (.options titled) =
      .ok ⟨"DELETE FROM " ++ Text.delimit '"' "notes" ++ W ++ changeWords titled, P⟩ := by
  have means : Options.coerce (.options titled) = .ok titled := rfl
  obtain ⟨W, P, filter, values, counted, _, removed, _⟩ :=
    same_rows (d := ⟨true⟩) columns_noteSchema rfl means rfl writable_titled writable_none
  refine ⟨W, P, values, ?_, counted, removed⟩
  rcases filter with ⟨none, _⟩ | filter
  · cases none
  · exact filter

/-! ## The right columns -/

theorem chosen_known {es : List (Value × Value)} (texts : s.columns = names.map .text)
    (distinct : (⟨es⟩ : Keyed Value).Distinct) :
    ∃ ps, Chosen es (fun c => Value.text c ∈ s.columns) ps ∧ known s ⟨es⟩ = ps.map fun p => (.text p.1, p.2) := by
  obtain ⟨ps, kept⟩ := exists_texts_of_known texts (⟨es⟩ : Keyed Value)
  exact ⟨ps, .of_filter distinct kept fun _ _ => Keyed.has_text, kept⟩

/-- May an entry be set? -/
def sets (s : Schema) (e : Value × Value) : Bool :=
  (match s.attributes.lookup e.1 with
    | some a => !a.autoIncrement
    | none => false) && s.attributes.has e.1

theorem assignable_eq (s : Schema) (es : List (Value × Value)) : assignable s ⟨es⟩ = es.filter (sets s) :=
  List.filter_filter ..

theorem sets_text {c : String} {v : Value} : sets s (.text c, v) = true ↔ s.Settable c := by
  unfold sets Schema.Settable Keyed.has
  cases s.attributes.lookup (.text c) with
  | none => simp
  | some a => simp

theorem chosen_assignable {es : List (Value × Value)} (texts : s.columns = names.map .text)
    (distinct : (⟨es⟩ : Keyed Value).Distinct) :
    ∃ ps, Chosen es s.Settable ps ∧ assignable s ⟨es⟩ = ps.map fun p => (.text p.1, p.2) := by
  have columns : ∀ e ∈ assignable s ⟨es⟩, ∃ c, e.1 = .text c := by
    intro e kept
    exact exists_text_of_known texts (List.mem_filter.1 kept).1
  obtain ⟨ps, kept⟩ := exists_texts columns
  refine ⟨ps, .of_filter distinct ?_ fun _ _ => sets_text, kept⟩
  rw [← assignable_eq, kept]

/-- What is refused where there are no entries and built where there are some is refused exactly where there are
none. -/
theorem refused_iff_nil {x : Except Failure Statement} {ps : List (String × Value)} {e : Error} {st : Statement}
    (invalid : e.name = "InvalidOptionsError") (none : ps = [] → x = .error (.refused e))
    (some : ps ≠ [] → x = .ok st) : (∃ e, x = .error (.refused e) ∧ e.name = "InvalidOptionsError") ↔ ps = [] := by
  constructor
  · rintro ⟨e', refused, _⟩
    apply Decidable.byContradiction
    intro entries
    rw [some entries] at refused
    cases refused
  · intro entries
    exact ⟨e, none entries, invalid⟩

theorem update_none {es : List (Value × Value)} (means : Options.coerce given = .ok o) (none : assignable s ⟨es⟩ = []) :
    update d s given (.map es) = .error (.refused notAssignable) := by
  rw [update, means]
  show updateWith d s o ⟨es⟩ = _
  rw [updateWith_eq, none]
  rfl

theorem update_some {es : List (Value × Value)} {ps : List (String × Value)} (texts : s.columns = names.map .text)
    (named : d.tableName s.table = .ok table) (means : Options.coerce given = .ok o) (limit : Writable o.limit)
    (kept : assignable s ⟨es⟩ = ps.map fun p => (.text p.1, p.2)) (some : ps ≠ []) :
    update d s given (.map es) =
      .ok ⟨"SELECT " ++ ", ".intercalate names ++ " FROM FINAL TABLE (" ++ ("UPDATE " ++ table.shown ++ " SET " ++
        ", ".intercalate (ps.map fun p => p.1 ++ " = ?") ++ whereWords s o ++ changeWords o) ++ ")",
        ps.map Prod.snd ++ whereValues s o⟩ := by
  have entries : assignable s ⟨es⟩ ≠ [] := by
    rw [kept]
    intro none
    exact some (List.map_eq_nil_iff.1 none)
  have columns : (assignable s ⟨es⟩).map comparison = ps.map fun p => p.1 ++ " = ?" := by
    rw [kept, List.map_map]
    rfl
  have values : (assignable s ⟨es⟩).map Prod.snd = ps.map Prod.snd := by
    rw [kept, List.map_map]
    rfl
  rw [update, means, ← columns, ← values]
  exact updateWith_written texts entries limit named

theorem create_none {es : List (Value × Value)} (none : known s ⟨es⟩ = []) :
    create d s (.map es) = .error (.refused noValue) := by
  rw [create_eq, none]
  rfl

theorem create_some {es : List (Value × Value)} {ps : List (String × Value)} (texts : s.columns = names.map .text)
    (named : d.tableName s.table = .ok table) (kept : known s ⟨es⟩ = ps.map fun p => (.text p.1, p.2))
    (some : ps ≠ []) : create d s (.map es) =
      .ok ⟨"SELECT " ++ ", ".intercalate names ++ " FROM FINAL TABLE (" ++ ("INSERT INTO " ++ table.shown ++ " (" ++
        ", ".intercalate (ps.map Prod.fst) ++ ") VALUES (" ++ ", ".intercalate (List.replicate ps.length "?") ++
        ")") ++ ")", ps.map Prod.snd⟩ := by
  have entries : known s ⟨es⟩ ≠ [] := by
    rw [kept]
    intro none
    exact some (List.map_eq_nil_iff.1 none)
  have columns : (known s ⟨es⟩).map (fun e => e.1.shown) = ps.map Prod.fst := by
    rw [kept, List.map_map]
    rfl
  have marks : (known s ⟨es⟩).map (fun _ => Dialect.placeholder) = List.replicate ps.length "?" := by
    rw [kept, List.map_map]
    exact List.map_const ..
  have values : (known s ⟨es⟩).map Prod.snd = ps.map Prod.snd := by
    rw [kept, List.map_map]
    rfl
  rw [← columns, ← marks, ← values]
  exact create_written texts entries named

/-- **The right columns.** A change sets the columns that its values name, that the schema has and that the engine does
not fill in: each once, in the order of the values, and its values come in this order before those of the filter. A new
row has all columns that its values name and that the schema has, with a placeholder for each of them. Either is refused
exactly when there is no such column, and otherwise answered with all columns in the order of the schema. -/
theorem right_columns {es : List (Value × Value)} (texts : s.columns = names.map .text)
    (named : d.tableName s.table = .ok table) (means : Options.coerce given = .ok o) (limit : Writable o.limit)
    (distinct : (⟨es⟩ : Keyed Value).Distinct) :
    (∃ ps, Chosen es s.Settable ps ∧
      ((∃ e, update d s given (.map es) = .error (.refused e) ∧ e.name = "InvalidOptionsError") ↔ ps = []) ∧
      (ps ≠ [] → update d s given (.map es) =
        .ok ⟨"SELECT " ++ ", ".intercalate names ++ " FROM FINAL TABLE (" ++ ("UPDATE " ++ table.shown ++ " SET " ++
          ", ".intercalate (ps.map fun p => p.1 ++ " = ?") ++ whereWords s o ++ changeWords o) ++ ")",
          ps.map Prod.snd ++ whereValues s o⟩)) ∧
    (∃ ps, Chosen es (fun c => .text c ∈ s.columns) ps ∧
      ((∃ e, create d s (.map es) = .error (.refused e) ∧ e.name = "InvalidOptionsError") ↔ ps = []) ∧
      (ps ≠ [] → create d s (.map es) =
        .ok ⟨"SELECT " ++ ", ".intercalate names ++ " FROM FINAL TABLE (" ++ ("INSERT INTO " ++ table.shown ++ " (" ++
          ", ".intercalate (ps.map Prod.fst) ++ ") VALUES (" ++ ", ".intercalate (List.replicate ps.length "?") ++
          ")") ++ ")", ps.map Prod.snd⟩)) := by
  constructor
  · obtain ⟨ps, chosen, kept⟩ := chosen_assignable texts distinct
    have written := update_some texts named means limit kept
    refine ⟨ps, chosen, refused_iff_nil (e := notAssignable) rfl ?_ written, written⟩
    rintro rfl
    exact update_none means kept
  · obtain ⟨ps, chosen, kept⟩ := chosen_known texts distinct
    have written := create_some texts named kept
    refine ⟨ps, chosen, refused_iff_nil (e := noValue) rfl ?_ written, written⟩
    rintro rfl
    exact create_none kept

/-- A note with a number of its own and with a column that there is not. -/
def draft : List (Value × Value) := [(.text "ID", .int 7), (.text "BODY", .text "b"), (.text "colour", .text "red")]

theorem distinct_draft : (⟨draft⟩ : Keyed Value).Distinct := by
  unfold Keyed.Distinct draft
  simp

/-- The number of a draft is not set, and it is written in a new row. -/
theorem right_columns_draft :
    (∃ ps : List (String × Value), ("BODY", .text "b") ∈ ps ∧ (∀ v, ("ID", v) ∉ ps) ∧
      update ⟨true⟩ noteSchema (.options titled) (.map draft) =
        .ok ⟨"SELECT " ++ ", ".intercalate ["ID", "TITLE", "BODY"] ++ " FROM FINAL TABLE (" ++ ("UPDATE " ++
          Text.delimit '"' "notes" ++ " SET " ++ ", ".intercalate (ps.map fun p => p.1 ++ " = ?") ++
          whereWords noteSchema titled ++ changeWords titled) ++ ")", ps.map Prod.snd ++ [.text "x"]⟩) ∧
    (∃ ps : List (String × Value), ("ID", .int 7) ∈ ps ∧ (∀ v, ("colour", v) ∉ ps) ∧
      create ⟨true⟩ noteSchema (.map draft) =
        .ok ⟨"SELECT " ++ ", ".intercalate ["ID", "TITLE", "BODY"] ++ " FROM FINAL TABLE (" ++ ("INSERT INTO " ++
          Text.delimit '"' "notes" ++ " (" ++ ", ".intercalate (ps.map Prod.fst) ++ ") VALUES (" ++
          ", ".intercalate (List.replicate ps.length "?") ++ ")") ++ ")", ps.map Prod.snd⟩) := by
  have means : Options.coerce (.options titled) = .ok titled := rfl
  obtain ⟨⟨ps, chosen, _, updated⟩, qs, chosen', _, created⟩ :=
    right_columns (d := ⟨true⟩) columns_noteSchema rfl means writable_titled distinct_draft
  constructor
  · have body : ("BODY", .text "b") ∈ ps := (chosen.mem _ _).2 ⟨by simp [draft], _, rfl, rfl⟩
    refine ⟨ps, body, ?_, updated (List.ne_nil_of_mem body)⟩
    intro v there
    obtain ⟨_, a, found, free⟩ := (chosen.mem _ _).1 there
    cases found
    cases free
  · have number : ("ID", .int 7) ∈ qs := (chosen'.mem _ _).2 ⟨by simp [draft], .head _⟩
    refine ⟨qs, number, ?_, created (List.ne_nil_of_mem number)⟩
    intro v there
    obtain ⟨_, column⟩ := (chosen'.mem _ _).1 there
    simp [noteSchema, Schema.columns, Keyed.keys] at column

end Query

end TableGateway
