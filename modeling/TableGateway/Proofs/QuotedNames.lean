import TableGateway.Proofs.OneTable

/-!
# Names in their place

A quoted table name cannot break out of its place. The statements for two tables differ in the quoted names alone:
the words before are the same, and so is what follows, which does not begin with another quote. So an identifier that
is read after the opening words ends where the name ends, and gives the name, whatever characters it has. The catalog
is asked for a name in the same way, as a string literal, and it is the name under which the engine stores the table.

- **`Framed`**: a statement for every table, with a fixed text before and after the name;
- **`TableStatement.framed`**: every statement that names a table is of this kind;
- **`Dialect.named_in_place`**: what is read at the name's place, in these statements and in the catalog's.
-/

namespace TableGateway

/-! ## A name in a frame -/

/-- The text ends a quoted name before it: it does not begin with another quote. -/
def EndsName (rest : String) : Prop := ∀ c ∈ rest.toList.head?, c ≠ '"'

theorem endsName_empty : EndsName "" := fun _ first => by cases first

theorem endsName_parenthesis : EndsName ")" := by
  intro c first
  cases first
  decide

theorem endsName_spaced (r : String) : EndsName (" " ++ r) := by
  intro c first
  rw [String.toList_append] at first
  cases first
  decide

theorem endsName_trailing (ts : List String) : EndsName (trailing ts) := by
  rcases trailing_eq ts with none | ⟨rest, some⟩
  · rw [none]
    exact endsName_empty
  · rw [some]
    exact endsName_spaced rest

theorem EndsName.append {rest more : String} (ends : EndsName rest) (ends' : EndsName more) :
    EndsName (rest ++ more) := by
  intro c first
  rw [String.toList_append, List.head?_append] at first
  cases e : rest.toList.head? with
  | none => exact ends' c (by simpa [e] using first)
  | some b => exact ends c (by simpa [e] using first)

/-- Statements for all tables that differ in the quoted name alone, or that cannot be built for any table. -/
inductive Framed {ε : Type} (opening : Except ε String) (built : String → Except ε Statement) : Prop
  | failed (e : ε) (none : ∀ t, built t = .error e)
  | around (lead rest : String) (params : List Value) (opens : opening = .ok lead) (ends : EndsName rest)
      (text : ∀ t, built t = .ok ⟨lead ++ Text.delimit '"' t ++ rest, params⟩)

namespace Framed

variable {ε α : Type} {opening : Except ε String} {built : String → Except ε Statement}

theorem of_eq {built' : String → Except ε Statement} (h : Framed opening built) (same : ∀ t, built' t = built t) :
    Framed opening built' := by
  rwa [show built' = built from funext same]

/-- What comes before, and does not depend on the table, either fails or gives a value. -/
theorem bind {x : Except ε α} {f : α → String → Except ε Statement} (each : ∀ a, x = .ok a → Framed opening (f a)) :
    Framed opening fun t => x >>= fun a => f a t := by
  cases x with
  | error e => exact .failed e fun _ => rfl
  | ok a => exact each a rfl

theorem lift {lead : String} {built : String → Except Fault Statement} (h : Framed (.ok lead) built) :
    Framed (.ok lead) fun t => (liftM (built t) : Except Failure Statement) := by
  cases h with
  | failed f none => exact .failed (.broken f) fun t => by rw [none]; rfl
  | around _ rest params opens ends text =>
    cases opens
    exact .around _ rest params rfl ends fun t => by rw [text]; rfl

end Framed

/-! ## Clauses -/

namespace Clause

variable {d : Dialect}

/-- A statement that begins with the clause that names the table. -/
theorem framed_statement {c : String → Clause} {lead : String} (first : Framed (.ok lead) fun t => render d (c t))
    (wordy : lead ≠ "") (text : ∀ t, isNoText true (c t) = false) (cs : List Clause) :
    Framed (.ok lead) fun t => statement d (c t :: cs) := by
  simp only [statement_cons, List.any_cons, text, Bool.false_or]
  cases first with
  | failed f none => exact .failed f fun t => by rw [none]; rfl
  | around _ rest params opens ends sql =>
    cases opens
    simp only [sql]
    refine .bind fun ps _ => ?_
    by_cases clean : cs.any (isNoText true) = true
    · exact .failed .wrongKind fun _ => if_pos clean
    · refine .around lead (rest ++ trailing (ps.map Statement.sql)) (params ++ ps.flatMap Statement.params) rfl
        (ends.append (endsName_trailing _)) fun t => ?_
      have begun : (lead ++ Text.delimit '"' t ++ rest).isEmpty = false := by
        rw [String.append_assoc]
        exact Query.append_ne_empty _ wordy
      rw [if_neg clean, Statement.inWords_cons ps begun, String.append_assoc]

/-- A statement that reads rows from the table. -/
theorem framed_from {c : Clause} {head : String} {values : List Value} (first : render d c = .ok ⟨head, values⟩)
    (wordy : head.isEmpty = false) (cs : List Clause) :
    Framed (.ok (head ++ " FROM ")) fun t => statement d (c :: .fromTable (.text (Text.delimit '"' t)) :: cs) := by
  have written (t : String) : statement d (c :: .fromTable (.text (Text.delimit '"' t)) :: cs) =
      renderAll d cs >>= fun ps => if (c :: cs).any (isNoText true) then .error .wrongKind
        else .ok (.inWords (⟨head, values⟩ :: ⟨"FROM " ++ Text.delimit '"' t, []⟩ :: ps)) := by
    rw [statement_cons, first, renderAll]
    cases renderAll d cs with
    | error f => rfl
    | ok ps => simp only [List.any_cons]; rfl
  simp only [written]
  refine .bind fun ps _ => ?_
  by_cases clean : (c :: cs).any (isNoText true) = true
  · exact .failed .wrongKind fun _ => if_pos clean
  · refine .around (head ++ " FROM ") (trailing (ps.map Statement.sql)) (values ++ ps.flatMap Statement.params) rfl
      (endsName_trailing _) fun t => ?_
    have spaced : " FROM " = " " ++ "FROM " := rfl
    rw [if_neg clean, Statement.inWords_cons _ wordy, List.map_cons,
      trailing_cons (Query.append_ne_empty _ (by decide)), spaced]
    simp only [String.append_assoc]
    rfl

theorem framed_insertInto (values : List (Value × Value)) :
    Framed (.ok "INSERT INTO ") fun t => render d (.insertInto (.text (Text.delimit '"' t)) values) := by
  cases named : nameList (values.map Prod.fst) with
  | error f => exact .failed f fun t => by rw [render, named]; rfl
  | ok columns =>
    let given := Statement.join ", " (values.map fun e => bind e.2)
    refine .around _ (" " ++ ("(" ++ columns ++ ") VALUES (" ++ given.sql ++ ")")) given.params rfl (endsName_spaced _)
      fun t => ?_
    rw [render, named]
    have spaced : " (" = " " ++ "(" := rfl
    show Except.ok (Statement.within _ _ given) = _
    rw [Statement.within, spaced]
    simp only [Value.shown_text, String.append_assoc]

theorem framed_updateSet (assignments : List (Value × Value)) :
    Framed (.ok "UPDATE ") fun t => render d (.updateSet (.text (Text.delimit '"' t)) assignments) := by
  let given := Statement.join ", " (assignments.map fun e => equals e.1 e.2)
  refine .around _ (" " ++ ("SET " ++ given.sql)) given.params rfl (endsName_spaced _) fun t => ?_
  have spaced : " SET " = " " ++ "SET " := rfl
  rw [render, Statement.within, spaced]
  simp only [Value.shown_text, String.append_assoc, String.append_empty]
  rfl

/-- A change in parentheses, with the rows that it leaves. -/
theorem framed_finalTable {columns : List Value} {words verb : String} {c : String → Clause} {cs : List Clause}
    (named : nameList columns = .ok words) (changed : Framed (.ok verb) fun t => statement d (c t :: cs)) :
    Framed (.ok ("SELECT " ++ words ++ " FROM FINAL TABLE (" ++ verb)) fun t =>
      statement d [.finalTable columns (c t :: cs)] := by
  have single (t : String) : statement d [.finalTable columns (c t :: cs)] =
      statement d (c t :: cs) >>= fun inner =>
        .ok (inner.within ("SELECT " ++ words ++ " FROM FINAL TABLE (") ")") := by
    rw [statement_singleton rfl, render_finalTable, named]
    rfl
  simp only [single]
  cases changed with
  | failed f none => exact .failed f fun t => by rw [none]; rfl
  | around _ rest params opens ends sql =>
    cases opens
    refine .around _ (rest ++ ")") params rfl (ends.append endsName_parenthesis) fun t => ?_
    rw [sql]
    show Except.ok (Statement.within _ _ _) = _
    rw [Statement.within]
    simp only [String.append_assoc]

end Clause

/-! ## Statements that name a table -/

/-- The statements that are built for a table. -/
inductive TableStatement where
  | create (keyType : String) (described : Description)
  | drop
  | request (s : Schema) (q : Request)

namespace TableStatement

/-- The statement for a table of this name. -/
def statement (d : Dialect) (table : Value) : TableStatement → Except Failure Statement
  | .create keyType described => Schema.createDescribed d keyType table described
  | .drop => liftM (Query.drop d table)
  | .request s q => q.statement d { s with table := table }

/-- The words before the name. -/
def opening : TableStatement → Except Failure String
  | .create .. => .ok "CREATE TABLE "
  | .drop => .ok "DROP TABLE "
  | .request s q => q.opening s

end TableStatement

namespace Query

variable {s : Schema}

theorem framed_findWith (o : Options) :
    Framed (readingWords s o) fun t => findWith ⟨true⟩ { s with table := .text t } o := by
  have unfolded (t : String) : findWith ⟨true⟩ { s with table := .text t } o =
      (liftM (projection s o.select) : Except Failure _) >>= fun columns =>
        liftM (Clause.statement ⟨true⟩ (findClauses columns (.text (Text.delimit '"' t)) s o)) := rfl
  simp only [unfolded]
  refine .bind fun columns projected => ?_
  have words : readingWords s o = (liftM (Clause.nameList columns) : Except Failure String) >>= fun t =>
      .ok ((if o.distinct then "SELECT DISTINCT " else "SELECT ") ++ t ++ " FROM ") := by
    unfold readingWords
    rw [projected]
    rfl
  cases named : Clause.nameList columns with
  | error f =>
    refine .failed (.broken f) fun t => ?_
    rw [findClauses, Clause.statement_cons, Clause.render, named]
    rfl
  | ok t =>
    rw [words, named]
    refine (Clause.framed_from (by rw [Clause.render, named]; rfl) (append_ne_empty _ ?_) _).lift
    split <;> decide

/-- A change that names the table is framed within the words that ask for its rows. -/
theorem framed_changed {verb : String} {c : String → Clause} (cs : List Clause) (wordy : verb ≠ "")
    (text : ∀ t, (c t).isNoText true = false) (first : Framed (.ok verb) fun t => (c t).render ⟨true⟩) :
    Framed (changingWords s verb) fun t =>
      (liftM (Clause.statement ⟨true⟩ [.finalTable s.columns (c t :: cs)]) : Except Failure Statement) := by
  have changed := Clause.framed_statement first wordy text cs
  cases named : Clause.nameList s.columns with
  | ok words =>
    have opens : changingWords s verb = .ok ("SELECT " ++ words ++ " FROM FINAL TABLE (" ++ verb) := by
      unfold changingWords
      rw [named]
      rfl
    rw [opens]
    exact (Clause.framed_finalTable named changed).lift
  | error f =>
    -- the statement in parentheses is written first, and may fail on its own
    have single (t : String) : Clause.statement ⟨true⟩ [.finalTable s.columns (c t :: cs)] =
        Clause.statement ⟨true⟩ (c t :: cs) >>= fun _ => .error f := by
      rw [Clause.statement_singleton rfl, Clause.render_finalTable, named]
      rfl
    simp only [single]
    cases changed with
    | failed g none => exact .failed (.broken g) fun t => by rw [none]; rfl
    | around _ _ _ _ _ sql => exact .failed (.broken f) fun t => by rw [sql]; rfl

theorem framed_create (values : Value) :
    Framed (changingWords s "INSERT INTO ") fun t => create ⟨true⟩ { s with table := .text t } values := by
  have unfolded (t : String) : create ⟨true⟩ { s with table := .text t } values =
      (liftM values.entries? : Except Failure _) >>= fun given =>
        if (known s given).isEmpty then .error (.refused noValue) else liftM (Clause.statement ⟨true⟩
          [.finalTable s.columns [.insertInto (.text (Text.delimit '"' t)) (known s given)]]) := rfl
  simp only [unfolded]
  refine .bind fun given _ => ?_
  by_cases none : (known s given).isEmpty = true
  · exact .failed (.refused noValue) fun _ => if_pos none
  · exact (framed_changed [] (by decide) (fun _ => rfl) (Clause.framed_insertInto (known s given))).of_eq
      fun _ => if_neg none

theorem framed_updateWith (o : Options) (values : Keyed Value) :
    Framed (changingWords s "UPDATE ") fun t => updateWith ⟨true⟩ { s with table := .text t } o values := by
  simp only [updateWith_eq]
  by_cases none : (assignable s values).isEmpty = true
  · exact .failed (.refused notAssignable) fun _ => if_pos none
  · refine (framed_changed [filterClause s o, .fetchFirst (Options.countValue o.limit)] (by decide) (fun _ => rfl)
      (Clause.framed_updateSet (assignable s values))).of_eq fun _ => ?_
    exact if_neg none

theorem framed_destroyWith (o : Options) :
    Framed (.ok "DELETE FROM ") fun t => destroyWith ⟨true⟩ { s with table := .text t } o := by
  have first : Framed (.ok "DELETE FROM ") fun t => Clause.render ⟨true⟩ (.deleteFrom (.text (Text.delimit '"' t))) :=
    .around _ "" [] rfl endsName_empty fun t => by rw [String.append_empty]; rfl
  exact (Clause.framed_statement first (by decide) (fun _ => rfl)
    [filterClause s o, .fetchFirst (Options.countValue o.limit)]).lift

end Query

namespace Schema

theorem framed_createTable (keyType : String) (s : Schema) :
    Framed (.ok "CREATE TABLE ") fun t => s.createTable ⟨true⟩ keyType (.text t) := by
  have unfolded (t : String) : s.createTable ⟨true⟩ keyType (.text t) =
      (liftM (columnDefinitions keyType s.attributes.entries) : Except Failure _) >>= fun columns =>
        .ok ⟨"CREATE TABLE " ++ Text.delimit '"' t ++ " (" ++ ", ".intercalate columns ++ ")", []⟩ := rfl
  simp only [unfolded]
  refine .bind fun columns _ =>
    .around _ (" " ++ ("(" ++ ", ".intercalate columns ++ ")")) [] rfl (endsName_spaced _) ?_
  intro t
  have spaced : " (" = " " ++ "(" := rfl
  rw [spaced]
  simp only [String.append_assoc]

/-- The statement for a table that may be described is that of some schema. -/
theorem exists_createTable {d : Dialect} {keyType : String} {table : Value} {described : Description} {st : Statement}
    (created : createDescribed d keyType table described = .ok st) : ∃ s, createTable d keyType table s = .ok st := by
  cases described with
  | schema s => exact ⟨s, created⟩
  | _ =>
    obtain ⟨s, _, created⟩ := bind_eq_ok created
    exact ⟨s, created⟩

/-- A mere description becomes a schema whose columns do not depend on the table. -/
theorem ofDescription_bind (table : Value) (described : Description) (f : Schema → Except Failure Statement) :
    ofDescription table described >>= f = (liftM described.entries? : Except Failure _) >>= fun es =>
      readAttributes es.entries >>= fun as => f { table := table, attributes := ⟨as⟩ } := by
  unfold ofDescription
  cases described.entries? with
  | error e => rfl
  | ok es =>
    show ((readAttributes es.entries >>= fun as => .ok { table := table, attributes := ⟨as⟩ : Schema }) >>= f) =
      readAttributes es.entries >>= _
    cases readAttributes es.entries <;> rfl

theorem framed_createDescribed (keyType : String) (described : Description) :
    Framed (.ok "CREATE TABLE ") fun t => createDescribed ⟨true⟩ keyType (.text t) described := by
  have plain (d : Description) : Framed (.ok "CREATE TABLE ") fun t =>
      ofDescription (.text t) d >>= createTable ⟨true⟩ keyType (.text t) := by
    simp only [ofDescription_bind]
    exact .bind fun es _ => .bind fun as _ => framed_createTable keyType ⟨.null, ⟨as⟩⟩
  cases described with
  | schema s => exact framed_createTable keyType s
  | _ => exact plain _

end Schema

namespace TableStatement

theorem framed_request (s : Schema) (q : Request) :
    Framed (q.opening s) fun t => q.statement ⟨true⟩ { s with table := .text t } := by
  cases q with
  | find given =>
    refine .bind fun o coerced => ?_
    rw [Request.opening, coerced]
    exact Query.framed_findWith o
  | findOne given =>
    refine .bind fun o coerced => .bind fun o' limited => ?_
    rw [Request.opening, coerced]
    show Framed (o.withLimit (.int 1) >>= Query.readingWords s) _
    rw [limited]
    exact Query.framed_findWith o'
  | count given =>
    exact .bind fun o _ => .bind fun _ _ => (Clause.framed_from rfl (by decide) [Query.filterClause s o]).lift
  | create values => exact Query.framed_create values
  | update given values => exact .bind fun o _ => .bind fun t _ => Query.framed_updateWith o t
  | destroy given => exact .bind fun o _ => Query.framed_destroyWith o
  | truncate => exact .around _ " IMMEDIATE" [] rfl (endsName_spaced "IMMEDIATE") fun _ => rfl

/-- Every statement for a table has the name in a frame. -/
theorem framed (k : TableStatement) : Framed k.opening fun t => k.statement ⟨true⟩ (.text t) := by
  cases k with
  | create keyType described => exact Schema.framed_createDescribed keyType described
  | drop => exact .around _ "" [] rfl endsName_empty fun t => by rw [String.append_empty]; rfl
  | request s q => exact framed_request s q

end TableStatement

/-! ## What is read at the name's place -/

theorem Catalog.describe_text (d : Dialect) (t : String) :
    describe d (.text t) = .ok ⟨opening ++ Text.delimit '\'' (d.stored t) ++ " ORDER BY COLNO", []⟩ := by
  unfold describe
  rw [Dialect.catalogName_text]
  rfl

/-- Behind its opening words a text goes on as it does. -/
theorem drop_length_append (lead rest : String) : (lead ++ rest).toList.drop lead.length = rest.toList := by
  rw [String.toList_append, ← String.length_toList, List.drop_left]

/-- **A name stays in its place.** With quoted names, a statement that is built for a table has, behind its opening
words, the name as a delimited identifier: reading it there consumes the name's token and gives the name, and with any
other name the statement is the same but for the token. The statement for the catalog has, behind its opening words,
the name under which the engine stores the table as a string literal, with quoted names and without; and under this
name the table is stored when it is created. -/
theorem Dialect.named_in_place (t : String) :
    (∀ (k : TableStatement) (st : Statement), k.statement ⟨true⟩ (.text t) = .ok st →
      ∃ lead rest, k.opening = .ok lead ∧
        (∀ t', k.statement ⟨true⟩ (.text t') = .ok ⟨lead ++ Text.delimit '"' t' ++ rest, st.params⟩) ∧
        Text.readDelimited '"' (st.sql.toList.drop lead.length) = some (t.toList, rest.toList)) ∧
    ∀ d : Dialect, (∃ st, Catalog.describe d (.text t) = .ok st ∧
        st.sql = Catalog.opening ++ Text.delimit '\'' (d.stored t) ++ " ORDER BY COLNO" ∧
        Text.readDelimited '\'' (st.sql.toList.drop Catalog.opening.length) =
          some ((d.stored t).toList, " ORDER BY COLNO".toList)) ∧
      ∀ keyType described st, Schema.createDescribed d keyType (.text t) described = .ok st →
        ∃ token, st.Addresses "CREATE TABLE " token ∧ d.Stores token (d.stored t) := by
  refine ⟨fun k st built => ?_, fun d => ⟨?_, fun keyType described st created => ?_⟩⟩
  · cases k.framed with
    | failed e none => exact absurd ((none t).symm.trans built) (by simp)
    | around lead rest params opens ends text =>
      have same := (text t).symm.trans built
      cases same
      refine ⟨lead, rest, opens, text, ?_⟩
      rw [String.append_assoc, drop_length_append, String.toList_append]
      exact Text.readDelimited_delimit '"' t _ ends
  · refine ⟨_, Catalog.describe_text d t, rfl, ?_⟩
    rw [String.append_assoc, drop_length_append, String.toList_append]
    exact Text.readDelimited_delimit '\'' _ _ fun c first => by cases first; decide
  · obtain ⟨s, created⟩ := Schema.exists_createTable created
    obtain ⟨token, named, addresses⟩ := Schema.addresses_createTable created
    exact ⟨token.shown, addresses, stores_tableName named⟩

/-- A name made of quotes and of what could end a statement. -/
def hostileName : String := "\"\"; DROP TABLE \"users\""

/-- Dropped, such a table is named as one identifier, and it is created under the name that the catalog is asked for. -/
theorem Dialect.named_in_place_hostile :
    TableStatement.drop.statement ⟨true⟩ (.text hostileName) =
      .ok ⟨"DROP TABLE \"\"\"\"\"; DROP TABLE \"\"users\"\"\"", []⟩ ∧
    (∃ lead rest, TableStatement.drop.opening = .ok lead ∧
      Text.readDelimited '"' ("DROP TABLE \"\"\"\"\"; DROP TABLE \"\"users\"\"\"".toList.drop lead.length) =
        some (hostileName.toList, rest)) ∧
    ∃ token, Statement.Addresses ⟨"CREATE TABLE \"\"\"\"\"; DROP TABLE \"\"users\"\"\" ()", []⟩ "CREATE TABLE " token ∧
      (⟨true⟩ : Dialect).Stores token hostileName := by
  have dropped : TableStatement.drop.statement ⟨true⟩ (.text hostileName) =
      .ok ⟨"DROP TABLE \"\"\"\"\"; DROP TABLE \"\"users\"\"\"", []⟩ := by rfl
  have created : Schema.createDescribed ⟨true⟩ "INTEGER" (.text hostileName) (.value (.map [])) =
      .ok ⟨"CREATE TABLE \"\"\"\"\"; DROP TABLE \"\"users\"\"\" ()", []⟩ := by rfl
  obtain ⟨inPlace, asked⟩ := Dialect.named_in_place hostileName
  obtain ⟨lead, rest, opens, _, read⟩ := inPlace .drop _ dropped
  exact ⟨dropped, ⟨lead, _, opens, read⟩, (asked ⟨true⟩).2 _ _ _ created⟩

end TableGateway
