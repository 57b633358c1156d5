import TableGateway.Proofs.Courses
import TableGateway.Proofs.RowLimits

/-!
# The tables that statements name

Every statement that is built from a schema names the table of the schema, right after its opening words: the statement
that creates the table, those of the requests, the one that drops it, and the catalog's, which names the table as the
engine stores it. A definition that was answered well puts its schema under its name, and there it stays until the name
is defined anew or the identity is torn down. So all statements built meanwhile name the table that was created.

- **`Addresses`**: the table in a statement, after given opening words;
- **`addresses_statement`**: what the statement of a request names;
- **`defined_stays`**: a defined schema stays registered;
- **`schemas_defined`**: what is registered in a course, and which table its statements name.
-/

namespace TableGateway

variable {σ κ π : Type}

/-! ## The table in a statement -/

/-- The statement begins with these words and this table; what may follow stands after a space. -/
def Statement.Addresses (st : Statement) (lead table : String) : Prop :=
  st.sql = lead ++ table ∨ ∃ rest, st.sql = lead ++ table ++ " " ++ rest

theorem addresses_trailing {st : Statement} {lead table : String} {ts : List String}
    (text : st.sql = lead ++ table ++ trailing ts) : st.Addresses lead table := by
  rcases trailing_eq ts with none | ⟨rest, some⟩
  · rw [none, String.append_empty] at text
    exact Or.inl text
  · rw [some, ← String.append_assoc] at text
    exact Or.inr ⟨rest, text⟩

namespace Clause

variable {d : Dialect} {st : Statement}

/-- A statement is what its first clause writes, if anything, and further words. -/
theorem sql_statement {c : Clause} {cs : List Clause} {p : Statement} (built : statement d (c :: cs) = .ok st)
    (first : render d c = .ok p) (wordy : p.sql.isEmpty = false) :
    ∃ ps, renderAll d cs = .ok ps ∧ st.sql = p.sql ++ trailing (ps.map Statement.sql) := by
  obtain ⟨ps, rendered, _, rfl⟩ := statement_eq_ok.1 built
  rw [renderAll] at rendered
  obtain ⟨q, same, rendered⟩ := bind_eq_ok rendered
  obtain ⟨ps, others, rendered⟩ := bind_eq_ok rendered
  cases first.symm.trans same
  cases rendered
  exact ⟨ps, others, Statement.sql_inWords_cons ps wordy⟩

/-- Rows are read from a table. -/
theorem addresses_from {c : Clause} {cs : List Clause} {table : Value} {head : String} {values : List Value}
    (built : statement d (c :: .fromTable table :: cs) = .ok st) (first : render d c = .ok ⟨head, values⟩)
    (wordy : head.isEmpty = false) : st.Addresses (head ++ " FROM ") table.shown := by
  obtain ⟨ps, rendered, text⟩ := sql_statement built first wordy
  rw [renderAll] at rendered
  obtain ⟨p, source, rendered⟩ := bind_eq_ok rendered
  obtain ⟨qs, _, rendered⟩ := bind_eq_ok rendered
  cases source
  cases rendered
  have spaced : " FROM " = " " ++ "FROM " := rfl
  have text : st.sql = head ++ " FROM " ++ table.shown ++ trailing (qs.map Statement.sql) := by
    rw [text, List.map_cons, trailing_cons (Query.append_ne_empty _ (by decide)), spaced]
    simp only [String.append_assoc]
  exact addresses_trailing text

theorem begins_insertInto {table : Value} {values : List (Value × Value)} {p : Statement}
    (h : render d (.insertInto table values) = .ok p) :
    ∃ rest, p.sql = "INSERT INTO " ++ table.shown ++ " " ++ rest := by
  rw [render] at h
  obtain ⟨t, _, rfl⟩ := map_eq_ok h
  have spaced : " (" = " " ++ "(" := rfl
  rw [Statement.within, spaced]
  simp only [String.append_assoc]
  exact ⟨_, rfl⟩

theorem begins_updateSet {table : Value} {assignments : List (Value × Value)} {p : Statement}
    (h : render d (.updateSet table assignments) = .ok p) :
    ∃ rest, p.sql = "UPDATE " ++ table.shown ++ " " ++ rest := by
  rw [render] at h
  cases h
  have spaced : " SET " = " " ++ "SET " := rfl
  rw [Statement.within, spaced]
  simp only [String.append_assoc]
  exact ⟨_, rfl⟩

/-- What begins with a verb and a table, and a space after them, begins so whatever follows it. -/
theorem begins_statement {c : Clause} {cs : List Clause} {verb table : String} (built : statement d (c :: cs) = .ok st)
    (begins : ∀ p, render d c = .ok p → ∃ rest, p.sql = verb ++ table ++ " " ++ rest) :
    ∃ rest, st.sql = verb ++ table ++ " " ++ rest := by
  obtain ⟨ps, rendered, _⟩ := statement_eq_ok.1 built
  rw [renderAll] at rendered
  obtain ⟨p, first, _⟩ := bind_eq_ok rendered
  obtain ⟨rest, text⟩ := begins p first
  have wordy : p.sql.isEmpty = false := by
    rw [text, Bool.eq_false_iff]
    intro empty
    have parts := String.append_eq_empty_iff.1 (String.isEmpty_iff.1 empty)
    exact absurd (String.append_eq_empty_iff.1 parts.1).2 (by decide)
  obtain ⟨ps, _, whole⟩ := sql_statement built first wordy
  exact ⟨rest ++ trailing (ps.map Statement.sql), by rw [whole, text, String.append_assoc]⟩

end Clause

/-! ## Requests -/

namespace Query

variable {d : Dialect} {s : Schema} {st : Statement}

/-- The words of a statement that reads rows, up to its table. -/
def readingWords (s : Schema) (o : Options) : Except Failure String := do
  let columns ← projection s o.select
  return (if o.distinct then "SELECT DISTINCT " else "SELECT ") ++ (← Clause.nameList columns) ++ " FROM "

/-- The words of a statement that changes rows and reads them as they are afterwards, up to its table. -/
def changingWords (s : Schema) (verb : String) : Except Failure String := do
  return "SELECT " ++ (← Clause.nameList s.columns) ++ " FROM FINAL TABLE (" ++ verb

theorem addresses_findWith {o : Options} (built : findWith d s o = .ok st) :
    ∃ lead token, readingWords s o = .ok lead ∧ d.tableName s.table = .ok token ∧ st.Addresses lead token.shown := by
  unfold findWith at built
  obtain ⟨columns, projected, built⟩ := bind_eq_ok built
  obtain ⟨token, named, built⟩ := bind_eq_ok built
  have built := Failure.ok_of_lift_fault built
  obtain ⟨ps, rendered, _⟩ := Clause.statement_eq_ok.1 built
  unfold findClauses at rendered
  rw [Clause.renderAll] at rendered
  obtain ⟨p, first, _⟩ := bind_eq_ok rendered
  obtain ⟨t, listed, rfl⟩ := map_eq_ok first
  refine ⟨_, token, ?_, Failure.ok_of_lift_fault named, Clause.addresses_from built first ?_⟩
  · unfold readingWords
    rw [Failure.ok_of_lift_error projected]
    show ((liftM (Clause.nameList columns) : Except Failure String) >>= fun t => .ok (_ ++ t ++ " FROM ")) = _
    rw [listed]
    rfl
  · apply append_ne_empty
    split <;> decide

/-- Between the parentheses stands a change that begins with its verb and the table. -/
theorem addresses_finalTable {table verb : String} {c : Clause} {cs : List Clause}
    (built : Clause.statement d [.finalTable s.columns (c :: cs)] = .ok st)
    (begins : ∀ p, Clause.render d c = .ok p → ∃ rest, p.sql = verb ++ table ++ " " ++ rest) :
    ∃ lead, changingWords s verb = .ok lead ∧ st.Addresses lead table := by
  obtain ⟨inner, t, changed, listed, rfl⟩ := Clause.statement_finalTable.1 built
  obtain ⟨rest, text⟩ := Clause.begins_statement changed begins
  refine ⟨"SELECT " ++ t ++ " FROM FINAL TABLE (" ++ verb, ?_, Or.inr ⟨rest ++ ")", ?_⟩⟩
  · unfold changingWords
    rw [listed]
    rfl
  · rw [Statement.within, text]
    simp only [String.append_assoc]

end Query

/-- The words of a request's statement, up to its table. -/
def Request.opening (s : Schema) : Request → Except Failure String
  | .find given => do Query.readingWords s (← Options.coerce given)
  | .findOne given => do
    let o ← Options.coerce given
    Query.readingWords s (← o.withLimit (.int 1))
  | .count _ => .ok ("SELECT COUNT(*) AS " ++ Query.countColumn ++ " FROM ")
  | .create _ => Query.changingWords s "INSERT INTO "
  | .update .. => Query.changingWords s "UPDATE "
  | .destroy _ => .ok "DELETE FROM "
  | .truncate => .ok "TRUNCATE TABLE "

/-- The statement of a request names the table of the schema. -/
theorem Request.addresses_statement {d : Dialect} {s : Schema} {q : Request} {st : Statement}
    (built : q.statement d s = .ok st) :
    ∃ lead token, q.opening s = .ok lead ∧ d.tableName s.table = .ok token ∧ st.Addresses lead token.shown := by
  cases q with
  | find given =>
    obtain ⟨o, coerced, built⟩ := bind_eq_ok built
    obtain ⟨lead, token, opening, named, addresses⟩ := Query.addresses_findWith built
    exact ⟨lead, token, by rw [Request.opening, coerced]; exact opening, named, addresses⟩
  | findOne given =>
    obtain ⟨o, coerced, built⟩ := bind_eq_ok built
    obtain ⟨o', limited, built⟩ := bind_eq_ok built
    obtain ⟨lead, token, opening, named, addresses⟩ := Query.addresses_findWith built
    refine ⟨lead, token, ?_, named, addresses⟩
    rw [Request.opening, coerced]
    show (o.withLimit (.int 1) >>= Query.readingWords s) = _
    rw [limited]
    exact opening
  | count given =>
    obtain ⟨o, _, built⟩ := bind_eq_ok built
    obtain ⟨_, _, built⟩ := bind_eq_ok built
    obtain ⟨token, named, built⟩ := bind_eq_ok built
    refine ⟨_, token, rfl, Failure.ok_of_lift_fault named, ?_⟩
    exact Clause.addresses_from (Failure.ok_of_lift_fault built) rfl (by decide)
  | create values =>
    obtain ⟨t, _, built⟩ := bind_eq_ok built
    dsimp only at built
    split at built
    · cases built
    · obtain ⟨token, named, built⟩ := bind_eq_ok built
      obtain ⟨lead, opening, addresses⟩ :=
        Query.addresses_finalTable (Failure.ok_of_lift_fault built) fun _ => Clause.begins_insertInto
      exact ⟨lead, token, opening, Failure.ok_of_lift_fault named, addresses⟩
  | update given values =>
    obtain ⟨o, _, built⟩ := bind_eq_ok built
    obtain ⟨t, _, built⟩ := bind_eq_ok built
    rw [Query.updateWith_eq] at built
    split at built
    · cases built
    · obtain ⟨token, named, built⟩ := bind_eq_ok built
      obtain ⟨lead, opening, addresses⟩ :=
        Query.addresses_finalTable (Failure.ok_of_lift_fault built) fun _ => Clause.begins_updateSet
      exact ⟨lead, token, opening, Failure.ok_of_lift_fault named, addresses⟩
  | destroy given =>
    obtain ⟨o, _, built⟩ := bind_eq_ok built
    obtain ⟨token, named, built⟩ := bind_eq_ok built
    obtain ⟨ps, _, text⟩ :=
      Clause.sql_statement (Failure.ok_of_lift_fault built) rfl (Query.append_ne_empty _ (by decide))
    exact ⟨_, token, rfl, Failure.ok_of_lift_fault named, addresses_trailing text⟩
  | truncate =>
    have built := Failure.ok_of_lift_fault built
    obtain ⟨token, named, built⟩ := bind_eq_ok built
    cases built
    refine ⟨_, token, rfl, named, Or.inr ⟨"IMMEDIATE", ?_⟩⟩
    simp only [String.append_assoc]
    rfl

/-! ## Whole tables -/

/-- The statement that creates a table names it. -/
theorem Schema.addresses_createTable {d : Dialect} {keyType : String} {table : Value} {s : Schema} {st : Statement}
    (created : createTable d keyType table s = .ok st) :
    ∃ token, d.tableName table = .ok token ∧ st.Addresses "CREATE TABLE " token.shown := by
  obtain ⟨columns, _, created⟩ := bind_eq_ok created
  obtain ⟨token, named, created⟩ := bind_eq_ok created
  cases created
  have spaced : " (" = " " ++ "(" := rfl
  refine ⟨token, Failure.ok_of_lift_fault named, Or.inr ⟨"(" ++ ", ".intercalate columns ++ ")", ?_⟩⟩
  rw [spaced]
  simp only [String.append_assoc]

theorem Query.addresses_drop {d : Dialect} {table : Value} {st : Statement} (built : drop d table = .ok st) :
    ∃ token, d.tableName table = .ok token ∧ st.Addresses "DROP TABLE " token.shown := by
  obtain ⟨token, named, built⟩ := bind_eq_ok built
  cases built
  exact ⟨token, named, Or.inl rfl⟩

/-- The engine stores a table under this name when a statement names it so: a quoted name as it stands between the
quotes, any other one in capitals. -/
def Dialect.Stores (d : Dialect) (token stored : String) : Prop :=
  if d.quoteTableNames then token = Text.delimit '"' stored else stored = Text.upper token

theorem Dialect.stores_tableName {d : Dialect} {t : String} {token : Value}
    (named : d.tableName (.text t) = .ok token) :
    d.Stores token.shown (if d.quoteTableNames then t else Text.upper t) := by
  unfold tableName at named
  unfold Stores
  by_cases quotes : d.quoteTableNames = true
  · rw [if_pos quotes] at named
    rw [if_pos quotes, if_pos quotes]
    cases named
    rfl
  · rw [if_neg quotes] at named
    rw [if_neg quotes, if_neg quotes]
    cases named
    rfl

/-- The words of the catalog's statement, up to the name of the table. -/
def Catalog.opening : String :=
  "SELECT COLNAME, TYPENAME, LENGTH, NULLS, DEFAULT, IDENTITY FROM " ++ columnsView ++
    " WHERE TABSCHEMA = (CURRENT SCHEMA) AND TABNAME = "

/-- Only a text can be looked up in the catalog. -/
theorem Dialect.exists_text_of_literal {d : Dialect} {table name : Value} {literal : String}
    (stores : d.catalogName table = .ok name) (quoted : escapeLiteral name = .ok literal) : ∃ t, table = .text t := by
  unfold catalogName at stores
  split at stores
  · cases stores
    cases table with
    | text t => exact ⟨t, rfl⟩
    | _ => cases quoted
  · cases table with
    | text t => exact ⟨t, rfl⟩
    | bytes bs =>
      cases stores
      cases quoted
    | _ => cases stores

/-- The catalog is asked for the name under which the engine stores the table. -/
theorem Catalog.addresses_describe {d : Dialect} {table token : Value} {st : Statement}
    (built : describe d table = .ok st) (named : d.tableName table = .ok token) :
    ∃ stored, d.Stores token.shown stored ∧ st.Addresses opening (Text.delimit '\'' stored) := by
  obtain ⟨name, stores, built⟩ := bind_eq_ok built
  obtain ⟨literal, quoted, built⟩ := bind_eq_ok built
  cases built
  obtain ⟨t, rfl⟩ := Dialect.exists_text_of_literal stores quoted
  rw [Dialect.catalogName_text] at stores
  cases stores
  rw [Dialect.escapeLiteral_text] at quoted
  cases quoted
  refine ⟨if d.quoteTableNames then t else Text.upper t, Dialect.stores_tableName named, Or.inr ⟨"ORDER BY COLNO", ?_⟩⟩
  have spaced : " ORDER BY COLNO" = " " ++ "ORDER BY COLNO" := rfl
  show opening ++ Text.delimit '\'' _ ++ " ORDER BY COLNO" = _
  rw [spaced, ← String.append_assoc]

/-! ## The schemas of a course -/

namespace Operation

variable {g : Gateway} {r : Registry σ κ π} {identity schemaName : Value}

/-- Operations build their statements from this schema, and these name its table so. -/
structure Names (g : Gateway) (r : Registry σ κ π) (identity schemaName : Value) (s : Schema) (token : Value) :
    Prop where
  meant (q : Request) : requesting g r identity schemaName q = q.statement g.dialect s
  table : tableOf r identity schemaName = .ok s.table
  request {q : Request} {st : Statement} (built : requesting g r identity schemaName q = .ok st) :
    ∃ lead, q.opening s = .ok lead ∧ st.Addresses lead token.shown
  drop {st : Statement} (built : Query.drop g.dialect s.table = .ok st) : st.Addresses "DROP TABLE " token.shown
  describe {st : Statement} (built : describing g r identity schemaName = .ok st) :
    ∃ stored, g.dialect.Stores token.shown stored ∧ st.Addresses Catalog.opening (Text.delimit '\'' stored)

/-- A request means a statement by the registered schema. -/
theorem requesting_of_lookup {t : Keyed Registered} {s : Schema} (found : r.schemasOf identity = some t)
    (here : t.lookup schemaName = some (.schema s)) (q : Request) :
    requesting g r identity schemaName q = q.statement g.dialect s := by
  obtain ⟨e, known, rfl⟩ := Option.map_eq_some_iff.1 found
  rw [requesting, Registry.resolve_of_lookup known]
  show (e.schema schemaName >>= q.build g.dialect) = _
  rw [Entry.schema, Keyed.find_of_lookup here]
  rfl

/-- All operations know a registered schema. -/
theorem names_of_lookup {t : Keyed Registered} {s : Schema} {token : Value}
    (found : r.schemasOf identity = some t) (here : t.lookup schemaName = some (.schema s))
    (named : g.dialect.tableName s.table = .ok token) : Names g r identity schemaName s token := by
  have meant (q : Request) := requesting_of_lookup (g := g) found here q
  obtain ⟨e, known, rfl⟩ := Option.map_eq_some_iff.1 found
  have resolved := Registry.resolve_of_lookup known
  have looked := Keyed.find_of_lookup here
  have table : tableOf r identity schemaName = .ok s.table := by
    unfold tableOf
    rw [resolved]
    dsimp only [bind, Except.bind]
    rw [looked]
    rfl
  refine ⟨meant, table, fun {q st} built => ?_, fun {st} built => ?_, fun {st} built => ?_⟩
  · rw [meant] at built
    obtain ⟨lead, token', opening, named', addresses⟩ := Request.addresses_statement built
    cases named.symm.trans named'
    exact ⟨lead, opening, addresses⟩
  · obtain ⟨token', named', addresses⟩ := Query.addresses_drop built
    cases named.symm.trans named'
    exact addresses
  · rw [describing, table] at built
    exact Catalog.addresses_describe (Failure.ok_of_lift_fault built) named

end Operation

namespace Deed

/-- A definition that was answered well. -/
def Defines (x : Deed σ κ π) (i name : Value) (d : Description) : Prop :=
  x.asked = .operate i name (.define d) ∧ ∃ reply, x.ended = .ok (.ok reply)

/-- The service leaves what is registered under the name as it is: it neither tears the identity down nor defines the
name anew. -/
def Spares (y : Deed σ κ π) (i name : Value) : Prop :=
  y.tearsDown i = false ∧ ∀ other s, y.defined? i = some (other, s) → name.same other = false

/-- A definition that was answered well has made a schema and a statement. -/
theorem made_of_defines {g : Gateway} {a : Service} {w : World σ κ π} {i name : Value} {d : Description}
    (defines : (of g a w).Defines i name d) :
    ∃ s st, Operation.making g w.registry i name d = .ok (s, st) ∧ (of g a w).defined? i = some (name, s) := by
  obtain ⟨asked, reply, ended⟩ := defines
  have asked : a = .operate i name (.define d) := asked
  subst asked
  rcases run : (g.define i name d).run w with ⟨r, v⟩
  rw [of_define run] at ended ⊢
  obtain ⟨answer, rfl, answered⟩ := map_eq_ok ended
  obtain ⟨rows, rfl, _⟩ := map_eq_ok answered
  rcases Gateway.define_cases run with ⟨_, s, st, _, making, _⟩ | ⟨other, _⟩
  · obtain ⟨e, found, meant, _⟩ := Operation.of_making making
    refine ⟨s, st, making, ?_⟩
    show (if i.same i then _ else none) = _
    rw [if_pos (Keyed.same_self_of_lookup (Registry.lookup_of_resolve found)), meant]
    rfl
  · exact absurd rfl (other rows)

end Deed

namespace Course

variable {deeds later earlier : List (Deed σ κ π)} {x : Deed σ κ π} {w : World σ κ π} {i name : Value} {s : Schema}

/-- Every service of a course was asked for in a world to which those before it had led. -/
theorem exists_of_split (c : Course (later ++ x :: earlier) w) :
    ∃ g a v, Course earlier v ∧ x = .of g a v := by
  generalize all : later ++ x :: earlier = deeds at c
  induction c generalizing later with
  | start => simp at all
  | @serve deeds v c g a ih =>
    cases later with
    | nil =>
      cases all
      exact ⟨g, a, v, c, rfl⟩
    | cons y later =>
      rw [List.cons_append] at all
      exact ih (List.cons.inj all).2
  | aside c registry ih => exact ih all

/-- A defined schema stays registered as long as all services spare it. -/
theorem defined_stays (c : Course (later ++ x :: earlier) w) (defined : x.defined? i = some (name, s))
    (spared : ∀ y ∈ later, y.Spares i name) :
    ∃ t, w.registry.schemasOf i = some t ∧ ∀ other, other.same name = true → t.lookup other = some (.schema s) := by
  generalize all : later ++ x :: earlier = deeds at c
  induction c generalizing later with
  | start => simp at all
  | @serve deeds v c g a ih =>
    have effect := (Deed.effect g a c.distinct i).2
    cases later with
    | nil =>
      cases all
      cases effect with
      | kept undefined => cases defined.symm.trans undefined
      | removed undefined => cases defined.symm.trans undefined
      | made undefined => cases defined.symm.trans undefined
      | defined again _ now =>
        cases defined.symm.trans again
        exact ⟨_, now, fun other same => by rw [Keyed.lookup_put, if_pos same]⟩
    | cons y later =>
      rw [List.cons_append] at all
      obtain ⟨rfl, rest⟩ := List.cons.inj all
      obtain ⟨t, before, here⟩ := ih (fun y among => spared y (.tail _ among)) rest
      obtain ⟨standing, elsewhere⟩ := spared _ (.head _)
      have before : (Deed.of g a v).before.schemasOf i = some t := before
      cases effect with
      | kept _ same => exact ⟨t, same.trans before, here⟩
      | removed _ torn => cases standing.symm.trans torn
      | made _ absent => cases before.symm.trans absent
      | @defined name' s' t' another old now =>
        cases before.symm.trans old
        refine ⟨_, now, fun other same => ?_⟩
        rw [Keyed.lookup_put, if_neg, here other same]
        rw [Keyed.same_congr same, elsewhere name' s' another]
        decide
  | aside c registry ih =>
    rw [registry]
    exact ih spared all

/-- **What is registered, and what it is for.** After every course of services,

1. the schemas of an identity are those that its entry was made with, overlaid by every schema defined since;
2. each service did to the schemas of every identity what it may do: only registrations, teardowns and definitions that
   were answered well do anything;
3. as long as a definition that was answered well is spared by all services after it, everything that operations build
   under its names addresses the table that the statement of the definition created. -/
theorem schemas_defined (c : Course deeds w) :
    (∀ i t, w.registry.schemasOf i = some t → t = overlaid i deeds) ∧
    (∀ x ∈ deeds, ∀ i, x.Effect i) ∧
    ∀ later x earlier i name d, deeds = later ++ x :: earlier → x.Defines i name d →
      (∀ y ∈ later, y.Spares i name) →
      ∃ s st token, Operation.making x.through x.before i name d = .ok (s, st) ∧
        x.through.dialect.tableName s.table = .ok token ∧ st.Addresses "CREATE TABLE " token.shown ∧
        ∀ g j other, g.dialect = x.through.dialect → j.same i = true → other.same name = true →
          Operation.Names g w.registry j other s token := by
  refine ⟨fun i t found => c.eq_overlaid found, fun x among i => ?_, ?_⟩
  · obtain ⟨later, earlier, rfl⟩ := List.mem_iff_append.1 among
    obtain ⟨g, a, v, before, rfl⟩ := c.exists_of_split
    exact (Deed.effect g a before.distinct i).2
  · rintro later x earlier i name d rfl defines spared
    obtain ⟨g, a, v, before, rfl⟩ := c.exists_of_split
    obtain ⟨s, st, making, defined⟩ := Deed.made_of_defines defines
    obtain ⟨t, known, here⟩ := c.defined_stays defined spared
    obtain ⟨_, _, _, created⟩ := Operation.of_making making
    obtain ⟨token, named, addresses⟩ := Schema.addresses_createTable created
    refine ⟨s, st, token, making, named, addresses, fun g' j other dialect same alike => ?_⟩
    have known : w.registry.schemasOf j = some t := by
      rw [← known, Registry.schemasOf, Registry.schemasOf, Keyed.lookup_congr same]
    exact Operation.names_of_lookup known (here other alike) (dialect ▸ named)

/-- The services of one gateway, the latest first, and the world that they lead to. -/
def services (g : Gateway) (w : World σ κ π) : List Service → List (Deed σ κ π) × World σ κ π
  | [] => ([], w)
  | s :: earlier =>
    (.of g s (services g w earlier).2 :: (services g w earlier).1, ((s.run g).run (services g w earlier).2).2)

theorem of_services (g : Gateway) (start : Course [] w) (ss : List Service) :
    Course (services g w ss).1 (services g w ss).2 := by
  induction ss with
  | nil => exact start
  | cons s ss ih => exact ih.serve g s

/-- A table is defined under another name than its own and used, the latest service first. -/
def people : List Service :=
  [.operate (.text "a") (.text "users") (.request .truncate),
    .operate (.text "a") (.text "users")
      (.define (.schema { table := .text "people", attributes := ⟨[(.text "id", { role := .counted })]⟩ })),
    .register (.built { identity := .text "a" }) (.value .null)]

/-- Nothing is registered yet, and the driver does all that it is asked. -/
def unpeopled : World Unit Unit Unit where
  engine := ()
  registry := { driver := .steady (.ok ()) (.ok []) (.ok ()) }

def peopled : List (Deed Unit Unit Unit) × World Unit Unit Unit := services {} unpeopled people

/-- The table goes by its own name. -/
theorem schemas_defined_people :
    Course peopled.1 peopled.2 ∧
      (∃ t, peopled.2.registry.schemasOf (.text "a") = some t ∧ t = overlaid (.text "a") peopled.1) ∧
      ∃ s, Operation.Names {} peopled.2.registry (.text "a") (.text "users") s (.text "people") := by
  have course : Course peopled.1 peopled.2 := of_services {} (.start rfl) people
  obtain ⟨overlays, _, defined⟩ := schemas_defined course
  refine ⟨course, ⟨_, rfl, overlays _ _ rfl⟩, ?_⟩
  have spared : ∀ y ∈ peopled.1.take 1, y.Spares (.text "a") (.text "users") := by
    intro y later
    cases List.mem_singleton.1 later
    exact ⟨rfl, fun _ _ again => by cases again⟩
  obtain ⟨s, st, token, making, named, _, names⟩ :=
    defined (peopled.1.take 1) _ (peopled.1.drop 2) _ _ _ rfl ⟨rfl, _, rfl⟩ spared
  cases making
  cases named
  exact ⟨_, names {} _ _ rfl rfl rfl⟩

end Course

end TableGateway
