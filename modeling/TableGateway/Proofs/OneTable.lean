import TableGateway.Proofs.Tables

/-!
# One table

A table that is created from a mere description goes by the name of its schema. All other operations ask the registry
for the table: they take that of the schema that is registered under the name, and the name itself only when there is
none. So they mean the table that was created, or will be, unless the registered schema goes by another table.

- **`describing_of_tableOf`**, **`drop_of_tableOf`**, **`requesting_addresses`**: which table each of them means;
- **`reaches_created_iff`**: when they all mean the table that a definition creates.
-/

namespace TableGateway

variable {σ κ π : Type}

/-- The name under which the engine stores a table. -/
def Dialect.stored (d : Dialect) (table : String) : String := if d.quoteTableNames then table else Text.upper table

/-- What is quoted can be told from the quoted text. -/
theorem Text.delimit_injective {q : Char} {s t : String} (same : delimit q s = delimit q t) : s = t := by
  have read := readDelimited_delimit q s [] (fun _ among => by cases among)
  rw [same, readDelimited_delimit q t [] (fun _ among => by cases among)] at read
  exact (String.toList_injective (congrArg Prod.fst (Option.some.inj read))).symm

namespace Operation

variable {g : Gateway} {w : World σ κ π} {i : Value} {name : String} {d : Description} {st : Statement}

/-- The catalog is asked for the table that the engine stores under this name, the same table is dropped, and requests
name it. -/
structure Reaches (g : Gateway) (w : World σ κ π) (i name : Value) (stored : String) : Prop where
  describe : describing g w.registry i name =
    .ok ⟨Catalog.opening ++ Text.delimit '\'' stored ++ " ORDER BY COLNO", []⟩
  drop : ∃ token, g.dialect.Stores token stored ∧
    (g.drop i name (.tuple [])).run w = (g.dispatcher.execute i ⟨"DROP TABLE " ++ token, []⟩ name).run w
  request {t : Keyed Registered} {s : Schema} {q : Request} {st : Statement}
    (known : w.registry.schemasOf i = some t) (here : t.lookup name = some (.schema s))
    (built : requesting g w.registry i name q = .ok st) :
    ∃ lead token, q.opening s = .ok lead ∧ g.dialect.Stores token stored ∧ st.Addresses lead token

/-! ## The table that is registered -/

/-- The table is the one that is registered, or the name stands for itself. -/
theorem tableOf_eq {t : Keyed Registered} (known : w.registry.schemasOf i = some t) :
    tableOf w.registry i (.text name) = match t.lookup (.text name) with
      | some x => (liftM x.table? : Except Failure _).map fun table => table.getD (.text name)
      | none => .ok (.text name) := by
  obtain ⟨e, entry, rfl⟩ := Option.map_eq_some_iff.1 known
  unfold tableOf
  rw [Registry.resolve_of_lookup entry]
  dsimp only [bind, Except.bind]
  rw [Keyed.find_text]
  cases e.schemas.lookup (.text name) with
  | none => rfl
  | some x =>
    cases x with
    | schema s => rfl
    | other v => cases v <;> rfl

theorem describing_of_tableOf {table : String} (means : tableOf w.registry i (.text name) = .ok (.text table)) :
    describing g w.registry i (.text name) =
      .ok ⟨Catalog.opening ++ Text.delimit '\'' (g.dialect.stored table) ++ " ORDER BY COLNO", []⟩ := by
  unfold describing
  rw [means]
  dsimp only [bind, Except.bind]
  unfold Catalog.describe
  rw [Dialect.catalogName_text]
  rfl

/-- Without relations a drop is one statement. -/
theorem drop_of_tableOf {table : String} (means : tableOf w.registry i (.text name) = .ok (.text table)) :
    ∃ token, g.dialect.Stores token (g.dialect.stored table) ∧ (g.drop i (.text name) (.tuple [])).run w =
      (g.dispatcher.execute i ⟨"DROP TABLE " ++ token, []⟩ (.text name)).run w := by
  obtain ⟨token, named⟩ : ∃ token, g.dialect.tableName (.text table) = .ok token := by
    unfold Dialect.tableName
    split
    · exact ⟨_, rfl⟩
    · exact ⟨_, rfl⟩
  refine ⟨token.shown, Dialect.stores_tableName named, ?_⟩
  have built : Query.drop g.dialect (.text table) = .ok ⟨"DROP TABLE " ++ token.shown, []⟩ := by
    unfold Query.drop
    rw [named]
    rfl
  rw [Gateway.drop, Gateway.run_answered_bind Gateway.still_tableName, Gateway.fst_tableName, means]
  show ((Run.lift (liftM (Query.drop g.dialect (.text table))) >>= _ : Run σ κ π _).run w) = _
  rw [built]
  rfl

/-- Requests name the table of the schema that is registered. -/
theorem requesting_addresses {t : Keyed Registered} {s : Schema} {q : Request} {table : String}
    (known : w.registry.schemasOf i = some t) (here : t.lookup (.text name) = some (.schema s))
    (goes : s.table = .text table) (built : requesting g w.registry i (.text name) q = .ok st) :
    ∃ lead token, q.opening s = .ok lead ∧ g.dialect.Stores token (g.dialect.stored table) ∧
      st.Addresses lead token := by
  rw [requesting_of_lookup known here] at built
  obtain ⟨lead, token, opening, named, addresses⟩ := Request.addresses_statement built
  rw [goes] at named
  exact ⟨lead, token.shown, opening, Dialect.stores_tableName named, addresses⟩

/-- What the catalog is asked for is a table, and it is told by the name under which the engine stores it. -/
theorem tableOf_of_describing {stored : String} (asks : describing g w.registry i (.text name) =
    .ok ⟨Catalog.opening ++ Text.delimit '\'' stored ++ " ORDER BY COLNO", []⟩) :
    ∃ table, tableOf w.registry i (.text name) = .ok (.text table) ∧ g.dialect.stored table = stored := by
  obtain ⟨v, means, described⟩ := bind_eq_ok asks
  have described := Failure.ok_of_lift_fault described
  obtain ⟨_, stores, quotes⟩ := bind_eq_ok described
  obtain ⟨_, quoted, _⟩ := bind_eq_ok quotes
  obtain ⟨table, rfl⟩ := Dialect.exists_text_of_literal stores quoted
  refine ⟨table, means, ?_⟩
  rw [describing_of_tableOf means] at asks
  have text := congrArg String.toList (congrArg Statement.sql (Except.ok.inj asks))
  simp only [String.toList_append] at text
  exact Text.delimit_injective (String.toList_inj.1 (List.append_cancel_left (List.append_cancel_right text)))

/-! ## The table that is created -/

/-- A mere description means a schema whose table goes by the schema's name. -/
theorem table_of_schemaMeant {schemaName : Value} {s : Schema} (plain : ∀ s, d ≠ .schema s)
    (meant : Gateway.schemaMeant schemaName d = .ok s) : s.table = schemaName := by
  have described : Schema.ofDescription schemaName d = .ok s := by
    cases d with
    | schema s => exact absurd rfl (plain s)
    | _ => exact meant
  obtain ⟨_, _, read⟩ := bind_eq_ok described
  obtain ⟨_, _, made⟩ := bind_eq_ok read
  cases made
  rfl

/-- **All operations mean the table that a definition creates**, in every state in which the definition of a mere
description gets as far as a statement, exactly unless a schema is registered under the name whose table is not stored
under the same name. The statement that creates the table always names it after the schema. -/
theorem reaches_created_iff (plain : ∀ s, d ≠ .schema s) (created : creating g w.registry i (.text name) d = .ok st) :
    (∃ token, g.dialect.Stores token (g.dialect.stored name) ∧ st.Addresses "CREATE TABLE " token) ∧
    (Reaches g w i (.text name) (g.dialect.stored name) ↔
      ∀ t x, w.registry.schemasOf i = some t → t.lookup (.text name) = some x →
        x.table? = .ok none ∨
          ∃ table, x.table? = .ok (some (.text table)) ∧ g.dialect.stored table = g.dialect.stored name) := by
  obtain ⟨e, resolved, built⟩ := bind_eq_ok created
  obtain ⟨s, meant, built⟩ := bind_eq_ok built
  obtain ⟨token, named, addresses⟩ := Schema.addresses_createTable built
  rw [table_of_schemaMeant plain meant] at named
  refine ⟨⟨token.shown, Dialect.stores_tableName named, addresses⟩, fun reaches t x known here => ?_, fun same => ?_⟩
  · -- the catalog's statement alone tells which table is meant
    obtain ⟨table, means, stored⟩ := tableOf_of_describing reaches.describe
    rw [tableOf_eq known, here] at means
    obtain ⟨found, looked, means⟩ := map_eq_ok means
    have looked := Failure.ok_of_lift_fault looked
    cases found with
    | none => exact .inl looked
    | some v =>
      cases means
      exact .inr ⟨table, looked, stored⟩
  · have known : w.registry.schemasOf i = some e.schemas := by
      rw [Registry.schemasOf, Registry.lookup_of_resolve resolved]
      rfl
    obtain ⟨table, means, stored⟩ :
        ∃ table, tableOf w.registry i (.text name) = .ok (.text table) ∧
          g.dialect.stored table = g.dialect.stored name := by
      rw [tableOf_eq known]
      cases here : e.schemas.lookup (.text name) with
      | none => exact ⟨name, rfl, rfl⟩
      | some x =>
        rcases same e.schemas x known here with none | ⟨table, looked, stored⟩
        · exact ⟨name, by dsimp only; rw [none]; rfl, rfl⟩
        · exact ⟨table, by dsimp only; rw [looked]; rfl, stored⟩
    refine ⟨?_, ?_, fun {t s q st} known' here built => ?_⟩
    · rw [describing_of_tableOf means, stored]
    · rw [← stored]
      exact drop_of_tableOf means
    · rw [tableOf_eq known', here] at means
      rw [← stored]
      exact requesting_addresses known' here (Except.ok.inj means) built

/-- A table of one column. -/
def noteColumns : List (Value × Value) := [(.text "body", .map [(.text "type", .text "text")])]

/-- A schema is registered, with this table. -/
def noted (table : String) : World Unit Unit Unit :=
  ((Registry.register (.built { identity := .text "a" }) (.value (.map [(.text "notes",
    .map [(.text "tableName", .text table), (.text "definition", .map noteColumns)])]))).run Course.unpeopled).2

/-- The engine stores the registered table under the capitals of the schema's name: there is one table. -/
theorem reaches_created_capitals :
    creating {} (noted "NOTES").registry (.text "a") (.text "notes") (.value (.map noteColumns)) =
      .ok ⟨"CREATE TABLE notes (body CLOB(2147483647) WITH DEFAULT)", []⟩ ∧
    Reaches {} (noted "NOTES") (.text "a") (.text "notes") "NOTES" := by
  have created : creating {} (noted "NOTES").registry (.text "a") (.text "notes") (.value (.map noteColumns)) =
      .ok ⟨"CREATE TABLE notes (body CLOB(2147483647) WITH DEFAULT)", []⟩ := by rfl
  refine ⟨created, (reaches_created_iff (by nofun) created).2.2 fun t x known here => ?_⟩
  cases known
  cases here
  exact .inr ⟨"NOTES", rfl, rfl⟩

/-- A schema is registered with another table: a definition creates one table, and the catalog is asked for the
other. -/
theorem created_elsewhere :
    creating {} (noted "NOTE_T").registry (.text "a") (.text "notes") (.value (.map noteColumns)) =
      .ok ⟨"CREATE TABLE notes (body CLOB(2147483647) WITH DEFAULT)", []⟩ ∧
    describing {} (noted "NOTE_T").registry (.text "a") (.text "notes") =
      .ok ⟨Catalog.opening ++ "'NOTE_T' ORDER BY COLNO", []⟩ ∧
    requesting {} (noted "NOTE_T").registry (.text "a") (.text "notes") .truncate =
      .ok ⟨"TRUNCATE TABLE NOTE_T IMMEDIATE", []⟩ :=
  ⟨rfl, rfl, rfl⟩

end Operation

end TableGateway
