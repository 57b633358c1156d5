import TableGateway.Proofs.Entries
import TableGateway.Proofs.RowLimits

/-!
# What the builders write

The statement that each builder gives, as one text and one list of values. The text is put together from the columns,
the table's token and three endings, each of which is empty or stands after a space: the filter (`whereWords`), the
order (`orderWords`) and the limit (`readWords` when rows are read, `changeWords` when they are changed). A builder
fails on its limit only where a number has too many digits to be written (`Options.Writable`).

- **`render_filterClause`**, **`render_orderClause`**, **`render_limit`**, ...: what each clause writes;
- **`findWith_eq_ok`**: which statements read rows, in both directions;
- **`countWith_eq`**, **`destroyWith_eq`**, **`updateWith_written`**, **`create_written`**: what the others build.
-/

namespace TableGateway

/-! ## Names -/

namespace Clause

variable {d : Dialect}

theorem names_texts (ts : List String) : names (ts.map .text) = .ok ts := by
  induction ts with
  | nil => rfl
  | cons t ts ih =>
    show (names (ts.map .text)).map (t :: ·) = _
    rw [ih]
    rfl

theorem nameList_texts (ts : List String) : nameList (ts.map .text) = .ok (", ".intercalate ts) := by
  rw [nameList, names_texts]
  rfl

theorem names_eq_ok {vs : List Value} {ts : List String} : names vs = .ok ts ↔ vs = ts.map .text := by
  constructor
  · intro named
    induction vs generalizing ts with
    | nil => cases named; rfl
    | cons v vs ih =>
      cases v with
      | text u =>
        obtain ⟨us, others, rfl⟩ := map_eq_ok named
        rw [ih others, List.map_cons]
      | _ => cases named
  · rintro rfl
    exact names_texts ts

theorem renderAll_cons {c : Clause} {cs : List Clause} {p : Statement} {ps : List Statement}
    (first : render d c = .ok p) (rest : renderAll d cs = .ok ps) : renderAll d (c :: cs) = .ok (p :: ps) := by
  rw [renderAll, first, rest]
  rfl

/-- A statement from its pieces, the first of which writes some text. -/
theorem statement_written {c : Clause} {cs : List Clause} {head sql : String} {values params : List Value}
    {ps : List Statement} (first : render d c = .ok ⟨head, values⟩) (rest : renderAll d cs = .ok ps)
    (texts : (c :: cs).any (isNoText true) = false) (wordy : head.isEmpty = false)
    (written : head ++ trailing (ps.map Statement.sql) = sql)
    (bound : values ++ ps.flatMap Statement.params = params) : statement d (c :: cs) = .ok ⟨sql, params⟩ := by
  rw [statement_cons, first, rest]
  show (if (c :: cs).any (isNoText true) = true then .error .wrongKind
    else .ok (Statement.inWords (⟨head, values⟩ :: ps))) = (.ok ⟨sql, params⟩ : Except Fault Statement)
  rw [texts, if_neg (by decide), Statement.inWords_cons ps wordy, ← written, ← bound]

end Clause

namespace Query

variable {β : Type} {s : Schema} {columns : List String}

/-- Where all columns are texts, only they themselves are found. -/
theorem mem_columns_of_has (texts : ∀ c ∈ s.columns, ∃ t, c = .text t) {k : Value} (found : s.attributes.has k = true) :
    k ∈ s.columns := by
  obtain ⟨a, found⟩ := Option.isSome_iff_exists.1 found
  obtain ⟨c, there, same⟩ := Keyed.exists_same_of_lookup found
  have column : c ∈ s.columns := List.mem_map_of_mem there
  obtain ⟨t, rfl⟩ := texts c column
  rw [Value.same_text_right.1 same]
  exact column

/-- Then what is kept is kept under texts. -/
theorem exists_text_of_known (texts : s.columns = columns.map .text) {t : Keyed β} {e : Value × β}
    (kept : e ∈ known s t) : ∃ c, e.1 = .text c := by
  have all : ∀ c ∈ s.columns, ∃ t, c = .text t := by
    intro c column
    rw [texts] at column
    obtain ⟨t, -, named⟩ := List.mem_map.1 column
    exact ⟨t, named.symm⟩
  exact all _ (mem_columns_of_has all (known_mem.1 kept).2)

theorem exists_texts {es : List (Value × β)} (keys : ∀ e ∈ es, ∃ c, e.1 = .text c) :
    ∃ pairs : List (String × β), es = pairs.map fun p => (.text p.1, p.2) := by
  induction es with
  | nil => exact ⟨[], rfl⟩
  | cons e es ih =>
    obtain ⟨c, named⟩ := keys e (.head _)
    obtain ⟨pairs, rest⟩ := ih fun e' there => keys e' (.tail _ there)
    refine ⟨(c, e.2) :: pairs, ?_⟩
    rw [List.map_cons, ← rest, ← named]

theorem exists_texts_of_known (texts : s.columns = columns.map .text) (t : Keyed β) :
    ∃ pairs : List (String × β), known s t = pairs.map fun p => (.text p.1, p.2) :=
  exists_texts fun _ kept => exists_text_of_known texts kept

end Query

/-! ## Limits -/

namespace Options

variable {d : Dialect} {n : Option Nat}

/-- The number of rows, if there is one, has few enough digits to be written. -/
def Writable (n : Option Nat) : Prop := ∀ k, n = some k → Integer.isWritable k = true

theorem writable_none : Writable none := fun _ given => by cases given

theorem isWritable_iff {k : Int} : Integer.isWritable k = true ↔ k.natAbs < Nat.pow 10 Integer.digitLimit := by
  unfold Integer.isWritable
  exact decide_eq_true_iff

/-- A number of one digit can be written. -/
theorem isWritable_digit {k : Int} (one : k.natAbs < 10) : Integer.isWritable k = true := by
  have power (digits : Nat) (some : digits ≠ 0) : 10 ≤ Nat.pow 10 digits := Nat.le_self_pow some 10
  exact isWritable_iff.2 (Nat.lt_of_lt_of_le one (power _ (by decide)))

theorem writable_digit {k : Nat} (one : k < 10) : Writable (some k) := by
  intro n same
  cases same
  exact isWritable_digit one

theorem text_of_writable {k : Nat} (h : Writable (some k)) : Integer.text k = .ok (toString k) :=
  Integer.text_eq (isWritable_iff.1 (h k rfl))

theorem rowCount_writable (word : String) (h : Writable n) :
    Clause.rowCount word (countValue n) = .ok (rowsWords word n) := by
  have succeeds : ∃ t, Clause.rowCount word (countValue n) = .ok t := by
    unfold Clause.rowCount
    cases n with
    | none => exact ⟨_, rfl⟩
    | some k =>
      by_cases counts : (countValue (some k)).isTruthy = true
      · have whole : (countValue (some k)).toWhole = .ok (k : Int) := rfl
        refine ⟨word ++ " " ++ toString k, ?_⟩
        rw [if_pos counts]
        exact bind_of_ok whole (bind_of_ok (text_of_writable h) rfl)
      · exact ⟨_, if_neg counts⟩
  obtain ⟨t, written⟩ := succeeds
  rw [written, rowCount_countValue written]

/-- What has been written can be. -/
theorem writable_of_rowCount {word t : String} (written : Clause.rowCount word (countValue n) = .ok t) :
    Writable n := by
  rintro k rfl
  by_cases pos : 0 < k
  · have counts : (countValue (some k)).isTruthy = true := by
      show ((k : Int) != 0) = true
      rw [bne_iff_ne]
      omega
    unfold Clause.rowCount at written
    rw [if_pos counts] at written
    obtain ⟨m, whole, written⟩ := bind_eq_ok written
    obtain rfl : (k : Int) = m := Except.ok.inj whole
    obtain ⟨u, numeral, -⟩ := bind_eq_ok written
    unfold Integer.text at numeral
    split at numeral
    · next few => exact few
    · cases numeral
  · obtain rfl : k = 0 := by omega
    exact isWritable_digit (by decide)

theorem render_limit (h : Writable n) :
    Clause.render d (.limit (countValue n)) = .ok ⟨rowsWords "LIMIT" n, []⟩ := by
  rw [Clause.render, rowCount_writable _ h]
  rfl

theorem render_offset (h : Writable n) :
    Clause.render d (.offset (countValue n)) = .ok ⟨rowsWords "OFFSET" n, []⟩ := by
  rw [Clause.render, rowCount_writable _ h]
  rfl

theorem render_fetchFirst_writable (h : Writable n) :
    Clause.render d (.fetchFirst (countValue n)) = .ok ⟨fetchWords n, []⟩ := by
  have succeeds : ∃ p, Clause.render d (.fetchFirst (countValue n)) = .ok p := by
    cases n with
    | none => exact ⟨_, rfl⟩
    | some k =>
      have written : ∃ t, Dialect.fetchFirst (countValue (some k)) = .ok t := by
        unfold countValue Dialect.fetchFirst
        dsimp only
        split
        · rw [text_of_writable h]
          exact ⟨_, rfl⟩
        · exact ⟨_, rfl⟩
      obtain ⟨t, written⟩ := written
      exact ⟨⟨Clause.trimmed t, []⟩, by rw [Clause.render, written]; rfl⟩
  obtain ⟨p, written⟩ := succeeds
  rw [written, render_fetchFirst written]

end Options

namespace Query

open Options

variable {d : Dialect} {s : Schema} {o : Options} {table : Value} {values : Keyed Value} {st : Statement}

/-! ## Filters and orders -/

/-- A column compared with a placeholder. -/
def comparison (e : Value × Value) : String := e.1.shown ++ " = ?"

/-- A column and its direction. -/
def orderItem (e : Value × Direction) : String := e.1.shown ++ " " ++ e.2.word

/-- The filter of a query; nothing when it filters by no column of the schema. -/
def whereText (s : Schema) (o : Options) : String :=
  if (known s o.filter).isEmpty then "" else "WHERE " ++ " AND ".intercalate ((known s o.filter).map comparison)

/-- The order of a query; nothing when it orders by no column of the schema. -/
def orderText (s : Schema) (o : Options) : String :=
  if (known s o.sort).isEmpty then "" else "ORDER BY " ++ ", ".intercalate ((known s o.sort).map orderItem)

/-- What a filter adds to a statement. -/
def whereWords (s : Schema) (o : Options) : String := trailing [whereText s o]

/-- What an order adds to a statement. -/
def orderWords (s : Schema) (o : Options) : String := trailing [orderText s o]

/-- The values to compare with. -/
def whereValues (s : Schema) (o : Options) : List Value := (known s o.filter).map Prod.snd

theorem sql_equals (e : Value × Value) : (Clause.equals e.1 e.2).sql = comparison e := by
  have marked : " = ?" = " = " ++ Dialect.placeholder := rfl
  rw [comparison, marked, ← String.append_assoc]
  exact String.append_empty

/-- Columns set equal to values, joined. -/
theorem join_equals (between : String) (es : List (Value × Value)) :
    Statement.join between (es.map fun e => Clause.equals e.1 e.2) =
      ⟨between.intercalate (es.map comparison), es.map Prod.snd⟩ := by
  unfold Statement.join
  rw [Clause.flatMap_equals, List.map_map]
  have texts : (Statement.sql ∘ fun e : Value × Value => Clause.equals e.1 e.2) = comparison := funext sql_equals
  rw [texts]

theorem renderAll_equals (es : List (Value × Value)) :
    Clause.renderAll d (es.map fun e => .eq e.1 e.2) = .ok (es.map fun e => Clause.equals e.1 e.2) := by
  induction es with
  | nil => rfl
  | cons e es ih => exact Clause.renderAll_cons rfl ih

theorem any_equals (amongWords : Bool) (es : List (Value × Value)) :
    (es.map fun e => Clause.eq e.1 e.2).any (Clause.isNoText amongWords) = false := by
  induction es with
  | nil => rfl
  | cons e es ih =>
    rw [List.map_cons, List.any_cons, ih]
    rfl

theorem render_filterClause : Clause.render d (filterClause s o) = .ok ⟨whereText s o, whereValues s o⟩ := by
  rw [filterClause, Clause.render, List.isEmpty_map]
  unfold whereText whereValues
  cases none : (known s o.filter).isEmpty with
  | true =>
    rw [List.isEmpty_iff.1 none]
    rfl
  | false =>
    rw [if_neg (by decide), if_neg (by decide), renderAll_equals]
    show (Clause.joinable false _ (_ : List Statement) >>= fun pieces => _) = _
    rw [Clause.joinable, any_equals, if_neg (by decide)]
    show Except.ok ((Statement.join " AND " _).within "WHERE " "") = _
    rw [join_equals, Statement.within, String.append_empty]

theorem render_orderClause : Clause.render d (orderClause s o) = .ok ⟨orderText s o, []⟩ := by
  rw [orderClause, Clause.render, List.isEmpty_map]
  unfold orderText
  cases none : (known s o.sort).isEmpty with
  | true => rfl
  | false =>
    rw [if_neg (by decide), if_neg (by decide), List.map_map]
    rfl

/-- A filter adds nothing, or its condition. -/
theorem whereWords_eq (s : Schema) (o : Options) : known s o.filter = [] ∧ whereWords s o = "" ∨
    whereWords s o = " WHERE " ++ " AND ".intercalate ((known s o.filter).map comparison) := by
  unfold whereWords whereText
  cases none : (known s o.filter).isEmpty with
  | true => exact Or.inl ⟨List.isEmpty_iff.1 none, rfl⟩
  | false =>
    refine Or.inr ?_
    rw [if_neg (by decide), trailing_cons (append_ne_empty _ (by decide)), trailing, String.append_empty,
      ← String.append_assoc]
    rfl

/-! ## Reading rows -/

/-- How a statement that reads rows begins. -/
def opening (distinct : Bool) : String := if distinct then "SELECT DISTINCT " else "SELECT "

theorem opening_append_isEmpty (distinct : Bool) (t : String) : (opening distinct ++ t).isEmpty = false := by
  apply append_ne_empty
  cases distinct <;> decide

/-- The statement that reads these columns of the rows that match. -/
def reading (columns : List String) (table : Value) (s : Schema) (o : Options) : Statement where
  sql := opening o.distinct ++ ", ".intercalate columns ++ " FROM " ++ table.shown ++ whereWords s o ++
    orderWords s o ++ readWords o
  params := whereValues s o

theorem trailing_reading (table : Value) (s : Schema) (o : Options) :
    trailing ["FROM " ++ table.shown, whereText s o, orderText s o, rowsWords "LIMIT" o.limit,
      rowsWords "OFFSET" o.skip] =
      " FROM " ++ table.shown ++ whereWords s o ++ orderWords s o ++ readWords o := by
  have spaced : " FROM " = " " ++ "FROM " := rfl
  have parts : [whereText s o, orderText s o, rowsWords "LIMIT" o.limit, rowsWords "OFFSET" o.skip] =
    [whereText s o] ++ ([orderText s o] ++ [rowsWords "LIMIT" o.limit, rowsWords "OFFSET" o.skip]) := rfl
  rw [trailing_cons (append_ne_empty _ (by decide)), parts, trailing_append, trailing_append, spaced]
  simp only [whereWords, orderWords, readWords, String.append_assoc]

theorem sql_reading (columns : List String) (table : Value) (s : Schema) (o : Options) :
    (reading columns table s o).sql = opening o.distinct ++ ", ".intercalate columns ++ trailing
      ["FROM " ++ table.shown, whereText s o, orderText s o, rowsWords "LIMIT" o.limit, rowsWords "OFFSET" o.skip] := by
  rw [trailing_reading]
  simp only [reading, String.append_assoc]

theorem statement_findClauses (columns : List String) (limit : Writable o.limit) (skip : Writable o.skip) :
    Clause.statement d (findClauses (columns.map .text) table s o) = .ok (reading columns table s o) := by
  have select : Clause.render d (.select (columns.map .text) o.distinct) =
      .ok ⟨opening o.distinct ++ ", ".intercalate columns, []⟩ := by
    rw [Clause.render, Clause.nameList_texts]
    rfl
  have rest : Clause.renderAll d [.fromTable table, filterClause s o, orderClause s o, .limit (countValue o.limit),
      .offset (countValue o.skip)] = .ok [⟨"FROM " ++ table.shown, []⟩, ⟨whereText s o, whereValues s o⟩,
        ⟨orderText s o, []⟩, ⟨rowsWords "LIMIT" o.limit, []⟩, ⟨rowsWords "OFFSET" o.skip, []⟩] := by
    apply Clause.renderAll_cons rfl
    apply Clause.renderAll_cons render_filterClause
    apply Clause.renderAll_cons render_orderClause
    apply Clause.renderAll_cons (render_limit limit)
    exact Clause.renderAll_cons (render_offset skip) rfl
  apply Clause.statement_written select rest rfl (opening_append_isEmpty _ _)
  · exact (sql_reading columns table s o).symm
  · simp

/-- The columns to read must be texts. -/
theorem exists_texts_of_renderAll {columns : List Value} {ps : List Statement}
    (rendered : Clause.renderAll d (findClauses columns table s o) = .ok ps) :
    ∃ ts : List String, columns = ts.map .text := by
  unfold findClauses at rendered
  obtain ⟨p, select, -⟩ := bind_eq_ok rendered
  obtain ⟨t, listed, -⟩ := map_eq_ok select
  obtain ⟨ts, named, -⟩ := map_eq_ok listed
  exact ⟨ts, Clause.names_eq_ok.1 named⟩

/-- The numbers of rows must have few enough digits. -/
theorem writable_of_renderAll {columns : List Value} {ps : List Statement}
    (rendered : Clause.renderAll d (findClauses columns table s o) = .ok ps) :
    Writable o.limit ∧ Writable o.skip := by
  have split : findClauses columns table s o = [.select columns o.distinct, .fromTable table, filterClause s o,
    orderClause s o] ++ [.limit (countValue o.limit), .offset (countValue o.skip)] := rfl
  rw [split] at rendered
  obtain ⟨-, qs, -, rendered, -⟩ := Clause.renderAll_append.1 rendered
  obtain ⟨p, limited, rendered⟩ := bind_eq_ok rendered
  obtain ⟨ps, rest, -⟩ := bind_eq_ok rendered
  obtain ⟨q, skipped, -⟩ := bind_eq_ok rest
  obtain ⟨t, limit, -⟩ := map_eq_ok limited
  obtain ⟨u, skip, -⟩ := map_eq_ok skipped
  exact ⟨writable_of_rowCount limit, writable_of_rowCount skip⟩

/-- Rows are read by the statements of this form, and by no others. -/
theorem findWith_eq_ok : findWith d s o = .ok st ↔ ∃ columns token,
    projection s o.select = .ok (columns.map .text) ∧ d.tableName s.table = .ok token ∧
      Writable o.limit ∧ Writable o.skip ∧ st = reading columns token s o := by
  constructor
  · intro built
    -- what the pieces rendered to says which form they have; the text then follows from the other direction's lemma
    unfold findWith at built
    obtain ⟨vs, projected, built⟩ := bind_eq_ok built
    obtain ⟨token, named, built⟩ := bind_eq_ok built
    have built := Failure.ok_of_lift_fault built
    obtain ⟨ps, rendered, -⟩ := Clause.statement_eq_ok.1 built
    obtain ⟨columns, rfl⟩ := exists_texts_of_renderAll rendered
    obtain ⟨limit, skip⟩ := writable_of_renderAll rendered
    rw [statement_findClauses columns limit skip] at built
    exact ⟨columns, token, Failure.ok_of_lift_error projected, Failure.ok_of_lift_fault named, limit, skip,
      (Except.ok.inj built).symm⟩
  · rintro ⟨columns, token, projected, named, limit, skip, rfl⟩
    unfold findWith
    rw [projected, named]
    exact Failure.lift_fault_of_ok (statement_findClauses columns limit skip)

/-! ## Counting and changing rows -/

/-- The statement that counts the rows that match. -/
def counting (table : Value) (s : Schema) (o : Options) : Statement where
  sql := "SELECT COUNT(*) AS CNT FROM " ++ table.shown ++ whereWords s o
  params := whereValues s o

/-- The statement that removes the rows that match. -/
def removing (table : Value) (s : Schema) (o : Options) : Statement where
  sql := "DELETE FROM " ++ table.shown ++ whereWords s o ++ changeWords o
  params := whereValues s o

/-- The rows of a table after a change, with all columns. -/
def afterwards (columns : List String) (change : Statement) : Statement :=
  change.within ("SELECT " ++ ", ".intercalate columns ++ " FROM FINAL TABLE (") ")"

/-- The change that writes these values in the rows that match. -/
def rewriting (table : Value) (written : List (Value × Value)) (s : Schema) (o : Options) : Statement where
  sql := "UPDATE " ++ table.shown ++ " SET " ++ ", ".intercalate (written.map comparison) ++ whereWords s o ++
    changeWords o
  params := written.map Prod.snd ++ whereValues s o

/-- The change that adds a row with these values. -/
def adding (table : Value) (written : List (Value × Value)) : Statement where
  sql := "INSERT INTO " ++ table.shown ++ " (" ++ ", ".intercalate (written.map fun e => e.1.shown) ++ ") VALUES (" ++
    ", ".intercalate (written.map fun _ => Dialect.placeholder) ++ ")"
  params := written.map Prod.snd

/-- The ending that statements for changes share: which rows, and how many of them. -/
theorem renderAll_change (limit : Writable o.limit) :
    Clause.renderAll d [filterClause s o, .fetchFirst (countValue o.limit)] =
      .ok [⟨whereText s o, whereValues s o⟩, ⟨fetchWords o.limit, []⟩] := by
  apply Clause.renderAll_cons render_filterClause
  exact Clause.renderAll_cons (render_fetchFirst_writable limit) rfl

theorem trailing_change (s : Schema) (o : Options) :
    trailing [whereText s o, fetchWords o.limit] = whereWords s o ++ changeWords o :=
  trailing_append [whereText s o] [fetchWords o.limit]

theorem countWith_eq (all : o.select = none) (named : d.tableName s.table = .ok table) :
    countWith d s o = .ok (counting table s o) := by
  have opens : Clause.render d (.raw (.text ("SELECT COUNT(*) AS " ++ countColumn))) =
    .ok ⟨"SELECT COUNT(*) AS CNT", []⟩ := rfl
  have rest : Clause.renderAll d [.fromTable table, filterClause s o] =
      .ok [⟨"FROM " ++ table.shown, []⟩, ⟨whereText s o, whereValues s o⟩] := by
    apply Clause.renderAll_cons rfl
    exact Clause.renderAll_cons render_filterClause rfl
  have spaced : "SELECT COUNT(*) AS CNT FROM " = "SELECT COUNT(*) AS CNT" ++ (" " ++ "FROM ") := rfl
  have text : "SELECT COUNT(*) AS CNT" ++ trailing ["FROM " ++ table.shown, whereText s o] =
      "SELECT COUNT(*) AS CNT FROM " ++ table.shown ++ whereWords s o := by
    rw [trailing_cons (append_ne_empty _ (by decide)), spaced, whereWords]
    simp only [String.append_assoc]
  have written : Clause.statement d [.raw (.text ("SELECT COUNT(*) AS " ++ countColumn)), .fromTable table,
      filterClause s o] = .ok (counting table s o) := by
    apply Clause.statement_written opens rest rfl (by decide)
    · exact text
    · simp
  unfold countWith checkCountable
  rw [all, named]
  exact Failure.lift_fault_of_ok written

theorem destroyWith_eq (limit : Writable o.limit) (named : d.tableName s.table = .ok table) :
    destroyWith d s o = .ok (removing table s o) := by
  have opens : Clause.render d (.deleteFrom table) = .ok ⟨"DELETE FROM " ++ table.shown, []⟩ := rfl
  have written : Clause.statement d [.deleteFrom table, filterClause s o, .fetchFirst (countValue o.limit)] =
      .ok (removing table s o) := by
    apply Clause.statement_written opens (renderAll_change limit) rfl (append_ne_empty _ (by decide))
    · simp only [List.map_cons, List.map_nil, trailing_change, String.append_assoc]
    · simp
  unfold destroyWith
  rw [named]
  exact Failure.lift_fault_of_ok written

/-- The rows after a change are read by the statement around it. -/
theorem statement_afterwards {columns : List String} {cs : List Clause} {change : Statement}
    (written : Clause.statement d cs = .ok change) :
    Clause.statement d [.finalTable (columns.map .text) cs] = .ok (afterwards columns change) :=
  Clause.statement_finalTable.2 ⟨change, _, written, Clause.nameList_texts columns, rfl⟩

theorem updateWith_written {columns : List String} (texts : s.columns = columns.map .text)
    (some : assignable s values ≠ []) (limit : Writable o.limit) (named : d.tableName s.table = .ok table) :
    updateWith d s o values = .ok (afterwards columns (rewriting table (assignable s values) s o)) := by
  have opens : Clause.render d (.updateSet table (assignable s values)) =
      .ok ⟨"UPDATE " ++ table.shown ++ " SET " ++ ", ".intercalate ((assignable s values).map comparison),
        (assignable s values).map Prod.snd⟩ := by
    rw [Clause.render, join_equals, Statement.within, String.append_empty]
  have written : Clause.statement d [.updateSet table (assignable s values), filterClause s o,
      .fetchFirst (countValue o.limit)] = .ok (rewriting table (assignable s values) s o) := by
    apply Clause.statement_written opens (renderAll_change limit) rfl
    · simp only [String.append_assoc]
      exact append_ne_empty _ (by decide)
    · simp only [List.map_cons, List.map_nil, trailing_change, String.append_assoc]
    · simp
  have assigned : (assignable s values).isEmpty = false := List.isEmpty_eq_false_iff.2 some
  rw [updateWith_eq, assigned, if_neg (by decide), named, texts]
  exact Failure.lift_fault_of_ok (statement_afterwards written)

theorem create_eq (es : List (Value × Value)) : create d s (.map es) =
    if (known s ⟨es⟩).isEmpty then .error (.refused noValue) else
      (liftM (d.tableName s.table) : Except Failure Value) >>= fun table =>
        liftM (Clause.statement d [.finalTable s.columns [.insertInto table (known s ⟨es⟩)]]) := rfl

theorem create_written {columns : List String} {es : List (Value × Value)} (texts : s.columns = columns.map .text)
    (some : known s ⟨es⟩ ≠ []) (named : d.tableName s.table = .ok table) :
    create d s (.map es) = .ok (afterwards columns (adding table (known s ⟨es⟩))) := by
  have written : Clause.statement d [.insertInto table (known s ⟨es⟩)] = .ok (adding table (known s ⟨es⟩)) := by
    -- the list of columns is written from texts, so the keys are taken for texts first
    obtain ⟨pairs, kept⟩ := exists_texts_of_known texts (⟨es⟩ : Keyed Value)
    have columns : (known s ⟨es⟩).map Prod.fst = (pairs.map Prod.fst).map .text := by
      rw [kept, List.map_map, List.map_map]
      rfl
    have shown : (known s ⟨es⟩).map (fun e => e.1.shown) = pairs.map Prod.fst := by
      rw [kept, List.map_map]
      rfl
    have bound := Clause.flatMap_singleton Prod.snd (known s ⟨es⟩)
    have marks : ((known s ⟨es⟩).map fun e => Clause.bind e.2).map Statement.sql =
      (known s ⟨es⟩).map fun _ => Dialect.placeholder := by rw [List.map_map]; rfl
    rw [Clause.statement_singleton rfl, Clause.render, columns, Clause.nameList_texts]
    show Except.ok ((Statement.join ", " _).within _ ")") = _
    rw [Statement.join, bound, marks]
    unfold adding Statement.within
    rw [shown]
  have given : (known s ⟨es⟩).isEmpty = false := List.isEmpty_eq_false_iff.2 some
  rw [create_eq, given, if_neg (by decide), named, texts]
  exact Failure.lift_fault_of_ok (statement_afterwards written)

end Query

end TableGateway
