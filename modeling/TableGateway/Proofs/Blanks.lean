import TableGateway.Query.Request

/-!
# Texts without values

A clause with its values blanked out renders to the same text, or fails in the same way: `render` never reads a value
that it binds.

- **`text_blank`**: for one clause, at any depth;
- **`sql_statement_blank`**, **`sql_statement_congr`**: for a statement, and for two that differ in their values alone;
- **`params_statement`**: the values of a statement are those that its clauses carry.
-/

namespace TableGateway.Clause

mutual
/-- The clause with nothing for every value that it binds. -/
def blank : Clause → Clause
  | .eq column _ => .eq column .null
  | .filter conditions => .filter (blankAll conditions)
  | .insertInto table values => .insertInto table (values.map fun e => (e.1, .null))
  | .updateSet table assignments => .updateSet table (assignments.map fun e => (e.1, .null))
  | .finalTable columns statement => .finalTable columns (blankAll statement)
  | c => c

def blankAll : List Clause → List Clause
  | [] => []
  | c :: cs => blank c :: blankAll cs
end

variable {d : Dialect}

/-- What a clause renders to, without the values. -/
def text (d : Dialect) (c : Clause) : Except Fault String := (render d c).map Statement.sql

def textAll (d : Dialect) (cs : List Clause) : Except Fault (List String) := (renderAll d cs).map (·.map Statement.sql)

theorem textAll_cons (c : Clause) (cs : List Clause) :
    textAll d (c :: cs) = (text d c).bind fun t => (textAll d cs).map (t :: ·) := by
  unfold textAll text
  rw [renderAll]
  cases render d c with
  | error f => rfl
  | ok s => cases renderAll d cs <;> rfl

theorem blankAll_eq_map (cs : List Clause) : blankAll cs = cs.map blank := by
  induction cs with
  | nil => rfl
  | cons c cs ih => rw [blankAll, ih, List.map_cons]

theorem isNoText_blank (amongWords : Bool) (c : Clause) : c.blank.isNoText amongWords = c.isNoText amongWords := by
  cases c <;> rfl

theorem any_isNoText_blank (amongWords : Bool) (cs : List Clause) :
    (blankAll cs).any (isNoText amongWords) = cs.any (isNoText amongWords) := by
  rw [blankAll_eq_map, List.any_map]
  exact congrArg cs.any (funext fun c => isNoText_blank amongWords c)

theorem text_filter (cs : List Clause) :
    text d (.filter cs) = if cs.isEmpty then .ok "" else (textAll d cs).bind fun ts =>
      if cs.any (isNoText false) then .error .wrongKind else .ok ("WHERE " ++ " AND ".intercalate ts ++ "") := by
  unfold text textAll
  rw [render]
  split
  · rfl
  · cases renderAll d cs with
    | error f => rfl
    | ok ps =>
      show ((joinable false cs ps).bind fun qs =>
          .ok ((Statement.join " AND " qs).within "WHERE " "")).map Statement.sql =
        if cs.any (isNoText false) then .error .wrongKind else _
      unfold joinable
      split <;> rfl

theorem text_finalTable (columns : List Value) (cs : List Clause) :
    text d (.finalTable columns cs) = (textAll d cs).bind fun ts =>
      if cs.any (isNoText true) then .error .wrongKind else (nameList columns).map fun t =>
        "SELECT " ++ t ++ " FROM FINAL TABLE (" ++ " ".intercalate (ts.filter (!·.isEmpty)) ++ ")" := by
  unfold text textAll
  rw [render]
  cases renderAll d cs with
  | error f => rfl
  | ok ps =>
    show ((joinable true cs ps).bind fun qs => (nameList columns).bind fun t =>
      .ok ((Statement.inWords qs).within ("SELECT " ++ t ++ " FROM FINAL TABLE (") ")")).map Statement.sql =
        if cs.any (isNoText true) then .error .wrongKind else _
    unfold joinable
    split
    · rfl
    · cases nameList columns <;> rfl

theorem text_insertInto (table : Value) (values : List (Value × Value)) :
    text d (.insertInto table values) = (nameList (values.map Prod.fst)).map fun t =>
      "INSERT INTO " ++ table.shown ++ " (" ++ t ++ ") VALUES (" ++
        ", ".intercalate (values.map fun _ => Dialect.placeholder) ++ ")" := by
  unfold text
  rw [render]
  have pieces : (values.map fun e => bind e.2).map Statement.sql = values.map fun _ => Dialect.placeholder := by
    rw [List.map_map]
    rfl
  cases nameList (values.map Prod.fst) with
  | error f => rfl
  | ok t =>
    show Except.ok (_ ++ ", ".intercalate ((values.map fun e => bind e.2).map Statement.sql) ++ ")") = _
    rw [pieces]
    rfl

theorem text_updateSet (table : Value) (assignments : List (Value × Value)) :
    text d (.updateSet table assignments) = .ok ("UPDATE " ++ table.shown ++ " SET " ++
      ", ".intercalate (assignments.map fun e => e.1.shown ++ " = " ++ Dialect.placeholder ++ "") ++ "") := by
  unfold text
  rw [render]
  show Except.ok (_ ++ ", ".intercalate ((assignments.map fun e => equals e.1 e.2).map Statement.sql) ++ "") = _
  rw [List.map_map]
  rfl

mutual
/-- The text of a clause does not depend on the values that it binds. -/
theorem text_blank : ∀ c : Clause, text d c.blank = text d c
  | .raw _ | .select .. | .fromTable _ | .deleteFrom _ | .orderBy _ | .limit _ | .offset _ | .fetchFirst _ => rfl
  | .eq .. => rfl
  | .filter cs => by
    have empty : (blankAll cs).isEmpty = cs.isEmpty := by cases cs <;> rfl
    rw [blank, text_filter, text_filter, textAll_blank cs, any_isNoText_blank, empty]
  | .insertInto table values => by
    rw [blank, text_insertInto, text_insertInto, List.map_map, List.map_map]
    rfl
  | .updateSet table assignments => by
    rw [blank, text_updateSet, text_updateSet, List.map_map]
    rfl
  | .finalTable columns cs => by
    rw [blank, text_finalTable, text_finalTable, textAll_blank cs, any_isNoText_blank]

theorem textAll_blank : ∀ cs : List Clause, textAll d (blankAll cs) = textAll d cs
  | [] => rfl
  | c :: cs => by rw [blankAll, textAll_cons, textAll_cons, text_blank c, textAll_blank cs]
end

/-! ## Statements -/

/-- The text of a statement does not depend on the values that its clauses bind. -/
theorem sql_statement_blank (cs : List Clause) :
    (statement d (blankAll cs)).map Statement.sql = (statement d cs).map Statement.sql := by
  have texts (cs : List Clause) : (statement d cs).map Statement.sql = (textAll d cs).bind fun ts =>
      if cs.any (isNoText true) then .error .wrongKind else .ok (" ".intercalate (ts.filter (!·.isEmpty))) := by
    unfold statement textAll
    cases renderAll d cs with
    | error f => rfl
    | ok ps =>
      show ((joinable true cs ps).bind fun qs => .ok (Statement.inWords qs)).map Statement.sql =
        if cs.any (isNoText true) then .error .wrongKind else _
      unfold joinable
      split <;> rfl
  rw [texts, texts, textAll_blank, any_isNoText_blank]

/-- Clauses that differ in the values that they bind alone make the same text, or fail in the same way. -/
theorem sql_statement_congr {cs cs' : List Clause} (same : blankAll cs = blankAll cs') :
    (statement d cs).map Statement.sql = (statement d cs').map Statement.sql := by
  rw [← sql_statement_blank cs, same, sql_statement_blank]

/-- The values of a statement are those that its clauses carry. -/
theorem params_statement {cs : List Clause} {st : Statement} (h : statement d cs = .ok st) :
    st.params = boundAll cs := by
  unfold statement at h
  obtain ⟨ps, rendered, h⟩ := bind_eq_ok h
  obtain ⟨qs, joined, h⟩ := bind_eq_ok h
  cases h
  cases joinable_eq_ok joined
  exact params_renderAll rendered

end TableGateway.Clause
