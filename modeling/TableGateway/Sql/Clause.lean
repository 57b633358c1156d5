import TableGateway.Sql.Dialect
import TableGateway.Sql.Statement
import TableGateway.Value.Whole

/-!
# Clauses

A statement is written from a tree of clauses. Each clause renders to a piece of text together with the values that
its placeholders stand for; a value never becomes part of the text. `bound` lists the values of a tree on its own
account, without rendering it.

- **`params_render`**: what rendering binds is what `bound` lists, in order, at any depth.
-/

namespace TableGateway

inductive Clause where
  /-- A text as it stands; what is no text is left out where nothing is lost by that. -/
  | raw (text : Value)
  | select (columns : List Value) (distinct : Bool)
  | fromTable (table : Value)
  | deleteFrom (table : Value)
  | eq (column value : Value)
  | filter (conditions : List Clause)
  | orderBy (items : List (Value × Value))
  | limit (rows : Value)
  | offset (rows : Value)
  | fetchFirst (rows : Value)
  | insertInto (table : Value) (values : List (Value × Value))
  | updateSet (table : Value) (assignments : List (Value × Value))
  /-- The rows that a changing statement leaves. -/
  | finalTable (columns : List Value) (statement : List Clause)

namespace Clause

/-! ## Parts of the text -/

/-- The texts of a list of names; a name must be a text. -/
def names : List Value → Except Fault (List String)
  | [] => .ok []
  | .text s :: vs => (names vs).map (s :: ·)
  | _ :: _ => .error .wrongKind

/-- Names with commas between them. -/
def nameList (vs : List Value) : Except Fault String :=
  (names vs).map (", ".intercalate ·)

/-- A placeholder and its value. -/
def bind (v : Value) : Statement := ⟨Dialect.placeholder, [v]⟩

/-- A column set equal to a value. -/
def equals (column value : Value) : Statement := (bind value).within (column.shown ++ " = ") ""

/-- A word and a number of rows; nothing when no number is given. -/
def rowCount (word : String) (rows : Value) : Except Fault String :=
  if rows.isTruthy then do
    let n ← rows.toWhole
    return word ++ " " ++ (← Integer.text n)
  else return ""

/-- A text without the blank before it. -/
def trimmed (s : String) : String := Text.strip s

/-- A text as it stands. -/
def rawText : Value → String
  | .text s => s
  | _ => ""

/-- Is it no text? Among words, where what is empty is left out, that is no matter unless it counts as given. -/
def isNoText (amongWords : Bool) : Clause → Bool
  | .raw v => !v.isText && (v.isTruthy || !amongWords)
  | _ => false

/-- The pieces, if the clauses that they come from are texts. -/
def joinable (amongWords : Bool) (cs : List Clause) (pieces : List Statement) : Except Fault (List Statement) :=
  if cs.any (isNoText amongWords) then .error .wrongKind else .ok pieces

/-! ## Rendering -/

mutual
/-- The text of a clause and the values for it. -/
def render (d : Dialect) : Clause → Except Fault Statement
  | .raw text => .ok ⟨rawText text, []⟩
  | .select columns distinct =>
    (nameList columns).map fun t => ⟨(if distinct then "SELECT DISTINCT " else "SELECT ") ++ t, []⟩
  | .fromTable table => .ok ⟨"FROM " ++ table.shown, []⟩
  | .deleteFrom table => .ok ⟨"DELETE FROM " ++ table.shown, []⟩
  | .eq column value => .ok (equals column value)
  | .filter conditions =>
    if conditions.isEmpty then .ok ⟨"", []⟩
    else do
      let pieces ← joinable false conditions (← renderAll d conditions)
      return (Statement.join " AND " pieces).within "WHERE " ""
  | .orderBy items =>
    if items.isEmpty then .ok ⟨"", []⟩
    else .ok ⟨"ORDER BY " ++ ", ".intercalate (items.map fun i => i.1.shown ++ " " ++ i.2.shown), []⟩
  | .limit rows => (rowCount "LIMIT" rows).map fun t => ⟨t, []⟩
  | .offset rows => (rowCount "OFFSET" rows).map fun t => ⟨t, []⟩
  | .fetchFirst rows => (Dialect.fetchFirst rows).map fun t => ⟨trimmed t, []⟩
  | .insertInto table values =>
    (nameList (values.map Prod.fst)).map fun t =>
      (Statement.join ", " (values.map fun e => bind e.2)).within
        ("INSERT INTO " ++ table.shown ++ " (" ++ t ++ ") VALUES (") ")"
  | .updateSet table assignments =>
    .ok ((Statement.join ", " (assignments.map fun e => equals e.1 e.2)).within
      ("UPDATE " ++ table.shown ++ " SET ") "")
  | .finalTable columns statement => do
    let inner ← joinable true statement (← renderAll d statement)
    let t ← nameList columns
    return (Statement.inWords inner).within ("SELECT " ++ t ++ " FROM FINAL TABLE (") ")"

def renderAll (d : Dialect) : List Clause → Except Fault (List Statement)
  | [] => .ok []
  | c :: cs => do
    let s ← render d c
    let ss ← renderAll d cs
    return s :: ss
end

/-- A statement from its clauses, in order. -/
def statement (d : Dialect) (clauses : List Clause) : Except Fault Statement := do
  return .inWords (← joinable true clauses (← renderAll d clauses))

/-! ## The values of a tree -/

mutual
/-- The values that a clause carries, from left to right. -/
def bound : Clause → List Value
  | .eq _ value => [value]
  | .filter conditions => boundAll conditions
  | .insertInto _ values => values.map Prod.snd
  | .updateSet _ assignments => assignments.map Prod.snd
  | .finalTable _ statement => boundAll statement
  | _ => []

def boundAll : List Clause → List Value
  | [] => []
  | c :: cs => bound c ++ boundAll cs
end

theorem joinable_eq_ok {amongWords : Bool} {cs : List Clause} {ps qs : List Statement}
    (h : joinable amongWords cs ps = .ok qs) : qs = ps := by
  unfold joinable at h
  split at h
  · cases h
  · cases h; rfl

theorem flatMap_singleton {α : Type} (f : α → Value) (xs : List α) :
    (xs.map fun x => bind (f x)).flatMap Statement.params = xs.map f := by
  induction xs with
  | nil => rfl
  | cons x xs ih => simp_all [bind]

theorem flatMap_equals (xs : List (Value × Value)) :
    (xs.map fun x => equals x.1 x.2).flatMap Statement.params = xs.map Prod.snd := by
  induction xs with
  | nil => rfl
  | cons x xs ih => simp_all [equals, bind]

mutual
/-- Rendering binds the values of the clause, in order. -/
theorem params_render {d : Dialect} : ∀ {c : Clause} {s : Statement}, render d c = .ok s → s.params = bound c
  | .raw _, _, h => by cases h; rfl
  | .select .., _, h => by obtain ⟨_, _, rfl⟩ := map_eq_ok h; rfl
  | .fromTable _, _, h => by cases h; rfl
  | .deleteFrom _, _, h => by cases h; rfl
  | .eq .., _, h => by cases h; rfl
  | .filter cs, s, h => by
    rw [render] at h
    split at h
    · next e =>
      cases h
      rw [List.isEmpty_iff.1 e]
      simp [bound, boundAll]
    · obtain ⟨ps, hp, h⟩ := bind_eq_ok h
      obtain ⟨qs, hj, h⟩ := bind_eq_ok h
      cases h
      cases joinable_eq_ok hj
      simpa [bound] using params_renderAll hp
  | .orderBy items, s, h => by
    rw [render] at h
    split at h <;> (cases h; rfl)
  | .limit _, _, h => by obtain ⟨_, _, rfl⟩ := map_eq_ok h; rfl
  | .offset _, _, h => by obtain ⟨_, _, rfl⟩ := map_eq_ok h; rfl
  | .fetchFirst _, _, h => by obtain ⟨_, _, rfl⟩ := map_eq_ok h; rfl
  | .insertInto _ vs, _, h => by
    obtain ⟨_, _, rfl⟩ := map_eq_ok h
    simp [bound, flatMap_singleton]
  | .updateSet _ as, _, h => by
    cases h
    simp [bound, flatMap_equals]
  | .finalTable cols cs, s, h => by
    rw [render] at h
    obtain ⟨ps, hp, h⟩ := bind_eq_ok h
    obtain ⟨qs, hj, h⟩ := bind_eq_ok h
    obtain ⟨t, _, h⟩ := bind_eq_ok h
    cases h
    cases joinable_eq_ok hj
    simpa [bound] using params_renderAll hp

theorem params_renderAll {d : Dialect} : ∀ {cs : List Clause} {ss : List Statement}, renderAll d cs = .ok ss →
    ss.flatMap Statement.params = boundAll cs
  | [], _, h => by cases h; rfl
  | c :: cs, ss, h => by
    rw [renderAll] at h
    cases hc : render d c with
    | error e => rw [hc] at h; cases h
    | ok s =>
      rw [hc] at h
      cases hs : renderAll d cs with
      | error e => rw [hs] at h; cases h
      | ok rest =>
        rw [hs] at h
        cases h
        simp [boundAll, params_render hc, params_renderAll hs]
end

end Clause

end TableGateway
