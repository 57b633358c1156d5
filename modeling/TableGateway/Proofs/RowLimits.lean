import TableGateway.Proofs.Texts

/-!
# Limits on rows

What a limit does to the text of a statement. The clauses for it stand last, among the words of a statement that reads
rows and, in a change, before the parenthesis that closes it; so a limited statement is the one without limit with
further words at that place. A limit of zero is accepted by the check of options and adds no words: such a statement is
as unlimited as one without limit.

- **`statement_append`**: clauses at the end of a statement add the words that they write;
- **`findWith_limited`**, **`updateWith_limited`**, **`destroyWith_limited`**: what each builder writes;
- **`limited_iff_pos`**: a limit is carried exactly when it is not zero, and a limit of zero changes nothing.
-/

namespace TableGateway

/-! ## Words at the end -/

/-- The pieces that are not empty, with a space before each. -/
def trailing : List String → String
  | [] => ""
  | t :: ts => (if t.isEmpty then "" else " " ++ t) ++ trailing ts

theorem trailing_cons {t : String} (wordy : t.isEmpty = false) (ts : List String) :
    trailing (t :: ts) = " " ++ t ++ trailing ts := by
  rw [trailing, wordy, if_neg (by decide)]

theorem trailing_eq (ts : List String) : trailing ts = "" ∨ ∃ rest, trailing ts = " " ++ rest := by
  induction ts with
  | nil => exact Or.inl rfl
  | cons t ts ih =>
    cases empty : t.isEmpty with
    | true =>
      rw [trailing, empty, if_pos rfl, String.empty_append]
      exact ih
    | false => exact Or.inr ⟨t ++ trailing ts, by rw [trailing_cons empty, String.append_assoc]⟩

theorem trailing_append (ts us : List String) : trailing (ts ++ us) = trailing ts ++ trailing us := by
  induction ts with
  | nil => simp [trailing]
  | cons t ts ih => rw [List.cons_append, trailing, trailing, ih, String.append_assoc]

/-- Of some words all but the first stand after a space. -/
theorem intercalate_eq_trailing (t : String) (ts : List String) :
    " ".intercalate (t :: ts.filter (!·.isEmpty)) = t ++ trailing ts := by
  induction ts generalizing t with
  | nil => simp [trailing, String.intercalate_singleton]
  | cons u us ih =>
    cases empty : u.isEmpty with
    | true =>
      rw [List.filter_cons_of_neg (by rw [empty]; decide), ih, trailing, empty, if_pos rfl, String.empty_append]
    | false =>
      rw [List.filter_cons_of_pos (by rw [empty]; rfl), String.intercalate_cons_cons, ih, trailing, empty,
        if_neg (by decide)]
      simp only [String.append_assoc]

namespace Statement

theorem sql_inWords_cons {p : Statement} (ps : List Statement) (wordy : p.sql.isEmpty = false) :
    (inWords (p :: ps)).sql = p.sql ++ trailing (ps.map sql) := by
  unfold inWords
  rw [List.map_cons, List.filter_cons_of_pos (by rw [wordy]; rfl), intercalate_eq_trailing]

theorem inWords_append {p : Statement} (ps qs : List Statement) (wordy : p.sql.isEmpty = false) :
    inWords (p :: ps ++ qs) =
      ⟨(inWords (p :: ps)).sql ++ trailing (qs.map sql), (inWords (p :: ps)).params ++ qs.flatMap params⟩ := by
  have texts : (inWords (p :: ps ++ qs)).sql = (inWords (p :: ps)).sql ++ trailing (qs.map sql) := by
    rw [List.cons_append, sql_inWords_cons _ wordy, sql_inWords_cons _ wordy, List.map_append, trailing_append,
      String.append_assoc]
  have values : (inWords (p :: ps ++ qs)).params = (inWords (p :: ps)).params ++ qs.flatMap params :=
    List.flatMap_append
  rw [← texts, ← values]

theorem inWords_singleton (p : Statement) : inWords [p] = p := by
  have values : (inWords [p]).params = p.params := List.flatMap_singleton ..
  have text : (inWords [p]).sql = p.sql := by
    show " ".intercalate ([p.sql].filter (!·.isEmpty)) = p.sql
    cases empty : p.sql.isEmpty with
    | true =>
      rw [List.filter_cons_of_neg (by rw [empty]; decide), String.isEmpty_iff.1 empty]
      rfl
    | false =>
      rw [List.filter_cons_of_pos (by rw [empty]; rfl)]
      exact String.intercalate_singleton
  calc inWords [p] = ⟨(inWords [p]).sql, (inWords [p]).params⟩ := rfl
    _ = ⟨p.sql, p.params⟩ := by rw [text, values]

theorem inWords_cons {p : Statement} (ps : List Statement) (wordy : p.sql.isEmpty = false) :
    inWords (p :: ps) =
      ⟨p.sql ++ trailing (ps.map sql), p.params ++ ps.flatMap params⟩ := by
  have joined := inWords_append [] ps wordy
  rwa [inWords_singleton] at joined

end Statement

namespace Clause

variable {d : Dialect}

theorem renderAll_append {cs ds : List Clause} {ps : List Statement} :
    renderAll d (cs ++ ds) = .ok ps ↔ ∃ qs rs, renderAll d cs = .ok qs ∧ renderAll d ds = .ok rs ∧ ps = qs ++ rs := by
  induction cs generalizing ps with
  | nil =>
    constructor
    · intro h
      exact ⟨[], ps, rfl, h, rfl⟩
    · rintro ⟨qs, rs, front, back, rfl⟩
      cases front
      exact back
  | cons c cs ih =>
    rw [List.cons_append, renderAll, renderAll]
    constructor
    · intro h
      obtain ⟨p, first, h⟩ := bind_eq_ok h
      obtain ⟨rest, others, h⟩ := bind_eq_ok h
      cases h
      obtain ⟨qs, rs, front, back, rfl⟩ := ih.1 others
      exact ⟨p :: qs, rs, by rw [first, front]; rfl, back, rfl⟩
    · rintro ⟨qs, rs, front, back, rfl⟩
      obtain ⟨p, first, front⟩ := bind_eq_ok front
      obtain ⟨qs, others, front⟩ := bind_eq_ok front
      cases front
      rw [first, ih.2 ⟨qs, rs, others, back, rfl⟩]
      rfl

theorem statement_eq_ok {cs : List Clause} {st : Statement} :
    statement d cs = .ok st ↔ ∃ ps, renderAll d cs = .ok ps ∧ cs.any (isNoText true) = false ∧ st = .inWords ps := by
  unfold statement joinable
  constructor
  · intro h
    obtain ⟨ps, rendered, h⟩ := bind_eq_ok h
    obtain ⟨qs, joined, h⟩ := bind_eq_ok h
    cases h
    split at joined
    · cases joined
    · next texts =>
      cases joined
      exact ⟨_, rendered, Bool.eq_false_iff.2 texts, rfl⟩
  · rintro ⟨ps, rendered, texts, rfl⟩
    rw [rendered, texts]
    rfl

theorem statement_cons (c : Clause) (cs : List Clause) :
    statement d (c :: cs) = render d c >>= fun p => renderAll d cs >>= fun ps =>
      if (c :: cs).any (isNoText true) then .error .wrongKind else .ok (.inWords (p :: ps)) := by
  unfold statement
  rw [renderAll]
  cases render d c with
  | error f => rfl
  | ok p =>
    cases renderAll d cs with
    | error f => rfl
    | ok ps =>
      show (joinable true (c :: cs) (p :: ps) >>= fun qs => .ok (Statement.inWords qs)) = if _ then _ else _
      unfold joinable
      split <;> rfl

/-- Clauses at the end of a statement add the words that they write, behind an opening clause that writes any. -/
theorem statement_append {c : Clause} {cs ds : List Clause} {st : Statement}
    (opens : ∀ p, render d c = .ok p → p.sql.isEmpty = false) (texts : ds.any (isNoText true) = false) :
    statement d (c :: cs ++ ds) = .ok st ↔ ∃ base rs, statement d (c :: cs) = .ok base ∧ renderAll d ds = .ok rs ∧
      st = ⟨base.sql ++ trailing (rs.map Statement.sql), base.params ++ rs.flatMap Statement.params⟩ := by
  have joined (qs rs : List Statement) (rendered : renderAll d (c :: cs) = .ok qs) :
      Statement.inWords (qs ++ rs) = ⟨(Statement.inWords qs).sql ++ trailing (rs.map Statement.sql),
        (Statement.inWords qs).params ++ rs.flatMap Statement.params⟩ := by
    rw [renderAll] at rendered
    obtain ⟨p, first, rendered⟩ := bind_eq_ok rendered
    obtain ⟨ps, _, rendered⟩ := bind_eq_ok rendered
    cases rendered
    exact Statement.inWords_append ps rs (opens p first)
  constructor
  · intro built
    obtain ⟨ps, rendered, clean, rfl⟩ := statement_eq_ok.1 built
    obtain ⟨qs, rs, front, back, rfl⟩ := renderAll_append.1 rendered
    rw [List.any_append, Bool.or_eq_false_iff] at clean
    exact ⟨.inWords qs, rs, statement_eq_ok.2 ⟨qs, front, clean.1, rfl⟩, back, joined qs rs front⟩
  · rintro ⟨base, rs, built, back, rfl⟩
    obtain ⟨qs, front, clean, rfl⟩ := statement_eq_ok.1 built
    refine statement_eq_ok.2 ⟨qs ++ rs, renderAll_append.2 ⟨qs, rs, front, back, rfl⟩, ?_, (joined qs rs front).symm⟩
    rw [List.any_append, clean, texts]
    rfl

/-- One clause alone is a statement, when it writes a text. -/
theorem statement_singleton {c : Clause} (text : isNoText true c = false) : statement d [c] = render d c := by
  have texts : [c].any (isNoText true) = false := by rw [List.any_cons, text]; rfl
  unfold statement
  rw [renderAll]
  cases render d c with
  | error f => rfl
  | ok p =>
    show (joinable true [c] [p] >>= fun qs => .ok (Statement.inWords qs)) = _
    rw [joinable, texts]
    exact congrArg Except.ok (Statement.inWords_singleton p)

theorem render_finalTable {columns : List Value} {cs : List Clause} :
    render d (.finalTable columns cs) = statement d cs >>= fun inner => nameList columns >>= fun t =>
      .ok (inner.within ("SELECT " ++ t ++ " FROM FINAL TABLE (") ")") := by
  rw [render]
  unfold statement
  cases renderAll d cs with
  | error f => rfl
  | ok ps =>
    show (joinable true cs ps >>= fun qs => nameList columns >>= fun t => _) =
      (joinable true cs ps >>= fun qs => .ok (Statement.inWords qs)) >>= _
    cases joinable true cs ps <;> rfl

/-- The rows that a changing statement leaves: the statement between parentheses. -/
theorem statement_finalTable {columns : List Value} {cs : List Clause} {st : Statement} :
    statement d [.finalTable columns cs] = .ok st ↔ ∃ inner t, statement d cs = .ok inner ∧
      nameList columns = .ok t ∧ st = inner.within ("SELECT " ++ t ++ " FROM FINAL TABLE (") ")" := by
  rw [statement_singleton rfl, render_finalTable]
  constructor
  · intro built
    obtain ⟨inner, changed, built⟩ := bind_eq_ok built
    obtain ⟨t, named, built⟩ := bind_eq_ok built
    cases built
    exact ⟨inner, t, changed, named, rfl⟩
  · rintro ⟨inner, t, changed, named, rfl⟩
    rw [changed, named]
    rfl

end Clause

/-! ## Numbers of rows -/

namespace Options

/-- The options without a limit, and so with nothing to skip. -/
def unlimited (o : Options) : Options := { o with limit := none, skip := none }

/-- A word with a number of rows; nothing when there is no number, or zero. -/
def rowsWords (word : String) (n : Option Nat) : String :=
  if isPositive n then word ++ " " ++ toString (n.getD 0) else ""

/-- How a change is limited to so many rows. -/
def fetchWords (n : Option Nat) : String :=
  if isPositive n then "FETCH FIRST " ++ toString (n.getD 0) ++ " ROWS ONLY" else ""

theorem isPositive_some {n : Nat} : isPositive (some n) = true ↔ 0 < n := by
  show (n != 0) = true ↔ 0 < n
  rw [bne_iff_ne]
  omega

theorem integer_text {n : Nat} {t : String} (h : Integer.text n = .ok t) : t = toString n := by
  unfold Integer.text at h
  split at h
  · cases h
    rfl
  · cases h

theorem rowCount_countValue {word t : String} {n : Option Nat} (h : Clause.rowCount word (countValue n) = .ok t) :
    t = rowsWords word n := by
  cases n with
  | none => cases h; rfl
  | some n =>
    have counts : (countValue (some n)).isTruthy = isPositive (some n) := by
      show ((n : Int) != 0) = (n != 0)
      rw [Bool.eq_iff_iff, bne_iff_ne, bne_iff_ne]
      omega
    unfold Clause.rowCount at h
    rw [counts] at h
    unfold rowsWords
    split at h
    · next pos =>
      obtain ⟨m, whole, h⟩ := bind_eq_ok h
      obtain rfl : (n : Int) = m := Except.ok.inj whole
      obtain ⟨u, written, h⟩ := bind_eq_ok h
      obtain rfl : word ++ " " ++ u = t := Except.ok.inj h
      rw [integer_text written, if_pos pos]
      rfl
    · next zero =>
      cases h
      rw [if_neg zero]

/-- The words for a change stand without the space that the dialect writes before them. -/
theorem strip_fetch (n : Nat) :
    Text.strip (" FETCH FIRST " ++ toString n ++ " ROWS ONLY") = "FETCH FIRST " ++ toString n ++ " ROWS ONLY" := by
  have spaced : (" FETCH FIRST " ++ toString n ++ " ROWS ONLY").toList =
      ' ' :: ("FETCH FIRST " ++ toString n ++ " ROWS ONLY").toList := by
    simp only [String.toList_append]
    rfl
  have bare : Text.trim ("FETCH FIRST " ++ toString n ++ " ROWS ONLY").toList =
      ("FETCH FIRST " ++ toString n ++ " ROWS ONLY").toList := by
    apply Text.trim_of_ends
    · intro c first
      simp only [String.toList_append] at first
      cases first
      decide
    · intro c last
      rw [String.toList_append, List.getLast?_append] at last
      cases last
      decide
  have blank : Text.trim (' ' :: ("FETCH FIRST " ++ toString n ++ " ROWS ONLY").toList) =
      Text.trim ("FETCH FIRST " ++ toString n ++ " ROWS ONLY").toList := by
    unfold Text.trim Text.trimBy
    rw [List.dropWhile_cons_of_pos (by decide)]
  rw [Text.strip, spaced, blank, bare, String.ofList_toList]

theorem render_fetchFirst {d : Dialect} {n : Option Nat} {p : Statement}
    (h : Clause.render d (.fetchFirst (countValue n)) = .ok p) : p = ⟨fetchWords n, []⟩ := by
  obtain ⟨t, written, rfl⟩ := map_eq_ok h
  cases n with
  | none => cases written; rfl
  | some n =>
    unfold fetchWords
    by_cases pos : 0 < n
    · have counts : (0 : Int) < (n : Int) := by omega
      have written : (if (0 : Int) < (n : Int) then
          (Integer.text n).map fun t => " FETCH FIRST " ++ t ++ " ROWS ONLY" else .ok "") = .ok t := written
      rw [if_pos counts] at written
      obtain ⟨u, numeral, rfl⟩ := map_eq_ok written
      rw [integer_text numeral, Clause.trimmed, strip_fetch, if_pos (isPositive_some.2 pos)]
      rfl
    · obtain rfl : n = 0 := by omega
      have none : t = "" := Except.ok.inj (written.symm.trans Dialect.fetchFirst_zero)
      rw [none]
      rfl

end Options

/-! ## The builders -/

namespace Query

open Options

variable {d : Dialect} {s : Schema} {o : Options} {values : Keyed Value} {st : Statement}

theorem append_ne_empty {word : String} (rest : String) (h : word ≠ "") : (word ++ rest).isEmpty = false := by
  rw [Bool.eq_false_iff]
  intro empty
  exact h (String.append_eq_empty_iff.1 (String.isEmpty_iff.1 empty)).1

/-- What a limit and a number of rows to skip add when rows are read. -/
def readWords (o : Options) : String := trailing [rowsWords "LIMIT" o.limit, rowsWords "OFFSET" o.skip]

/-- What a limit adds to a change. -/
def changeWords (o : Options) : String := trailing [fetchWords o.limit]

theorem renderAll_limits {rs : List Statement}
    (h : Clause.renderAll d [.limit (countValue o.limit), .offset (countValue o.skip)] = .ok rs) :
    rs = [⟨rowsWords "LIMIT" o.limit, []⟩, ⟨rowsWords "OFFSET" o.skip, []⟩] := by
  obtain ⟨p, limited, h⟩ := bind_eq_ok h
  obtain ⟨ps, rest, h⟩ := bind_eq_ok h
  obtain ⟨q, skipped, rest⟩ := bind_eq_ok rest
  obtain ⟨t, limit, rfl⟩ := map_eq_ok limited
  obtain ⟨u, skip, rfl⟩ := map_eq_ok skipped
  cases rest
  cases h
  rw [rowCount_countValue limit, rowCount_countValue skip]

theorem renderAll_fetch {rs : List Statement}
    (h : Clause.renderAll d [.fetchFirst (countValue o.limit)] = .ok rs) : rs = [⟨fetchWords o.limit, []⟩] := by
  obtain ⟨p, limited, h⟩ := bind_eq_ok h
  obtain ⟨ps, rest, h⟩ := bind_eq_ok h
  cases rest
  cases h
  rw [render_fetchFirst limited]

/-- A statement that reads rows is the one without limit with the words for the limit at its end. -/
theorem findWith_limited (built : findWith d s o = .ok st) :
    ∃ base, findWith d s o.unlimited = .ok base ∧ st = ⟨base.sql ++ readWords o, base.params⟩ := by
  unfold findWith at built
  obtain ⟨columns, projected, built⟩ := bind_eq_ok built
  obtain ⟨table, named, built⟩ := bind_eq_ok built
  let front := [.fromTable table, filterClause s o, orderClause s o]
  have opens (p : Statement) (h : Clause.render d (.select columns o.distinct) = .ok p) : p.sql.isEmpty = false := by
    obtain ⟨t, _, rfl⟩ := map_eq_ok h
    apply append_ne_empty
    split <;> decide
  have whole : Clause.statement d (.select columns o.distinct :: front ++
      [.limit (countValue o.limit), .offset (countValue o.skip)]) = .ok st := Failure.ok_of_lift_fault built
  obtain ⟨base, rs, head, limits, rfl⟩ := (Clause.statement_append opens rfl).1 whole
  have unlimited : Clause.statement d (.select columns o.distinct :: front ++ [.limit .null, .offset .null]) =
      .ok base := by
    refine (Clause.statement_append opens rfl).2 ⟨base, [⟨"", []⟩, ⟨"", []⟩], head, rfl, ?_⟩
    simp [trailing]
  refine ⟨base, ?_, ?_⟩
  · unfold findWith
    rw [show projection s o.unlimited.select = .ok columns from Failure.ok_of_lift_error projected,
      Failure.ok_of_lift_fault named]
    exact Failure.lift_fault_of_ok unlimited
  · rw [renderAll_limits limits]
    simp [readWords]

theorem destroyWith_limited (built : destroyWith d s o = .ok st) :
    ∃ base, destroyWith d s o.unlimited = .ok base ∧ st = ⟨base.sql ++ changeWords o, base.params⟩ := by
  unfold destroyWith at built
  obtain ⟨table, named, built⟩ := bind_eq_ok built
  have opens (p : Statement) (h : Clause.render d (.deleteFrom table) = .ok p) : p.sql.isEmpty = false := by
    cases h
    exact append_ne_empty _ (by decide)
  have whole : Clause.statement d (.deleteFrom table :: [filterClause s o] ++ [.fetchFirst (countValue o.limit)]) =
      .ok st := Failure.ok_of_lift_fault built
  obtain ⟨base, rs, head, limits, rfl⟩ := (Clause.statement_append opens rfl).1 whole
  have unlimited : Clause.statement d (.deleteFrom table :: [filterClause s o] ++ [.fetchFirst .null]) = .ok base := by
    refine (Clause.statement_append opens rfl).2 ⟨base, [⟨"", []⟩], head, rfl, ?_⟩
    simp [trailing]
  refine ⟨base, ?_, ?_⟩
  · unfold destroyWith
    rw [Failure.ok_of_lift_fault named]
    exact Failure.lift_fault_of_ok unlimited
  · rw [renderAll_fetch limits]
    simp [changeWords]

theorem updateWith_eq : updateWith d s o values =
    if (assignable s values).isEmpty then .error (.refused notAssignable) else
      (liftM (d.tableName s.table) : Except Failure Value) >>= fun table => liftM (Clause.statement d
        [.finalTable s.columns (.updateSet table (assignable s values) :: [filterClause s o] ++
          [.fetchFirst (countValue o.limit)])]) := rfl

/-- In a change of rows the words for the limit stand before the closing parenthesis. -/
theorem updateWith_limited (built : updateWith d s o values = .ok st) :
    ∃ base body, updateWith d s o.unlimited values = .ok base ∧ base.sql = body ++ ")" ∧
      st = ⟨body ++ changeWords o ++ ")", base.params⟩ := by
  cases written : (assignable s values).isEmpty with
  | true =>
    rw [updateWith_eq, written, if_pos rfl] at built
    cases built
  | false =>
    rw [updateWith_eq, written, if_neg (by decide)] at built
    obtain ⟨table, named, built⟩ := bind_eq_ok built
    obtain ⟨inner, t, changed, columns, rfl⟩ := Clause.statement_finalTable.1 (Failure.ok_of_lift_fault built)
    have opens (p : Statement) (h : Clause.render d (.updateSet table (assignable s values)) = .ok p) :
        p.sql.isEmpty = false := by
      cases h
      rw [Statement.within, String.append_assoc, String.append_assoc, String.append_assoc]
      exact append_ne_empty _ (by decide)
    obtain ⟨base, rs, head, limits, rfl⟩ := (Clause.statement_append opens rfl).1 changed
    have unlimited : Clause.statement d
        (.updateSet table (assignable s values) :: [filterClause s o] ++ [.fetchFirst .null]) = .ok base := by
      refine (Clause.statement_append opens rfl).2 ⟨base, [⟨"", []⟩], head, rfl, ?_⟩
      simp [trailing]
    refine ⟨base.within ("SELECT " ++ t ++ " FROM FINAL TABLE (") ")",
      "SELECT " ++ t ++ " FROM FINAL TABLE (" ++ base.sql, ?_, rfl, ?_⟩
    · rw [updateWith_eq, written, if_neg (by decide), Failure.ok_of_lift_fault named]
      exact Failure.lift_fault_of_ok (Clause.statement_finalTable.2 ⟨base, t, unlimited, columns, rfl⟩)
    · rw [renderAll_fetch limits]
      simp [changeWords, Statement.within, String.append_assoc]

end Query

/-! ## Limits -/

/-- Of a statement under a limit of `n` rows and the same one without limit: the words for the limit stand before what
ends the text exactly when `n` is not zero, and for zero the two are one. -/
structure Limited (n : Nat) (words ending : String) (base st : Statement) : Prop where
  carried : ∃ body, base.sql = body ++ ending ∧ (st.sql = body ++ words ++ ending ↔ 0 < n)
  params : st.params = base.params
  dropped : n = 0 → st = base

theorem Limited.of_added {n : Nat} {words ending added body : String} {base : Statement}
    (ends : base.sql = body ++ ending) (wordy : words ≠ "") (pos : 0 < n → added = words) (zero : n = 0 → added = "") :
    Limited n words ending base ⟨body ++ added ++ ending, base.params⟩ where
  carried := by
    refine ⟨body, ends, ?_⟩
    constructor
    · intro (carries : body ++ added ++ ending = body ++ words ++ ending)
      have same : added = words := by
        rw [String.append_left_inj, String.append_right_inj] at carries
        exact carries
      apply Nat.pos_of_ne_zero
      intro none
      exact wordy (same.symm.trans (zero none))
    · intro some
      show body ++ added ++ ending = body ++ words ++ ending
      rw [pos some]
  params := rfl
  dropped none := by
    rw [zero none, String.append_empty, ← ends]

theorem Limited.of_last {n : Nat} {words added : String} {base : Statement} (wordy : words ≠ "")
    (pos : 0 < n → added = words) (zero : n = 0 → added = "") :
    Limited n words "" base ⟨base.sql ++ added, base.params⟩ := by
  have limited := Limited.of_added (show base.sql = base.sql ++ "" from String.append_empty.symm) wordy pos zero
  rwa [String.append_empty] at limited

namespace Query

open Options

variable {d : Dialect} {s : Schema} {given : OptionsGiven} {o : Options} {n : Nat}

theorem readWords_pos (limit : o.limit = some n) (pos : 0 < n) :
    readWords o = " LIMIT " ++ toString n ++ trailing [rowsWords "OFFSET" o.skip] := by
  have limited : rowsWords "LIMIT" (some n) = "LIMIT " ++ toString n := if_pos (isPositive_some.2 pos)
  have wordy : ("LIMIT " ++ toString n).isEmpty = false := append_ne_empty _ (by decide)
  rw [readWords, limit, limited, trailing, wordy, if_neg (by decide), ← String.append_assoc]
  rfl

/-- Checked options skip nothing under a limit of zero. -/
theorem readWords_zero (checked : o.Checked) (limit : o.limit = some 0) : readWords o = "" := by
  have skips : isPositive o.skip = false := by
    rw [Bool.eq_false_iff]
    intro skipping
    have limiting := checked.2 skipping
    rw [limit] at limiting
    cases limiting
  have offset : rowsWords "OFFSET" o.skip = "" := by rw [rowsWords, skips, if_neg (by decide)]
  rw [readWords, limit, offset]
  rfl

theorem changeWords_pos (limit : o.limit = some n) (pos : 0 < n) :
    changeWords o = " FETCH FIRST " ++ toString n ++ " ROWS ONLY" := by
  have limited : fetchWords (some n) = "FETCH FIRST " ++ (toString n ++ " ROWS ONLY") := by
    rw [fetchWords, if_pos (isPositive_some.2 pos), String.append_assoc]
    rfl
  have wordy : ("FETCH FIRST " ++ (toString n ++ " ROWS ONLY")).isEmpty = false := append_ne_empty _ (by decide)
  rw [changeWords, limit, limited, trailing, wordy, if_neg (by decide), trailing, String.append_empty,
    ← String.append_assoc, ← String.append_assoc]
  rfl

theorem changeWords_zero (limit : o.limit = some 0) : changeWords o = "" := by
  rw [changeWords, limit]
  rfl

/-- **Which limits are enforced.** A limit of `n` rows among accepted options is carried by every statement that is
built under it, in its place, exactly when `n` is not zero. Under a limit of zero the statement is the one that is built
without limit. -/
theorem limited_iff_pos (accepted : Accepted given o) (limit : o.limit = some n) :
    (∀ st, find d s given = .ok st → ∃ base, find d s (.options o.unlimited) = .ok base ∧
      Limited n (" LIMIT " ++ toString n ++ trailing [rowsWords "OFFSET" o.skip]) "" base st) ∧
    (∀ values st, update d s given values = .ok st → ∃ base, update d s (.options o.unlimited) values = .ok base ∧
      Limited n (" FETCH FIRST " ++ toString n ++ " ROWS ONLY") ")" base st) ∧
    (∀ st, destroy d s given = .ok st → ∃ base, destroy d s (.options o.unlimited) = .ok base ∧
      Limited n (" FETCH FIRST " ++ toString n ++ " ROWS ONLY") "" base st) := by
  have readLimit : " LIMIT " ++ toString n ++ trailing [rowsWords "OFFSET" o.skip] ≠ "" := by
    rw [String.append_assoc]
    intro empty
    exact absurd (String.append_eq_empty_iff.1 empty).1 (by decide)
  have changeLimit : " FETCH FIRST " ++ toString n ++ " ROWS ONLY" ≠ "" := by
    intro empty
    exact absurd (String.append_eq_empty_iff.1 empty).2 (by decide)
  refine ⟨?_, ?_, ?_⟩
  · intro st built
    rw [find, accepted.1] at built
    obtain ⟨base, plain, rfl⟩ := findWith_limited built
    refine ⟨base, plain, Limited.of_last readLimit (readWords_pos limit) ?_⟩
    intro none
    exact readWords_zero accepted.2 (none ▸ limit)
  · intro values st built
    rw [update, accepted.1] at built
    have built : (liftM values.entries? >>= updateWith d s o) = .ok st := built
    obtain ⟨t, entries, built⟩ := bind_eq_ok built
    obtain ⟨base, body, plain, ends, rfl⟩ := updateWith_limited built
    refine ⟨base, ?_, ?_⟩
    · show (liftM values.entries? >>= updateWith d s o.unlimited) = .ok base
      rw [entries]
      exact plain
    · apply Limited.of_added ends changeLimit (changeWords_pos limit)
      intro none
      exact changeWords_zero (none ▸ limit)
  · intro st built
    rw [destroy, accepted.1] at built
    obtain ⟨base, plain, rfl⟩ := destroyWith_limited built
    refine ⟨base, plain, Limited.of_last changeLimit (changeWords_pos limit) ?_⟩
    intro none
    exact changeWords_zero (none ▸ limit)

/-- At most two users at a time, the first four being skipped where they are read. -/
theorem limited_two :
    let s : Schema := ⟨.text "users", ⟨[(.text "id", {}), (.text "name", {})]⟩⟩
    let given : OptionsGiven := .value (.map [(.text "limit", .int 2), (.text "skip", .int 4)])
    (∃ st, find {} s given = .ok st ∧ st.sql = "SELECT id, name FROM users" ++ " LIMIT 2 OFFSET 4") ∧
      ∃ st, destroy {} s given = .ok st ∧ st.sql = "DELETE FROM users" ++ " FETCH FIRST 2 ROWS ONLY" := by
  intro s given
  have accepted : Accepted given { limit := some 2, skip := some 4 } := accepted_of_value rfl
  have built (x : Except Failure Statement) (ok : x.toBool = true) : ∃ st, x = .ok st := by
    cases x with
    | error f => cases ok
    | ok st => exact ⟨st, rfl⟩
  obtain ⟨reads, _, deletes⟩ := limited_iff_pos (d := {}) (s := s) accepted rfl
  constructor
  · obtain ⟨st, found⟩ := built (find {} s given) (by decide +kernel)
    obtain ⟨base, plain, limited⟩ := reads st found
    obtain rfl : base = ⟨"SELECT id, name FROM users", []⟩ := Except.ok.inj (plain.symm.trans rfl)
    obtain ⟨body, ends, carried⟩ := limited.carried
    rw [String.append_empty] at ends
    refine ⟨st, found, ?_⟩
    rw [carried.2 (by decide), String.append_empty, ← ends]
    rfl
  · obtain ⟨st, found⟩ := built (destroy {} s given) (by decide +kernel)
    obtain ⟨base, plain, limited⟩ := deletes st found
    obtain rfl : base = ⟨"DELETE FROM users", []⟩ := Except.ok.inj (plain.symm.trans rfl)
    obtain ⟨body, ends, carried⟩ := limited.carried
    rw [String.append_empty] at ends
    refine ⟨st, found, ?_⟩
    rw [carried.2 (by decide), String.append_empty, ← ends]
    rfl

/-- Under a limit of zero all users are deleted. -/
theorem unlimited_zero :
    let s : Schema := ⟨.text "users", ⟨[(.text "id", {}), (.text "name", {})]⟩⟩
    let given : OptionsGiven := .value (.map [(.text "limit", .int 0)])
    Accepted given { limit := some 0 } ∧ ∃ st, destroy {} s given = .ok st ∧ st.sql = "DELETE FROM users" ∧
      ¬∃ before after, st.sql = before ++ "FETCH FIRST 0 ROWS ONLY" ++ after := by
  intro s given
  refine ⟨accepted_of_value rfl, ⟨"DELETE FROM users", []⟩, rfl, rfl, ?_⟩
  rintro ⟨before, after, carries⟩
  have lengths : "DELETE FROM users".length = (before ++ "FETCH FIRST 0 ROWS ONLY" ++ after).length :=
    congrArg String.length carries
  have short : "DELETE FROM users".length < "FETCH FIRST 0 ROWS ONLY".length := by decide
  rw [String.length_append, String.length_append] at lengths
  omega

end Query

end TableGateway
