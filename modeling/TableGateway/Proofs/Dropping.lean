import Mathlib.Data.List.Forall2
import TableGateway.Proofs.Origins

/-!
# Dropping tables in turn

A table is dropped after the relations that depend on it: one statement for each relation, in the order in which they
were given, and the table's own at last. A script lists the statements that were dispatched, each with its answer. It is
always the beginning of this plan. A relation's good answer, or the engine's error that there is no such table, is
passed over; the first answer that is not, or the table's own, is the last of the script and the answer of the whole.
Between two statements at most a note is added to the journal; where the journal refuses it, that fault ends the run.

- **`Dispatches`**: from one world to another by the statements of a script;
- **`Query.exists_plan`**: every list of names has a plan, whether the dialect quotes or not;
- **`DropEnds`**: how a script ends, and with which answer;
- **`run_dropEach`**: the loop over the relations, by induction on them;
- **`drop_sequence`**: what dropping a table dispatches and answers.
-/

namespace TableGateway

variable {σ κ π : Type}

/-! ## Scripts -/

/-- The world with further events in its journal. -/
def World.noting (w : World σ κ π) (events : List Logged) : World σ κ π :=
  { w with journal := w.journal ++ events }

theorem World.noting_nil (w : World σ κ π) : w.noting [] = w := by
  unfold noting
  rw [List.append_nil]

theorem World.noting_noting (w : World σ κ π) (es fs : List Logged) :
    (w.noting es).noting fs = w.noting (es ++ fs) := by
  unfold noting
  rw [List.append_assoc]

namespace Dispatcher

/-- How a dispatched statement ended. -/
abbrev Ending := Except Failure (Outcome Error Rows)

/-- The statements that were dispatched, with their endings. -/
abbrev Script := List (Statement × Ending)

/-- From the first world to the last by dispatching the statements of a script in turn. Between them nothing is done but
taking notes. -/
inductive Dispatches (dp : Dispatcher) (identity schemaName : Value) : World σ κ π → Script → World σ κ π → Prop
  | done (w : World σ κ π) (notes : List Logged) : Dispatches dp identity schemaName w [] (w.noting notes)
  | next {w u v : World σ κ π} {st : Statement} {r : Ending} {script : Script} (notes : List Logged)
    (dispatched : (dp.execute identity st schemaName).run (w.noting notes) = (r, u))
    (rest : Dispatches dp identity schemaName u script v) : Dispatches dp identity schemaName w ((st, r) :: script) v

variable {dp : Dispatcher} {identity schemaName : Value} {w u v : World σ κ π} {script : Script}

theorem Dispatches.first {st : Statement} {r : Ending} (dispatched : (dp.execute identity st schemaName).run w = (r, u))
    (rest : Dispatches dp identity schemaName u script v) :
    Dispatches dp identity schemaName w ((st, r) :: script) v := by
  apply Dispatches.next [] _ rest
  rw [World.noting_nil]
  exact dispatched

theorem Dispatches.refl (w : World σ κ π) : Dispatches dp identity schemaName w [] w := by
  have still : Dispatches dp identity schemaName w [] (w.noting []) := .done w []
  rwa [World.noting_nil] at still

/-- Notes may be taken before. -/
theorem Dispatches.after_notes {notes : List Logged} (h : Dispatches dp identity schemaName (w.noting notes) script v) :
    Dispatches dp identity schemaName w script v := by
  generalize before : w.noting notes = u at h
  cases h with
  | done u more =>
    rw [← before, World.noting_noting]
    exact .done w (notes ++ more)
  | next more dispatched rest =>
    rw [← before, World.noting_noting] at dispatched
    exact .next (notes ++ more) dispatched rest

/-- The engine's answer that there is no such table. -/
def IsAbsent (e : Error) : Prop := e.isDriver = true ∧ e.state = .text "42704"

/-- An ending that does not stop a sequence: a good answer, or the engine's that there is no such table. -/
inductive Passes : Ending → Prop
  | dropped (rows : Rows) : Passes (.ok (.ok rows))
  | absent {e : Error} (absent : IsAbsent e) : Passes (.ok (.error e))

theorem isAbsent_iff {e : Error} : (e.isDriver && e.isNotFound) = true ↔ IsAbsent e := by
  unfold IsAbsent Error.isNotFound
  rw [Bool.and_eq_true, Value.same_text_right]
  rfl

end Dispatcher

open Dispatcher

/-! ## The plan and its ending -/

/-- The statement drops this table. -/
def Query.Drops (d : Dialect) (table : Value) (st : Statement) : Prop :=
  ∃ token, d.tableName table = .ok token ∧ st = ⟨"DROP TABLE " ++ token.shown, []⟩

theorem Query.drop_eq_ok {d : Dialect} {table : Value} {st : Statement} :
    drop d table = .ok st ↔ Drops d table st := by
  constructor
  · intro built
    obtain ⟨token, named, built⟩ := bind_eq_ok built
    cases built
    exact ⟨token, named, rfl⟩
  · rintro ⟨token, named, rfl⟩
    unfold drop
    rw [named]
    rfl

/-- A table whose name is a text can be dropped, with or without quotes. -/
theorem Query.exists_drops (d : Dialect) {table : Value} (text : table.isText = true) : ∃ st, Drops d table st := by
  cases table with
  | text t =>
    rcases d with ⟨_ | _⟩
    · exact ⟨_, _, rfl, rfl⟩
    · exact ⟨_, _, rfl, rfl⟩
  | _ => cases text

/-- Every list of names has a plan. -/
theorem Query.exists_plan (d : Dialect) {tables : List Value} (texts : ∀ table ∈ tables, table.isText = true) :
    ∃ plan, List.Forall₂ (Drops d) tables plan := by
  induction tables with
  | nil => exact ⟨[], .nil⟩
  | cons table tables ih =>
    obtain ⟨st, drops⟩ := exists_drops d (texts table List.mem_cons_self)
    obtain ⟨plan, others⟩ := ih fun other among => texts other (List.mem_cons_of_mem table among)
    exact ⟨st :: plan, .cons drops others⟩

/-- How a script that follows a plan ends, in the world `v`, and the answer of the whole. -/
inductive DropEnds (plan : List Statement) (script : Script) (v : World σ κ π) : Ending → Prop
  /-- All but the last statement pass. The last one's answer is the answer; it stops the sequence, or nothing more is
  planned. -/
  | answered (before : Script) {st : Statement} {r : Ending} (whole : script = before ++ [(st, r)])
    (passed : ∀ x ∈ before, Passes x.2) (last : Passes r → before.length + 1 = plan.length) :
    DropEnds plan script v r
  /-- A relation is not there, and the journal does not take the note on it. -/
  | unnoted (before : Script) {st : Statement} {e : Error} {relation : Value} {f : Fault}
    (whole : script = before ++ [(st, .ok (.error e))]) (passed : ∀ x ∈ before, Passes x.2) (absent : IsAbsent e)
    (more : before.length + 1 < plan.length)
    (refuses : v.writes ⟨Gateway.absentNote relation, v.bound⟩ = .error f) :
    DropEnds plan script v (.error (.broken f))

/-- One more statement in front, of which the ending passes. -/
theorem DropEnds.cons {plan : List Statement} {script : Script} {v : World σ κ π} {r reply : Ending}
    (h : DropEnds plan script v reply) (st : Statement) (passes : Passes r) :
    DropEnds (st :: plan) ((st, r) :: script) v reply := by
  have passed {before : Script} (others : ∀ x ∈ before, Passes x.2) : ∀ x ∈ (st, r) :: before, Passes x.2 := by
    intro x among
    rcases List.mem_cons.1 among with rfl | among
    · exact passes
    · exact others x among
  cases h with
  | answered before whole others ends =>
    refine .answered ((st, r) :: before) (by rw [whole]; rfl) (passed others) ?_
    intro through
    have length := ends through
    simp only [List.length_cons]
    omega
  | unnoted before whole others absent more refuses =>
    refine .unnoted ((st, r) :: before) (by rw [whole]; rfl) (passed others) absent ?_ refuses
    simp only [List.length_cons]
    omega

/-- The first statement is the last one, too. -/
theorem DropEnds.single {plan : List Statement} {v : World σ κ π} {r : Ending} (st : Statement)
    (last : Passes r → 1 = plan.length) : DropEnds plan [(st, r)] v r :=
  .answered [] rfl (fun _ among => by cases among) (by simpa using last)

namespace Gateway

variable {g : Gateway} {identity schemaName : Value}

/-! ## The sequence -/

/-- A run that follows a plan: by a script that is its beginning, and with the answer that goes with it. -/
def InTurn (g : Gateway) (identity schemaName : Value) (plan : List Statement) (w : World σ κ π)
    (ended : Ending × World σ κ π) : Prop :=
  ∃ script, Dispatches g.dispatcher identity schemaName w script ended.2 ∧ script.map Prod.fst <+: plan ∧
    DropEnds plan script ended.2 ended.1

variable {plan : List Statement} {w u v : World σ κ π} {st : Statement} {r reply : Ending}

/-- A statement whose answer is the answer of the whole. -/
theorem InTurn.stop (dispatched : (g.dispatcher.execute identity st schemaName).run w = (r, u))
    (last : Passes r → 1 = (st :: plan).length) : g.InTurn identity schemaName (st :: plan) w (r, u) :=
  ⟨[(st, r)], .first dispatched (.refl u), List.cons_prefix_cons.2 ⟨rfl, List.nil_prefix⟩, .single st last⟩

/-- A statement of which the ending passes, before the others. -/
theorem InTurn.cons {ended : Ending × World σ κ π} {notes : List Logged}
    (rest : g.InTurn identity schemaName plan (u.noting notes) ended)
    (dispatched : (g.dispatcher.execute identity st schemaName).run w = (r, u)) (passes : Passes r) :
    g.InTurn identity schemaName (st :: plan) w ended := by
  obtain ⟨script, others, begins, ends⟩ := rest
  exact ⟨(st, r) :: script, .first dispatched others.after_notes, List.cons_prefix_cons.2 ⟨rfl, begins⟩,
    ends.cons st passes⟩

/-- A relation that is not there, with a note that the journal does not take. -/
theorem InTurn.unnoted {e : Error} {relation : Value} {f : Fault}
    (dispatched : (g.dispatcher.execute identity st schemaName).run w = (.ok (.error e), u)) (absent : IsAbsent e)
    (more : plan ≠ []) (refuses : u.writes ⟨absentNote relation, u.bound⟩ = .error f) :
    g.InTurn identity schemaName (st :: plan) w (.error (.broken f), u) := by
  refine ⟨[(st, .ok (.error e))], .first dispatched (.refl u), List.cons_prefix_cons.2 ⟨rfl, List.nil_prefix⟩, ?_⟩
  refine .unnoted [] rfl (fun _ among => by cases among) absent ?_ refuses
  have some := List.length_pos_iff.2 more
  simp only [List.length_nil, List.length_cons]
  omega

/-- What is done after a relation's answer. -/
def passOver (g : Gateway) (identity schemaName last : Value) (relation : Value) (relations : List Value) :
    Outcome Error Dispatcher.Rows → Run σ κ π (Outcome Error Dispatcher.Rows)
  | .ok _ => g.dropEach identity schemaName last relations
  | .error e =>
    if e.isDriver && e.isNotFound then do
      Run.log (absentNote relation)
      g.dropEach identity schemaName last relations
    else return .error e

theorem run_dropEach_nil {last : Value} (drops : Query.Drops g.dialect last st) (w : World σ κ π) :
    (g.dropEach identity schemaName last []).run w = (g.dispatcher.execute identity st schemaName).run w := by
  rw [dropEach, Query.drop_eq_ok.2 drops]
  rfl

theorem run_dropEach_cons {last relation : Value} {relations : List Value} (drops : Query.Drops g.dialect relation st)
    (w : World σ κ π) : (g.dropEach identity schemaName last (relation :: relations)).run w =
      (g.dispatcher.execute identity st schemaName >>=
        g.passOver identity schemaName last relation relations).run w := by
  rw [dropEach, Query.drop_eq_ok.2 drops]
  show (g.dispatcher.execute identity st schemaName >>= _).run w = _
  rw [Run.run_bind, Run.run_bind]
  rcases (g.dispatcher.execute identity st schemaName).run w with ⟨_ | _ | _, u⟩ <;> rfl

/-- The loop over the relations follows the plan of its statements. -/
theorem run_dropEach {last : Value} {relations : List Value}
    (planned : List.Forall₂ (Query.Drops g.dialect) (relations ++ [last]) plan) (w : World σ κ π) :
    g.InTurn identity schemaName plan w ((g.dropEach identity schemaName last relations).run w) := by
  induction relations generalizing plan w with
  | nil =>
    obtain ⟨st, others, drops, none, rfl⟩ := List.forall₂_cons_left_iff.1 planned
    obtain rfl := List.forall₂_nil_left_iff.1 none
    rw [run_dropEach_nil drops]
    exact .stop rfl fun _ => rfl
  | cons relation relations ih =>
    obtain ⟨st, others, drops, later, rfl⟩ := List.forall₂_cons_left_iff.1 planned
    have more : others ≠ [] := by
      rintro rfl
      have length := later.length_eq
      simp at length
    rw [run_dropEach_cons drops]
    rcases dispatched : (g.dispatcher.execute identity st schemaName).run w with ⟨r, u⟩
    rw [Run.run_bind, dispatched]
    -- only an answer can pass: a failure of the dispatch stops the loop
    cases r with
    | error f => exact .stop dispatched fun passes => by cases passes
    | ok answer =>
      cases answer with
      | ok rows =>
        have rest : g.InTurn identity schemaName others (u.noting [])
            ((g.dropEach identity schemaName last relations).run u) := by
          rw [World.noting_nil]
          exact ih later u
        exact rest.cons dispatched (.dropped rows)
      | error e =>
        show g.InTurn identity schemaName (st :: others) w
          ((g.passOver identity schemaName last relation relations (.error e)).run u)
        unfold passOver
        dsimp only
        split
        · next absent =>
          have absent := isAbsent_iff.1 absent
          -- the note on the relation is taken before the next statement, and may itself fail
          cases noted : u.writes ⟨absentNote relation, u.bound⟩ with
          | ok _ =>
            rw [Run.run_bind_ok (Run.run_log noted)]
            exact (ih later (u.noting [⟨absentNote relation, u.bound⟩])).cons dispatched (.absent absent)
          | error f =>
            have refused : (Run.log (absentNote relation)).run u = (.error (.broken f), u) := by
              simp only [Run.log, noted]
            rw [Run.run_bind_error refused]
            exact .unnoted dispatched absent more noted
        · next fatal =>
          refine .stop dispatched fun passes => ?_
          cases passes with
          | absent absent => exact absurd (isAbsent_iff.2 absent) fatal

/-- **Tables are dropped in their sequence.** The statements that are dispatched are the beginning of one for each
relation, in their order, and one for the table at last. A relation's good answer or the engine's error 42704 leads to
the next statement; any other ending stops the sequence and is its answer, as is the ending of the table's own
statement. There is such a plan wherever the tables are named by texts. Where the table's name is not found, nothing is
dispatched. -/
theorem drop_sequence (g : Gateway) (identity schemaName : Value) {relations : Value} {rs : List Value}
    (listed : relations.members? = .ok rs) (w : World σ κ π) :
    match Operation.tableOf w.registry identity schemaName with
    | .error (.refused e) =>
      (g.drop identity schemaName relations).run w = (.ok (.error (e.within identity schemaName)), w)
    | .error (.broken f) => (g.drop identity schemaName relations).run w = (.error (.broken f), w)
    | .ok target =>
      ((∀ table ∈ rs ++ [target], table.isText = true) →
        ∃ plan, List.Forall₂ (Query.Drops g.dialect) (rs ++ [target]) plan) ∧
      ∀ plan, List.Forall₂ (Query.Drops g.dialect) (rs ++ [target]) plan →
        ∃ script v reply, (g.drop identity schemaName relations).run w = (reply, v) ∧
          Dispatches g.dispatcher identity schemaName w script v ∧ script.map Prod.fst <+: plan ∧
          DropEnds plan script v reply := by
  rw [← fst_tableName]
  unfold drop
  rw [run_answered_bind still_tableName]
  cases ((tableName identity schemaName).run w).1 with
  | error f => cases f <;> rfl
  | ok target =>
    refine ⟨Query.exists_plan g.dialect, fun plan planned => ?_⟩
    have followed : g.InTurn identity schemaName plan w ((g.dropEach identity schemaName target rs).run w) :=
      run_dropEach planned w
    obtain ⟨script, dispatched, begins, ends⟩ := followed
    refine ⟨script, _, _, ?_, dispatched, begins, ends⟩
    dsimp only
    rw [listed]
    rfl

/-- Where the engine knows no table at all, the relation is passed over and the error is the answer for the table. -/
theorem drop_sequence_absent :
    let w := Dispatcher.pooled (.steady (.ok ()) (.error (.refused (Error.engine "gone" "42704"))) (.ok ()))
    let ended := (({} : Gateway).drop (.text "a") (.text "s") (.tuple [.text "r"])).run w
    ∃ script, Dispatches {} (.text "a") (.text "s") w script ended.2 ∧
      script.map Prod.fst = [⟨"DROP TABLE " ++ "r", []⟩, ⟨"DROP TABLE " ++ "s", []⟩] ∧
      ∃ e, ended.1 = .ok (.error e) ∧ IsAbsent e := by
  intro w ended
  have gone : ∃ e, ended.1 = .ok (.error e) ∧ IsAbsent e := ⟨_, rfl, rfl, rfl⟩
  have planned : List.Forall₂ (Query.Drops ⟨false⟩) [.text "r", .text "s"]
      [⟨"DROP TABLE " ++ "r", []⟩, ⟨"DROP TABLE " ++ "s", []⟩] := .cons ⟨_, rfl, rfl⟩ (.cons ⟨_, rfl, rfl⟩ .nil)
  have listed : (Value.tuple [.text "r"]).members? = .ok [.text "r"] := rfl
  obtain ⟨script, v, reply, run, dispatched, begins, ends⟩ :=
    (drop_sequence {} (.text "a") (.text "s") listed w).2 _ planned
  have run : ended = (reply, v) := run
  rw [run] at gone ⊢
  refine ⟨script, dispatched, ?_, gone⟩
  obtain ⟨e, rfl, absent⟩ := gone
  -- the answer for the table passes, so the script is the whole plan
  cases ends with
  | answered _ whole _ last =>
    have length := last (.absent absent)
    apply begins.eq_of_length
    rw [List.length_map, whole, List.length_append]
    exact length

end Gateway

end TableGateway
