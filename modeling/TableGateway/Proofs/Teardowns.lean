import TableGateway.Proofs.Accounting
import TableGateway.Proofs.Sent

/-!
# Teardowns

A teardown removes entries and closes what they held: entry by entry in the order of registration, and of each entry the
connection before the pool. A `Closing` is one such step and how it ended. As long as closing fails with nothing but
errors of the engine, and the journal takes what is noted on the way (`Registry.TeardownNotes`), a teardown goes on to
its end, and then fails with the first of these errors, as one of the connection that it came from.

- **`run_closeHeld`**: closing one entry closes all that it holds, and ends with the first error;
- **`run_tearDownEach`**: the same for one entry after the other, by induction on the entries that are left;
- **`teardown_finishes`**: what a teardown of all entries comes to, of one entry, and of none.
-/

namespace TableGateway

variable {σ κ π α : Type} {d : Driver σ κ π}

/-! ## What is closed -/

/-- A connection or a pool that an entry holds, by its number. -/
inductive Holding where
  | conn (number : Nat)
  | pool (number : Nat)

/-- What an entry holds, in the order in which it is closed. -/
def Entry.holdings (e : Entry (Numbered κ) (Numbered π)) : List Holding :=
  e.connNumbers.map .conn ++ e.poolNumbers.map .pool

/-- What entries hold, each thing with the identity of its entry. -/
def holdingsOf (es : List (Value × Entry (Numbered κ) (Numbered π))) : List (Value × Holding) :=
  es.flatMap fun a => a.2.holdings.map fun h => (a.1, h)

/-- Something that an entry of this identity held was closed. -/
structure Closing where
  identity : Value
  held : Holding
  ended : Except Failure Unit

namespace Closing

/-- What was closed, and whose it was. -/
def subject (x : Closing) : Value × Holding := (x.identity, x.held)

/-- The call to the driver. -/
def exchange (x : Closing) : Exchange :=
  match x.held with
  | .conn n => .close n x.ended
  | .pool n => .dispose n x.ended

/-- The error of the engine that closing ended with. -/
def error? (x : Closing) : Option Error :=
  match x.ended with
  | .error (.refused e) => some e
  | _ => none

theorem ended_of_error? {x : Closing} {e : Error} (failed : x.error? = some e) : x.ended = .error (.refused e) := by
  unfold error? at failed
  split at failed
  · next e' ended =>
    cases failed
    exact ended
  · cases failed

/-- The error as one of the connection. -/
def located? (x : Closing) : Option Error := x.error?.map fun e => e.onConnection x.identity

/-- Closing ended well or with an error of the engine. -/
def Fair (x : Closing) : Prop := x.ended = .ok () ∨ ∃ e, x.ended = .error (.refused e) ∧ e.isDriver = true

theorem fair_of_error {x : Closing} (h : ∀ f, x.ended = .error f → ∃ e, f = .refused e ∧ e.isDriver = true) :
    x.Fair := by
  rcases ended : x.ended with f | _
  · obtain ⟨e, rfl, driver⟩ := h f ended
    exact .inr ⟨e, ended, driver⟩
  · exact .inl ended

theorem Fair.isDriver {x : Closing} (h : x.Fair) {e : Error} (failed : x.error? = some e) : e.isDriver = true := by
  rcases h with well | ⟨e', ended, driver⟩
  · rw [error?, well] at failed
    cases failed
  · rw [error?, ended] at failed
    cases failed
    exact driver

end Closing

/-- Connections and pools are closed without fail, or the driver reports an error of the engine. -/
structure Driver.ClosesFairly (d : Driver σ κ π) : Prop where
  close : ∀ c s f, (d.close c s).1 = .error f → ∃ e, f = .refused e ∧ e.isDriver = true
  dispose : ∀ p s f, (d.dispose p s).1 = .error f → ∃ e, f = .refused e ∧ e.isDriver = true

/-- The driver may report this error when it closes a connection or disposes of a pool. -/
inductive Driver.ReportsClosing (d : Driver σ κ π) (e : Error) : Prop
  | close {c : κ} {s : σ} (failed : (d.close c s).1 = .error (.refused e))
  | dispose {p : π} {s : σ} (failed : (d.dispose p s).1 = .error (.refused e))

/-- What closing failed with is an error that the driver may report. -/
def Closing.Reported (d : Driver σ κ π) (x : Closing) : Prop := ∀ e, x.error? = some e → d.ReportsClosing e

/-- From the first world to the second all this was closed, in order and each thing once, and the driver was called for
nothing else. -/
structure Closes (subjects : List (Value × Holding)) (xs : List Closing) (w v : RecordedWorld σ κ π) : Prop where
  subjects : xs.map Closing.subject = subjects
  fair : ∀ x ∈ xs, x.Fair
  record : v.record = w.record ++ xs.map Closing.exchange

/-- How a run ends after it has closed all this: well when every closing ended well, and otherwise with the error of the
first one that failed, whose context names the identity that it came from. -/
inductive Concludes : List Closing → Except Failure Unit → Prop
  | well {xs : List Closing} (all : ∀ x ∈ xs, x.ended = .ok ()) : Concludes xs (.ok ())
  | first {before after : List Closing} {x : Closing} {e : Error} (earlier : ∀ y ∈ before, y.ended = .ok ())
    (failed : x.ended = .error (.refused e)) :
    Concludes (before ++ x :: after) (.error (.refused { e with context := { e.context with identity := x.identity } }))

/-- A run ends with an error, if there is one. -/
def endedWith : Option Error → Except Failure Unit
  | none => .ok ()
  | some e => .error (.refused e)

/-- The first error found is the one that counts. -/
theorem concludes_endedWith {xs : List Closing} (fair : ∀ x ∈ xs, x.Fair) :
    Concludes xs (endedWith (xs.findSome? Closing.located?)) := by
  induction xs with
  | nil => exact .well fun _ among => by cases among
  | cons x xs ih =>
    rw [List.findSome?_cons]
    rcases fair x (.head _) with well | ⟨e, failed, _⟩
    · have none : x.located? = none := by rw [Closing.located?, Closing.error?, well]; rfl
      rw [none]
      dsimp only
      generalize endedWith (xs.findSome? Closing.located?) = r at ih
      cases ih fun y among => fair y (.tail _ among) with
      | well all =>
        refine .well fun y among => ?_
        rcases List.mem_cons.1 among with rfl | among
        · exact well
        · exact all y among
      | @first before after y e earlier failed =>
        refine @Concludes.first (x :: before) _ _ _ (fun z among => ?_) failed
        rcases List.mem_cons.1 among with rfl | among
        · exact well
        · exact earlier z among
    · have some : x.located? = some (e.onConnection x.identity) := by
        rw [Closing.located?, Closing.error?, failed]
        rfl
      rw [some]
      exact @Concludes.first [] _ _ _ (fun _ among => by cases among) failed

namespace Closes

variable {subjects subjects' : List (Value × Holding)} {xs ys : List Closing} {w v u : RecordedWorld σ κ π}

theorem nil (w : RecordedWorld σ κ π) : Closes [] [] w w := ⟨rfl, fun _ among => (by cases among), (by simp)⟩

theorem append (h : Closes subjects xs w v) (g : Closes subjects' ys v u) :
    Closes (subjects ++ subjects') (xs ++ ys) w u := by
  refine ⟨by rw [List.map_append, h.subjects, g.subjects], fun x among => ?_, ?_⟩
  · rcases List.mem_append.1 among with among | among
    · exact h.fair x among
    · exact g.fair x among
  · rw [g.record, h.record, List.map_append, List.append_assoc]

theorem of_record {w' v' : RecordedWorld σ κ π} (h : Closes subjects xs w v) (before : w.record = w'.record)
    (after : v'.record = v.record) : Closes subjects xs w' v' :=
  ⟨h.subjects, h.fair, by rw [after, h.record, before]⟩

/-- What is of one identity fails with an error of its connection. -/
theorem findSome?_located {identity : Value} {hs : List Holding}
    (h : Closes (hs.map fun held => (identity, held)) xs w v) :
    xs.findSome? Closing.located? = (xs.findSome? Closing.error?).map fun e => e.onConnection identity := by
  have own : ∀ x ∈ xs, x.identity = identity := by
    intro x among
    have subject : x.subject ∈ xs.map Closing.subject := List.mem_map_of_mem among
    rw [h.subjects] at subject
    obtain ⟨held, _, same⟩ := List.mem_map.1 subject
    exact (congrArg Prod.fst same).symm
  clear h
  induction xs with
  | nil => rfl
  | cons x xs ih =>
    rw [List.findSome?_cons, List.findSome?_cons, Closing.located?, own x (.head _)]
    cases x.error? with
    | none => exact ih fun y among => own y (.tail _ among)
    | some e => rfl

end Closes

namespace Registry

open RecordedWorld

variable {notes : Note → Prop} {w : RecordedWorld σ κ π} {identity : Value}

/-! ## What is noted -/

/-- The notes on entries of these identities that are removed. -/
inductive RemovalNotes (d : Driver σ κ π) (identities : List Value) : Note → Prop
  | tornDown {identity : Value} (among : identity ∈ identities) : RemovalNotes d identities (tornDownNote identity)
  | closeFailed {identity : Value} {e : Error} (among : identity ∈ identities) (reports : d.ReportsClosing e) :
    RemovalNotes d identities (closeFailedNote identity e)

/-- The notes on a teardown: of all entries when no identity is given, of one, or of none. -/
inductive TeardownNotes (d : Driver σ κ π) (r : Registry (Recorded σ) (Numbered κ) (Numbered π)) (identity : Value) :
    Note → Prop
  | all {n : Note} (null : identity.isNull = true) (noted : RemovalNotes d r.identities n) :
    TeardownNotes d r identity n
  | one {n : Note} {e : Entry (Numbered κ) (Numbered π)} (found : r.entries.lookup identity = some e)
    (noted : RemovalNotes d [identity] n) : TeardownNotes d r identity n
  | unknown (absent : r.entries.lookup identity = none) : TeardownNotes d r identity (unknownNote identity)

/-- A record can hold the notes on what is removed when it can hold the identities and what the driver reports. -/
theorem plain_of_removal {identities : List Value} (held : ∀ i ∈ identities, LogSetup.Holds i)
    (reported : ∀ e, d.ReportsClosing e → LogSetup.Holds e.state ∧ LogSetup.Holds e.message) {n : Note}
    (noted : RemovalNotes d identities n) : n.Plain := by
  cases noted with
  | tornDown among => exact .one (by decide) (held _ among)
  | closeFailed among reports =>
    obtain ⟨state, message⟩ := reported _ reports
    exact .cons (by decide) (held _ among) (.cons (by decide) state (.one (by decide) message))

/-- So it can the notes on a teardown. -/
theorem plain_of_teardown {r : Registry (Recorded σ) (Numbered κ) (Numbered π)}
    (held : ∀ i ∈ r.identities, LogSetup.Holds i) (asked : LogSetup.Holds identity)
    (reported : ∀ e, d.ReportsClosing e → LogSetup.Holds e.state ∧ LogSetup.Holds e.message) {n : Note}
    (noted : TeardownNotes d r identity n) : n.Plain := by
  cases noted with
  | all _ noted => exact plain_of_removal held reported noted
  | one _ noted => exact plain_of_removal (fun i among => List.mem_singleton.1 among ▸ asked) reported noted
  | unknown => exact .one (by decide) asked

/-! ## Closing what an entry holds -/

theorem exists_close (fairly : d.ClosesFairly) (h : w.Faithful d notes) (identity : Value) (c : Numbered κ) :
    ∃ x : Closing, ∃ v, x.subject = (identity, .conn c.number) ∧ x.Fair ∧ x.Reported d ∧
      (Run.call fun d => d.close c).run w = (x.ended, v) ∧ w.Adds x.exchange v := by
  obtain ⟨r, v, run, adds⟩ := call_close h.driver c
  have ended : (d.close c.item w.engine.engine).1 = r := by
    simp only [Run.call, h.driver] at run
    exact congrArg Prod.fst run
  refine ⟨⟨identity, .conn c.number, r⟩, v, rfl, Closing.fair_of_error fun f failed => ?_, fun e failed => ?_, run,
    adds⟩
  · exact fairly.close _ _ f (ended.trans failed)
  · exact .close (ended.trans (Closing.ended_of_error? failed))

theorem exists_dispose (fairly : d.ClosesFairly) (h : w.Faithful d notes) (identity : Value) (p : Numbered π) :
    ∃ x : Closing, ∃ v, x.subject = (identity, .pool p.number) ∧ x.Fair ∧ x.Reported d ∧
      (Run.call fun d => d.dispose p).run w = (x.ended, v) ∧ w.Adds x.exchange v := by
  obtain ⟨r, v, run, adds⟩ := call_dispose h.driver p
  have ended : (d.dispose p.item w.engine.engine).1 = r := by
    simp only [Run.call, h.driver] at run
    exact congrArg Prod.fst run
  refine ⟨⟨identity, .pool p.number, r⟩, v, rfl, Closing.fair_of_error fun f failed => ?_, fun e failed => ?_, run,
    adds⟩
  · exact fairly.dispose _ _ f (ended.trans failed)
  · exact .dispose (ended.trans (Closing.ended_of_error? failed))

/-- What may be there is closed, and the engine's error of closing it is reported. -/
theorem run_release (h : w.Faithful d notes) (held : Option (Numbered α))
    {close : Driver (Recorded σ) (Numbered κ) (Numbered π) → Numbered α → Recorded σ → Except Failure Unit × Recorded σ}
    {name : Nat → Holding}
    (closing : ∀ a, ∃ x : Closing, ∃ v, x.subject = (identity, name a.number) ∧ x.Fair ∧ x.Reported d ∧
      (Run.call fun d => close d a).run w = (x.ended, v) ∧ w.Adds x.exchange v) :
    ∃ xs, ∃ v : RecordedWorld σ κ π, (release held close).run w = (.ok (xs.findSome? Closing.error?), v) ∧
      v.Faithful d notes ∧ v.registry = w.registry ∧ (∀ x ∈ xs, x.Reported d) ∧
      Closes (((held.map Numbered.number).toList.map name).map fun h => (identity, h)) xs w v := by
  cases held with
  | none => exact ⟨[], w, rfl, h, rfl, fun _ among => (by cases among), .nil w⟩
  | some a =>
    obtain ⟨x, v, subject, fair, reported, run, adds⟩ := closing a
    refine ⟨[x], v, ?_, h.adds adds, adds.registry, fun y among => List.mem_singleton.1 among ▸ reported,
      ⟨congrArg (· :: []) subject, ?_, adds.record⟩⟩
    · have tried : (Run.attempt (Run.call fun d => close d a)).run w = (.ok x.ended, v) := by
        rw [Run.run_attempt, run]
      rw [release, enginesError?, Run.run_bind_ok tried, List.findSome?_singleton]
      rcases fair with well | ⟨e, failed, driver⟩
      · rw [Closing.error?, well]
        rfl
      · rw [Closing.error?, failed]
        dsimp only
        rw [if_pos driver]
        rfl
    · intro y among
      rw [List.mem_singleton.1 among]
      exact fair

/-- Closing an entry closes all that it holds, and ends with the first error. -/
theorem run_closeHeld (fairly : d.ClosesFairly) (h : w.Faithful d notes) (identity : Value)
    (e : Entry (Numbered κ) (Numbered π)) :
    ∃ xs, ∃ v : RecordedWorld σ κ π, (closeHeld e).run w = (endedWith (xs.findSome? Closing.error?), v) ∧
      v.Faithful d notes ∧ v.registry = w.registry ∧ (∀ x ∈ xs, x.Reported d) ∧
      Closes (e.holdings.map fun h => (identity, h)) xs w v := by
  obtain ⟨xs, v, first, still, same, reported, closes⟩ := run_release h e.conn (exists_close fairly h identity)
  obtain ⟨ys, u, second, faithful, same', reported', closes'⟩ :=
    run_release still e.pool (exists_dispose fairly still identity)
  have all := closes.append closes'
  rw [← List.map_append] at all
  refine ⟨xs ++ ys, u, ?_, faithful, same'.trans same, fun x among => ?_, all⟩
  · rw [closeHeld, Run.run_bind_ok first, Run.run_bind_ok second, List.findSome?_append]
    cases (xs.findSome? Closing.error?).or (ys.findSome? Closing.error?) <;> rfl
  · rcases List.mem_append.1 among with among | among
    · exact reported x among
    · exact reported' x among

/-- Closing a removed entry ends with its first error, as one of its connection. -/
theorem run_closeRemoved (fairly : d.ClosesFairly) {identities : List Value}
    (h : w.Faithful d (RemovalNotes d identities)) (among : identity ∈ identities)
    (e : Entry (Numbered κ) (Numbered π)) :
    ∃ xs, ∃ v : RecordedWorld σ κ π, (closeRemoved identity e).run w = (.ok (xs.findSome? Closing.located?), v) ∧
      v.Faithful d (RemovalNotes d identities) ∧ v.registry = w.registry ∧
      Closes (e.holdings.map fun h => (identity, h)) xs w v := by
  obtain ⟨xs, v, closed, faithful, same, reported, closes⟩ := run_closeHeld fairly h identity e
  have tried : (Run.attempt (closeHeld e)).run w = (.ok (endedWith (xs.findSome? Closing.error?)), v) := by
    rw [Run.run_attempt, closed]
  have told (n : Note) : v.Alike ((Run.log n).run v).2 := Run.quiet_log n v
  have after (n : Note) := faithful.alike (told n) (Run.leavesBound_log n v)
  have taken {n : Note} (noted : RemovalNotes d identities n) :
      (Run.log n).run v = (.ok (), ((Run.log n).run v).2) := by
    rw [Run.run_log (faithful.takes n noted)]
  cases found : xs.findSome? Closing.error? with
  | none =>
    refine ⟨xs, _, ?_, after (tornDownNote identity), (told _).registry.trans same,
      closes.of_record rfl (record_alike (told _))⟩
    rw [closes.findSome?_located, found]
    rw [found] at tried
    have clean : (enginesError? (closeHeld e)).run w = (.ok none, v) := Run.run_bind_ok tried
    exact (Run.run_bind_ok clean).trans (Run.run_bind_ok (taken (.tornDown among)))
  | some error =>
    obtain ⟨x, there, raised⟩ := List.exists_of_findSome?_eq_some found
    have driver := (closes.fair x there).isDriver raised
    refine ⟨xs, _, ?_, after (closeFailedNote identity error), (told _).registry.trans same,
      closes.of_record rfl (record_alike (told _))⟩
    rw [closes.findSome?_located, found]
    rw [found] at tried
    have failed : (enginesError? (closeHeld e)).run w = (.ok (some error), v) := by
      rw [enginesError?, Run.run_bind_ok tried, endedWith]
      dsimp only
      rw [if_pos driver]
      rfl
    exact (Run.run_bind_ok failed).trans (Run.run_bind_ok (taken (.closeFailed among (reported x there _ raised))))

/-! ## Tearing down -/

theorem run_report (first : Option Error) (w : World σ κ π) : (report first).run w = (endedWith first, w) := by
  cases first <;> rfl

/-- All entries are removed, and all that they held is closed. -/
theorem run_tearDownEach (fairly : d.ClosesFairly) {es : List (Value × Entry (Numbered κ) (Numbered π))}
    {identities : List Value} (h : w.Faithful d (RemovalNotes d identities)) (named : ∀ a ∈ es, a.1 ∈ identities)
    (entries : w.registry.entries.entries = es) :
    ∃ xs, ∃ v : RecordedWorld σ κ π, (tearDownEach es).run w = (.ok (xs.findSome? Closing.located?), v) ∧
      v.registry = { w.registry with entries := {} } ∧ Closes (holdingsOf es) xs w v := by
  -- The registry holds the entries that are still to be torn down.
  induction es generalizing w with
  | nil =>
    have none : w.registry.entries = {} := congrArg Keyed.mk entries
    exact ⟨[], w, rfl, by rw [← none], .nil w⟩
  | cons a es ih =>
    obtain ⟨identity, e⟩ := a
    let left : RecordedWorld σ κ π := { w with registry := { w.registry with entries := ⟨es⟩ } }
    obtain ⟨xs, v, removed, faithful, same, closes⟩ :=
      run_closeRemoved fairly (w := left) ⟨h.driver, h.takes⟩ (named _ (.head _)) e
    obtain ⟨ys, u, rest, emptied, closes'⟩ :=
      ih faithful (fun a among => named a (.tail _ among)) (congrArg (fun r => r.entries.entries) same)
    refine ⟨xs ++ ys, u, ?_, by rw [emptied, same], ?_⟩
    · rw [tearDownEach, Run.run_bind_ok (Run.run_changeRegistry _ w), Run.run_bind_ok removed, Run.run_bind_ok rest,
        List.findSome?_append]
      rfl
    · rw [holdingsOf, List.flatMap_cons]
      have first : Closes (e.holdings.map fun h => (identity, h)) xs w v := closes.of_record rfl rfl
      exact first.append closes'

theorem run_tearDownOne (fairly : d.ClosesFairly) {identities : List Value}
    (h : w.Faithful d (RemovalNotes d identities)) (among : identity ∈ identities)
    (e : Entry (Numbered κ) (Numbered π)) :
    ∃ xs, ∃ v : RecordedWorld σ κ π, (tearDownOne identity e).run w = (.ok (xs.findSome? Closing.located?), v) ∧
      v.registry = w.registry.remove identity ∧ Closes (e.holdings.map fun h => (identity, h)) xs w v := by
  let left : RecordedWorld σ κ π := { w with registry := w.registry.remove identity }
  obtain ⟨xs, v, removed, _, same, closes⟩ := run_closeRemoved fairly (w := left) ⟨h.driver, h.takes⟩ among e
  refine ⟨xs, v, ?_, same, closes.of_record rfl rfl⟩
  rw [tearDownOne, Run.run_bind_ok (Run.run_changeRegistry _ w)]
  exact removed

/-- **Teardown always finishes**, as long as closing fails with nothing but errors of the engine, and the journal takes
what is logged of it.

1. A teardown of all leaves no entry behind. It has closed all that the entries held, and nothing else, each thing once
   and in order; it ends well when every closing did, and otherwise with the first error.
2. A teardown of one identity does the same with its entry. All other entries stay as they are, and in their order.
3. A teardown of an identity that is not registered does nothing. -/
theorem teardown_finishes {r : Except Failure Unit} {v : RecordedWorld σ κ π} (fairly : d.ClosesFairly)
    (h : w.Faithful d (TeardownNotes d w.registry identity)) (run : (teardown identity).run w = (r, v)) :
    (identity.isNull = true → v.registry = { w.registry with entries := {} } ∧
      ∃ xs, Closes (holdingsOf w.registry.entries.entries) xs w v ∧ Concludes xs r) ∧
    (identity.isNull = false → ∀ e, w.registry.entries.lookup identity = some e →
      v.registry = w.registry.remove identity ∧ v.registry.entries.lookup identity = none ∧
      v.registry.entries.others identity = w.registry.entries.others identity ∧
      ∃ xs, Closes (holdingsOf [(identity, e)]) xs w v ∧ Concludes xs r) ∧
    (identity.isNull = false → identity.isKey = true → w.registry.entries.lookup identity = none →
      r = .ok () ∧ v.registry = w.registry ∧ v.record = w.record) := by
  rw [teardown, Run.run_bind_ok (Run.run_registry w)] at run
  refine ⟨fun null => ?_, fun given e found => ?_, fun given key absent => ?_⟩
  · have all : w.Faithful d (RemovalNotes d w.registry.identities) := ⟨h.driver, h.takes.mono fun _ => .all null⟩
    obtain ⟨xs, u, torn, emptied, closes⟩ := run_tearDownEach fairly all (fun a among => List.mem_map_of_mem among) rfl
    rw [if_pos null, Run.run_bind_ok torn, run_report] at run
    cases run
    exact ⟨emptied, xs, closes, concludes_endedWith closes.fair⟩
  · have one : w.Faithful d (RemovalNotes d [identity]) := ⟨h.driver, h.takes.mono fun _ => .one found⟩
    obtain ⟨xs, u, torn, removed, closes⟩ := run_tearDownOne fairly one (.head _) e
    rw [if_neg (by rw [given]; decide), Run.run_bind, Run.run_lift, find, Keyed.find_of_lookup found] at run
    have reported : (r, v) = (endedWith (xs.findSome? Closing.located?), u) := by
      rw [← run]
      refine (Run.run_bind_ok torn).trans ?_
      rw [run_report]
    cases reported
    refine ⟨removed, ?_, ?_, xs, ?_, concludes_endedWith closes.fair⟩
    · rw [removed, remove, Keyed.lookup_erase, if_pos (Keyed.same_self_of_lookup found)]
    · rw [removed]
      exact Keyed.others_erase
    · rw [holdingsOf, List.flatMap_singleton]
      exact closes
  · rw [if_neg (by rw [given]; decide), Run.run_bind, Run.run_lift, find, Keyed.find, if_pos key, absent] at run
    have told := Run.quiet_log (unknownNote identity) w
    have taken := Run.run_log (h.takes _ (.unknown absent))
    have logged : (Run.log (unknownNote identity)).run w = (r, v) := run
    rw [logged] at told taken
    exact ⟨congrArg Prod.fst taken, told.registry, record_alike told⟩

/-- Two identities with an open connection each; the second one has a pool besides. Errors are written to the journal,
as records. -/
def twoOpen (d : Driver Unit Unit Unit) : RecordedWorld Unit Unit Unit where
  engine :=
    { engine := ()
      exchanges := [.createPool "b" (.ok 0), .connect "a" (.ok 1), .connect "b" (.ok 2)] }
  registry :=
    { driver := d.recorded
      entries := ⟨[(.text "a", { config := { identity := .text "a" }, conn := some ⟨1, ()⟩ }),
        (.text "b", { config := { identity := .text "b" }, pool := some ⟨0, ()⟩, conn := some ⟨2, ()⟩ })]⟩ }
  writes := LogSetup.takes { format := some ⟨40, true, true⟩, floor := some 40 } ""

/-- No connection can be closed: all entries are gone nevertheless, the pool is disposed of, and the first error
counts. -/
theorem teardown_finishes_broken :
    let boom := Error.engine "boom" "08003"
    let w := twoOpen (.steady (.ok ()) (.ok []) (.error (.refused boom)))
    ∃ v : RecordedWorld Unit Unit Unit,
      (teardown .null).run w = (.error (.refused (boom.onConnection (.text "a"))), v) ∧ v.registry.identities = [] ∧
      v.record = w.record ++
        [.close 1 (.error (.refused boom)), .close 2 (.error (.refused boom)), .dispose 0 (.ok ())] ∧
      ∃ xs, Closes [(.text "a", .conn 1), (.text "b", .conn 2), (.text "b", .pool 0)] xs w v ∧
        Concludes xs (.error (.refused (boom.onConnection (.text "a")))) := by
  intro boom w
  have fairly : (Driver.steady (.ok ()) (.ok []) (.error (.refused boom))).ClosesFairly := by
    refine ⟨fun _ _ f failed => ?_, fun _ _ f failed => ?_⟩
    · cases failed
      exact ⟨boom, rfl, rfl⟩
    · cases failed
  have run : (teardown .null).run w = (.error (.refused (boom.onConnection (.text "a"))), _) := rfl
  have reported : ∀ e, (Driver.steady (.ok ()) (.ok []) (.error (.refused boom))).ReportsClosing e →
      LogSetup.Holds e.state ∧ LogSetup.Holds e.message := by
    intro e reports
    cases reports with
    | close failed =>
      cases failed
      exact ⟨LogSetup.holds_text _, LogSetup.holds_text _⟩
    | dispose failed => cases failed
  have held : ∀ i ∈ w.registry.identities, LogSetup.Holds i := by
    intro i among
    have known : i ∈ [Value.text "a", .text "b"] := among
    simp only [List.mem_cons, List.not_mem_nil, or_false] at known
    rcases known with rfl | rfl <;> exact LogSetup.holds_text _
  have takes : w.Takes (TeardownNotes _ w.registry .null) :=
    World.takes_of_plain (LogSetup.holds_text _) rfl Bindings.plain_nil fun _ =>
      plain_of_teardown held LogSetup.holds_null reported
  obtain ⟨all, _⟩ := teardown_finishes fairly ⟨rfl, takes⟩ run
  obtain ⟨emptied, closed⟩ := all rfl
  exact ⟨_, rfl, by rw [emptied]; rfl, rfl, closed⟩

end Registry

end TableGateway
