import TableGateway.Proofs.Recorded

/-!
# The balance of a record

What a record says was made is, at every moment, either gone or outstanding, and never both: `Balance made gone xs out`
says that the numbers made are a rearrangement of those gone and those outstanding, and that no number was made twice.
Connections are made by opening and by taking them out of a pool, and gone once closed; pools are made once and gone
once disposed.

- **`make`**, **`lose`**, **`pass`**: what one more exchange does to a balance;
- **`gone_or_out`**: what was made is gone exactly once, or outstanding exactly once and not gone.
-/

namespace TableGateway

namespace Exchange

/-- The connection that was opened. -/
def opened? : Exchange → Option Nat
  | .connect _ (.ok n) => some n
  | _ => none

/-- The connection that was taken out of a pool. -/
def acquired? : Exchange → Option Nat
  | .acquire _ (.ok n) => some n
  | _ => none

/-- The connection that was opened or taken out of a pool. -/
def conn? : Exchange → Option Nat
  | .connect _ (.ok n) | .acquire _ (.ok n) => some n
  | _ => none

/-- The pool that was made. -/
def pool? : Exchange → Option Nat
  | .createPool _ (.ok n) => some n
  | _ => none

/-- The connection that was closed, or given back to its pool; failing on the way counts as well. -/
def closed? : Exchange → Option Nat
  | .close n _ => some n
  | _ => none

/-- The pool that was disposed of. -/
def disposed? : Exchange → Option Nat
  | .dispose n _ => some n
  | _ => none

theorem conn?_of_opened? {x : Exchange} {n : Nat} (h : x.opened? = some n) : x.conn? = some n := by
  unfold opened? at h
  split at h
  · exact h
  · cases h

theorem conn?_of_acquired? {x : Exchange} {n : Nat} (h : x.acquired? = some n) : x.conn? = some n := by
  unfold acquired? at h
  split at h
  · exact h
  · cases h

/-- The connections made are the opened ones and the acquired ones. -/
theorem perm_conn (xs : List Exchange) :
    (xs.filterMap conn?).Perm (xs.filterMap opened? ++ xs.filterMap acquired?) := by
  induction xs with
  | nil => exact .refl _
  | cons x xs ih =>
    cases x with
    | connect cs r =>
      cases r with
      | ok n => exact ih.cons n
      | error f => exact ih
    | acquire p r =>
      cases r with
      | ok n => exact (ih.cons n).trans List.perm_middle.symm
      | error f => exact ih
    | createPool | query | close | dispose => exact ih

end Exchange

/-- What was made is a rearrangement of what is gone and what is outstanding, and nothing was made twice. -/
structure Balance (made gone : Exchange → Option Nat) (xs : List Exchange) (out : List Nat) : Prop where
  perm : (xs.filterMap made).Perm (xs.filterMap gone ++ out)
  nodup : (xs.filterMap made).Nodup
  lt : ∀ n ∈ xs.filterMap made, n < xs.length

namespace Balance

variable {made gone : Exchange → Option Nat} {xs : List Exchange} {x : Exchange} {out : List Nat} {n : Nat}

theorem nil : Balance made gone [] [] := ⟨.refl _, List.nodup_nil, fun _ h => by cases h⟩

theorem of_perm (h : Balance made gone xs out) {out' : List Nat} (p : out.Perm out') : Balance made gone xs out' :=
  ⟨h.perm.trans (p.append_left _), h.nodup, h.lt⟩

/-- An exchange about something else. -/
theorem pass (h : Balance made gone xs out) (hm : made x = none) (hg : gone x = none) :
    Balance made gone (xs ++ [x]) out := by
  refine ⟨?_, ?_, fun n hn => ?_⟩
  · simpa [List.filterMap_append, hm, hg] using h.perm
  · simpa [List.filterMap_append, hm] using h.nodup
  · have := h.lt n (by simpa [List.filterMap_append, hm] using hn)
    rw [List.length_append]
    omega

/-- An exchange that makes something, under the number of its place. -/
theorem make (h : Balance made gone xs out) (hm : made x = some xs.length) (hg : gone x = none) :
    Balance made gone (xs ++ [x]) (xs.length :: out) := by
  have grown : (xs ++ [x]).filterMap made = xs.filterMap made ++ [xs.length] := by
    simp [List.filterMap_append, hm]
  refine ⟨?_, ?_, fun n hn => ?_⟩
  · rw [grown]
    have same : (xs ++ [x]).filterMap gone = xs.filterMap gone := by simp [List.filterMap_append, hg]
    rw [same]
    exact (List.perm_append_singleton _ _).trans ((h.perm.cons _).trans List.perm_middle.symm)
  · rw [grown]
    refine List.nodup_append.2 ⟨h.nodup, List.pairwise_singleton _ _, fun a ha b hb => ?_⟩
    have := h.lt a ha
    rw [List.mem_singleton.1 hb]
    omega
  · rw [grown, List.mem_append] at hn
    rw [List.length_append, List.length_singleton]
    rcases hn with hn | hn
    · have := h.lt n hn
      omega
    · rw [List.mem_singleton.1 hn]
      omega

/-- An exchange after which something outstanding is gone. -/
theorem lose (h : Balance made gone xs (n :: out)) (hm : made x = none) (hg : gone x = some n) :
    Balance made gone (xs ++ [x]) out := by
  have same : (xs ++ [x]).filterMap made = xs.filterMap made := by simp [List.filterMap_append, hm]
  have grown : (xs ++ [x]).filterMap gone = xs.filterMap gone ++ [n] := by simp [List.filterMap_append, hg]
  refine ⟨?_, by rw [same]; exact h.nodup, fun m hm' => ?_⟩
  · rw [same, grown, List.append_assoc]
    exact h.perm
  · rw [same] at hm'
    have := h.lt m hm'
    rw [List.length_append]
    omega

/-- What was made is gone exactly once, or outstanding exactly once and not gone. -/
theorem gone_or_out (h : Balance made gone xs out) (hn : n ∈ xs.filterMap made) :
    ((xs.filterMap gone).count n = 1 ∧ out.count n = 0) ∨ ((xs.filterMap gone).count n = 0 ∧ out.count n = 1) := by
  have once := h.nodup.count (a := n)
  rw [if_pos hn, h.perm.count_eq n, List.count_append] at once
  omega

end Balance

end TableGateway
