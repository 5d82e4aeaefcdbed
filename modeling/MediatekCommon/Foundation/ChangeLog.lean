/-
  Foundation/ChangeLog.lean --- what is written of requests that are skipped while their
  kind is the remembered one.

  The requests written are the changes of kind: of each run of requests of one kind the
  first, unless its kind is the one remembered before (`foldl_writeChange`).  Nothing here
  mentions what the requests or their kinds are.
-/
import Mathlib.Data.List.Destutter

set_option autoImplicit false

namespace MediatekCommon.Foundation

variable {γ κ δ : Type} [DecidableEq κ]

/-- A request of the remembered kind is skipped; another is written, and its kind
remembered. -/
def writeChange (kind : γ → κ) (written : γ → List δ) (s : κ × List δ) (request : γ) :
    κ × List δ :=
  if s.1 = kind request then s else (kind request, s.2 ++ written request)

/-- The requests at which the kind changes, when that of `first` is remembered. -/
def changes (kind : γ → κ) (first : γ) (requests : List γ) : List γ :=
  ((first :: requests).destutter fun a b => kind a ≠ kind b).tail

theorem changes_nil (kind : γ → κ) (first : γ) : changes kind first [] = [] := rfl

theorem changes_cons_of_eq {kind : γ → κ} {first request : γ} (h : kind first = kind request)
    (requests : List γ) :
    changes kind first (request :: requests) = changes kind first requests := by
  unfold changes
  rw [List.destutter_cons', List.destutter'_cons, if_neg (not_not.mpr h)]
  rfl

theorem changes_cons_of_ne {kind : γ → κ} {first request : γ} (h : kind first ≠ kind request)
    (requests : List γ) :
    changes kind first (request :: requests) = request :: changes kind request requests := by
  have hhead : ∀ (a : γ) l, ∃ l', List.destutter' (fun a b => kind a ≠ kind b) a l = a :: l' := by
    intro a l
    induction l generalizing a with
    | nil => exact ⟨[], rfl⟩
    | cons b l ih =>
        rw [List.destutter'_cons]
        split
        · exact ⟨_, rfl⟩
        · exact ih a
  unfold changes
  obtain ⟨l', hl'⟩ := hhead request requests
  rw [List.destutter_cons', List.destutter_cons', List.destutter'_cons, if_pos h, hl']
  rfl

/-- The changes depend on the kind of the first request only. -/
theorem changes_congr {kind : γ → κ} {first first' : γ} (h : kind first = kind first')
    (requests : List γ) : changes kind first requests = changes kind first' requests := by
  induction requests with
  | nil => rfl
  | cons request requests ih =>
      by_cases hsame : kind first = kind request
      · rw [changes_cons_of_eq hsame, changes_cons_of_eq (h.symm.trans hsame), ih]
      · rw [changes_cons_of_ne hsame, changes_cons_of_ne fun heq => hsame (h.trans heq)]

/-- The kind does not change exactly if all requests have it. -/
theorem changes_eq_nil_iff {kind : γ → κ} {first : γ} {requests : List γ} :
    changes kind first requests = [] ↔ ∀ request ∈ requests, kind request = kind first := by
  induction requests with
  | nil => simp [changes_nil]
  | cons request requests ih =>
      rw [List.forall_mem_cons]
      by_cases hsame : kind first = kind request
      · rw [changes_cons_of_eq hsame, ih]
        exact ⟨fun h => ⟨hsame.symm, h⟩, And.right⟩
      · rw [changes_cons_of_ne hsame]
        exact iff_of_false (List.cons_ne_nil _ _) fun h => hsame h.1.symm

/-- The last change, if there is one, has the kind of the last request. -/
theorem kind_getLastD_changes (kind : γ → κ) (first : γ) (requests : List γ) :
    kind ((changes kind first requests).getLastD first) = kind (requests.getLastD first) := by
  induction requests generalizing first with
  | nil => rfl
  | cons request requests ih =>
      by_cases hsame : kind first = kind request
      · rw [changes_cons_of_eq hsame, changes_congr hsame, List.getLastD_cons, ← ih]
        cases changes kind request requests with
        | nil => exact hsame
        | cons a l => rfl
      · rw [changes_cons_of_ne hsame, List.getLastD_cons, List.getLastD_cons, ih]

/-- What is remembered and written behind a sequence of requests. -/
theorem foldl_writeChange (kind : γ → κ) (written : γ → List δ) (first : γ) (log : List δ)
    (requests : List γ) :
    requests.foldl (writeChange kind written) (kind first, log) =
      (kind (requests.getLastD first), log ++ (changes kind first requests).flatMap written) := by
  induction requests generalizing first log with
  | nil => simp [changes_nil]
  | cons request requests ih =>
      rw [List.foldl_cons, List.getLastD_cons, writeChange]
      by_cases hsame : kind first = kind request
      · rw [if_pos hsame, changes_cons_of_eq hsame, changes_congr hsame, hsame]
        exact ih request log
      · rw [if_neg hsame, changes_cons_of_ne hsame, List.flatMap_cons, ih, List.append_assoc]

end MediatekCommon.Foundation
