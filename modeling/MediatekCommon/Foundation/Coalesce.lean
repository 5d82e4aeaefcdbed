/-
  Foundation/Coalesce.lean --- an output that is rewritten only when a summary of
  it changes.

  A driver that remembers a summary of what it wrote last, and skips a request with
  the same summary, ends up with `coalesce summary old new`.  It shows the new
  request except when the summary forgets the difference between the two.
  Nothing here mentions what the output or its summary are.
-/
import Mathlib.Logic.Basic

set_option autoImplicit false

namespace MediatekCommon.Foundation

variable {γ κ : Type} [DecidableEq κ]

/-- The output after a request: the old one when the request has its summary, else
the request. -/
def coalesce (summary : γ → κ) (old new : γ) : γ :=
  if summary old = summary new then old else new

/-- The summary is always that of the request. -/
theorem summary_coalesce (summary : γ → κ) (old new : γ) :
    summary (coalesce summary old new) = summary new := by
  unfold coalesce
  split
  · assumption
  · rfl

/-- The output is the request exactly if it was already so whenever the summaries
agree. -/
theorem coalesce_eq_right_iff {summary : γ → κ} {old new : γ} :
    coalesce summary old new = new ↔ (summary old = summary new → old = new) := by
  unfold coalesce
  split
  · rename_i h
    exact ⟨fun heq _ => heq, fun himp => himp h⟩
  · rename_i h
    exact iff_of_true rfl fun heq => absurd heq h

/-- A repeated request changes nothing. -/
@[simp] theorem coalesce_coalesce (summary : γ → κ) (old new : γ) :
    coalesce summary (coalesce summary old new) new = coalesce summary old new := by
  rw [coalesce, if_pos (summary_coalesce summary old new)]

/-- A summary that no other output has forgets nothing. -/
theorem coalesce_of_unique {summary : γ → κ} {old new : γ}
    (h : ∀ c, summary c = summary new → c = new) : coalesce summary old new = new :=
  coalesce_eq_right_iff.mpr (h old)

/-- From an output that is alone with its summary every request is shown. -/
theorem coalesce_from_unique {summary : γ → κ} {old new : γ}
    (h : ∀ c, summary c = summary old → c = old) : coalesce summary old new = new :=
  coalesce_eq_right_iff.mpr fun heq => (h new heq.symm).symm

end MediatekCommon.Foundation
