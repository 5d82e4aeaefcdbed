/-
  Foundation/Runs.lean --- runs of a deterministic step function.

  A component that reacts to events is a function `step : σ → ε → σ`.  This file
  fixes, for an arbitrary such function, what a run is, what it means for a
  property to hold at every step or in every state of a run, and the rules that
  turn a fact about one step into a fact about all of them:

      run_of_invariant     an invariant kept by every step holds at the end
      view_run             what events overwrite is what the last of them wrote
      log_run              what events are logged as is logged in their order
      since_run            what one event sets and others keep was set and kept since
      along_of_step        a consequence of the invariant holds at every step
      along_of_invariant   an invariant kept by every step holds before each step
      along_congr          conditions that agree on admissible steps agree on runs
      along_of_pairwise    what relates any two events relates them at every step
      always_iff_along     when each admissible step keeps the property exactly if
                           it meets a condition, so does each admissible run

  Nothing here mentions a concrete component.
-/
import Mathlib.Data.List.Basic

set_option autoImplicit false

namespace MediatekCommon.Foundation

variable {σ ε : Type}

/-! ## Runs -/

/-- The state after the events `es`, taken in order from `s`. -/
def run (step : σ → ε → σ) (s : σ) (es : List ε) : σ := es.foldl step s

@[simp] theorem run_nil (step : σ → ε → σ) (s : σ) : run step s [] = s := rfl

@[simp] theorem run_cons (step : σ → ε → σ) (s : σ) (e : ε) (es : List ε) :
    run step s (e :: es) = run step (step s e) es := rfl

theorem run_append (step : σ → ε → σ) (s : σ) (es fs : List ε) :
    run step s (es ++ fs) = run step (run step s es) fs := by
  simp [run, List.foldl_append]

/-- The last event of a run is one step from the state the others lead to. -/
theorem run_concat (step : σ → ε → σ) (s : σ) (es : List ε) (e : ε) :
    run step s (es ++ [e]) = step (run step s es) e := by
  simp [run_append]

/-! ## Conditions on every step -/

/-- `Along step P s es`: every step of the run satisfies `P`, which reads the
event together with the state the step starts from. -/
def Along (step : σ → ε → σ) (P : σ → ε → Prop) : σ → List ε → Prop
  | _, [] => True
  | s, e :: es => P s e ∧ Along step P (step s e) es

@[simp] theorem along_nil (step : σ → ε → σ) (P : σ → ε → Prop) (s : σ) :
    Along step P s [] := trivial

@[simp] theorem along_cons (step : σ → ε → σ) (P : σ → ε → Prop) (s : σ) (e : ε)
    (es : List ε) :
    Along step P s (e :: es) ↔ P s e ∧ Along step P (step s e) es := Iff.rfl

instance decidableAlong (step : σ → ε → σ) (P : σ → ε → Prop)
    [∀ s e, Decidable (P s e)] : ∀ s es, Decidable (Along step P s es)
  | _, [] => isTrue trivial
  | s, e :: es =>
      have := decidableAlong step P (step s e) es
      inferInstanceAs (Decidable (P s e ∧ Along step P (step s e) es))

theorem along_append {step : σ → ε → σ} {P : σ → ε → Prop} {s : σ} {es fs : List ε} :
    Along step P s (es ++ fs) ↔
      Along step P s es ∧ Along step P (run step s es) fs := by
  induction es generalizing s with
  | nil => simp
  | cons e es ih => simp [ih, and_assoc]

/-- A condition on the events alone holds along every run of such events. -/
theorem along_of_forall {step : σ → ε → σ} {G : ε → Prop} (s : σ) {es : List ε}
    (h : ∀ e ∈ es, G e) : Along step (fun _ e => G e) s es := by
  induction es generalizing s with
  | nil => trivial
  | cons e es ih =>
      obtain ⟨he, hes⟩ := List.forall_mem_cons.mp h
      exact ⟨he, ih (step s e) hes⟩

/-- Two conditions that agree on admissible steps hold along the same admissible
runs. -/
theorem along_congr {step : σ → ε → σ} {A P Q : σ → ε → Prop}
    (h : ∀ s e, A s e → (P s e ↔ Q s e)) {s : σ} {es : List ε} (hrun : Along step A s es) :
    Along step P s es ↔ Along step Q s es := by
  induction es generalizing s with
  | nil => rfl
  | cons e es ih => exact and_congr (h s e hrun.1) (ih hrun.2)

theorem along_and {step : σ → ε → σ} {P Q : σ → ε → Prop} {s : σ} {es : List ε}
    (hP : Along step P s es) (hQ : Along step Q s es) :
    Along step (fun s e => P s e ∧ Q s e) s es := by
  induction es generalizing s with
  | nil => trivial
  | cons e es ih => exact ⟨⟨hP.1, hQ.1⟩, ih hP.2 hQ.2⟩

/-- If the states keep the events so far, a relation between any two events of a run
holds between any two of the history and the event of each step. -/
theorem along_of_pairwise {step : σ → ε → σ} {Inv : σ → Prop} {history : σ → List ε}
    {R : ε → ε → Prop} (hinv : ∀ s e, Inv s → Inv (step s e))
    (hstep : ∀ s e, Inv s → history (step s e) = history s ++ [e])
    {s : σ} {es : List ε} (hs : Inv s) (h : (history s ++ es).Pairwise R) :
    Along step (fun s e => (history s ++ [e]).Pairwise R) s es := by
  induction es generalizing s with
  | nil => trivial
  | cons e es ih =>
      rw [List.append_cons] at h
      refine ⟨(List.pairwise_append.mp h).1, ih (hinv s e hs) ?_⟩
      rwa [hstep s e hs]

/-- `Since step S K s es`: some step of the run satisfies `S` and all later ones `K`. -/
def Since (step : σ → ε → σ) (S K : σ → ε → Prop) (s : σ) (es : List ε) : Prop :=
  ∃ fs e gs, es = fs ++ e :: gs ∧ S (run step s fs) e ∧ Along step K (run step s (fs ++ [e])) gs

@[simp] theorem since_nil (step : σ → ε → σ) (S K : σ → ε → Prop) (s : σ) :
    ¬ Since step S K s [] := by
  rintro ⟨fs, e, gs, hsplit, -⟩
  simp at hsplit

/-- The step in question is the first one or a later one. -/
theorem since_cons {step : σ → ε → σ} {S K : σ → ε → Prop} {s : σ} {e : ε} {es : List ε} :
    Since step S K s (e :: es) ↔
      S s e ∧ Along step K (step s e) es ∨ Since step S K (step s e) es := by
  constructor
  · rintro ⟨fs, f, gs, hsplit, hset, hkept⟩
    cases fs with
    | nil =>
        obtain ⟨rfl, rfl⟩ := List.cons.inj hsplit
        exact .inl ⟨hset, hkept⟩
    | cons f' fs =>
        obtain ⟨rfl, rfl⟩ := List.cons.inj hsplit
        exact .inr ⟨fs, f, gs, rfl, hset, hkept⟩
  · rintro (⟨hset, hkept⟩ | ⟨fs, f, gs, rfl, hset, hkept⟩)
    · exact ⟨[], e, es, rfl, hset, hkept⟩
    · exact ⟨e :: fs, f, gs, rfl, hset, hkept⟩

/-! ## Properties of every state -/

/-- `Always step Q s es`: `Q` holds in every state of the run, the first and
the last included. -/
def Always (step : σ → ε → σ) (Q : σ → Prop) (s : σ) : List ε → Prop
  | [] => Q s
  | e :: es => Q s ∧ Always step Q (step s e) es

@[simp] theorem always_nil (step : σ → ε → σ) (Q : σ → Prop) (s : σ) :
    Always step Q s [] ↔ Q s := Iff.rfl

@[simp] theorem always_cons (step : σ → ε → σ) (Q : σ → Prop) (s : σ) (e : ε)
    (es : List ε) :
    Always step Q s (e :: es) ↔ Q s ∧ Always step Q (step s e) es := Iff.rfl

instance decidableAlways (step : σ → ε → σ) (Q : σ → Prop) [DecidablePred Q] :
    ∀ s es, Decidable (Always step Q s es)
  | s, [] => inferInstanceAs (Decidable (Q s))
  | s, e :: es =>
      have := decidableAlways step Q (step s e) es
      inferInstanceAs (Decidable (Q s ∧ Always step Q (step s e) es))

theorem Always.head {step : σ → ε → σ} {Q : σ → Prop} {s : σ} {es : List ε}
    (h : Always step Q s es) : Q s := by
  cases es with
  | nil => exact h
  | cons e es => exact h.1

theorem Always.imp {step : σ → ε → σ} {P Q : σ → Prop} (hPQ : ∀ s, P s → Q s) {s : σ}
    {es : List ε} (h : Always step P s es) : Always step Q s es := by
  induction es generalizing s with
  | nil => exact hPQ s h
  | cons e es ih => exact ⟨hPQ s h.1, ih h.2⟩

/-- A property of every state of a run is a property of the state after each of
its prefixes. -/
theorem always_iff_forall_isPrefix {step : σ → ε → σ} {Q : σ → Prop} {s : σ} {es : List ε} :
    Always step Q s es ↔ ∀ fs, fs <+: es → Q (run step s fs) := by
  induction es generalizing s with
  | nil => simp
  | cons e es ih =>
      rw [always_cons, ih]
      constructor
      · rintro ⟨hs, hrest⟩ fs hfs
        cases fs with
        | nil => exact hs
        | cons f fs =>
            obtain ⟨rfl, htail⟩ := List.cons_prefix_cons.mp hfs
            exact hrest fs htail
      · intro h
        refine ⟨h [] List.nil_prefix, fun fs hfs => ?_⟩
        exact h (e :: fs) (List.cons_prefix_cons.mpr ⟨rfl, hfs⟩)

/-! ## From one step to a run -/

section Rules

variable {step : σ → ε → σ} {Inv : σ → Prop} {G : σ → ε → Prop}

/-- What the invariant implies of an admissible step holds of each step of an
admissible run. -/
theorem along_of_step {P : σ → ε → Prop}
    (hstep : ∀ s e, Inv s → G s e → Inv (step s e))
    (hP : ∀ s e, Inv s → G s e → P s e)
    {s : σ} {es : List ε} (hs : Inv s) (hrun : Along step G s es) :
    Along step P s es := by
  induction es generalizing s with
  | nil => trivial
  | cons e es ih => exact ⟨hP s e hs hrun.1, ih (hstep s e hs hrun.1) hrun.2⟩

/-- What holds of an admissible step from a good state holds of each step of an
admissible run that stays good. -/
theorem along_of_always {Q : σ → Prop} {P : σ → ε → Prop} (hP : ∀ s e, Q s → G s e → P s e)
    {s : σ} {es : List ε} (hgood : Always step Q s es) (hrun : Along step G s es) :
    Along step P s es := by
  induction es generalizing s with
  | nil => trivial
  | cons e es ih => exact ⟨hP s e hgood.1 hrun.1, ih hgood.2 hrun.2⟩

/-- An invariant of unrestricted steps holds at the end of every run. -/
theorem run_of_invariant (hstep : ∀ s e, Inv s → Inv (step s e))
    {s : σ} (hs : Inv s) (es : List ε) : Inv (run step s es) := by
  induction es generalizing s with
  | nil => exact hs
  | cons e es ih => exact ih (hstep s e hs)

/-- What some events overwrite and the others leave is, at the end, what was written last. -/
theorem view_run {ν : Type} {view : σ → ν} {written : ε → Option ν}
    (hstep : ∀ s e, Inv s → Inv (step s e))
    (hview : ∀ s e, Inv s → view (step s e) = (written e).getD (view s))
    {s : σ} (hs : Inv s) (es : List ε) :
    view (run step s es) = (es.filterMap written).getLastD (view s) := by
  induction es generalizing s with
  | nil => rfl
  | cons e es ih =>
      rw [run_cons, ih (hstep s e hs), hview s e hs]
      cases hwritten : written e with
      | none => rw [List.filterMap_cons_none hwritten, Option.getD_none]
      | some value => rw [List.filterMap_cons_some hwritten, List.getLastD_cons, Option.getD_some]

/-- If each step appends to a log what its event is logged as, a run appends this for its
events in their order. -/
theorem log_run {δ : Type} (log : σ → List δ) {entry : ε → Option δ} {es : List ε}
    (hlog : ∀ e ∈ es, ∀ s, log (step s e) = log s ++ (entry e).toList) (s : σ) :
    log (run step s es) = log s ++ es.filterMap entry := by
  induction es generalizing s with
  | nil => simp
  | cons e es ih =>
      obtain ⟨he, hes⟩ := List.forall_mem_cons.mp hlog
      rw [run_cons, ih hes, he s, List.append_assoc]
      cases hentry : entry e with
      | none => rw [List.filterMap_cons_none hentry, Option.toList_none, List.nil_append]
      | some item => rw [List.filterMap_cons_some hentry, Option.toList_some, List.singleton_append]

/-- If a property holds after a step exactly when the step sets it, or when it held and the
step keeps it, then at the end of a run it holds exactly when some step set it, or it held
at the start, and all later steps kept it. -/
theorem since_run {Q : σ → Prop} {S K : σ → ε → Prop} (hstep : ∀ s e, Inv s → Inv (step s e))
    (hexact : ∀ s e, Inv s → (Q (step s e) ↔ S s e ∨ Q s ∧ K s e))
    {s : σ} (hs : Inv s) (es : List ε) :
    Q (run step s es) ↔ Since step S K s es ∨ Q s ∧ Along step K s es := by
  induction es generalizing s with
  | nil => simp
  | cons e es ih =>
      rw [run_cons, ih (hstep s e hs), hexact s e hs, since_cons, along_cons]
      tauto

/-- An invariant of unrestricted steps holds before each step of every run. -/
theorem along_of_invariant (hstep : ∀ s e, Inv s → Inv (step s e))
    {s : σ} (hs : Inv s) (es : List ε) : Along step (fun s _ => Inv s) s es := by
  induction es generalizing s with
  | nil => trivial
  | cons e es ih => exact ⟨hs, ih (hstep s e hs)⟩

/-- When an admissible step from a good state ends in a good state exactly if it
meets `G`, an admissible run from a good state stays good exactly if each of its
steps meets `G`. -/
theorem always_iff_along {Q : σ → Prop} {A : σ → ε → Prop}
    (hexact : ∀ s e, A s e → Q s → (Q (step s e) ↔ G s e))
    {s : σ} {es : List ε} (hrun : Along step A s es) (hq : Q s) :
    Always step Q s es ↔ Along step G s es := by
  induction es generalizing s with
  | nil => simpa using hq
  | cons e es ih =>
      rw [always_cons, along_cons]
      constructor
      · rintro ⟨-, hrest⟩
        have hg : G s e := (hexact s e hrun.1 hq).mp hrest.head
        exact ⟨hg, (ih hrun.2 hrest.head).mp hrest⟩
      · rintro ⟨hg, hrest⟩
        have hnext : Q (step s e) := (hexact s e hrun.1 hq).mpr hg
        exact ⟨hq, (ih hrun.2 hnext).mpr hrest⟩

end Rules

end MediatekCommon.Foundation
