/-
  Foundation/Sections.lean --- threads that share a state behind one mutex.

  A thread accesses the shared state one step at a time, and other threads may be
  scheduled between any two of its steps.  What a thread does while it holds the mutex is
  a `Section`; nothing touches the state without the mutex.  For arbitrary requests,
  states and schedules:

      Section.exec           the section without interruption
      serial_run             every schedule leaves what the requests leave that are
                             served one after the other, each by an uninterrupted
                             section, in the order the mutex was taken
      holder_released        whoever holds the mutex releases it after as many of its
                             own steps as its section may still take

  Nothing here mentions what the state or the requests are.
-/
import MediatekCommon.Foundation.Runs
import Mathlib.Logic.Function.Basic

set_option autoImplicit false

namespace MediatekCommon.Foundation

variable {σ α γ ι ρ : Type}

/-! ## Sections -/

/-- What a thread does with the mutex: accesses of the shared state, one after the other,
and a result.  What comes behind an access may depend on the state it met. -/
inductive Section (σ α : Type) : Type where
  | done (a : α)
  | access (f : σ → σ) (next : σ → Section σ α)

namespace Section

def bind (x : Section σ α) (g : α → Section σ γ) : Section σ γ :=
  match x with
  | .done a => g a
  | .access f next => .access f fun s => (next s).bind g

instance : Monad (Section σ) where
  pure := .done
  bind := bind

/-- One access that returns something. -/
def act (f : σ → α × σ) : Section σ α := .access (fun s => (f s).2) fun s => .done (f s).1

/-- One access that changes nothing. -/
def read (f : σ → α) : Section σ α := act fun s => (f s, s)

/-- One access that returns nothing. -/
def modify (f : σ → σ) : Section σ Unit := act fun s => ((), f s)

/-- The section without interruption. -/
def exec : Section σ α → σ → α × σ
  | .done a, s => (a, s)
  | .access f next, s => (next s).exec (f s)

@[simp] theorem exec_pure (a : α) (s : σ) : (pure a : Section σ α).exec s = (a, s) := rfl

@[simp] theorem exec_bind (x : Section σ α) (g : α → Section σ γ) (s : σ) :
    (x >>= g).exec s = (g (x.exec s).1).exec (x.exec s).2 := by
  induction x generalizing s with
  | done a => rfl
  | access f next ih => exact ih s (f s)

@[simp] theorem exec_act (f : σ → α × σ) (s : σ) : (act f).exec s = f s := rfl

@[simp] theorem exec_read (f : σ → α) (s : σ) : (read f).exec s = (f s, s) := rfl

@[simp] theorem exec_modify (f : σ → σ) (s : σ) : (modify f).exec s = ((), f s) := rfl

/-- What is read decides how the section goes on. -/
theorem exec_read_bind (f : σ → α) (g : α → Section σ γ) (s : σ) :
    (read f >>= g).exec s = (g (f s)).exec s := rfl

theorem exec_ite {c : Prop} [Decidable c] (x y : Section σ α) (s : σ) :
    (if c then x else y).exec s = if c then x.exec s else y.exec s := by
  split <;> rfl

/-! ### What a section keeps -/

/-- The section, uninterrupted, relates the states around it by `R`. -/
def Keeps (R : σ → σ → Prop) (x : Section σ α) : Prop := ∀ s, R s (x.exec s).2

section Keeps

variable {R : σ → σ → Prop}

theorem keeps_pure [Std.Refl R] (a : α) : Keeps R (pure a : Section σ α) := Std.Refl.refl

theorem keeps_read [Std.Refl R] (f : σ → α) : Keeps R (read f) := Std.Refl.refl

theorem keeps_modify {f : σ → σ} (h : ∀ s, R s (f s)) : Keeps R (modify f) := h

theorem Keeps.bind [Trans R R R] {x : Section σ α} {g : α → Section σ γ} (hx : Keeps R x)
    (hg : ∀ a, Keeps R (g a)) : Keeps R (x >>= g) := by
  intro s
  rw [exec_bind]
  exact Trans.trans (hx s) (hg _ _)

theorem Keeps.ite {c : Prop} [Decidable c] {x y : Section σ α} (hx : Keeps R x)
    (hy : Keeps R y) : Keeps R (if c then x else y) := by
  split
  · exact hx
  · exact hy

end Keeps

/-! ### How long a section is -/

/-- Every path of the section makes at most `n` accesses. -/
def Within : Section σ α → Nat → Prop
  | .done _, _ => True
  | .access _ _, 0 => False
  | .access _ next, n + 1 => ∀ s, (next s).Within n

theorem within_pure (a : α) (n : Nat) : (pure a : Section σ α).Within n := trivial

theorem within_act (f : σ → α × σ) : (act f).Within 1 := fun _ => trivial

theorem Within.mono {x : Section σ α} {m n : Nat} (h : x.Within m) (hmn : m ≤ n) :
    x.Within n := by
  induction x generalizing m n with
  | done a => trivial
  | access f next ih =>
      cases m with
      | zero => exact h.elim
      | succ m =>
          cases n with
          | zero => omega
          | succ n => exact fun s => ih s (h s) (by omega)

theorem Within.bind {x : Section σ α} {g : α → Section σ γ} {m n : Nat} (hx : x.Within m)
    (hg : ∀ a, (g a).Within n) : (x >>= g).Within (m + n) := by
  induction x generalizing m with
  | done a => exact (hg a).mono (by omega)
  | access f next ih =>
      cases m with
      | zero => exact hx.elim
      | succ m =>
          rw [Nat.add_right_comm]
          exact fun s => ih s (hx s)

/-- What comes behind one access need only be short for what the access can return. -/
theorem Within.act_bind (f : σ → α × σ) {g : α → Section σ γ} {n : Nat}
    (hg : ∀ s, (g (f s).1).Within n) : (act f >>= g).Within (n + 1) := hg

theorem Within.ite {c : Prop} [Decidable c] {x y : Section σ α} {n : Nat} (hx : x.Within n)
    (hy : y.Within n) : (if c then x else y).Within n := by
  split
  · exact hx
  · exact hy

end Section

/-! ## Threads -/

/-- A request that is being served: who holds the mutex, for what, and what is left of its
section. -/
structure Holder (ι ρ σ α : Type) where
  thread : ι
  request : ρ
  rest : Section σ α

/-- A request that has been served. -/
structure Served (ι ρ α : Type) where
  thread : ι
  request : ρ
  result : α

/-- Threads and the state they share. -/
structure Threads (ι ρ σ α : Type) where
  shared : σ
  /-- Who holds the mutex. -/
  holder : Option (Holder ι ρ σ α)
  /-- What each thread has still to ask for, in its order. -/
  todo : ι → List ρ
  /-- The requests served, in the order the mutex was released. -/
  served : List (Served ι ρ α)

namespace Threads

/-- Nothing has been asked for yet. -/
def start (s : σ) (todo : ι → List ρ) : Threads ι ρ σ α := ⟨s, none, todo, []⟩

variable [DecidableEq ι] {body : ρ → Section σ α}

/-- One step of a thread.  A thread takes the mutex if it is free, waits for it if another
thread holds it, and releases it when its section is done. -/
def step (body : ρ → Section σ α) (t : Threads ι ρ σ α) (i : ι) : Threads ι ρ σ α :=
  match t.holder with
  | none =>
      match t.todo i with
      | [] => t
      | r :: rest =>
          { t with holder := some ⟨i, r, body r⟩, todo := Function.update t.todo i rest }
  | some h =>
      if h.thread = i then
        match h.rest with
        | .done a => { t with holder := none, served := t.served ++ [⟨i, h.request, a⟩] }
        | .access f next =>
            { t with shared := f t.shared, holder := some { h with rest := next t.shared } }
      else t

/-- What a thread can do in one step. -/
inductive Step (body : ρ → Section σ α) (t : Threads ι ρ σ α) (i : ι) : Threads ι ρ σ α → Prop
  | idle : Step body t i t
  | lock (r : ρ) (rest : List ρ) : t.holder = none → t.todo i = r :: rest →
      Step body t i
        { t with holder := some ⟨i, r, body r⟩, todo := Function.update t.todo i rest }
  | unlock (r : ρ) (a : α) : t.holder = some ⟨i, r, .done a⟩ →
      Step body t i { t with holder := none, served := t.served ++ [⟨i, r, a⟩] }
  | access (r : ρ) (f : σ → σ) (next : σ → Section σ α) : t.holder = some ⟨i, r, .access f next⟩ →
      Step body t i { t with shared := f t.shared, holder := some ⟨i, r, next t.shared⟩ }

theorem step_cases (body : ρ → Section σ α) (t : Threads ι ρ σ α) (i : ι) :
    Step body t i (t.step body i) := by
  unfold step
  cases hholder : t.holder with
  | none =>
      cases htodo : t.todo i with
      | nil => exact .idle
      | cons r rest => exact .lock r rest hholder htodo
  | some h =>
      obtain ⟨j, r, rest⟩ := h
      by_cases hij : j = i
      · subst hij
        cases rest with
        | done a =>
            simp only [if_true]
            exact .unlock r a hholder
        | access f next =>
            simp only [if_true]
            exact .access r f next hholder
      · simp only [if_neg hij]
        exact .idle

/-! ## Every schedule is a serial one -/

/-- The state behind a request that is served without interruption. -/
def serve (body : ρ → Section σ α) (s : σ) (e : Served ι ρ α) : σ := ((body e.request).exec s).2

/-- The result is the one of the uninterrupted section. -/
def Answered (body : ρ → Section σ α) (s : σ) (e : Served ι ρ α) : Prop :=
  ((body e.request).exec s).1 = e.result

/-- The requests of one thread. -/
def requestsOf (i : ι) (served : List (Served ι ρ α)) : List ρ :=
  (served.filter fun e => e.thread = i).map Served.request

/-- What a thread is being served for. -/
def current (t : Threads ι ρ σ α) (i : ι) : List ρ :=
  match t.holder with
  | some h => if h.thread = i then [h.request] else []
  | none => []

/-- The threads have served what they asked for, each in its own order, and the state is
the one of a serial run: where a section is under way, what is left of it leads where the
whole of it would have led. -/
structure Serial (body : ρ → Section σ α) (s₀ : σ) (todo₀ : ι → List ρ)
    (t : Threads ι ρ σ α) : Prop where
  answered : Along (serve body) (Answered body) s₀ t.served
  order : ∀ i, requestsOf i t.served ++ t.current i ++ t.todo i = todo₀ i
  free : t.holder = none → t.shared = run (serve body) s₀ t.served
  held : ∀ h, t.holder = some h →
    h.rest.exec t.shared = (body h.request).exec (run (serve body) s₀ t.served)

theorem serial_start (body : ρ → Section σ α) (s₀ : σ) (todo₀ : ι → List ρ) :
    Serial body s₀ todo₀ (start s₀ todo₀) where
  answered := trivial
  order _ := rfl
  free _ := rfl
  held _ h := by cases h

theorem requestsOf_concat (i : ι) (served : List (Served ι ρ α)) (e : Served ι ρ α) :
    requestsOf i (served ++ [e]) =
      requestsOf i served ++ if e.thread = i then [e.request] else [] := by
  unfold requestsOf
  rw [List.filter_append, List.map_append]
  by_cases h : e.thread = i <;> simp [h]

theorem current_of_none {t : Threads ι ρ σ α} (h : t.holder = none) (i : ι) :
    t.current i = [] := by
  rw [current, h]

theorem current_of_some {t : Threads ι ρ σ α} {h : Holder ι ρ σ α} (hsome : t.holder = some h)
    (i : ι) : t.current i = if h.thread = i then [h.request] else [] := by
  rw [current, hsome]

/-- Every step of every thread keeps the run serial. -/
theorem Serial.step {s₀ : σ} {todo₀ : ι → List ρ} {t : Threads ι ρ σ α}
    (ht : Serial body s₀ todo₀ t) (i : ι) : Serial body s₀ todo₀ (t.step body i) := by
  have hstep := step_cases body t i
  generalize t.step body i = t' at hstep ⊢
  cases hstep with
  | idle => exact ht
  | lock r rest hfree htodo =>
      refine ⟨ht.answered, ?_, fun h => (by cases h), ?_⟩
      · intro j
        have horder := ht.order j
        rw [current_of_none hfree, List.append_nil] at horder
        by_cases hij : i = j
        · subst hij
          rw [htodo] at horder
          simpa [current] using horder
        · simpa [current, hij, Function.update_of_ne (Ne.symm hij)] using horder
      · intro h hh
        cases hh
        exact congrArg (body r).exec (ht.free hfree)
  | unlock r a hheld =>
      have hresult := ht.held _ hheld
      refine ⟨?_, ?_, fun _ => ?_, fun h hh => (by cases hh)⟩
      · rw [along_append]
        exact ⟨ht.answered, (congrArg Prod.fst hresult).symm, trivial⟩
      · intro j
        have horder := ht.order j
        rw [current_of_some hheld] at horder
        rw [requestsOf_concat]
        simpa [current] using horder
      · rw [run_concat]
        exact congrArg Prod.snd hresult
  | access r f next hheld =>
      refine ⟨ht.answered, ?_, fun h => (by cases h), ?_⟩
      · intro j
        have horder := ht.order j
        rw [current_of_some hheld] at horder
        simpa [current] using horder
      · intro h hh
        cases hh
        exact ht.held _ hheld

/-- Whatever the schedule, the run is serial. -/
theorem serial_run (body : ρ → Section σ α) (s₀ : σ) (todo₀ : ι → List ρ) (schedule : List ι) :
    Serial body s₀ todo₀ (run (step body) (start s₀ todo₀) schedule) := by
  have hstep : ∀ (t : Threads ι ρ σ α) i,
      Serial body s₀ todo₀ t → Serial body s₀ todo₀ (t.step body i) :=
    fun _ i ht => ht.step i
  exact run_of_invariant hstep (serial_start body s₀ todo₀) schedule

/-! ## The mutex is released -/

/-- What is left of the section under way makes at most `n` accesses. -/
def HolderWithin (n : Nat) (t : Threads ι ρ σ α) : Prop :=
  ∀ h, t.holder = some h → h.rest.Within n

theorem HolderWithin.step {n : Nat} (hbody : ∀ r, (body r).Within n) {t : Threads ι ρ σ α}
    (ht : HolderWithin n t) (i : ι) : HolderWithin n (t.step body i) := by
  have hstep := step_cases body t i
  generalize t.step body i = t' at hstep ⊢
  cases hstep with
  | idle => exact ht
  | lock r rest hfree htodo =>
      rintro h ⟨⟩
      exact hbody r
  | unlock r a hheld => rintro h ⟨⟩
  | access r f next hheld =>
      rintro h ⟨⟩
      have hrest := ht _ hheld
      cases n with
      | zero => exact hrest.elim
      | succ n => exact (hrest t.shared).mono (Nat.le_succ n)

theorem holderWithin_run {n : Nat} (hbody : ∀ r, (body r).Within n) (s₀ : σ)
    (todo₀ : ι → List ρ) (schedule : List ι) :
    HolderWithin n (run (step body) (start s₀ todo₀) schedule) := by
  have hstep : ∀ (t : Threads ι ρ σ α) i, HolderWithin n t → HolderWithin n (t.step body i) :=
    fun _ i ht => ht.step hbody i
  exact run_of_invariant hstep (fun _ h => by cases h) schedule

/-- A section that makes at most `n` more accesses is over, and the mutex free, once its
thread has made `n + 1` more steps, whatever the other threads do. -/
theorem holder_released {t : Threads ι ρ σ α} {h : Holder ι ρ σ α} (hheld : t.holder = some h)
    {n : Nat} (hwithin : h.rest.Within n) {schedule : List ι}
    (hcount : n < schedule.count h.thread) :
    ∃ front, front <+: schedule ∧ (run (step body) t front).holder = none ∧
      ∃ a, (run (step body) t front).served = t.served ++ [⟨h.thread, h.request, a⟩] := by
  induction schedule generalizing t h n with
  | nil => simp at hcount
  | cons i rest ih =>
      obtain ⟨thread, r, left⟩ := h
      by_cases hij : thread = i
      · subst hij
        cases left with
        | done a =>
            refine ⟨[thread], List.cons_prefix_cons.mpr ⟨rfl, List.nil_prefix⟩, ?_, a, ?_⟩
            · simp [step, hheld]
            · simp [step, hheld]
        | access f next =>
            have hstep : t.step body thread =
                { t with shared := f t.shared, holder := some ⟨thread, r, next t.shared⟩ } := by
              simp [step, hheld]
            cases n with
            | zero => exact hwithin.elim
            | succ n =>
                rw [List.count_cons_self] at hcount
                obtain ⟨front, hfront, hfree⟩ := ih (t := t.step body thread)
                  (h := ⟨thread, r, next t.shared⟩) (by rw [hstep]) (hwithin t.shared)
                  (by simpa using hcount)
                refine ⟨thread :: front, List.cons_prefix_cons.mpr ⟨rfl, hfront⟩, ?_⟩
                rw [run_cons, hstep] at *
                exact hfree
      · have hstep : t.step body i = t := by simp [step, hheld, hij]
        rw [List.count_cons_of_ne (Ne.symm hij)] at hcount
        obtain ⟨front, hfront, hfree⟩ := ih hheld hwithin hcount
        refine ⟨i :: front, List.cons_prefix_cons.mpr ⟨rfl, hfront⟩, ?_⟩
        rw [run_cons, hstep]
        exact hfree

end Threads

end MediatekCommon.Foundation
