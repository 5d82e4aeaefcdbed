/-
  Foundation/Timeouts.lean --- an event loop with one timeout for each key, which every
  request puts off.

  A request cancels the timeout of its key and registers it anew; the loop runs the
  timeouts that are due.  So a run of requests is answered once, and not before the last
  of them is `delay` old (`Debounced`).

  The loop is a parameter: `EventLoop.Documented` says what it is relied on for.  Nothing
  here mentions what the keys are or what a timeout does.
-/
import Mathlib.Data.List.Pairwise
import Mathlib.Data.List.Perm.Basic
import Mathlib.Data.List.Sort

set_option autoImplicit false

namespace MediatekCommon.Foundation

variable {σ κ : Type} [DecidableEq κ]

/-! ## The loop -/

/-- A registered timeout: whose it is, and when it is due. -/
structure Timeout (κ : Type) where
  key : κ
  due : Nat
  deriving DecidableEq, Repr

/-- An event loop with the states `σ`. -/
structure EventLoop (σ κ : Type) where
  now : σ → Nat
  /-- What is registered, in whatever order the loop keeps it. -/
  timeouts : σ → List (Timeout κ)
  cancel : κ → σ → σ
  /-- Register a timeout that is due this much later. -/
  register : Nat → κ → σ → σ
  /-- Time passes. -/
  pass : Nat → σ → σ
  /-- Get to the timeouts: the key of the one that is run, if one is. -/
  fire : σ → Option κ × σ

/-- The loop does what it is there for, and has room for what is registered. -/
structure EventLoop.Documented (E : EventLoop σ κ) : Prop where
  now_cancel (key : κ) (l : σ) : E.now (E.cancel key l) = E.now l
  /-- Every timeout of the key is cancelled, and no other. -/
  timeouts_cancel (key : κ) (l : σ) :
    (E.timeouts (E.cancel key l)).Perm ((E.timeouts l).filter fun t => t.key ≠ key)
  now_register (delay : Nat) (key : κ) (l : σ) : E.now (E.register delay key l) = E.now l
  timeouts_register (delay : Nat) (key : κ) (l : σ) :
    (E.timeouts (E.register delay key l)).Perm (⟨key, E.now l + delay⟩ :: E.timeouts l)
  now_pass (d : Nat) (l : σ) : E.now (E.pass d l) = E.now l + d
  timeouts_pass (d : Nat) (l : σ) : E.timeouts (E.pass d l) = E.timeouts l
  now_fire (l : σ) : E.now (E.fire l).2 = E.now l
  timeouts_fire_none (l : σ) : (E.fire l).1 = none → E.timeouts (E.fire l).2 = E.timeouts l
  /-- What is run was registered and is due; it is registered no longer. -/
  timeouts_fire_some (l : σ) (key : κ) : (E.fire l).1 = some key →
    ∃ t, t.key = key ∧ t.due ≤ E.now l ∧ (E.timeouts l).Perm (t :: E.timeouts (E.fire l).2)

/-! ## The last request of a key -/

/-- When a key was requested last. -/
def lastAsked (asked : List (κ × Nat)) (key : κ) : Option Nat :=
  (asked.filterMap fun a => if a.1 = key then some a.2 else none).getLast?

theorem lastAsked_concat (asked : List (κ × Nat)) (key key' : κ) (time : Nat) :
    lastAsked (asked ++ [(key, time)]) key' =
      if key = key' then some time else lastAsked asked key' := by
  unfold lastAsked
  rw [List.filterMap_append]
  by_cases h : key = key' <;> simp [h]

theorem mem_of_lastAsked {asked : List (κ × Nat)} {key : κ} {time : Nat}
    (h : lastAsked asked key = some time) : (key, time) ∈ asked := by
  obtain ⟨a, ha, hsome⟩ := List.mem_filterMap.mp (List.mem_of_getLast? h)
  split at hsome
  · rename_i hkey
    obtain rfl := Option.some.inj hsome
    rw [← hkey]
    exact ha
  · cases hsome

/-! ## What is promised -/

/-- At this time, with these timeouts registered, the requests have been answered as they
should. -/
structure Debounced (delay : Nat) (asked : List (κ × Nat)) (now : Nat)
    (timeouts : List (Timeout κ)) (answers : List (κ × Nat)) : Prop where
  /-- A key has one timeout at most. -/
  distinct : (timeouts.map Timeout.key).Nodup
  /-- A timeout is for the last request of its key, and that one is not answered yet. -/
  pending : ∀ t ∈ timeouts, ∃ since, lastAsked asked t.key = some since ∧
    t.due = since + delay ∧ ∀ f ∈ answers, f.1 = t.key → f.2 ≤ since
  /-- The last request of a key has its timeout, or is answered. -/
  answered : ∀ key since, lastAsked asked key = some since →
    ⟨key, since + delay⟩ ∈ timeouts ∨ ∃ time, (key, time) ∈ answers ∧ since + delay ≤ time
  /-- The answers to a key lie `delay` apart. -/
  spaced : answers.Pairwise fun f f' => f.1 = f'.1 → f.2 + delay ≤ f'.2
  /-- Each answer comes `delay` behind the last request of its key before it. -/
  quiet : ∀ f ∈ answers, ∃ since, (f.1, since) ∈ asked ∧ since + delay ≤ f.2 ∧
    ∀ a ∈ asked, a.1 = f.1 → a.2 ≤ since ∨ f.2 ≤ a.2
  /-- The last request of a key is the latest. -/
  latest : ∀ a ∈ asked, a.2 ≤ now ∧ ∃ since, lastAsked asked a.1 = some since ∧ a.2 ≤ since
  /-- What was answered lies in the past. -/
  past : ∀ f ∈ answers, f.2 ≤ now

theorem Debounced.start (delay now : Nat) :
    Debounced delay ([] : List (κ × Nat)) now [] [] where
  distinct := List.nodup_nil
  pending := by simp
  answered := by simp [lastAsked]
  spaced := List.Pairwise.nil
  quiet := by simp
  latest := by simp
  past := by simp

section Debounced

variable {delay now : Nat} {asked answers : List (κ × Nat)} {timeouts : List (Timeout κ)}

theorem Debounced.pass (h : Debounced delay asked now timeouts answers) (d : Nat) :
    Debounced delay asked (now + d) timeouts answers where
  distinct := h.distinct
  pending := h.pending
  answered := h.answered
  spaced := h.spaced
  quiet := h.quiet
  latest a ha := ⟨Nat.le_add_right_of_le (h.latest a ha).1, (h.latest a ha).2⟩
  past f hf := Nat.le_add_right_of_le (h.past f hf)

/-- The order in which the loop keeps the timeouts is of no account. -/
theorem Debounced.perm {timeouts' : List (Timeout κ)}
    (h : Debounced delay asked now timeouts answers) (hperm : timeouts.Perm timeouts') :
    Debounced delay asked now timeouts' answers where
  distinct := (hperm.map Timeout.key).nodup_iff.mp h.distinct
  pending t ht := h.pending t (hperm.mem_iff.mpr ht)
  answered key since hlast := (h.answered key since hlast).imp_left hperm.mem_iff.mp
  spaced := h.spaced
  quiet := h.quiet
  latest := h.latest
  past := h.past

/-- A request puts the answer to its key off. -/
theorem Debounced.rearm (h : Debounced delay asked now timeouts answers) (key : κ) :
    Debounced delay (asked ++ [(key, now)]) now
      (⟨key, now + delay⟩ :: timeouts.filter fun t => t.key ≠ key) answers where
  distinct := by
    rw [List.map_cons, List.nodup_cons]
    refine ⟨fun hmem => ?_, (List.filter_sublist.map _).nodup h.distinct⟩
    obtain ⟨t, ht, hkey⟩ := List.mem_map.mp hmem
    exact of_decide_eq_true (List.mem_filter.mp ht).2 hkey
  pending := by
    intro t ht
    rcases List.mem_cons.mp ht with rfl | hold
    · exact ⟨now, by rw [lastAsked_concat, if_pos rfl], rfl, fun f hf _ => h.past f hf⟩
    · obtain ⟨hmem, hkey⟩ := List.mem_filter.mp hold
      obtain ⟨since, hlast, hrest⟩ := h.pending t hmem
      refine ⟨since, ?_, hrest⟩
      rw [lastAsked_concat, if_neg (Ne.symm (of_decide_eq_true hkey)), hlast]
  answered := by
    intro key' since hlast
    rw [lastAsked_concat] at hlast
    split at hlast
    · rename_i hkey
      obtain rfl := Option.some.inj hlast
      exact .inl (by rw [hkey]; exact List.mem_cons_self)
    · rename_i hkey
      rcases h.answered key' since hlast with hmem | hanswered
      · have hkept : decide (key' ≠ key) = true := decide_eq_true (Ne.symm hkey)
        exact .inl (List.mem_cons_of_mem _ (List.mem_filter.mpr ⟨hmem, hkept⟩))
      · exact .inr hanswered
  spaced := h.spaced
  quiet := by
    intro f hf
    obtain ⟨since, hmem, hdelay, hbetween⟩ := h.quiet f hf
    refine ⟨since, List.mem_append_left _ hmem, hdelay, fun a ha hkey => ?_⟩
    rcases List.mem_append.mp ha with hold | hnew
    · exact hbetween a hold hkey
    · obtain rfl := List.mem_singleton.mp hnew
      exact .inr (h.past f hf)
  latest := by
    intro a ha
    rw [lastAsked_concat]
    rcases List.mem_append.mp ha with hold | hnew
    · obtain ⟨hpast, since, hlast, hle⟩ := h.latest a hold
      refine ⟨hpast, ?_⟩
      split
      · exact ⟨now, rfl, hpast⟩
      · exact ⟨since, hlast, hle⟩
    · obtain rfl := List.mem_singleton.mp hnew
      exact ⟨Nat.le_refl _, now, if_pos rfl, Nat.le_refl _⟩
  past := h.past

/-- A timeout that is due answers the last request of its key. -/
theorem Debounced.answer {t : Timeout κ} (h : Debounced delay asked now (t :: timeouts) answers)
    (hdue : t.due ≤ now) :
    Debounced delay asked now timeouts (answers ++ [(t.key, now)]) := by
  obtain ⟨hnew, hdistinct⟩ := List.nodup_cons.mp h.distinct
  obtain ⟨since, hlast, hsince, hbefore⟩ := h.pending t List.mem_cons_self
  have hold : since + delay ≤ now := hsince ▸ hdue
  refine ⟨hdistinct, ?_, ?_, ?_, ?_, h.latest, ?_⟩
  · intro t' ht'
    obtain ⟨since', hlast', hdue', hbefore'⟩ := h.pending t' (List.mem_cons_of_mem _ ht')
    refine ⟨since', hlast', hdue', fun f hf hkey => ?_⟩
    rcases List.mem_append.mp hf with hf | hf
    · exact hbefore' f hf hkey
    · obtain rfl := List.mem_singleton.mp hf
      have hmem : t.key ∈ timeouts.map Timeout.key :=
        List.mem_map.mpr ⟨t', ht', Eq.symm hkey⟩
      exact absurd hmem hnew
  · intro key since' hlast'
    rcases h.answered key since' hlast' with hmem | ⟨time, hmem, hdelay⟩
    · rcases List.mem_cons.mp hmem with rfl | hmem
      · exact .inr ⟨now, List.mem_append_right _ (List.mem_singleton_self _), hdue⟩
      · exact .inl hmem
    · exact .inr ⟨time, List.mem_append_left _ hmem, hdelay⟩
  · refine List.pairwise_append.mpr ⟨h.spaced, List.pairwise_singleton _ _, ?_⟩
    intro f hf f' hf' hkey
    obtain rfl := List.mem_singleton.mp hf'
    have hearlier : f.2 ≤ since := hbefore f hf hkey
    show f.2 + delay ≤ now
    omega
  · intro f hf
    rcases List.mem_append.mp hf with hf | hf
    · exact h.quiet f hf
    · obtain rfl := List.mem_singleton.mp hf
      refine ⟨since, mem_of_lastAsked hlast, hold, fun a ha hkey => .inl ?_⟩
      obtain ⟨-, since', hlast', hle⟩ := h.latest a ha
      rw [hkey, hlast] at hlast'
      rwa [Option.some.inj hlast']
  · intro f hf
    rcases List.mem_append.mp hf with hf | hf
    · exact h.past f hf
    · obtain rfl := List.mem_singleton.mp hf
      exact Nat.le_refl _

/-- Where no timeout is overdue, each key whose last request is `delay` old is answered. -/
theorem Debounced.answered_of_none_overdue (h : Debounced delay asked now timeouts answers)
    (hdue : ∀ t ∈ timeouts, now < t.due) {key : κ} {since : Nat}
    (hlast : lastAsked asked key = some since) (hold : since + delay ≤ now) :
    ∃ time, (key, time) ∈ answers ∧ since + delay ≤ time := by
  refine (h.answered key since hlast).resolve_left fun hmem => ?_
  exact absurd hold (Nat.not_le.mpr (hdue _ hmem))

/-! ## The loop keeps it -/

variable {E : EventLoop σ κ} {l : σ}

theorem EventLoop.Documented.debounced_rearm (hE : E.Documented)
    (h : Debounced delay asked (E.now l) (E.timeouts l) answers) (key : κ) :
    Debounced delay (asked ++ [(key, E.now l)]) (E.now (E.register delay key (E.cancel key l)))
      (E.timeouts (E.register delay key (E.cancel key l))) answers := by
  have hregister := hE.timeouts_register delay key (E.cancel key l)
  rw [hE.now_cancel] at hregister
  have hperm := hregister.trans ((hE.timeouts_cancel key l).cons _)
  rw [hE.now_register, hE.now_cancel]
  exact (h.rearm key).perm hperm.symm

theorem EventLoop.Documented.debounced_pass (hE : E.Documented)
    (h : Debounced delay asked (E.now l) (E.timeouts l) answers) (d : Nat) :
    Debounced delay asked (E.now (E.pass d l)) (E.timeouts (E.pass d l)) answers := by
  rw [hE.now_pass, hE.timeouts_pass]
  exact h.pass d

/-- What the loop runs, put behind the answers, answers the last request of its key. -/
theorem EventLoop.Documented.debounced_fire (hE : E.Documented)
    (h : Debounced delay asked (E.now l) (E.timeouts l) answers) :
    Debounced delay asked (E.now (E.fire l).2) (E.timeouts (E.fire l).2)
      (answers ++ ((E.fire l).1.map fun key => (key, E.now l)).toList) := by
  rw [hE.now_fire]
  cases hfire : (E.fire l).1 with
  | none =>
      rw [hE.timeouts_fire_none l hfire]
      rwa [Option.map_none, Option.toList_none, List.append_nil]
  | some key =>
      obtain ⟨t, rfl, hdue, hperm⟩ := hE.timeouts_fire_some l key hfire
      exact (h.perm hperm).answer hdue

end Debounced

/-! ## Such a loop -/

/-- The state of a loop that keeps its timeouts in the order they are due in. -/
structure TimeoutQueue (κ : Type) where
  now : Nat
  timeouts : List (Timeout κ)

/-- The loop that runs the first of them, if it is due. -/
def EventLoop.queue : EventLoop (TimeoutQueue κ) κ where
  now := TimeoutQueue.now
  timeouts := TimeoutQueue.timeouts
  cancel key l := { l with timeouts := l.timeouts.filter fun t => t.key ≠ key }
  register delay key l :=
    { l with
      timeouts := l.timeouts.orderedInsert (fun t t' => t.due < t'.due) ⟨key, l.now + delay⟩ }
  pass d l := { l with now := l.now + d }
  fire l :=
    match l.timeouts with
    | [] => (none, l)
    | t :: rest => if t.due ≤ l.now then (some t.key, { l with timeouts := rest }) else (none, l)

theorem EventLoop.queue_documented :
    (EventLoop.queue : EventLoop (TimeoutQueue κ) κ).Documented where
  now_cancel _ _ := rfl
  timeouts_cancel _ _ := List.Perm.refl _
  now_register _ _ _ := rfl
  timeouts_register _ _ _ := List.perm_orderedInsert _ _ _
  now_pass _ _ := rfl
  timeouts_pass _ _ := rfl
  now_fire l := by
    obtain ⟨now, timeouts⟩ := l
    unfold EventLoop.queue
    cases timeouts with
    | nil => rfl
    | cons t rest =>
        dsimp only
        split <;> rfl
  timeouts_fire_none l := by
    obtain ⟨now, timeouts⟩ := l
    unfold EventLoop.queue
    cases timeouts with
    | nil => exact fun _ => rfl
    | cons t rest =>
        dsimp only
        split
        · exact fun h => nomatch h
        · exact fun _ => rfl
  timeouts_fire_some l key := by
    obtain ⟨now, timeouts⟩ := l
    unfold EventLoop.queue
    cases timeouts with
    | nil => exact fun h => nomatch h
    | cons t rest =>
        dsimp only
        split
        · rename_i hdue
          exact fun h => ⟨t, Option.some.inj h, hdue, List.Perm.refl _⟩
        · exact fun h => nomatch h

end MediatekCommon.Foundation
