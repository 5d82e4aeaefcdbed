/-
  Foundation/CachedSetter.lean --- a setter that skips a request for the value it
  remembers.

  The setter remembers the value requested last, and passes a request on only if it
  asks for another one.  Not every value has something to be written; `write` says
  what.  When the remembered value is the one written last, the output is what the
  last request with an effect says (`output_follows_of_written`).  When it is a value
  that was never written, the output misses the requests for it a run starts with
  (`output_run`), and it follows the requests exactly if others come behind them
  (`output_follows_iff`).  A setter that loses what it remembers, and starts anew from
  an initial value while the output stays, misses a request only for that value
  (`shows_set_iff`).  Nothing here mentions what the values are.
-/
import MediatekCommon.Foundation.Runs

set_option autoImplicit false

namespace MediatekCommon.Foundation

variable {α β : Type} [DecidableEq α]

/-- The value remembered and what was written last, if anything was. -/
structure CachedOutput (α β : Type) where
  cache : α
  output : Option β

namespace CachedOutput

/-- A request for `a`. -/
def set (write : α → Option β) (s : CachedOutput α β) (a : α) : CachedOutput α β :=
  if a = s.cache then s else { cache := a, output := (write a).or s.output }

/-- Behind these requests the output is what the last one with an effect says. -/
def Follows (write : α → Option β) (s : CachedOutput α β) (requests : List α) : Prop :=
  ∀ b, (requests.filterMap write).getLast? = some b →
    (run (set write) s requests).output = some b

theorem set_of_eq (write : α → Option β) {s : CachedOutput α β} {a : α} (h : a = s.cache) :
    s.set write a = s := if_pos h

theorem set_of_ne (write : α → Option β) {s : CachedOutput α β} {a : α} (h : a ≠ s.cache) :
    s.set write a = ⟨a, (write a).or s.output⟩ := if_neg h

/-- A request without an effect leaves the output. -/
theorem output_set_of_none {write : α → Option β} {a : α} (h : write a = none)
    (s : CachedOutput α β) : (s.set write a).output = s.output := by
  unfold set
  split
  · rfl
  · rw [h, Option.none_or]

/-! ## The last request with an effect -/

omit [DecidableEq α] in
theorem getLast?_filterMap_cons (write : α → Option β) (a : α) (requests : List α) :
    ((a :: requests).filterMap write).getLast? =
      ((requests.filterMap write).getLast?).or (write a) := by
  rw [List.filterMap_cons]
  cases write a with
  | none => rw [Option.or_none]
  | some b =>
      cases h : (requests.filterMap write).getLast? <;> simp [List.getLast?_cons, h]

omit [DecidableEq α] in
theorem isSome_getLast?_filterMap {write : α → Option β} {a : α} {requests : List α}
    (ha : a ∈ requests) (hsome : (write a).isSome) :
    ((requests.filterMap write).getLast?).isSome := by
  obtain ⟨b, hb⟩ := Option.isSome_iff_exists.mp hsome
  have hmem : b ∈ requests.filterMap write := List.mem_filterMap.mpr ⟨a, ha, hb⟩
  exact List.getLast?_isSome.mpr (List.ne_nil_of_mem hmem)

/-- Behind a request for `a` those that repeat it make no difference. -/
theorem getLast?_filterMap_dropWhile (write : α → Option β) (a : α) (requests : List α) :
    (((requests.dropWhile (· = a)).filterMap write).getLast?).or (write a) =
      ((requests.filterMap write).getLast?).or (write a) := by
  induction requests with
  | nil => rfl
  | cons first rest ih =>
      by_cases h : first = a
      · subst h
        rw [List.dropWhile_cons_of_pos (by simp), ih, getLast?_filterMap_cons, Option.or_assoc,
          Option.or_self]
      · rw [List.dropWhile_cons_of_neg (by simpa using h)]

/-- The requests for the remembered value that a run starts with are lost. -/
theorem output_run (write : α → Option β) (s : CachedOutput α β) (requests : List α) :
    (run (set write) s requests).output =
      (((requests.dropWhile (· = s.cache)).filterMap write).getLast?).or s.output := by
  induction requests generalizing s with
  | nil => rfl
  | cons first rest ih =>
      rw [run_cons]
      by_cases h : first = s.cache
      · rw [set_of_eq write h, ih, List.dropWhile_cons_of_pos (by simpa using h)]
      · rw [set_of_ne write h, ih, List.dropWhile_cons_of_neg (by simpa using h),
          getLast?_filterMap_cons, ← Option.or_assoc]
        exact congrArg (Option.or · s.output) (getLast?_filterMap_dropWhile write first rest)

/-- When the remembered value is the one written last, the output follows. -/
theorem output_follows_of_written {write : α → Option β} {s : CachedOutput α β}
    (h : s.output = write s.cache) (requests : List α) : s.Follows write requests := by
  intro b hb
  rw [output_run, h, getLast?_filterMap_dropWhile, hb, Option.some_or]

/-- So it does behind requests that start with another value. -/
theorem follows_of_head_ne (write : α → Option β) {s : CachedOutput α β} {requests : List α}
    (h : requests.head? ≠ some s.cache) : s.Follows write requests := by
  have hdrop : requests.dropWhile (· = s.cache) = requests := by
    cases requests with
    | nil => rfl
    | cons first rest =>
        have hne : first ≠ s.cache := fun heq => h (congrArg some heq)
        rw [List.dropWhile_cons_of_neg (by simpa using hne)]
  intro b hb
  rw [output_run, hdrop, hb, Option.some_or]

/-- And where a request with an effect comes behind those that are lost. -/
theorem follows_of_later {write : α → Option β} {s : CachedOutput α β} {requests : List α} {a : α}
    (ha : a ∈ requests.dropWhile (· = s.cache)) (hsome : (write a).isSome) :
    s.Follows write requests := by
  intro b hb
  obtain ⟨b', hlast⟩ := Option.isSome_iff_exists.mp (isSome_getLast?_filterMap ha hsome)
  rw [← List.takeWhile_append_dropWhile (p := (· = s.cache)) (l := requests),
    List.filterMap_append, List.getLast?_append, hlast, Option.some_or] at hb
  rw [output_run, hlast, Option.some_or, hb]

/-- When nothing was written and the remembered value has something to be written, the
output follows exactly if the requests start with another one, or one with an effect
comes behind those for the remembered value. -/
theorem output_follows_iff {write : α → Option β} {s : CachedOutput α β} (hunset : s.output = none)
    (hcache : (write s.cache).isSome) (requests : List α) :
    s.Follows write requests ↔
      requests.head? ≠ some s.cache ∨
        ∃ a ∈ requests.dropWhile (· = s.cache), (write a).isSome := by
  constructor
  · intro hfollows
    by_contra hlost
    rw [not_or, not_not] at hlost
    obtain ⟨hhead, hnone⟩ := hlost
    -- The first request has an effect, but nothing is written.
    obtain ⟨b, hb⟩ := Option.isSome_iff_exists.mp
      (isSome_getLast?_filterMap (List.mem_of_head? hhead) hcache)
    have hempty : (requests.dropWhile (· = s.cache)).filterMap write = [] := by
      rw [List.filterMap_eq_nil_iff]
      intro a ha
      rw [← Option.not_isSome_iff_eq_none]
      exact fun hsome => hnone ⟨a, ha, hsome⟩
    have houtput := hfollows b hb
    rw [output_run, hempty, hunset] at houtput
    cases houtput
  · rintro (hhead | ⟨a, ha, hsome⟩)
    · exact follows_of_head_ne write hhead
    · exact follows_of_later ha hsome

/-! ## A setter that starts anew -/

/-- The output is what the last request with an effect said, if there was one. -/
def Shows (s : CachedOutput α β) (last : Option β) : Prop :=
  ∀ b, last = some b → s.output = some b

/-- A remembered value other than the one the setter starts with has been written. -/
def Written (write : α → Option β) (initial : α) (s : CachedOutput α β) : Prop :=
  s.cache ≠ initial → ∀ b, write s.cache = some b → s.output = some b

theorem Written.set {write : α → Option β} {initial : α} {s : CachedOutput α β}
    (hs : Written write initial s) (a : α) : Written write initial (s.set write a) := by
  by_cases h : a = s.cache
  · rwa [set_of_eq write h]
  · rw [set_of_ne write h]
    intro _ b hb
    dsimp only at hb ⊢
    rw [hb, Option.some_or]

/-- From an output that shows the last request, the output shows this one too, unless the
setter starts with its value and has not written it. -/
theorem shows_set_iff {write : α → Option β} {initial a : α} {s : CachedOutput α β}
    {last : Option β} (hs : Written write initial s) (hshows : Shows s last) :
    Shows (s.set write a) ((write a).or last) ↔
      (a = initial → s.cache = initial → ∀ b, write a = some b → s.output = some b) := by
  by_cases h : a = s.cache
  · rw [set_of_eq write h]
    subst h
    constructor
    · intro hshown _ _ b hb
      exact hshown b (by rw [hb, Option.some_or])
    · intro hwritten b hb
      cases ha : write s.cache with
      | none => exact hshows b (by rwa [ha, Option.none_or] at hb)
      | some value =>
          rw [ha, Option.some_or] at hb
          obtain rfl := Option.some.inj hb
          by_cases hinitial : s.cache = initial
          · exact hwritten hinitial hinitial value ha
          · exact hs hinitial value ha
  · rw [set_of_ne write h]
    refine iff_of_true ?_ fun ha hcache => absurd (ha.trans hcache.symm) h
    intro b hb
    dsimp only
    cases ha : write a with
    | none =>
        rw [ha, Option.none_or] at hb
        exact hshows b hb
    | some value => rwa [ha] at hb

end CachedOutput

end MediatekCommon.Foundation
