/-
  Ril/RepeatedRefresh.lean --- `updateEmergencyNumbersProperty`, called again and again.

  Every call reads back through `split` what the call before wrote through `join`,
  and since the customised numbers are removed and appended again it may write them
  in another order.  The set of numbers is fixed after the first call, though, and
  with it the length of the property, so that a first call whose lists fit is
  followed by calls whose lists fit.  Nothing looks at that length before the write:
  a call completes exactly when both of its lists fit
  (`updateEmergencyNumbersProperty_completes_iff`).
-/
import Mathlib.Logic.Function.Iterate
import MediatekCommon.Ril.EccRefresh

set_option autoImplicit false

namespace MediatekCommon.Ril

open MediatekCommon.Foundation
open MediatekCommon.Foundation.JavaString

/-! ## Lists without repetition -/

/-- The value is a comma-separated list of exactly these numbers, without repetition; the
empty value lists none. -/
def ListsExactly (value : JavaString) (S : Set JavaString) : Prop :=
  ∃ numbers : List JavaString,
    (∀ n ∈ numbers, PlainNumber n) ∧ numbers.Nodup ∧ value = join ',' numbers ∧
      {n | n ∈ numbers} = S

/-- The customised numbers are not repeated. -/
def DistinctEccs (custom : List EccEntry) : Prop := (custom.map EccEntry.mEcc).Nodup

/-- The numbers of a property after its refresh. -/
def refreshedNumbers (custom : List EccEntry) (value : JavaString) (S : Set JavaString) :
    Set JavaString :=
  S ∪ fixedNumbers custom ∪ {n | value = [] ∧ n ∈ noSimNumbers custom}

theorem ListsExactly.numberList {value : JavaString} {S : Set JavaString}
    (h : ListsExactly value S) : NumberList value := by
  obtain ⟨numbers, hplain, -, hvalue, -⟩ := h
  exact ⟨numbers, hplain, hvalue⟩

theorem ListsExactly.simNumbers_eq {value : JavaString} {S : Set JavaString}
    (h : ListsExactly value S) : simNumbers value = S := by
  obtain ⟨numbers, hplain, -, rfl, rfl⟩ := h
  exact simNumbers_join hplain

theorem ListsExactly.eq_nil_iff {value : JavaString} {S : Set JavaString}
    (h : ListsExactly value S) : value = [] ↔ S = ∅ := by
  obtain ⟨numbers, hplain, -, rfl, rfl⟩ := h
  rw [join_eq_nil_iff fun n hn => (hplain n hn).1, Set.eq_empty_iff_forall_notMem,
    List.eq_nil_iff_forall_not_mem]
  rfl

/-- Two lists of the same numbers have the same length. -/
theorem ListsExactly.length_eq {value value' : JavaString} {S : Set JavaString}
    (h : ListsExactly value S) (h' : ListsExactly value' S) : value.length = value'.length := by
  obtain ⟨numbers, -, hnodup, rfl, hS⟩ := h
  obtain ⟨numbers', -, hnodup', rfl, hS'⟩ := h'
  refine length_join_of_perm ((List.perm_ext_iff_of_nodup hnodup hnodup').mpr fun n => ?_)
  exact Set.ext_iff.mp (hS.trans hS'.symm) n

/-! ## One refresh -/

theorem nodup_removeAll_append {list other : List JavaString} (hlist : list.Nodup)
    (hother : other.Nodup) : (removeAll list other ++ other).Nodup := by
  refine List.Nodup.append (hlist.filter _) hother fun n hn hmem => ?_
  simp [removeAll, hmem] at hn

theorem nodup_customised {custom : List EccEntry} (hdistinct : DistinctEccs custom)
    (p : EccEntry → Bool) : ((custom.filter p).map EccEntry.mEcc).Nodup :=
  hdistinct.sublist (List.filter_sublist.map _)

theorem nodup_refreshedList {custom : List EccEntry} (hdistinct : DistinctEccs custom)
    {value : JavaString} {S : Set JavaString} (h : ListsExactly value S) :
    (refreshedList custom value).Nodup := by
  have hsplit : ((split ',' value).filter fun n => !n.isEmpty).Nodup := by
    obtain ⟨numbers, hplain, hnodup, rfl, -⟩ := h
    by_cases hnil : numbers = []
    · subst hnil
      decide
    · rw [split_join (fun n hn => (hplain n hn).2) hnil (hplain _ (List.getLast_mem hnil)).1]
      exact hnodup.filter _
  have hfixed : (removeAll ((split ',' value).filter fun n => !n.isEmpty) (fixedList custom) ++
      fixedList custom).Nodup :=
    nodup_removeAll_append hsplit (nodup_customised hdistinct _)
  unfold refreshedList
  split
  · exact nodup_removeAll_append hfixed (nodup_customised hdistinct _)
  · exact hfixed

/-- The list a refresh writes. -/
theorem listsExactly_refreshed {custom : List EccEntry} (hecc : PlainEccs custom)
    (hdistinct : DistinctEccs custom) {value : JavaString} {S : Set JavaString}
    (h : ListsExactly value S) :
    ListsExactly (join ',' (refreshedList custom value)) (refreshedNumbers custom value S) := by
  refine ⟨refreshedList custom value, refreshedList_plain hecc h.numberList,
    nodup_refreshedList hdistinct h, rfl, ?_⟩
  ext n
  rw [Set.mem_ofPred_eq, mem_refreshedList hecc h.numberList, h.simNumbers_eq]
  simp only [refreshedNumbers, Set.mem_union, Set.mem_ofPred_eq, or_assoc]

/-- A second refresh writes the same numbers: the property is empty again only if there is
nothing to list. -/
theorem refreshedNumbers_idem (custom : List EccEntry) {value value' : JavaString}
    {S : Set JavaString} (h : ListsExactly value S)
    (h' : ListsExactly value' (refreshedNumbers custom value S)) :
    refreshedNumbers custom value' (refreshedNumbers custom value S) =
      refreshedNumbers custom value S := by
  have hempty : value' = [] → value = [] := by
    intro hnil
    have hnone := h'.eq_nil_iff.mp hnil
    exact h.eq_nil_iff.mpr (Set.subset_eq_empty (fun n hn => .inl (.inl hn)) hnone)
  ext n
  constructor
  · rintro ((hn | hfixed) | ⟨hnil, hno⟩)
    · exact hn
    · exact .inl (.inr hfixed)
    · exact .inr ⟨hempty hnil, hno⟩
  · exact fun hn => .inl (.inl hn)

/-! ## Many refreshes -/

/-- The list a refresh of this property would write fits a system property. -/
def FitsProperty (custom : List EccEntry) (value : JavaString) : Prop :=
  (join ',' (refreshedList custom value)).length ≤ 91

instance (custom : List EccEntry) (value : JavaString) : Decidable (FitsProperty custom value) :=
  inferInstanceAs (Decidable (_ ≤ _))

theorem refreshSlot_of_fits {P : Platform} (haccepts : P.AcceptsShortValues)
    {custom : List EccEntry} {props : Properties} {key : PropKey}
    (hfits : FitsProperty custom (props key)) :
    refreshSlot P custom props key =
      (.ok (), Function.update props key (join ',' (refreshedList custom (props key)))) :=
  if_pos (haccepts key _ hfits)

/-- The properties a call leaves. -/
def refreshProperties (P : Platform) (custom : List EccEntry) (props : Properties) : Properties :=
  (updateEmergencyNumbersProperty P custom props).2

/-- A call whose two lists fit returns normally and has refreshed both properties. -/
theorem updateEmergencyNumbersProperty_of_fits {P : Platform} (haccepts : P.AcceptsShortValues)
    {custom : List EccEntry} {props : Properties}
    (hfits : ∀ key, IsSimKey key → FitsProperty custom (props key)) :
    (updateEmergencyNumbersProperty P custom props).1 = .ok () ∧
      ∀ key, IsSimKey key →
        refreshProperties P custom props key = join ',' (refreshedList custom (props key)) := by
  have hfirst := refreshSlot_of_fits haccepts (hfits .rilEcclist (.inl rfl))
  generalize hprops : Function.update props .rilEcclist
    (join ',' (refreshedList custom (props .rilEcclist))) = props' at hfirst
  have hother : props' .rilEcclist1 = props .rilEcclist1 := by simp [← hprops]
  have hfits1 : FitsProperty custom (props' .rilEcclist1) := by
    rw [hother]
    exact hfits .rilEcclist1 (.inr rfl)
  have hcall : updateEmergencyNumbersProperty P custom props =
      (.ok (), Function.update props' .rilEcclist1
        (join ',' (refreshedList custom (props .rilEcclist1)))) := by
    rw [updateEmergencyNumbersProperty, hfirst]
    dsimp only
    rw [refreshSlot_of_fits haccepts hfits1, hother]
  refine ⟨by rw [hcall], fun key hkey => ?_⟩
  rw [refreshProperties, hcall]
  rcases hkey with rfl | rfl
  · simp [← hprops]
  · simp

section Repeated

variable {P : Platform} {custom : List EccEntry} {props : Properties}
  {S : PropKey → Set JavaString}

/-- The next call, once a property lists its refreshed numbers. -/
theorem listsExactly_refreshed_again (hecc : PlainEccs custom) (hdistinct : DistinctEccs custom)
    {value value' : JavaString} {T : Set JavaString} (h : ListsExactly value T)
    (h' : ListsExactly value' (refreshedNumbers custom value T))
    (hfits : FitsProperty custom value) :
    ListsExactly (join ',' (refreshedList custom value')) (refreshedNumbers custom value T) ∧
      FitsProperty custom value' := by
  have hagain := listsExactly_refreshed hecc hdistinct h'
  rw [refreshedNumbers_idem custom h h'] at hagain
  have hlength := (listsExactly_refreshed hecc hdistinct h).length_eq hagain
  refine ⟨hagain, ?_⟩
  unfold FitsProperty at hfits ⊢
  rwa [← hlength]

/-- What holds after every call but none. -/
theorem listsExactly_iterate (haccepts : P.AcceptsShortValues) (hecc : PlainEccs custom)
    (hdistinct : DistinctEccs custom)
    (hlists : ∀ key, IsSimKey key → ListsExactly (props key) (S key))
    (hfits : ∀ key, IsSimKey key → FitsProperty custom (props key)) (k : Nat) :
    ∀ key, IsSimKey key →
      ListsExactly ((refreshProperties P custom)^[k + 1] props key)
        (refreshedNumbers custom (props key) (S key)) := by
  induction k with
  | zero =>
      intro key hkey
      rw [Function.iterate_one, (updateEmergencyNumbersProperty_of_fits haccepts hfits).2 key hkey]
      exact listsExactly_refreshed hecc hdistinct (hlists key hkey)
  | succ k ih =>
      intro key hkey
      have hagain := fun key hkey =>
        listsExactly_refreshed_again hecc hdistinct (hlists key hkey) (ih key hkey) (hfits key hkey)
      have hcall := updateEmergencyNumbersProperty_of_fits haccepts fun key hkey =>
        (hagain key hkey).2
      rw [Function.iterate_succ_apply', hcall.2 key hkey]
      exact (hagain key hkey).1

/-- Any number of calls in a row return normally and leave each property with its numbers,
the fixed ones and, if it was empty before the first call, the `ECC_NO_SIM` ones. -/
theorem updateEmergencyNumbersProperty_repeated (haccepts : P.AcceptsShortValues)
    (hecc : PlainEccs custom) (hdistinct : DistinctEccs custom)
    (hlists : ∀ key, IsSimKey key → ListsExactly (props key) (S key))
    (hfits : ∀ key, IsSimKey key → FitsProperty custom (props key)) {n : Nat} (hn : 1 ≤ n) :
    (∀ k < n, (updateEmergencyNumbersProperty P custom
        ((refreshProperties P custom)^[k] props)).1 = .ok ()) ∧
      ∀ key, IsSimKey key →
        ListsExactly ((refreshProperties P custom)^[n] props key)
          (S key ∪ fixedNumbers custom ∪
            {number | props key = [] ∧ number ∈ noSimNumbers custom}) := by
  have hafter := listsExactly_iterate haccepts hecc hdistinct hlists hfits
  refine ⟨fun k _ => ?_, fun key hkey => ?_⟩
  · refine (updateEmergencyNumbersProperty_of_fits haccepts fun key hkey => ?_).1
    cases k with
    | zero => exact hfits key hkey
    | succ k =>
        exact (listsExactly_refreshed_again hecc hdistinct (hlists key hkey)
          (hafter k key hkey) (hfits key hkey)).2
  · obtain ⟨k, rfl⟩ := Nat.exists_eq_add_of_le' hn
    exact hafter k key hkey

end Repeated

/-- A SIM in the first slot, none in the second, and the installed list, refreshed three
times. -/
theorem updateEmergencyNumbersProperty_three_times :
    let props := propertiesOfLists "112,911".toList [] []
    let S : PropKey → Set JavaString := fun key =>
      if key = .rilEcclist then {n | n ∈ ["112".toList, "911".toList]} else ∅
    (∀ k < 3, (updateEmergencyNumbersProperty .reference eccTable
        ((refreshProperties .reference eccTable)^[k] props)).1 = .ok ()) ∧
      ∀ key, IsSimKey key →
        ListsExactly ((refreshProperties .reference eccTable)^[3] props key)
          (S key ∪ fixedNumbers eccTable ∪
            {number | props key = [] ∧ number ∈ noSimNumbers eccTable}) := by
  intro props S
  refine updateEmergencyNumbersProperty_repeated Platform.reference_acceptsShortValues ?_
    (by unfold DistinctEccs; decide) ?_ ?_ (by decide)
  · unfold PlainEccs PlainNumber
    decide
  · rintro key (rfl | rfl)
    · exact ⟨["112".toList, "911".toList], by unfold PlainNumber; decide, by decide, rfl, rfl⟩
    · exact ⟨[], by simp, List.nodup_nil, rfl, by simp [S]⟩
  · rintro key (rfl | rfl) <;> decide

/-- 24 customised numbers of three digits join to 95 characters: the first write throws, and
`ril.ecclist` lists none of them. -/
theorem updateEmergencyNumbersProperty_24_numbers :
    let custom := (List.range 24).map fun i =>
      (⟨(100 + i).repr.toList, "0".toList, eccAlways⟩ : EccEntry)
    let props := propertiesOfLists [] [] []
    PlainEccs custom ∧ DistinctEccs custom ∧
      (∀ key, IsSimKey key → ListsExactly (props key) ∅) ∧
      ¬ ListsExactly ((refreshProperties .reference custom)^[1] props .rilEcclist)
        (∅ ∪ fixedNumbers custom ∪
          {number | props .rilEcclist = [] ∧ number ∈ noSimNumbers custom}) := by
  intro custom props
  have hplain : PlainEccs custom := by
    unfold PlainEccs PlainNumber
    decide
  have hempty : ∀ key, IsSimKey key → ListsExactly (props key) ∅ := by
    rintro key (rfl | rfl) <;> exact ⟨[], by simp, List.nodup_nil, rfl, by simp⟩
  refine ⟨hplain, by unfold DistinctEccs; decide, hempty, fun hlists => ?_⟩
  have hnil : (refreshProperties .reference custom)^[1] props .rilEcclist = [] := by decide
  have hnone := hlists.eq_nil_iff.mp hnil
  have hmem : "100".toList ∈ fixedNumbers custom :=
    ⟨⟨"100".toList, "0".toList, eccAlways⟩, by decide, by decide, rfl⟩
  have hlisted : "100".toList ∈ (∅ : Set JavaString) := by
    rw [← hnone]
    exact .inl (.inr hmem)
  exact Set.notMem_empty _ hlisted

/-! ## The size limit -/

/-- `SystemProperties.set` stores the values of at most 91 characters and throws for the
others. -/
def Platform.LimitsValues (P : Platform) : Prop :=
  ∀ key value, P.acceptsValue key value = true ↔ value.length ≤ 91

theorem Platform.LimitsValues.acceptsShortValues {P : Platform} (h : P.LimitsValues) :
    P.AcceptsShortValues := fun key value => (h key value).mpr

theorem Platform.reference_limitsValues : Platform.reference.LimitsValues := by
  intro key value
  simp [reference]

/-- What a list of numbers takes in a property, with a comma behind each number. -/
def joinedSize (numbers : List JavaString) : Nat := (numbers.map fun n => n.length + 1).sum

theorem joinedSize_append (list other : List JavaString) :
    joinedSize (list ++ other) = joinedSize list + joinedSize other := by
  simp [joinedSize]

/-- The numbers of both lists are counted once. -/
theorem joinedSize_removeAll_append (list other : List JavaString) :
    joinedSize (removeAll list other ++ other) + joinedSize (list.filter other.contains) =
      joinedSize list + joinedSize other := by
  have hsplit : joinedSize (removeAll list other) + joinedSize (list.filter other.contains) =
      joinedSize list := by
    induction list with
    | nil => rfl
    | cons n list ih =>
        simp only [joinedSize, removeAll] at ih ⊢
        cases hn : other.contains n <;>
          simp only [List.filter_cons, hn, Bool.not_true, Bool.not_false, if_true,
            Bool.false_eq_true, if_false, List.map_cons, List.sum_cons] <;> omega
  rw [joinedSize_append, ← hsplit]
  omega

/-- The last number has no comma behind it. -/
theorem length_join_le_iff (numbers : List JavaString) (limit : Nat) :
    (join ',' numbers).length ≤ limit ↔ joinedSize numbers ≤ limit + 1 := by
  by_cases hnil : numbers = []
  · subst hnil
    simp [joinedSize]
  · have hlength : (join ',' numbers).length + 1 = joinedSize numbers := length_join ',' hnil
    omega

/-- A refreshed list fits by the sizes of the numbers that were stored and of the customised
ones, of which those in both are counted once. -/
theorem fitsProperty_iff (custom : List EccEntry) (value : JavaString) :
    FitsProperty custom value ↔
      if value = [] then
        joinedSize (fixedList custom) + joinedSize (fixedListNoSim custom) ≤
          92 + joinedSize ((fixedList custom).filter (fixedListNoSim custom).contains)
      else
        let stored := (split ',' value).filter fun n => !n.isEmpty
        joinedSize stored + joinedSize (fixedList custom) ≤
          92 + joinedSize (stored.filter (fixedList custom).contains) := by
  unfold FitsProperty
  rw [length_join_le_iff]
  by_cases hvalue : value = []
  · subst hvalue
    have hsize := joinedSize_removeAll_append (fixedList custom) (fixedListNoSim custom)
    have hlist : refreshedList custom [] =
        removeAll (fixedList custom) (fixedListNoSim custom) ++ fixedListNoSim custom := rfl
    rw [hlist, if_pos rfl]
    omega
  · have hsize := joinedSize_removeAll_append ((split ',' value).filter fun n => !n.isEmpty)
      (fixedList custom)
    rw [refreshedList, if_neg (by simpa using hvalue), if_neg hvalue]
    dsimp only
    omega

theorem refreshSlot_of_not_fits {P : Platform} (hlimit : P.LimitsValues) {custom : List EccEntry}
    {props : Properties} {key : PropKey} (hfits : ¬ FitsProperty custom (props key)) :
    refreshSlot P custom props key = (.error .illegalArgumentException, props) :=
  if_neg fun haccepts => hfits ((hlimit key _).mp haccepts)

/-- A call whose lists do not both fit ends with the exception of `SystemProperties.set`. -/
theorem updateEmergencyNumbersProperty_of_not_fits {P : Platform} (hlimit : P.LimitsValues)
    {custom : List EccEntry} {props : Properties}
    (hfits : ¬ ∀ key, IsSimKey key → FitsProperty custom (props key)) :
    (updateEmergencyNumbersProperty P custom props).1 = .error .illegalArgumentException := by
  by_cases hfirst : FitsProperty custom (props .rilEcclist)
  · have hsecond : ¬ FitsProperty custom (props .rilEcclist1) := by
      intro hsecond
      refine hfits ?_
      rintro key (rfl | rfl)
      · exact hfirst
      · exact hsecond
    rw [updateEmergencyNumbersProperty, refreshSlot_of_fits hlimit.acceptsShortValues hfirst]
    dsimp only
    -- The first write leaves the other property as it was.
    rw [refreshSlot_of_not_fits hlimit (by simpa using hsecond)]
  · rw [updateEmergencyNumbersProperty, refreshSlot_of_not_fits hlimit hfirst]

/-- The call completes and rewrites both properties exactly when both of its lists fit. -/
theorem updateEmergencyNumbersProperty_completes_iff {P : Platform} (hlimit : P.LimitsValues)
    (custom : List EccEntry) (props : Properties) :
    ((updateEmergencyNumbersProperty P custom props).1 = .ok () ∧
      ∀ key, IsSimKey key →
        (updateEmergencyNumbersProperty P custom props).2 key =
          join ',' (refreshedList custom (props key))) ↔
      ∀ key, IsSimKey key → FitsProperty custom (props key) := by
  constructor
  · rintro ⟨hok, -⟩
    by_contra hfits
    rw [updateEmergencyNumbersProperty_of_not_fits hlimit hfits] at hok
    cases hok
  · exact updateEmergencyNumbersProperty_of_fits hlimit.acceptsShortValues

/-- One slot with a list, the other without, and the installed numbers. -/
theorem updateEmergencyNumbersProperty_completes_installed :
    let props := propertiesOfLists "112,911".toList [] []
    ((updateEmergencyNumbersProperty .reference eccTable props).1 = .ok () ∧
      ∀ key, IsSimKey key →
        (updateEmergencyNumbersProperty .reference eccTable props).2 key =
          join ',' (refreshedList eccTable (props key))) ∧
      ∀ key, IsSimKey key → FitsProperty eccTable (props key) := by
  intro props
  have hfits : ∀ key, IsSimKey key → FitsProperty eccTable (props key) := by
    rintro key (rfl | rfl) <;> decide
  exact ⟨(updateEmergencyNumbersProperty_completes_iff Platform.reference_limitsValues eccTable
    props).mpr hfits, hfits⟩

/-- 22 numbers of the SIM, 87 characters, and the four installed ones that are always
listed: the first write throws, and the second property is not refreshed. -/
theorem updateEmergencyNumbersProperty_22_sim_numbers :
    ¬ ∀ (custom : List EccEntry) (props : Properties),
      (join ',' (custom.map EccEntry.mEcc)).length ≤ 91 →
      (∀ key, IsSimKey key → (props key).length ≤ 91) →
      (updateEmergencyNumbersProperty .reference custom props).1 = .ok () ∧
        ∀ key, IsSimKey key →
          (updateEmergencyNumbersProperty .reference custom props).2 key =
            join ',' (refreshedList custom (props key)) := by
  intro h
  have hcall := h eccTable
    (propertiesOfLists (join ',' ((List.range 22).map fun i => (200 + i).repr.toList)) [] [])
    (by decide) (by rintro key (rfl | rfl) <;> decide)
  exact absurd (hcall.2 .rilEcclist1 (.inr rfl)) (by decide)

end MediatekCommon.Ril
