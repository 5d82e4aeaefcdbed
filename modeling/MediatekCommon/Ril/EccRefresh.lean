/-
  Ril/EccRefresh.lean --- `updateEmergencyNumbersProperty`: the refresh of the two
  SIM lists.

  The refresh rewrites `ril.ecclist` and `ril.ecclist1` one after the other, each
  with its own numbers, the customised numbers, and, when that one property was
  empty, the `ECC_NO_SIM` numbers too.  `isEmergencyNumberExt` reads the same two
  properties but drops the `ECC_NO_SIM` numbers as soon as either has a list.

  In terms of `emergencyNumbers` the refresh of one slot adds nothing, or exactly
  the `ECC_NO_SIM` numbers when the slot is empty (`emergencyNumbers_refreshSlot`).
  So a whole refresh leaves every classification as it was unless exactly one slot
  is empty and the number is listed by `ECC_NO_SIM` entries alone.
-/
import MediatekCommon.Ril.EccList

set_option autoImplicit false

namespace MediatekCommon.Ril

open MediatekCommon.Foundation
open MediatekCommon.Foundation.JavaString

/-! ## The refresh -/

/-- `ArrayList.removeAll`. -/
def removeAll (list other : List JavaString) : List JavaString :=
  list.filter fun n => !other.contains n

/-- `fixedList`: the customised numbers whose condition is not `ECC_NO_SIM`. -/
def fixedList (custom : List EccEntry) : List JavaString :=
  (custom.filter fun e => e.mCondition != eccNoSim).map EccEntry.mEcc

/-- `fixedListNoSim`: the non-empty customised numbers of the other entries. -/
def fixedListNoSim (custom : List EccEntry) : List JavaString :=
  (custom.filter fun e => e.mCondition == eccNoSim && !e.mEcc.isEmpty).map EccEntry.mEcc

/-- `sim1List` (or `sim2List`) as it is joined and written back, for a property
that reads `numbers`. -/
def refreshedList (custom : List EccEntry) (numbers : JavaString) : List JavaString :=
  let simList := (split ',' numbers).filter fun emergencyNum => !emergencyNum.isEmpty
  -- dedupe
  let simList := removeAll simList (fixedList custom) ++ fixedList custom
  if numbers.isEmpty then
    removeAll simList (fixedListNoSim custom) ++ fixedListNoSim custom
  else simList

/-- The refresh of one property. -/
def refreshSlot (P : Platform) (custom : List EccEntry) (props : Properties)
    (key : PropKey) : Except Throwable Unit × Properties :=
  props.set P key (join ',' (refreshedList custom (props key)))

/-- `updateEmergencyNumbersProperty()`.  When the first write is rejected the
second property is not touched. -/
def updateEmergencyNumbersProperty (P : Platform) (custom : List EccEntry)
    (props : Properties) : Except Throwable Unit × Properties :=
  match refreshSlot P custom props .rilEcclist with
  | (.error t, props) => (.error t, props)
  | (.ok (), props) => refreshSlot P custom props .rilEcclist1

/-! ## What is written -/

/-- Non-empty and free of the separator. -/
def PlainNumber (n : JavaString) : Prop := n ≠ [] ∧ ',' ∉ n

/-- A property value that is empty or a comma-separated list of non-empty
numbers. -/
def NumberList (value : JavaString) : Prop :=
  ∃ numbers : List JavaString, (∀ n ∈ numbers, PlainNumber n) ∧ value = join ',' numbers

/-- Every number of the customised list is plain. -/
def PlainEccs (custom : List EccEntry) : Prop :=
  ∀ e ∈ custom, PlainNumber e.mEcc

/-- Reading a joined list back gives its numbers. -/
theorem simNumbers_join {numbers : List JavaString} (h : ∀ n ∈ numbers, PlainNumber n) :
    simNumbers (join ',' numbers) = {ecc | ecc ∈ numbers} := by
  have hne : ∀ n ∈ numbers, n ≠ [] := fun n hn => (h n hn).1
  have hsep : ∀ n ∈ numbers, ',' ∉ n := fun n hn => (h n hn).2
  ext ecc
  simp only [simNumbers, Set.mem_ofPred_eq, Ne, join_eq_nil_iff hne]
  constructor
  · rintro ⟨hnil, hmem⟩
    rwa [split_join hsep hnil (hne _ (List.getLast_mem hnil))] at hmem
  · intro hmem
    have hnil : numbers ≠ [] := List.ne_nil_of_mem hmem
    exact ⟨hnil, by rwa [split_join hsep hnil (hne _ (List.getLast_mem hnil))]⟩

theorem simNumbers_plain {value : JavaString} (h : NumberList value) :
    ∀ ecc ∈ simNumbers value, PlainNumber ecc := by
  obtain ⟨numbers, hplain, rfl⟩ := h
  rw [simNumbers_join hplain]
  exact hplain

/-- The list read from a property, as the refresh filters it. -/
theorem mem_filter_split {value : JavaString} (h : NumberList value) {ecc : JavaString} :
    ecc ∈ (split ',' value).filter (fun n => !n.isEmpty) ↔ ecc ∈ simNumbers value := by
  simp only [List.mem_filter, simNumbers, Set.mem_ofPred_eq]
  constructor
  · rintro ⟨hmem, hne⟩
    refine ⟨?_, hmem⟩
    rintro rfl
    -- The empty value splits into one empty field, which the filter drops.
    simp [split] at hmem
    simp [hmem] at hne
  · rintro ⟨hvalue, hmem⟩
    have hplain := simNumbers_plain h ecc ⟨hvalue, hmem⟩
    exact ⟨hmem, by simpa using hplain.1⟩

theorem mem_fixedList {custom : List EccEntry} {ecc : JavaString} :
    ecc ∈ fixedList custom ↔ ecc ∈ fixedNumbers custom := by
  simp [fixedList, fixedNumbers, and_assoc]

theorem mem_fixedListNoSim {custom : List EccEntry} (h : PlainEccs custom)
    {ecc : JavaString} : ecc ∈ fixedListNoSim custom ↔ ecc ∈ noSimNumbers custom := by
  simp only [fixedListNoSim, noSimNumbers, List.mem_map, List.mem_filter, Set.mem_ofPred_eq,
    Bool.and_eq_true, beq_iff_eq, Bool.not_eq_true', List.isEmpty_eq_false_iff]
  constructor
  · rintro ⟨entry, ⟨hmem, hcond, -⟩, hecc⟩
    exact ⟨entry, hmem, hcond, hecc⟩
  · rintro ⟨entry, hmem, hcond, hecc⟩
    exact ⟨entry, ⟨hmem, hcond, (h entry hmem).1⟩, hecc⟩

/-- Removing and appending keeps every element of both lists. -/
theorem mem_removeAll_append {list other : List JavaString} {n : JavaString} :
    n ∈ removeAll list other ++ other ↔ n ∈ list ∨ n ∈ other := by
  simp only [removeAll, List.mem_append, List.mem_filter, Bool.not_eq_true',
    List.contains_eq_mem, decide_eq_false_iff_not]
  by_cases h : n ∈ other <;> simp [h]

theorem mem_refreshedList {custom : List EccEntry} (hecc : PlainEccs custom)
    {value : JavaString} (hvalue : NumberList value) {ecc : JavaString} :
    ecc ∈ refreshedList custom value ↔
      ecc ∈ simNumbers value ∨ ecc ∈ fixedNumbers custom ∨
        (value = [] ∧ ecc ∈ noSimNumbers custom) := by
  unfold refreshedList
  split
  · rename_i hempty
    have hnil : value = [] := by simpa using hempty
    rw [mem_removeAll_append, mem_removeAll_append, mem_filter_split hvalue, mem_fixedList,
      mem_fixedListNoSim hecc]
    simp [hnil, or_assoc]
  · rename_i hempty
    have hnil : value ≠ [] := by simpa using hempty
    rw [mem_removeAll_append, mem_filter_split hvalue, mem_fixedList]
    simp [hnil]

theorem refreshedList_plain {custom : List EccEntry} (hecc : PlainEccs custom)
    {value : JavaString} (hvalue : NumberList value) :
    ∀ n ∈ refreshedList custom value, PlainNumber n := by
  intro n hn
  rcases (mem_refreshedList hecc hvalue).mp hn with hsim | hfixed | ⟨-, hno⟩
  · exact simNumbers_plain hvalue n hsim
  · obtain ⟨entry, hmem, -, rfl⟩ := hfixed
    exact hecc entry hmem
  · obtain ⟨entry, hmem, -, rfl⟩ := hno
    exact hecc entry hmem

/-- A refreshed property lists its old numbers, the fixed ones, and, when it was
empty, the `ECC_NO_SIM` ones. -/
theorem simNumbers_refreshed {custom : List EccEntry} (hecc : PlainEccs custom)
    {value : JavaString} (hvalue : NumberList value) :
    simNumbers (join ',' (refreshedList custom value)) =
      simNumbers value ∪ fixedNumbers custom ∪
        {ecc | value = [] ∧ ecc ∈ noSimNumbers custom} := by
  rw [simNumbers_join (refreshedList_plain hecc hvalue)]
  ext ecc
  simp [mem_refreshedList hecc hvalue, or_assoc]

/-- A property is still empty after its refresh only if it was empty and nothing
is customised. -/
theorem refreshed_eq_nil {custom : List EccEntry} (hecc : PlainEccs custom)
    {value : JavaString} (hvalue : NumberList value)
    (h : join ',' (refreshedList custom value) = []) :
    value = [] ∧ noSimNumbers custom = ∅ := by
  have hlist : refreshedList custom value = [] :=
    (join_eq_nil_iff fun n hn => (refreshedList_plain hecc hvalue n hn).1).mp h
  have hnone : ∀ ecc, ecc ∉ refreshedList custom value := by simp [hlist]
  simp only [mem_refreshedList hecc hvalue, not_or, not_and] at hnone
  have hnil : value = [] := by
    obtain ⟨numbers, hplain, rfl⟩ := hvalue
    rw [simNumbers_join hplain] at hnone
    have hnumbers : numbers = [] :=
      List.eq_nil_iff_forall_not_mem.mpr fun n => (hnone n).1
    simp [hnumbers]
  exact ⟨hnil, Set.eq_empty_iff_forall_notMem.mpr fun ecc => (hnone ecc).2.2 hnil⟩

/-! ## The effect on the emergency numbers -/

/-- The two properties that hold SIM lists. -/
def IsSimKey (key : PropKey) : Prop := key = .rilEcclist ∨ key = .rilEcclist1

/-- Refreshing one slot adds the `ECC_NO_SIM` numbers if that slot is empty, and
nothing otherwise. -/
theorem emergencyNumbers_refreshSlot {custom : List EccEntry} (hecc : PlainEccs custom)
    {props : Properties} {key : PropKey} (hkey : IsSimKey key)
    (hvalue : NumberList (props key)) :
    emergencyNumbers
        (Function.update props key (join ',' (refreshedList custom (props key)))) custom =
      emergencyNumbers props custom ∪
        {ecc | props key = [] ∧ ecc ∈ noSimNumbers custom} := by
  -- Where the refreshed property is still empty there is no such number at all.
  have hlost : ∀ ecc, join ',' (refreshedList custom (props key)) = [] →
      ecc ∉ noSimNumbers custom := by
    intro ecc h
    rw [(refreshed_eq_nil hecc hvalue h).2]
    exact Set.notMem_empty ecc
  ext ecc
  have hecc' := hlost ecc
  rcases hkey with rfl | rfl
  · simp only [emergencyNumbers, listedNumbers, networkNumbers, categoryEntries,
      NoSimLists, Function.update_self, simNumbers_refreshed hecc hvalue, Set.mem_union,
      Set.mem_ofPred_eq, Function.update_of_ne, ne_eq, reduceCtorEq, not_false_eq_true]
    grind
  · simp only [emergencyNumbers, listedNumbers, networkNumbers, categoryEntries,
      NoSimLists, Function.update_self, simNumbers_refreshed hecc hvalue, Set.mem_union,
      Set.mem_ofPred_eq, Function.update_of_ne, ne_eq, reduceCtorEq, not_false_eq_true]
    grind

/-- What one slot's refresh leaves: the properties as they were when the write is
rejected, else the one property rewritten. -/
theorem refreshSlot_cases (P : Platform) (custom : List EccEntry) (props : Properties)
    (key : PropKey) :
    refreshSlot P custom props key = (.error .illegalArgumentException, props) ∨
      refreshSlot P custom props key =
        (.ok (), Function.update props key (join ',' (refreshedList custom (props key)))) := by
  unfold refreshSlot Properties.set
  split
  · exact .inr rfl
  · exact .inl rfl

/-- Some slot is empty. -/
def SomeSlotEmpty (props : Properties) : Prop :=
  props .rilEcclist = [] ∨ props .rilEcclist1 = []

/-- What a whole refresh does to the emergency numbers.  However far it gets, it
removes none and adds at most the `ECC_NO_SIM` ones, these only if a slot is
empty; and then, if it returns normally, it adds them all. -/
structure RefreshEffect (custom : List EccEntry) (props : Properties)
    (result : Except Throwable Unit × Properties) : Prop where
  keeps : emergencyNumbers props custom ⊆ emergencyNumbers result.2 custom
  adds : emergencyNumbers result.2 custom ⊆
    emergencyNumbers props custom ∪ {ecc | SomeSlotEmpty props ∧ ecc ∈ noSimNumbers custom}
  completes : result.1 = .ok () → SomeSlotEmpty props →
    noSimNumbers custom ⊆ emergencyNumbers result.2 custom
  categories : categoryEntries result.2 = categoryEntries props

theorem updateEmergencyNumbersProperty_effect (P : Platform) {custom : List EccEntry}
    (hecc : PlainEccs custom) {props : Properties} (h : NumberList (props .rilEcclist))
    (h1 : NumberList (props .rilEcclist1)) :
    RefreshEffect custom props (updateEmergencyNumbersProperty P custom props) := by
  unfold updateEmergencyNumbersProperty
  have hslot := emergencyNumbers_refreshSlot hecc (.inl rfl) h
  rcases refreshSlot_cases P custom props .rilEcclist with hr | hr
  · rw [hr]
    exact ⟨subset_rfl, Set.subset_union_left, fun hok => by simp at hok, rfl⟩
  · rw [hr]
    -- From here on the second slot is refreshed in the properties the first left.
    generalize hp : Function.update props .rilEcclist
      (join ',' (refreshedList custom (props .rilEcclist))) = props' at hslot ⊢
    have hother : props' .rilEcclist1 = props .rilEcclist1 := by simp [← hp]
    have hcat : categoryEntries props' = categoryEntries props := by
      simp [← hp, categoryEntries]
    have hslot1 := emergencyNumbers_refreshSlot hecc (.inr rfl) (hother ▸ h1)
    rw [hother, hslot] at hslot1
    rcases refreshSlot_cases P custom props' .rilEcclist1 with hr1 | hr1
    · simp only [hr1]
      refine ⟨?_, ?_, fun hok => by simp at hok, hcat⟩
      · rw [hslot]
        exact Set.subset_union_left
      · rw [hslot]
        apply Set.union_subset_union_right
        intro ecc hmem
        exact ⟨.inl hmem.1, hmem.2⟩
    · simp only [hr1, hother]
      refine ⟨?_, ?_, fun _ hempty => ?_, by simpa [categoryEntries] using hcat⟩
      · rw [hslot1, Set.union_assoc]
        exact Set.subset_union_left
      · rw [hslot1, Set.union_assoc]
        apply Set.union_subset_union_right
        intro ecc hmem
        rcases hmem with hmem | hmem
        · exact ⟨.inl hmem.1, hmem.2⟩
        · exact ⟨.inr hmem.1, hmem.2⟩
      · rw [hslot1]
        intro ecc hmem
        rcases hempty with hempty | hempty
        · exact .inl (.inr ⟨hempty, hmem⟩)
        · exact .inr ⟨hempty, hmem⟩

/-! ## Classification across a refresh -/

/-- Exactly one slot is empty, and the number is listed by `ECC_NO_SIM` entries
and by nothing else. -/
def OnlyNoSim (props : Properties) (custom : List EccEntry) (number : JavaString) : Prop :=
  ¬ (props .rilEcclist = [] ↔ props .rilEcclist1 = []) ∧
    Covers (noSimNumbers custom) number ∧ ¬ Covers (listedNumbers props custom) number

theorem covers_refresh_of_not_onlyNoSim {custom : List EccEntry} {props : Properties}
    {result : Except Throwable Unit × Properties} (heffect : RefreshEffect custom props result)
    {number : JavaString} (hnot : ¬ OnlyNoSim props custom number) :
    Covers (emergencyNumbers result.2 custom) number ↔
      Covers (emergencyNumbers props custom) number := by
  constructor
  · intro hafter
    rcases covers_union.mp (hafter.mono heffect.adds) with hbefore | ⟨ecc, hmem, hmatch⟩
    · exact hbefore
    · have hnosim : Covers (noSimNumbers custom) number := ⟨ecc, hmem.2, hmatch⟩
      simp only [emergencyNumbers, covers_union, covers_noSim_iff]
      have hempty := hmem.1
      unfold SomeSlotEmpty at hempty
      unfold OnlyNoSim at hnot
      unfold NoSimLists
      tauto
  · exact Covers.mono heffect.keeps

theorem covers_refresh_of_onlyNoSim {custom : List EccEntry} {props : Properties}
    {result : Except Throwable Unit × Properties} (heffect : RefreshEffect custom props result)
    (hok : result.1 = .ok ()) {number : JavaString} (honly : OnlyNoSim props custom number) :
    Covers (emergencyNumbers result.2 custom) number ∧
      ¬ Covers (emergencyNumbers props custom) number := by
  obtain ⟨hslots, hnosim, hlisted⟩ := honly
  have hempty : SomeSlotEmpty props := by
    unfold SomeSlotEmpty
    tauto
  refine ⟨hnosim.mono (heffect.completes hok hempty), ?_⟩
  simp only [emergencyNumbers, covers_union, covers_noSim_iff, not_or, not_and]
  refine ⟨hlisted, fun hlists => ?_⟩
  exact absurd (iff_of_true hlists.1 hlists.2) hslots

/-- `isEmergencyNumberExt` just before and just after
`updateEmergencyNumbersProperty`.  The answers agree unless exactly one slot was
empty and only `ECC_NO_SIM` entries list the number; when the refresh returns
normally they then differ. -/
theorem isEmergencyNumberExt_refresh_iff (P : Platform) (K K' : KeySet)
    {props : Properties} {L : MtkEccList} (number : Option JavaString)
    (hecc : PlainEccs L.mCustomizedEccList) (h : NumberList (props .rilEcclist))
    (h1 : NumberList (props .rilEcclist1))
    (hcat : CategoriesNumeric (categoryEntries props)) :
    let before := isEmergencyNumberExt P K props L number
    let refresh := updateEmergencyNumbersProperty P L.mCustomizedEccList props
    let after := isEmergencyNumberExt P K' refresh.2 before.2 number
    let exposed := ∃ address ∈ number,
      OnlyNoSim props L.mCustomizedEccList (P.extractNetworkPortionAlt address)
    (¬ exposed → after.1 = before.1) ∧
      (refresh.1 = .ok () → (after.1 = before.1 ↔ ¬ exposed)) := by
  intro before refresh after exposed
  have heffect : RefreshEffect L.mCustomizedEccList props refresh :=
    updateEmergencyNumbersProperty_effect P hecc h h1
  have hcat' : CategoriesNumeric (categoryEntries refresh.2) := by
    rw [heffect.categories]
    exact hcat
  cases number with
  | none => exact ⟨fun _ => rfl, fun _ => iff_of_true rfl (by simp [exposed])⟩
  | some address =>
      obtain ⟨b, hb⟩ : ∃ b, before.1 = .ok b :=
        ⟨_, congrArg Prod.fst (isEmergencyNumberExt_of_numeric P K hcat L address)⟩
      have hbefore := (isEmergencyNumberExt_eq_ok_iff P K hcat L address b).mp hb
      have hafter := isEmergencyNumberExt_eq_ok_iff P K' hcat' before.2 address b
      rw [isEmergencyNumberExt_custom] at hafter
      have hsame : ¬ exposed → after.1 = before.1 := by
        intro hnot
        have hnot' : ¬ OnlyNoSim props L.mCustomizedEccList
            (P.extractNetworkPortionAlt address) := fun ho => hnot ⟨address, rfl, ho⟩
        rw [hb]
        exact hafter.mpr (hbefore.trans (covers_refresh_of_not_onlyNoSim heffect hnot').symm)
      refine ⟨hsame, fun hok => ⟨fun heq => ?_, hsame⟩⟩
      intro hexposed
      obtain ⟨address', haddress, honly⟩ := hexposed
      obtain rfl : address = address' := by simpa using haddress
      obtain ⟨hnow, hthen⟩ := covers_refresh_of_onlyNoSim heffect hok honly
      have hb' : b = true := (hafter.mp (heq.trans hb)).mpr hnow
      exact hthen (hbefore.mp hb')

/-- Both slots have a list: the refresh leaves 999 a normal number. -/
theorem isEmergencyNumberExt_refresh_two_slots :
    (isEmergencyNumberExt .reference .reference
        (updateEmergencyNumbersProperty .reference eccTable
          (propertiesOfLists "112,911".toList "112".toList [])).2
        (isEmergencyNumberExt .reference .reference
          (propertiesOfLists "112,911".toList "112".toList []) ⟨eccTable, ∅⟩
          (some "999".toList)).2 (some "999".toList)).1 =
      (isEmergencyNumberExt .reference .reference
        (propertiesOfLists "112,911".toList "112".toList []) ⟨eccTable, ∅⟩
        (some "999".toList)).1 := by
  apply (isEmergencyNumberExt_refresh_iff .reference .reference .reference
    (L := ⟨eccTable, ∅⟩) (some "999".toList) ?_ ?_ ?_ ?_).1
  · intro exposed
    obtain ⟨address, -, honly⟩ := exposed
    exact honly.1 (by decide)
  · unfold PlainEccs PlainNumber
    decide
  · exact ⟨["112".toList, "911".toList], by unfold PlainNumber; decide, by decide⟩
  · exact ⟨["112".toList], by unfold PlainNumber; decide, by decide⟩
  · simp [CategoriesNumeric, categoryEntries, propertiesOfLists]

/-- One slot has a list, the other none, and the installed list is plain and free
of repetitions: 999, which only an `ECC_NO_SIM` entry lists, is a normal number
before the refresh and an emergency number after it. -/
theorem isEmergencyNumberExt_refresh_one_slot :
    let props := propertiesOfLists "112,911".toList [] []
    let before := isEmergencyNumberExt .reference .reference props ⟨eccTable, ∅⟩
      (some "999".toList)
    let refresh := updateEmergencyNumbersProperty .reference eccTable props
    let after := isEmergencyNumberExt .reference .reference refresh.2 before.2
      (some "999".toList)
    PlainEccs eccTable ∧ (eccTable.map EccEntry.mEcc).Nodup ∧
      NumberList (props .rilEcclist) ∧ NumberList (props .rilEcclist1) ∧
      before.1 = .ok false ∧ refresh.1 = .ok () ∧ after.1 = .ok true := by
  refine ⟨?_, by decide, ?_, ⟨[], by simp, rfl⟩, rfl, rfl, rfl⟩
  · unfold PlainEccs PlainNumber
    decide
  · exact ⟨["112".toList, "911".toList], by unfold PlainNumber; decide, rfl⟩

end MediatekCommon.Ril
