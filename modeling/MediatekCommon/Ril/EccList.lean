/-
  Ril/EccList.lean --- `MtkEccList`: which numbers are emergency numbers.

  The class keeps a customised list read from `/system/etc/ecc_list.xml` and a
  map of the categories the network announced.  `isEmergencyNumberExt` rebuilds
  the map from `ril.ecc.service.category.list` and then looks the number up in
  four places; `getServiceCategoryFromEcc` looks a number up in the map and the
  customised list.

  Above the two functions stands the set they are about: `emergencyNumbers`, the
  numbers listed by the current sources.  `isEmergencyNumberExt_of_numeric` and
  `searchEccLists_iff` say that the answer is membership in that set, up to one
  trailing plus sign, whatever the map held before and in whatever order its keys
  come.
-/
import Mathlib.Data.List.AList
import Mathlib.Data.Set.Basic
import MediatekCommon.Ril.Aosp

set_option autoImplicit false

namespace MediatekCommon.Ril

open MediatekCommon.Foundation
open MediatekCommon.Foundation.JavaString

/-! ## Data -/

/-- `MtkEccList.EccEntry`. -/
structure EccEntry where
  mEcc : JavaString
  mCategory : JavaString
  mCondition : JavaString
  deriving DecidableEq, Repr

/-- `ECC_NO_SIM`: emergency number only when no SIM is inserted. -/
def eccNoSim : JavaString := ['0']

/-- `ECC_ALWAYS`. -/
def eccAlways : JavaString := ['1']

/-- `ECC_FOR_MMI`: shown as an emergency number, sent to the network as a normal
call. -/
def eccForMmi : JavaString := ['2']

/-- `HashMap<String, Integer>`. -/
abbrev CategoryMap : Type := AList fun _ : JavaString => Int

/-- The iteration order of `HashMap.keySet()`, of which only this is promised:
each key comes once. -/
structure KeySet where
  keys : CategoryMap → List JavaString
  keys_perm : ∀ m, (keys m).Perm m.keys

/-- The map's own order, to run the model on. -/
def KeySet.reference : KeySet := ⟨fun m => m.keys, fun m => List.Perm.refl m.keys⟩

/-- The order that visits a given key first. -/
def KeySet.first (ecc : JavaString) : KeySet where
  keys m := if ecc ∈ m.keys then ecc :: m.keys.erase ecc else m.keys
  keys_perm m := by
    split
    · rename_i hmem
      exact (List.perm_cons_erase hmem).symm
    · exact List.Perm.refl _

theorem KeySet.mem_keys (K : KeySet) {m : CategoryMap} {ecc : JavaString} :
    ecc ∈ K.keys m ↔ ecc ∈ m :=
  (K.keys_perm m).mem_iff

/-- The static fields of `MtkEccList`. -/
structure MtkEccList where
  mCustomizedEccList : List EccEntry
  mHashMapForNetworkEccCategory : CategoryMap

/-- The entries of `configs/ecc_list.xml`, as installed in the system image. -/
def eccTable : List EccEntry :=
  [⟨"112".toList, "0".toList, eccAlways⟩, ⟨"911".toList, "0".toList, eccAlways⟩,
   ⟨"000".toList, "0".toList, eccNoSim⟩, ⟨"08".toList, "0".toList, eccNoSim⟩,
   ⟨"110".toList, "0".toList, eccForMmi⟩, ⟨"118".toList, "0".toList, eccNoSim⟩,
   ⟨"119".toList, "0".toList, eccForMmi⟩, ⟨"999".toList, "0".toList, eccNoSim⟩]

/-- The properties with these SIM lists and this category list, the others unset. -/
def propertiesOfLists (ecclist ecclist1 categories : JavaString) : Properties
  | .rilEcclist => ecclist
  | .rilEcclist1 => ecclist1
  | .rilEccServiceCategoryList => categories
  | _ => []

/-- The comparison all searches share: `ecc.equals(number)` or
`(ecc + "+").equals(number)`. -/
def matchesNumber (ecc number : JavaString) : Bool :=
  ecc == number || ecc ++ ['+'] == number

theorem matchesNumber_self (number : JavaString) : matchesNumber number number = true := by
  simp [matchesNumber]

theorem matchesNumber_eq_false_iff {ecc number : JavaString} :
    matchesNumber ecc number = false ↔ number ≠ ecc ∧ number ≠ ecc ++ ['+'] := by
  rw [matchesNumber, Bool.or_eq_false_iff, beq_eq_false_iff_ne, beq_eq_false_iff_ne]
  exact and_congr ne_comm ne_comm

/-! ## The network category list -/

/-- The entries of `ril.ecc.service.category.list`, none when it is empty. -/
def categoryEntries (props : Properties) : List JavaString :=
  let strEccCategoryList := props .rilEccServiceCategoryList
  if strEccCategoryList.isEmpty then [] else split ';' strEccCategoryList

/-- The number and the category of an entry.  Empty entries and entries that do
not split into two fields are passed over. -/
def categoryFields (strEccCategory : JavaString) : Option (JavaString × JavaString) :=
  if strEccCategory.isEmpty then none
  else match split ',' strEccCategory with
    | [number, category] => some (number, category)
    | _ => none

/-- The loop that fills `mHashMapForNetworkEccCategory`.  A category that does
not parse ends it with the map as filled so far. -/
def putCategories (m : CategoryMap) : List JavaString → Except Throwable Unit × CategoryMap
  | [] => (.ok (), m)
  | entry :: rest =>
      match categoryFields entry with
      | none => putCategories m rest
      | some (number, category) =>
          match parseInt category with
          | none => (.error .numberFormatException, m)
          | some c => putCategories (m.insert number c) rest

/-- Every two-field entry of the list has a numeric category. -/
def CategoriesNumeric (entries : List JavaString) : Prop :=
  ∀ entry ∈ entries, ∀ fields ∈ categoryFields entry, (parseInt fields.2).isSome

instance (entries : List JavaString) : Decidable (CategoriesNumeric entries) :=
  inferInstanceAs (Decidable (∀ entry ∈ entries, ∀ fields ∈ categoryFields entry,
    (parseInt fields.2).isSome))

/-- The numbers and categories of the entries that have both. -/
def numericEntries (entries : List JavaString) : List (JavaString × Int) :=
  entries.filterMap fun entry =>
    (categoryFields entry).bind fun fields =>
      (parseInt fields.2).map fun c => (fields.1, c)

/-- The entry `number,category` of the category list. -/
def categoryEntry (number category : JavaString) : JavaString := join ',' [number, category]

theorem categoryEntry_eq (number category : JavaString) :
    categoryEntry number category = number ++ ',' :: category := by
  simp [categoryEntry, join]

/-- A category list of one entry that can be read. -/
theorem categoryEntries_single {props : Properties} {number category : JavaString} {c : Int}
    (hprops : props .rilEccServiceCategoryList = categoryEntry number category)
    (hnumber : ',' ∉ number ∧ ';' ∉ number) (hcategory : ',' ∉ category ∧ ';' ∉ category)
    (hparse : parseInt category = some c) :
    CategoriesNumeric (categoryEntries props) ∧
      numericEntries (categoryEntries props) = [(number, c)] := by
  have hne : category ≠ [] := by
    rintro rfl
    cases hparse
  have hnil : categoryEntry number category ≠ [] := by simp [categoryEntry_eq]
  have hentry : ';' ∉ categoryEntry number category := by
    rw [categoryEntry_eq]
    simp [hnumber.2, hcategory.2]
  have hentries : categoryEntries props = [categoryEntry number category] := by
    unfold categoryEntries
    simp only [hprops]
    rw [if_neg (by simp [hnil]), split, if_neg hentry]
  have hfields : categoryFields (categoryEntry number category) = some (number, category) := by
    have hsplit : split ',' (categoryEntry number category) = [number, category] :=
      split_join (by simp [hnumber.1, hcategory.1]) (by simp) (by simpa using hne)
    unfold categoryFields
    rw [if_neg (by simp [hnil]), hsplit]
  rw [hentries]
  constructor
  · simp [CategoriesNumeric, hfields, hparse]
  · simp only [numericEntries, List.filterMap_cons, List.filterMap_nil, hfields,
      Option.bind_some, hparse, Option.map_some]

/-- The map that holds the given numbers, later categories replacing earlier
ones. -/
def categoryMapOf (m : CategoryMap) (pairs : List (JavaString × Int)) : CategoryMap :=
  pairs.foldl (fun m pair => m.insert pair.1 pair.2) m

theorem categoriesNumeric_cons {entry : JavaString} {rest : List JavaString} :
    CategoriesNumeric (entry :: rest) ↔
      (∀ fields ∈ categoryFields entry, (parseInt fields.2).isSome) ∧
        CategoriesNumeric rest := by
  simp [CategoriesNumeric]

/-- With numeric categories the loop ends normally and has put every entry. -/
theorem putCategories_of_numeric {entries : List JavaString}
    (h : CategoriesNumeric entries) (m : CategoryMap) :
    putCategories m entries = (.ok (), categoryMapOf m (numericEntries entries)) := by
  induction entries generalizing m with
  | nil => rfl
  | cons entry rest ih =>
      obtain ⟨hentry, hrest⟩ := categoriesNumeric_cons.mp h
      cases hf : categoryFields entry with
      | none => simpa [putCategories, numericEntries, hf] using ih hrest m
      | some fields =>
          obtain ⟨number, category⟩ := fields
          obtain ⟨c, hc⟩ := Option.isSome_iff_exists.mp (hentry _ hf)
          simpa [putCategories, numericEntries, categoryMapOf, hf, hc] using
            ih hrest (m.insert number c)

/-- Without them it ends with the exception of `Integer.parseInt`. -/
theorem putCategories_of_not_numeric {entries : List JavaString}
    (h : ¬ CategoriesNumeric entries) (m : CategoryMap) :
    (putCategories m entries).1 = .error .numberFormatException := by
  induction entries generalizing m with
  | nil => exact absurd (by simp [CategoriesNumeric]) h
  | cons entry rest ih =>
      rw [categoriesNumeric_cons] at h
      cases hf : categoryFields entry with
      | none =>
          have hrest : ¬ CategoriesNumeric rest := fun hr => h ⟨by simp [hf], hr⟩
          simpa [putCategories, hf] using ih hrest m
      | some fields =>
          obtain ⟨number, category⟩ := fields
          cases hc : parseInt category with
          | none => simp [putCategories, hf, hc]
          | some c =>
              have hrest : ¬ CategoriesNumeric rest := fun hr =>
                h ⟨by simp [hf, hc], hr⟩
              simpa [putCategories, hf, hc] using ih hrest (m.insert number c)

theorem mem_categoryMapOf {m : CategoryMap} {pairs : List (JavaString × Int)}
    {ecc : JavaString} :
    ecc ∈ categoryMapOf m pairs ↔ ecc ∈ m ∨ ∃ c, (ecc, c) ∈ pairs := by
  induction pairs generalizing m with
  | nil => simp [categoryMapOf]
  | cons pair rest ih =>
      rw [show categoryMapOf m (pair :: rest) =
        categoryMapOf (m.insert pair.1 pair.2) rest from rfl, ih, AList.mem_insert]
      constructor
      · rintro ((rfl | hm) | ⟨c, hc⟩)
        · exact .inr ⟨pair.2, List.mem_cons_self⟩
        · exact .inl hm
        · exact .inr ⟨c, List.mem_cons_of_mem _ hc⟩
      · rintro (hm | ⟨c, hc⟩)
        · exact .inl (.inr hm)
        · rcases List.mem_cons.mp hc with rfl | hc
          · exact .inl (.inl rfl)
          · exact .inr ⟨c, hc⟩

/-! ## `isEmergencyNumberExt` -/

/-- The search through one SIM list: the comma-separated fields of a non-empty
property. -/
def simListMatches (numbers number : JavaString) : Bool :=
  !numbers.isEmpty && (split ',' numbers).any fun emergencyNum =>
    matchesNumber emergencyNum number

/-- The four searches of `isEmergencyNumberExt`, in their order, once the
network map is filled. -/
def searchEccLists (K : KeySet) (props : Properties) (custom : List EccEntry)
    (m : CategoryMap) (number : JavaString) : Bool :=
  -- 1. Check ECCs updated by network
  if (K.keys m).any (matchesNumber · number) then true
  -- 2. Check ECCs stored at SIMs
  else if simListMatches (props .rilEcclist) number then true
  else if simListMatches (props .rilEcclist1) number then true
  else
    let bSIMInserted := !(props .rilEcclist).isEmpty || !(props .rilEcclist1).isEmpty
    -- 3. Check ECCs customized by user
    if bSIMInserted then
      custom.any fun eccEntry =>
        eccEntry.mCondition != eccNoSim && matchesNumber eccEntry.mEcc number
    else custom.any fun eccEntry => matchesNumber eccEntry.mEcc number

/-- `isEmergencyNumberExt(number)`, with the static fields it leaves behind. -/
def isEmergencyNumberExt (P : Platform) (K : KeySet) (props : Properties)
    (L : MtkEccList) (number : Option JavaString) : Except Throwable Bool × MtkEccList :=
  match number with
  | none => (.ok false, L)
  | some address =>
      let number := P.extractNetworkPortionAlt address
      match putCategories ∅ (categoryEntries props) with
      | (.error t, m) => (.error t, { L with mHashMapForNetworkEccCategory := m })
      | (.ok (), m) =>
          (.ok (searchEccLists K props L.mCustomizedEccList m number),
            { L with mHashMapForNetworkEccCategory := m })

@[simp] theorem isEmergencyNumberExt_custom (P : Platform) (K : KeySet)
    (props : Properties) (L : MtkEccList) (number : Option JavaString) :
    (isEmergencyNumberExt P K props L number).2.mCustomizedEccList =
      L.mCustomizedEccList := by
  unfold isEmergencyNumberExt
  split
  · rfl
  · simp only
    split <;> rfl

/-! ## The numbers the sources list -/

/-- Some listed number matches. -/
def Covers (S : Set JavaString) (number : JavaString) : Prop :=
  ∃ ecc ∈ S, matchesNumber ecc number = true

theorem covers_union {S T : Set JavaString} {number : JavaString} :
    Covers (S ∪ T) number ↔ Covers S number ∨ Covers T number := by
  simp [Covers, or_and_right, exists_or]

theorem Covers.mono {S T : Set JavaString} (hST : S ⊆ T) {number : JavaString}
    (h : Covers S number) : Covers T number := by
  obtain ⟨ecc, hmem, hmatch⟩ := h
  exact ⟨ecc, hST hmem, hmatch⟩

/-- The numbers of the well-formed entries of `ril.ecc.service.category.list`. -/
def networkNumbers (props : Properties) : Set JavaString :=
  {ecc | ∃ c, (ecc, c) ∈ numericEntries (categoryEntries props)}

/-- The numbers of one SIM list. -/
def simNumbers (numbers : JavaString) : Set JavaString :=
  {ecc | numbers ≠ [] ∧ ecc ∈ split ',' numbers}

/-- The customised numbers whose condition is not `ECC_NO_SIM`. -/
def fixedNumbers (custom : List EccEntry) : Set JavaString :=
  {ecc | ∃ entry ∈ custom, entry.mCondition ≠ eccNoSim ∧ entry.mEcc = ecc}

/-- The customised numbers whose condition is `ECC_NO_SIM`. -/
def noSimNumbers (custom : List EccEntry) : Set JavaString :=
  {ecc | ∃ entry ∈ custom, entry.mCondition = eccNoSim ∧ entry.mEcc = ecc}

/-- The numbers that are emergency numbers whatever the SIM slots hold. -/
def listedNumbers (props : Properties) (custom : List EccEntry) : Set JavaString :=
  networkNumbers props ∪ simNumbers (props .rilEcclist) ∪
    simNumbers (props .rilEcclist1) ∪ fixedNumbers custom

/-- No slot supplied a list. -/
def NoSimLists (props : Properties) : Prop :=
  props .rilEcclist = [] ∧ props .rilEcclist1 = []

/-- All numbers that are emergency numbers. -/
def emergencyNumbers (props : Properties) (custom : List EccEntry) : Set JavaString :=
  listedNumbers props custom ∪ {ecc | NoSimLists props ∧ ecc ∈ noSimNumbers custom}

theorem simListMatches_iff {numbers number : JavaString} :
    simListMatches numbers number = true ↔ Covers (simNumbers numbers) number := by
  simp [simListMatches, Covers, simNumbers, and_assoc]

theorem any_keys_iff (K : KeySet) {m : CategoryMap} {number : JavaString} :
    (K.keys m).any (matchesNumber · number) = true ↔ Covers {ecc | ecc ∈ m} number := by
  simp [Covers, K.mem_keys]

theorem any_fixed_iff {custom : List EccEntry} {number : JavaString} :
    (custom.any fun e => e.mCondition != eccNoSim && matchesNumber e.mEcc number) = true ↔
      Covers (fixedNumbers custom) number := by
  simp only [List.any_eq_true, Bool.and_eq_true, bne_iff_ne, Covers, fixedNumbers,
    Set.mem_ofPred_eq]
  constructor
  · rintro ⟨entry, hmem, hcond, hmatch⟩
    exact ⟨_, ⟨entry, hmem, hcond, rfl⟩, hmatch⟩
  · rintro ⟨_, ⟨entry, hmem, hcond, rfl⟩, hmatch⟩
    exact ⟨entry, hmem, hcond, hmatch⟩

theorem any_custom_iff {custom : List EccEntry} {number : JavaString} :
    (custom.any fun e => matchesNumber e.mEcc number) = true ↔
      Covers (fixedNumbers custom) number ∨ Covers (noSimNumbers custom) number := by
  simp only [List.any_eq_true, Covers, fixedNumbers, noSimNumbers, Set.mem_ofPred_eq]
  constructor
  · rintro ⟨entry, hmem, hmatch⟩
    by_cases hcond : entry.mCondition = eccNoSim
    · exact .inr ⟨_, ⟨entry, hmem, hcond, rfl⟩, hmatch⟩
    · exact .inl ⟨_, ⟨entry, hmem, hcond, rfl⟩, hmatch⟩
  · rintro (⟨_, ⟨entry, hmem, -, rfl⟩, hmatch⟩ | ⟨_, ⟨entry, hmem, -, rfl⟩, hmatch⟩)
    · exact ⟨entry, hmem, hmatch⟩
    · exact ⟨entry, hmem, hmatch⟩

theorem covers_noSim_iff {props : Properties} {custom : List EccEntry}
    {number : JavaString} :
    Covers {ecc | NoSimLists props ∧ ecc ∈ noSimNumbers custom} number ↔
      NoSimLists props ∧ Covers (noSimNumbers custom) number := by
  simp only [Covers, Set.mem_ofPred_eq]
  constructor
  · rintro ⟨ecc, ⟨hsim, hmem⟩, hmatch⟩
    exact ⟨hsim, ecc, hmem, hmatch⟩
  · rintro ⟨hsim, ecc, hmem, hmatch⟩
    exact ⟨ecc, ⟨hsim, hmem⟩, hmatch⟩

/-- The search finds exactly the emergency numbers, for any map that holds the
network's numbers. -/
theorem searchEccLists_iff (K : KeySet) {props : Properties} {custom : List EccEntry}
    {m : CategoryMap} (hm : {ecc | ecc ∈ m} = networkNumbers props) (number : JavaString) :
    searchEccLists K props custom m number = true ↔
      Covers (emergencyNumbers props custom) number := by
  simp only [emergencyNumbers, listedNumbers, covers_union, covers_noSim_iff]
  rw [← hm, ← any_keys_iff K, ← simListMatches_iff, ← simListMatches_iff]
  unfold searchEccLists
  split
  · rename_i hnet
    simp [hnet]
  · rename_i hnet
    split
    · rename_i hsim
      simp [hsim]
    · rename_i hsim
      split
      · rename_i hsim1
        simp [hsim1]
      · rename_i hsim1
        -- No network or SIM number matches: what is left is the customised list.
        simp only [hnet, hsim, hsim1, Bool.false_eq_true, or_self, false_or]
        split
        · rename_i hinserted
          have hlists : ¬ NoSimLists props := by
            rintro ⟨h, h1⟩
            simp [h, h1] at hinserted
          simp only [any_fixed_iff, hlists, false_and, or_false]
        · rename_i hinserted
          have hlists : NoSimLists props := by
            simpa [NoSimLists] using hinserted
          simp only [any_custom_iff, hlists, true_and]

/-- The map `isEmergencyNumberExt` leaves when every category is numeric. -/
def networkCategoryMap (props : Properties) : CategoryMap :=
  categoryMapOf ∅ (numericEntries (categoryEntries props))

theorem mem_networkCategoryMap (props : Properties) :
    {ecc | ecc ∈ networkCategoryMap props} = networkNumbers props := by
  ext ecc
  simp [networkCategoryMap, mem_categoryMapOf, networkNumbers]

theorem isEmergencyNumberExt_of_numeric (P : Platform) (K : KeySet) {props : Properties}
    (h : CategoriesNumeric (categoryEntries props)) (L : MtkEccList) (address : JavaString) :
    isEmergencyNumberExt P K props L (some address) =
      (.ok (searchEccLists K props L.mCustomizedEccList (networkCategoryMap props)
          (P.extractNetworkPortionAlt address)),
        { L with mHashMapForNetworkEccCategory := networkCategoryMap props }) := by
  simp only [isEmergencyNumberExt, putCategories_of_numeric h]
  rfl

theorem isEmergencyNumberExt_of_not_numeric (P : Platform) (K : KeySet)
    {props : Properties} (h : ¬ CategoriesNumeric (categoryEntries props)) (L : MtkEccList)
    (address : JavaString) :
    (isEmergencyNumberExt P K props L (some address)).1 =
      .error .numberFormatException := by
  have hput := putCategories_of_not_numeric h ∅
  unfold isEmergencyNumberExt
  generalize putCategories ∅ (categoryEntries props) = filled at hput
  obtain ⟨result, m⟩ := filled
  subst hput
  rfl

/-- With numeric categories the answer for an address is whether its network
portion is covered. -/
theorem isEmergencyNumberExt_eq_ok_iff (P : Platform) (K : KeySet) {props : Properties}
    (hcat : CategoriesNumeric (categoryEntries props)) (L : MtkEccList)
    (address : JavaString) (b : Bool) :
    (isEmergencyNumberExt P K props L (some address)).1 = .ok b ↔
      (b = true ↔ Covers (emergencyNumbers props L.mCustomizedEccList)
        (P.extractNetworkPortionAlt address)) := by
  rw [isEmergencyNumberExt_of_numeric P K hcat,
    ← searchEccLists_iff K (mem_networkCategoryMap props)]
  simp only [Except.ok.injEq]
  rw [Bool.eq_iff_iff]
  exact iff_comm

/-- The sources one by one: the numbers of the two-field entries of the category list,
the fields of the SIM lists that are not empty, and the customised numbers, those of
`ECC_NO_SIM` entries only without a SIM list. -/
inductive Listed (props : Properties) (custom : List EccEntry) : JavaString → Prop where
  | network {entry number category : JavaString} (hentry : entry ∈ categoryEntries props)
      (hfields : categoryFields entry = some (number, category)) : Listed props custom number
  | sim {number : JavaString} (hlist : props .rilEcclist ≠ [])
      (hfield : number ∈ split ',' (props .rilEcclist)) : Listed props custom number
  | sim1 {number : JavaString} (hlist : props .rilEcclist1 ≠ [])
      (hfield : number ∈ split ',' (props .rilEcclist1)) : Listed props custom number
  | fixed {entry : EccEntry} (hentry : entry ∈ custom) (hcond : entry.mCondition ≠ eccNoSim) :
      Listed props custom entry.mEcc
  | noSim {entry : EccEntry} (hlists : NoSimLists props) (hentry : entry ∈ custom)
      (hcond : entry.mCondition = eccNoSim) : Listed props custom entry.mEcc

/-- With numeric categories the entries that are put are the two-field ones. -/
theorem mem_networkNumbers {props : Properties} (h : CategoriesNumeric (categoryEntries props))
    {ecc : JavaString} :
    ecc ∈ networkNumbers props ↔
      ∃ entry ∈ categoryEntries props, ∃ category, categoryFields entry = some (ecc, category) := by
  simp only [networkNumbers, numericEntries, Set.mem_ofPred_eq, List.mem_filterMap]
  constructor
  · rintro ⟨c, entry, hentry, hnumeric⟩
    obtain ⟨⟨number, category⟩, hfields, hparse⟩ := Option.bind_eq_some_iff.mp hnumeric
    obtain ⟨d, -, hpair⟩ := Option.map_eq_some_iff.mp hparse
    obtain rfl : number = ecc := congrArg Prod.fst hpair
    exact ⟨entry, hentry, category, hfields⟩
  · rintro ⟨entry, hentry, category, hfields⟩
    obtain ⟨c, hc⟩ := Option.isSome_iff_exists.mp (h entry hentry _ hfields)
    exact ⟨c, entry, hentry, by simp [hfields, hc]⟩

theorem listed_iff {props : Properties} (h : CategoriesNumeric (categoryEntries props))
    (custom : List EccEntry) (ecc : JavaString) :
    Listed props custom ecc ↔ ecc ∈ emergencyNumbers props custom := by
  simp only [emergencyNumbers, listedNumbers, Set.mem_union, mem_networkNumbers h]
  constructor
  · intro hlisted
    cases hlisted with
    | network hentry hfields => exact .inl (.inl (.inl (.inl ⟨_, hentry, _, hfields⟩)))
    | sim hlist hfield => exact .inl (.inl (.inl (.inr ⟨hlist, hfield⟩)))
    | sim1 hlist hfield => exact .inl (.inl (.inr ⟨hlist, hfield⟩))
    | fixed hentry hcond => exact .inl (.inr ⟨_, hentry, hcond, rfl⟩)
    | noSim hlists hentry hcond => exact .inr ⟨hlists, _, hentry, hcond, rfl⟩
  · rintro ((((⟨entry, hentry, category, hfields⟩ | ⟨hlist, hfield⟩) | ⟨hlist, hfield⟩) |
      ⟨entry, hentry, hcond, rfl⟩) | ⟨hlists, entry, hentry, hcond, rfl⟩)
    · exact .network hentry hfields
    · exact .sim hlist hfield
    · exact .sim1 hlist hfield
    · exact .fixed hentry hcond
    · exact .noSim hlists hentry hcond

/-- The answer is whether a listed number is the network portion, up to one plus sign
behind it.  What the map held before, and the order of its keys, make no difference. -/
theorem isEmergencyNumberExt_listed_iff (P : Platform) {props : Properties}
    (h : CategoriesNumeric (categoryEntries props)) (custom : List EccEntry)
    (address : JavaString) :
    ∃ b : Bool,
      (∀ (K : KeySet) (m : CategoryMap),
        (isEmergencyNumberExt P K props ⟨custom, m⟩ (some address)).1 = .ok b) ∧
      (b = true ↔ ∃ ecc, Listed props custom ecc ∧
        (P.extractNetworkPortionAlt address = ecc ∨
          P.extractNetworkPortionAlt address = ecc ++ ['+'])) := by
  obtain ⟨b, hb⟩ : ∃ b : Bool, b = true ↔
      Covers (emergencyNumbers props custom) (P.extractNetworkPortionAlt address) :=
    ⟨_, searchEccLists_iff .reference (mem_networkCategoryMap props) _⟩
  refine ⟨b, fun K m => ?_, ?_⟩
  · exact (isEmergencyNumberExt_eq_ok_iff P K h ⟨custom, m⟩ address b).mpr hb
  · rw [hb]
    simp only [Covers, ← listed_iff h, matchesNumber, Bool.or_eq_true, beq_iff_eq]
    refine exists_congr fun ecc => and_congr_right fun _ => or_congr eq_comm eq_comm

/-- A SIM lists 112 and 911, and the network 110, which is found with its plus sign. -/
theorem isEmergencyNumberExt_listed_110 :
    let props := propertiesOfLists "112,911".toList [] "110,5".toList
    ∃ b : Bool,
      (∀ (K : KeySet) (m : CategoryMap),
        (isEmergencyNumberExt .reference K props ⟨eccTable, m⟩ (some "1-10+".toList)).1 = .ok b) ∧
      (b = true ↔ ∃ ecc, Listed props eccTable ecc ∧
        (Platform.reference.extractNetworkPortionAlt "1-10+".toList = ecc ∨
          Platform.reference.extractNetworkPortionAlt "1-10+".toList = ecc ++ ['+'])) := by
  intro props
  have hcat : CategoriesNumeric (categoryEntries props) := by decide
  exact isEmergencyNumberExt_listed_iff .reference hcat eccTable "1-10+".toList

/-- An empty SIM list is skipped, although `split` gives it one empty field: the empty
number equals that field and is no emergency number. -/
theorem isEmergencyNumberExt_empty_number :
    let props := propertiesOfLists [] [] []
    CategoriesNumeric (categoryEntries props) ∧
      (∃ ecc ∈ split ',' (props .rilEcclist),
        Platform.reference.extractNetworkPortionAlt [] = ecc) ∧
      (isEmergencyNumberExt .reference .reference props ⟨[], ∅⟩ (some [])).1 = .ok false := by
  refine ⟨?_, ⟨[], by decide, by decide⟩, by decide⟩
  simp [CategoriesNumeric, categoryEntries, propertiesOfLists]

/-! ## `getServiceCategoryFromEcc` -/

/-- The loop over the network map: the category of the first key that matches. -/
def networkCategory (K : KeySet) (m : CategoryMap) (number : JavaString) : Option Int :=
  (K.keys m).findSome? fun emergencyNum =>
    if matchesNumber emergencyNum number then m.lookup emergencyNum else none

/-- The loop over the customised list: the first entry that matches. -/
def customizedEntry (custom : List EccEntry) (number : JavaString) : Option EccEntry :=
  custom.find? fun eccEntry => matchesNumber eccEntry.mEcc number

/-- `getServiceCategoryFromEcc(number)`. -/
def getServiceCategoryFromEcc (K : KeySet) (L : MtkEccList) (number : Option JavaString) :
    Except Throwable Int :=
  match number with
  -- No listed number equals null, so both loops run out.
  | none => .ok 0
  | some number =>
      -- 1. Get category from network
      match networkCategory K L.mHashMapForNetworkEccCategory number with
      | some nSC => .ok nSC
      | none =>
          -- 3. Get category from user-customized
          match customizedEntry L.mCustomizedEccList number with
          | some eccEntry =>
              match parseInt eccEntry.mCategory with
              | some category => .ok category
              | none => .error .numberFormatException
          | none => .ok 0

end MediatekCommon.Ril
