/-
  Ril/Dial.lean --- `MediaTekRIL.dial`: how a call is routed.

  `dial` asks `isEmergencyNumberExt` about the address.  An emergency call becomes
  two requests, `RIL_REQUEST_SET_ECC_SERVICE_CATEGORY` with the category that
  `getServiceCategoryFromEcc` finds and then `RIL_REQUEST_EMERGENCY_DIAL`; any
  other call goes to the superclass.

  The classification works on the network portion of the address, the category
  lookup on the address as it is spelled, and both parse integers taken from
  outside.  `dial_cases` says once what a call does under which conditions on the
  address, the lists and the properties; the results below are read off it.
-/
import MediatekCommon.Ril.MediaTekRIL

set_option autoImplicit false

namespace MediatekCommon.Ril

open MediatekCommon.Foundation
open MediatekCommon.Foundation.JavaString

/-! ## The method -/

/-- The parcel of `RIL_REQUEST_EMERGENCY_DIAL`. -/
def emergencyDialParcel (address : Option JavaString) (clirMode : Int)
    (uusInfo : Option UUSInfo) : List ParcelItem :=
  [.string address, .int clirMode,
    .int 0] ++ -- UUS information is absent
    match uusInfo with
    | none => [.int 0] -- UUS information is absent
    | some uusInfo => -- UUS information is present
        [.int 1, .int uusInfo.uusType, .int uusInfo.uusDcs, .byteArray uusInfo.uusData]

/-- `dial(address, clirMode, uusInfo, result)`. -/
def dial (P : Platform) (K : KeySet) (s : MediaTekRIL) (address : Option JavaString)
    (clirMode : Int) (uusInfo : Option UUSInfo) (result : Option Message) :
    Except Throwable Unit × MediaTekRIL :=
  match isEmergencyNumberExt P K s.properties s.mEccList address with
  | (.error t, L) => (.error t, { s with mEccList := L })
  | (.ok true, L) =>
      let s := { s with mEccList := L }
      match getServiceCategoryFromEcc K L address with
      | .error t => (.error t, s)
      | .ok serviceCategory =>
          let s := s.sendNew .setEccServiceCategory none [.int 1, .int serviceCategory]
          (.ok (), s.sendNew .emergencyDial result
            (emergencyDialParcel address clirMode uusInfo))
  | (.ok false, L) =>
      (.ok (), { s with mEccList := L }.handOn (.superDial address clirMode uusInfo result))

/-! ## Which category an address selects -/

/-- The category of the first customised entry that matches, else 0. -/
def customizedCategory (custom : List EccEntry) (number : JavaString) : Int :=
  match customizedEntry custom number with
  | some eccEntry => (parseInt eccEntry.mCategory).getD 0
  | none => 0

/-- The category of the entry a number selects: the network's for the first key
that matches, else that of the customised list. -/
def selectedCategory (K : KeySet) (props : Properties) (custom : List EccEntry)
    (number : JavaString) : Int :=
  match networkCategory K (networkCategoryMap props) number with
  | some nSC => nSC
  | none => customizedCategory custom number

/-- The entry a number selects has a category that parses: it is one of the
network's, or a customised one with a numeric `Category`, or there is none. -/
def CategoryReadable (props : Properties) (custom : List EccEntry)
    (number : JavaString) : Prop :=
  Covers (networkNumbers props) number ∨
    ∀ eccEntry ∈ customizedEntry custom number, (parseInt eccEntry.mCategory).isSome

theorem networkCategory_eq_none_iff (K : KeySet) {m : CategoryMap} {number : JavaString} :
    networkCategory K m number = none ↔ ¬ Covers {ecc | ecc ∈ m} number := by
  simp only [networkCategory, List.findSome?_eq_none_iff, Covers, not_exists, not_and,
    K.mem_keys]
  constructor
  · intro h ecc hmem hmatch
    have hlookup : m.lookup ecc = none := by simpa [hmatch] using h ecc hmem
    exact AList.lookup_eq_none.mp hlookup hmem
  · intro h ecc hmem
    rw [if_neg (h ecc hmem)]

/-- The lookup after the network map is filled returns the selected category, or
throws when it does not parse. -/
theorem getServiceCategoryFromEcc_filled (K : KeySet) (props : Properties) (L : MtkEccList)
    (number : JavaString) :
    (CategoryReadable props L.mCustomizedEccList number →
      getServiceCategoryFromEcc K
          { L with mHashMapForNetworkEccCategory := networkCategoryMap props } (some number) =
        .ok (selectedCategory K props L.mCustomizedEccList number)) ∧
    (¬ CategoryReadable props L.mCustomizedEccList number →
      getServiceCategoryFromEcc K
          { L with mHashMapForNetworkEccCategory := networkCategoryMap props } (some number) =
        .error .numberFormatException) := by
  have hnone : networkCategory K (networkCategoryMap props) number = none ↔
      ¬ Covers (networkNumbers props) number := by
    rw [networkCategory_eq_none_iff, mem_networkCategoryMap]
  unfold CategoryReadable getServiceCategoryFromEcc selectedCategory customizedCategory
  cases hnet : networkCategory K (networkCategoryMap props) number with
  | some nSC =>
      have hcovers : Covers (networkNumbers props) number := by
        by_contra h
        simp [hnone.mpr h] at hnet
      exact ⟨fun _ => by simp only [hnet], fun h => absurd (.inl hcovers) h⟩
  | none =>
      have hcovers : ¬ Covers (networkNumbers props) number := hnone.mp hnet
      cases hcustom : customizedEntry L.mCustomizedEccList number with
      | none => exact ⟨fun _ => by simp only [hnet, hcustom], fun h => absurd (.inr (by simp)) h⟩
      | some eccEntry =>
          cases hparse : parseInt eccEntry.mCategory with
          | none => simp [hcovers, hparse, hnet, hcustom]
          | some category => simp [hparse, hnet, hcustom]

/-! ## What a call does -/

/-- The state with the network map filled from the properties. -/
def withNetworkMap (s : MediaTekRIL) : MediaTekRIL :=
  { s with
    mEccList :=
      { s.mEccList with mHashMapForNetworkEccCategory := networkCategoryMap s.properties } }

/-- The address is an emergency number: some current source lists its network
portion. -/
def IsEmergencyAddress (P : Platform) (s : MediaTekRIL) (address : JavaString) : Prop :=
  Covers (emergencyNumbers s.properties s.mEccList.mCustomizedEccList)
    (P.extractNetworkPortionAlt address)

section Cases

variable (P : Platform) (K : KeySet) {s : MediaTekRIL} (address : JavaString)
  (clirMode : Int) (uusInfo : Option UUSInfo) (result : Option Message)

/-- A category of the network list that does not parse fails every call. -/
theorem dial_of_not_numeric (hcat : ¬ CategoriesNumeric (categoryEntries s.properties)) :
    (dial P K s (some address) clirMode uusInfo result).1 = .error .numberFormatException ∧
      (dial P K s (some address) clirMode uusInfo result).2.outgoing = s.outgoing := by
  have herr := isEmergencyNumberExt_of_not_numeric P K hcat s.mEccList address
  unfold dial
  generalize isEmergencyNumberExt P K s.properties s.mEccList (some address) = classified
    at herr
  obtain ⟨answer, L⟩ := classified
  subst herr
  exact ⟨rfl, rfl⟩

/-- The classification, with numeric categories. -/
theorem isEmergencyNumberExt_withNetworkMap
    (hcat : CategoriesNumeric (categoryEntries s.properties)) :
    ∃ b, isEmergencyNumberExt P K s.properties s.mEccList (some address) =
        (.ok b, (withNetworkMap s).mEccList) ∧
      (b = true ↔ IsEmergencyAddress P s address) :=
  ⟨_, isEmergencyNumberExt_of_numeric P K hcat s.mEccList address,
    searchEccLists_iff K (mem_networkCategoryMap s.properties) _⟩

theorem dial_of_normal (hcat : CategoriesNumeric (categoryEntries s.properties))
    (hnot : ¬ IsEmergencyAddress P s address) :
    dial P K s (some address) clirMode uusInfo result =
      (.ok (), (withNetworkMap s).handOn
        (.superDial (some address) clirMode uusInfo result)) := by
  obtain ⟨b, hb, hiff⟩ := isEmergencyNumberExt_withNetworkMap P K address hcat
  have hfalse : b = false := by
    rw [← Bool.not_eq_true, hiff]
    exact hnot
  unfold dial
  rw [hb, hfalse]
  rfl

theorem dial_of_emergency (hcat : CategoriesNumeric (categoryEntries s.properties))
    (hemergency : IsEmergencyAddress P s address)
    (hread : CategoryReadable s.properties s.mEccList.mCustomizedEccList address) :
    dial P K s (some address) clirMode uusInfo result =
      (.ok (), ((withNetworkMap s).sendNew .setEccServiceCategory none
        [.int 1, .int (selectedCategory K s.properties s.mEccList.mCustomizedEccList
          address)]).sendNew .emergencyDial result
            (emergencyDialParcel (some address) clirMode uusInfo)) := by
  obtain ⟨b, hb, hiff⟩ := isEmergencyNumberExt_withNetworkMap P K address hcat
  have htrue : b = true := hiff.mpr hemergency
  have hlookup := (getServiceCategoryFromEcc_filled K s.properties s.mEccList address).1 hread
  unfold dial
  rw [hb, htrue]
  simp only [withNetworkMap, hlookup]

/-- An emergency call whose selected category does not parse fails. -/
theorem dial_of_unreadable (hcat : CategoriesNumeric (categoryEntries s.properties))
    (hemergency : IsEmergencyAddress P s address)
    (hread : ¬ CategoryReadable s.properties s.mEccList.mCustomizedEccList address) :
    dial P K s (some address) clirMode uusInfo result =
      (.error .numberFormatException, withNetworkMap s) := by
  obtain ⟨b, hb, hiff⟩ := isEmergencyNumberExt_withNetworkMap P K address hcat
  have htrue : b = true := hiff.mpr hemergency
  have hlookup := (getServiceCategoryFromEcc_filled K s.properties s.mEccList address).2 hread
  unfold dial
  rw [hb, htrue]
  simp only [withNetworkMap, hlookup]

end Cases

/-! ## The two ways a call can go -/

/-- The call returned and was handed to the ordinary `super.dial`, once. -/
def DialsNormally (s : MediaTekRIL) (r : Except Throwable Unit × MediaTekRIL)
    (address : Option JavaString) (clirMode : Int) (uusInfo : Option UUSInfo)
    (result : Option Message) : Prop :=
  r.1 = .ok () ∧
    r.2.outgoing = s.outgoing ++ [.superDial address clirMode uusInfo result]

/-- The call returned and sent the category request and then the emergency
dial. -/
def DialsEmergency (s : MediaTekRIL) (r : Except Throwable Unit × MediaTekRIL)
    (address : Option JavaString) (clirMode : Int) (uusInfo : Option UUSInfo)
    (result : Option Message) : Prop :=
  r.1 = .ok () ∧ ∃ serviceCategory,
    r.2.outgoing = s.outgoing ++
      [.request ⟨s.nextSerial, .setEccServiceCategory, [.int 1, .int serviceCategory], none⟩,
       .request ⟨s.nextSerial + 1, .emergencyDial,
         emergencyDialParcel address clirMode uusInfo, result⟩]

theorem not_dialsNormally_of_dialsEmergency {s : MediaTekRIL}
    {r : Except Throwable Unit × MediaTekRIL} {address : Option JavaString} {clirMode : Int}
    {uusInfo : Option UUSInfo} {result : Option Message}
    (h : DialsEmergency s r address clirMode uusInfo result) :
    ¬ DialsNormally s r address clirMode uusInfo result := by
  intro hnormal
  obtain ⟨-, serviceCategory, hsent⟩ := h
  have hlength := congrArg List.length (hsent.symm.trans hnormal.2)
  simp at hlength

section Routing

variable (P : Platform) (K : KeySet) {s : MediaTekRIL} (address : JavaString)
  (clirMode : Int) (uusInfo : Option UUSInfo) (result : Option Message)

/-- An emergency call with a category that cannot be read, in the network list or
in the entry it selects, throws. -/
theorem dial_error_of_emergency (hemergency : IsEmergencyAddress P s address)
    (h : ¬ (CategoriesNumeric (categoryEntries s.properties) ∧
      CategoryReadable s.properties s.mEccList.mCustomizedEccList address)) :
    (dial P K s (some address) clirMode uusInfo result).1 = .error .numberFormatException := by
  by_cases hcat : CategoriesNumeric (categoryEntries s.properties)
  · have hread := (not_and.mp h) hcat
    rw [dial_of_unreadable P K address clirMode uusInfo result hcat hemergency hread]
  · exact (dial_of_not_numeric P K address clirMode uusInfo result hcat).1

/-- An emergency address is dialled as one exactly when the category list and the
category it selects can be read. -/
theorem dialsEmergency_iff (hemergency : IsEmergencyAddress P s address) :
    DialsEmergency s (dial P K s (some address) clirMode uusInfo result) (some address)
        clirMode uusInfo result ↔
      CategoriesNumeric (categoryEntries s.properties) ∧
        CategoryReadable s.properties s.mEccList.mCustomizedEccList address := by
  constructor
  · intro hsent
    by_contra h
    have herr := dial_error_of_emergency P K address clirMode uusInfo result hemergency h
    simp [hsent.1] at herr
  · intro h
    rw [dial_of_emergency P K address clirMode uusInfo result h.1 hemergency h.2]
    refine ⟨rfl, selectedCategory K s.properties s.mEccList.mCustomizedEccList address, ?_⟩
    simp [withNetworkMap]

/-- An emergency address is never handed to the ordinary dial. -/
theorem not_dialsNormally_of_emergency (hemergency : IsEmergencyAddress P s address) :
    ¬ DialsNormally s (dial P K s (some address) clirMode uusInfo result) (some address)
      clirMode uusInfo result := by
  intro hnormal
  by_cases h : CategoriesNumeric (categoryEntries s.properties) ∧
      CategoryReadable s.properties s.mEccList.mCustomizedEccList address
  · have hsent := (dialsEmergency_iff P K address clirMode uusInfo result hemergency).mpr h
    exact not_dialsNormally_of_dialsEmergency hsent hnormal
  · have herr := dial_error_of_emergency P K address clirMode uusInfo result hemergency h
    simp [hnormal.1] at herr

/-- A call ends in one of the two ways exactly when the category list is numeric
and, for an emergency address, the category it selects can be read. -/
theorem dial_completes_iff :
    DialsEmergency s (dial P K s (some address) clirMode uusInfo result) (some address)
        clirMode uusInfo result ∨
      DialsNormally s (dial P K s (some address) clirMode uusInfo result) (some address)
        clirMode uusInfo result ↔
    CategoriesNumeric (categoryEntries s.properties) ∧
      (IsEmergencyAddress P s address →
        CategoryReadable s.properties s.mEccList.mCustomizedEccList address) := by
  by_cases hemergency : IsEmergencyAddress P s address
  · have hnot := not_dialsNormally_of_emergency P K address clirMode uusInfo result hemergency
    rw [dialsEmergency_iff P K address clirMode uusInfo result hemergency]
    simp only [hnot, hemergency, or_false, true_imp_iff]
  · by_cases hcat : CategoriesNumeric (categoryEntries s.properties)
    · refine iff_of_true (.inr ?_) ⟨hcat, fun h => absurd h hemergency⟩
      rw [dial_of_normal P K address clirMode uusInfo result hcat hemergency]
      exact ⟨rfl, rfl⟩
    · refine iff_of_false (fun h => ?_) fun h => hcat h.1
      have herr := (dial_of_not_numeric P K address clirMode uusInfo result hcat).1
      rcases h with h | h
      · exact absurd (herr.symm.trans h.1) (by simp)
      · exact absurd (herr.symm.trans h.1) (by simp)

/-- With numeric categories a call leaves the network map filled from the
properties, whatever becomes of it. -/
theorem dial_networkMap (hcat : CategoriesNumeric (categoryEntries s.properties)) :
    (dial P K s (some address) clirMode uusInfo result).2.mEccList =
      (withNetworkMap s).mEccList := by
  by_cases hemergency : IsEmergencyAddress P s address
  · by_cases hread : CategoryReadable s.properties s.mEccList.mCustomizedEccList address
    · rw [dial_of_emergency P K address clirMode uusInfo result hcat hemergency hread]
      rfl
    · rw [dial_of_unreadable P K address clirMode uusInfo result hcat hemergency hread]
  · rw [dial_of_normal P K address clirMode uusInfo result hcat hemergency]
    rfl

end Routing

/-! ## The category of an emergency call -/

/-- The network list or the customised list has a number that matches. -/
def ListedWithCategory (props : Properties) (custom : List EccEntry)
    (number : JavaString) : Prop :=
  Covers (networkNumbers props) number ∨ ∃ e ∈ custom, matchesNumber e.mEcc number = true

theorem selectedCategory_of_not_listed (K : KeySet) {props : Properties}
    {custom : List EccEntry} {number : JavaString}
    (h : ¬ ListedWithCategory props custom number) :
    selectedCategory K props custom number = 0 := by
  obtain ⟨hnetwork, hcustom⟩ := not_or.mp h
  have hnet : networkCategory K (networkCategoryMap props) number = none := by
    rw [networkCategory_eq_none_iff, mem_networkCategoryMap]
    exact hnetwork
  have hentry : customizedEntry custom number = none := by
    unfold customizedEntry
    rw [List.find?_eq_none]
    intro e he hmatch
    exact hcustom ⟨e, he, hmatch⟩
  simp only [selectedCategory, customizedCategory, hnet, hentry]

/-- `getServiceCategoryFromEcc(address)`, called right after an `isEmergencyNumberExt(address)`
that is true, returns the category the network portion selects. -/
def SendsOwnCategory (P : Platform) (K : KeySet) (props : Properties) (custom : List EccEntry)
    (address : JavaString) : Prop :=
  ∀ m, let answer := isEmergencyNumberExt P K props ⟨custom, m⟩ (some address)
    answer.1 = .ok true →
      getServiceCategoryFromEcc K answer.2 (some address) =
        .ok (selectedCategory K props custom (P.extractNetworkPortionAlt address))

section Category

variable {P : Platform} {K : KeySet} {props : Properties} {custom : List EccEntry}
  {address : JavaString}

/-- The lookup goes by the address as it is spelled. -/
theorem sendsOwnCategory_iff (hcat : CategoriesNumeric (categoryEntries props))
    (hcustom : ∀ e ∈ custom, (parseInt e.mCategory).isSome)
    (hemergency : Covers (emergencyNumbers props custom) (P.extractNetworkPortionAlt address)) :
    SendsOwnCategory P K props custom address ↔
      selectedCategory K props custom address =
        selectedCategory K props custom (P.extractNetworkPortionAlt address) := by
  have hread : CategoryReadable props custom address :=
    .inr fun e he => hcustom e (List.mem_of_find?_eq_some he)
  have htrue := (searchEccLists_iff K (mem_networkCategoryMap props) _).mpr hemergency
  have hlookup : ∀ m, getServiceCategoryFromEcc K
      (isEmergencyNumberExt P K props ⟨custom, m⟩ (some address)).2 (some address) =
        .ok (selectedCategory K props custom address) := by
    intro m
    rw [isEmergencyNumberExt_of_numeric P K hcat]
    exact (getServiceCategoryFromEcc_filled K props ⟨custom, m⟩ address).1 hread
  have hanswer : ∀ m, (isEmergencyNumberExt P K props ⟨custom, m⟩ (some address)).1 =
      .ok true := by
    intro m
    rw [isEmergencyNumberExt_of_numeric P K hcat]
    exact congrArg _ htrue
  unfold SendsOwnCategory
  simp only [hanswer, hlookup, true_imp_iff, Except.ok.injEq]
  exact ⟨fun h => h ∅, fun h _ => h⟩

/-- The category that a network list of one entry selects. -/
theorem selectedCategory_of_single {ecc : JavaString} {c : Int}
    (hentries : numericEntries (categoryEntries props) = [(ecc, c)]) (number : JavaString) :
    selectedCategory K props custom number =
      if matchesNumber ecc number then c else customizedCategory custom number := by
  have hmap : networkCategoryMap props = (∅ : CategoryMap).insert ecc c := by
    rw [networkCategoryMap, hentries]
    rfl
  have hkeys : K.keys (networkCategoryMap props) = [ecc] := by
    refine List.perm_singleton.mp ((K.keys_perm _).trans ?_)
    rw [hmap]
    exact List.Perm.refl [ecc]
  have hnetwork : networkCategory K (networkCategoryMap props) number =
      if matchesNumber ecc number then some c else none := by
    rw [networkCategory, hkeys, hmap, List.findSome?_cons, List.findSome?_nil,
      AList.lookup_insert]
    cases matchesNumber ecc number <;> rfl
  unfold selectedCategory
  rw [hnetwork]
  cases matchesNumber ecc number <;> rfl

end Category

/-- There is a category other than a given one. -/
theorem exists_other_category (d : Int) :
    ∃ (category : JavaString) (c : Int), parseInt category = some c ∧ c ≠ d ∧
      ',' ∉ category ∧ ';' ∉ category := by
  by_cases hd : d = 0
  · exact ⟨['1'], 1, by decide, by omega, by decide, by decide⟩
  · exact ⟨['0'], 0, by decide, fun h => hd h.symm, by decide, by decide⟩

/-- An address that is not its own network portion is sent another category by some lists. -/
theorem exists_not_sendsOwnCategory {P : Platform} (hP : P.StopsAtPostDial)
    {custom : List EccEntry} (hcustom : ∀ e ∈ custom, (parseInt e.mCategory).isSome)
    {address : JavaString} (hspelling : address ≠ P.extractNetworkPortionAlt address)
    (K : KeySet) :
    ∃ props, CategoriesNumeric (categoryEntries props) ∧
      ¬ SendsOwnCategory P K props custom address := by
  have hstops := hP address
  generalize hnumber : P.extractNetworkPortionAlt address = number at hspelling hstops
  by_cases hplus : address = number ++ ['+']
  · -- The entry for the portion matches the spelling too; only the entry for the spelling
    -- tells the two apart, and a SIM has to list the portion.
    obtain ⟨category, c, hparse, hother, htext⟩ :=
      exists_other_category (customizedCategory custom number)
    let props := propertiesOfLists (join ',' [number, ['0']]) [] (categoryEntry address category)
    have haddress : ',' ∉ address ∧ ';' ∉ address := by
      rw [hplus]
      simp [hstops.1, hstops.2]
    obtain ⟨hcat, hpairs⟩ : CategoriesNumeric (categoryEntries props) ∧ _ :=
      categoryEntries_single rfl haddress htext hparse
    have hemergency : Covers (emergencyNumbers props custom)
        (P.extractNetworkPortionAlt address) := by
      rw [hnumber]
      have hsplit : split ',' (join ',' [number, ['0']]) = [number, ['0']] :=
        split_join (by simp [hstops.1]) (by simp) (by simp)
      have hsim : number ∈ simNumbers (props .rilEcclist) := by
        refine ⟨by simp [props, propertiesOfLists, join], ?_⟩
        change number ∈ split ',' (join ',' [number, ['0']])
        simp [hsplit]
      exact ⟨number, .inl (.inl (.inl (.inr hsim))), matchesNumber_self number⟩
    refine ⟨props, hcat, ?_⟩
    rw [sendsOwnCategory_iff hcat hcustom hemergency, hnumber,
      selectedCategory_of_single hpairs, selectedCategory_of_single hpairs,
      matchesNumber_self, if_pos rfl, matchesNumber_eq_false_iff.mpr ⟨?_, ?_⟩]
    · exact hother
    · exact fun h => hspelling h.symm
    · rw [hplus]
      simp
  · obtain ⟨category, c, hparse, hother, htext⟩ :=
      exists_other_category (customizedCategory custom address)
    let props := propertiesOfLists [] [] (categoryEntry number category)
    obtain ⟨hcat, hpairs⟩ : CategoriesNumeric (categoryEntries props) ∧ _ :=
      categoryEntries_single rfl hstops htext hparse
    have hemergency : Covers (emergencyNumbers props custom)
        (P.extractNetworkPortionAlt address) := by
      rw [hnumber]
      have hnetwork : number ∈ networkNumbers props := ⟨c, by simp [hpairs]⟩
      exact ⟨number, .inl (.inl (.inl (.inl hnetwork))), matchesNumber_self number⟩
    refine ⟨props, hcat, ?_⟩
    rw [sendsOwnCategory_iff hcat hcustom hemergency, hnumber,
      selectedCategory_of_single hpairs, selectedCategory_of_single hpairs,
      matchesNumber_self, if_pos rfl, matchesNumber_eq_false_iff.mpr ⟨hspelling, hplus⟩]
    exact hother.symm

/-- The lists give the number no category but 0: neither an entry of the category list nor,
if there is none, the first customised one. -/
def SelectsZero (props : Properties) (custom : List EccEntry) (number : JavaString) : Prop :=
  (∀ ecc c, (networkCategoryMap props).lookup ecc = some c → matchesNumber ecc number = true →
      c = 0) ∧
    (¬ Covers (networkNumbers props) number →
      ∀ eccEntry ∈ customizedEntry custom number, parseInt eccEntry.mCategory = some 0)

theorem selectedCategory_eq_zero_iff {props : Properties} {custom : List EccEntry}
    (hcustom : ∀ e ∈ custom, (parseInt e.mCategory).isSome) (number : JavaString) :
    (∀ K, selectedCategory K props custom number = 0) ↔ SelectsZero props custom number := by
  have hnone : ∀ K, networkCategory K (networkCategoryMap props) number = none ↔
      ¬ Covers (networkNumbers props) number := by
    intro K
    rw [networkCategory_eq_none_iff, mem_networkCategoryMap]
  have hzero : customizedCategory custom number = 0 ↔
      ∀ eccEntry ∈ customizedEntry custom number, parseInt eccEntry.mCategory = some 0 := by
    unfold customizedCategory
    cases hentry : customizedEntry custom number with
    | none => simp
    | some e =>
        obtain ⟨c, hc⟩ := Option.isSome_iff_exists.mp
          (hcustom e (List.mem_of_find?_eq_some hentry))
        simp [hc]
  constructor
  · intro h
    refine ⟨fun ecc c hlookup hmatch => ?_, fun hcovers => ?_⟩
    · -- The order that visits this key first selects its category.
      have hmem : ecc ∈ (networkCategoryMap props).keys :=
        AList.lookup_isSome.mp (by simp [hlookup])
      have hfirst : networkCategory (.first ecc) (networkCategoryMap props) number = some c := by
        simp [networkCategory, KeySet.first, hmem, hmatch, hlookup]
      have hK := h (.first ecc)
      unfold selectedCategory at hK
      simpa only [hfirst] using hK
    · have hK := h .reference
      unfold selectedCategory at hK
      rw [(hnone .reference).mpr hcovers] at hK
      exact hzero.mp hK
  · intro h K
    unfold selectedCategory
    cases hnetwork : networkCategory K (networkCategoryMap props) number with
    | some c =>
        obtain ⟨ecc, hkey, hfound⟩ := List.exists_of_findSome?_eq_some hnetwork
        split at hfound
        · rename_i hmatch
          exact h.1 ecc c hfound hmatch
        · cases hfound
    | none => exact hzero.mpr (h.2 ((hnone K).mp hnetwork))

/-- The listed numbers are spelled as network portions, with or without a plus sign behind
them. -/
def SpelledPlainly (P : Platform) (props : Properties) (custom : List EccEntry) : Prop :=
  ∀ ecc, (ecc ∈ networkNumbers props ∨ ∃ e ∈ custom, e.mEcc = ecc) →
    P.extractNetworkPortionAlt ecc = ecc ∧
      P.extractNetworkPortionAlt (ecc ++ ['+']) = ecc ++ ['+']

/-- Such lists do not list an address that is not its own network portion. -/
theorem not_listedWithCategory_of_spelledPlainly {P : Platform} {props : Properties}
    {custom : List EccEntry} (hplain : SpelledPlainly P props custom) {address : JavaString}
    (hspelling : address ≠ P.extractNetworkPortionAlt address) :
    ¬ ListedWithCategory props custom address := by
  have hno : ∀ ecc, (ecc ∈ networkNumbers props ∨ ∃ e ∈ custom, e.mEcc = ecc) →
      ¬ matchesNumber ecc address = true := by
    intro ecc hlisted hmatch
    obtain ⟨hself, hplus⟩ := hplain ecc hlisted
    rcases Bool.or_eq_true_iff.mp hmatch with h | h
    · obtain rfl := eq_of_beq h
      exact hspelling hself.symm
    · obtain rfl := eq_of_beq h
      exact hspelling hplus.symm
  rintro (⟨ecc, hmem, hmatch⟩ | ⟨e, hmem, hmatch⟩)
  · exact hno ecc (.inl hmem) hmatch
  · exact hno e.mEcc (.inr ⟨e, hmem, rfl⟩) hmatch

/-- The category sent with an emergency call.  It is the one of the network portion whatever
the lists hold exactly for the addresses that are their own network portion.  With lists of
plainly spelled numbers it is, in every order of the keys, exactly for these addresses and
those whose network portion the lists give no category but 0. -/
theorem getServiceCategoryFromEcc_iff {P : Platform} (hP : P.StopsAtPostDial)
    {custom : List EccEntry} (hcustom : ∀ e ∈ custom, (parseInt e.mCategory).isSome)
    (address : JavaString) :
    let number := P.extractNetworkPortionAlt address
    ((∀ K props, CategoriesNumeric (categoryEntries props) →
        SendsOwnCategory P K props custom address) ↔ address = number) ∧
      ∀ props, CategoriesNumeric (categoryEntries props) → SpelledPlainly P props custom →
        Covers (emergencyNumbers props custom) number →
        ((∀ K, SendsOwnCategory P K props custom address) ↔
          address = number ∨ SelectsZero props custom number) := by
  intro number
  have hown : address = number → ∀ K props, CategoriesNumeric (categoryEntries props) →
      SendsOwnCategory P K props custom address := by
    intro heq K props hcat
    by_cases hemergency : Covers (emergencyNumbers props custom) number
    · rw [sendsOwnCategory_iff hcat hcustom hemergency]
      exact congrArg (selectedCategory K props custom) heq
    · intro m answer htrue
      exact absurd (((isEmergencyNumberExt_eq_ok_iff P K hcat ⟨custom, m⟩ address true).mp
        htrue).mp rfl) hemergency
  constructor
  · refine ⟨fun h => ?_, hown⟩
    by_contra hspelling
    obtain ⟨props, hcat, hwrong⟩ :=
      exists_not_sendsOwnCategory hP hcustom hspelling .reference
    exact hwrong (h .reference props hcat)
  · intro props hcat hplain hemergency
    by_cases hspelling : address = number
    · exact iff_of_true (fun K => hown hspelling K props hcat) (.inl hspelling)
    · have hraw : ∀ K, selectedCategory K props custom address = 0 := fun K =>
        selectedCategory_of_not_listed K
          (not_listedWithCategory_of_spelledPlainly hplain hspelling)
      simp only [sendsOwnCategory_iff hcat hcustom hemergency, hraw, hspelling, false_or]
      rw [← selectedCategory_eq_zero_iff hcustom]
      exact forall_congr' fun K => eq_comm

/-- The installed list and a network list that gives 112 the category 5: "1-1-2" is not its
own network portion, and is not sent that category. -/
theorem getServiceCategoryFromEcc_iff_112 :
    (∀ K, SendsOwnCategory .reference K (propertiesOfLists [] [] "112,5".toList) eccTable
        "1-1-2".toList) ↔
      "1-1-2".toList = Platform.reference.extractNetworkPortionAlt "1-1-2".toList ∨
        SelectsZero (propertiesOfLists [] [] "112,5".toList) eccTable "112".toList := by
  have hcustom : ∀ e ∈ eccTable, (parseInt e.mCategory).isSome := by decide
  refine (getServiceCategoryFromEcc_iff Platform.reference_stopsAtPostDial hcustom
    "1-1-2".toList).2 _ (by decide) ?_ ?_
  · rintro ecc (⟨c, hmem⟩ | ⟨e, hmem, rfl⟩)
    · obtain rfl : ecc = "112".toList := by
        have hentries : numericEntries (categoryEntries (propertiesOfLists [] []
          "112,5".toList)) = [("112".toList, 5)] := by decide
        rw [hentries] at hmem
        simpa using congrArg Prod.fst (List.mem_singleton.mp hmem)
      decide
    · revert e
      decide
  · exact (searchEccLists_iff .reference (mem_networkCategoryMap _) _).mp (by decide)

/-- "1-1-2" and "112" have one network portion, listed by the network with
category 5; the first is dialled with category 0. -/
theorem getServiceCategoryFromEcc_separators :
    let props := propertiesOfLists [] [] "112,5".toList
    let dashed := isEmergencyNumberExt .reference .reference props ⟨eccTable, ∅⟩
      (some "1-1-2".toList)
    let plain := isEmergencyNumberExt .reference .reference props ⟨eccTable, ∅⟩
      (some "112".toList)
    Platform.reference.extractNetworkPortionAlt "1-1-2".toList = "112".toList ∧
      dashed.1 = .ok true ∧ plain.1 = .ok true ∧
      getServiceCategoryFromEcc .reference dashed.2 (some "1-1-2".toList) = .ok 0 ∧
      getServiceCategoryFromEcc .reference plain.2 (some "112".toList) = .ok 5 :=
  ⟨rfl, rfl, rfl, rfl, rfl⟩

/-! ## The condition of a customised entry -/

/-- A customised entry with this condition matches the address's network
portion. -/
def MatchesCondition (P : Platform) (s : MediaTekRIL) (condition address : JavaString) : Prop :=
  ∃ e ∈ s.mEccList.mCustomizedEccList, e.mCondition = condition ∧
    matchesNumber e.mEcc (P.extractNetworkPortionAlt address) = true

/-- The network or a SIM lists the address's network portion. -/
def ListedOutside (P : Platform) (s : MediaTekRIL) (address : JavaString) : Prop :=
  Covers (networkNumbers s.properties ∪ simNumbers (s.properties .rilEcclist) ∪
    simNumbers (s.properties .rilEcclist1)) (P.extractNetworkPortionAlt address)

/-- A customised entry makes its number an emergency number under every condition
but `ECC_NO_SIM`; the code tells `ECC_ALWAYS` and `ECC_FOR_MMI` apart nowhere. -/
theorem isEmergencyAddress_of_matchesCondition {P : Platform} {s : MediaTekRIL}
    {condition address : JavaString} (hcond : condition ≠ eccNoSim)
    (h : MatchesCondition P s condition address) : IsEmergencyAddress P s address := by
  obtain ⟨e, hmem, rfl, hmatch⟩ := h
  exact ⟨e.mEcc, .inl (.inr ⟨e, hmem, hcond, rfl⟩), hmatch⟩

/-- The routing of `ECC_FOR_MMI` and `ECC_ALWAYS` numbers.  It is as the list's
comment has it, the former as a normal call when nothing else lists them and the
latter as an emergency call, exactly for the addresses that are not such an
`ECC_FOR_MMI` number and whose category can be read if they are an `ECC_ALWAYS`
one. -/
theorem dial_by_condition_iff (P : Platform) (K : KeySet) (s : MediaTekRIL)
    (address : JavaString) (clirMode : Int) (uusInfo : Option UUSInfo)
    (result : Option Message) :
    let r := dial P K s (some address) clirMode uusInfo result
    ((MatchesCondition P s eccForMmi address → ¬ ListedOutside P s address →
        DialsNormally s r (some address) clirMode uusInfo result) ∧
      (MatchesCondition P s eccAlways address →
        DialsEmergency s r (some address) clirMode uusInfo result)) ↔
    (MatchesCondition P s eccForMmi address → ListedOutside P s address) ∧
      (MatchesCondition P s eccAlways address →
        CategoriesNumeric (categoryEntries s.properties) ∧
          CategoryReadable s.properties s.mEccList.mCustomizedEccList address) := by
  intro r
  constructor
  · intro h
    refine ⟨fun hmmi => ?_, fun halways => ?_⟩
    · by_contra houtside
      have hemergency := isEmergencyAddress_of_matchesCondition (by decide) hmmi
      exact not_dialsNormally_of_emergency P K address clirMode uusInfo result hemergency
        (h.1 hmmi houtside)
    · have hemergency := isEmergencyAddress_of_matchesCondition (by decide) halways
      exact (dialsEmergency_iff P K address clirMode uusInfo result hemergency).mp (h.2 halways)
  · intro h
    refine ⟨fun hmmi houtside => absurd (h.1 hmmi) houtside, fun halways => ?_⟩
    have hemergency := isEmergencyAddress_of_matchesCondition (by decide) halways
    exact (dialsEmergency_iff P K address clirMode uusInfo result hemergency).mpr (h.2 halways)

/-- 110 is an `ECC_FOR_MMI` number of the installed list.  With no SIM list and no
network list it is dialled as an emergency call. -/
theorem dial_110 :
    let s := MediaTekRIL.start ⟨eccTable, ∅⟩ (propertiesOfLists [] [] [])
    let r := dial .reference .reference s (some "110".toList) 0 none none
    (eccTable.map EccEntry.mEcc).Nodup ∧
      MatchesCondition .reference s eccForMmi "110".toList ∧
      r.1 = .ok () ∧
      r.2.outgoing =
        [.request ⟨0, .setEccServiceCategory, [.int 1, .int 0], none⟩,
         .request ⟨1, .emergencyDial, emergencyDialParcel (some "110".toList) 0 none, none⟩] :=
  ⟨by decide, ⟨⟨"110".toList, "0".toList, eccForMmi⟩, by decide, rfl, rfl⟩, rfl, rfl⟩

/-! ## Malformed lists -/

/-- The well-formed entries of the category list: two fields, a non-empty number
and a numeric category. -/
def wellFormedEntries (entries : List JavaString) : List (JavaString × Int) :=
  (numericEntries entries).filter fun pair => !pair.1.isEmpty

/-- The map that holds the well-formed entries and nothing else is the one the
loop builds exactly if no two-field entry has an empty number. -/
theorem categoryMapOf_wellFormed_iff {entries : List JavaString} :
    categoryMapOf ∅ (numericEntries entries) = categoryMapOf ∅ (wellFormedEntries entries) ↔
      ∀ pair ∈ numericEntries entries, pair.1 ≠ [] := by
  constructor
  · intro h pair hmem hnil
    have hkey : ([] : JavaString) ∈ categoryMapOf ∅ (wellFormedEntries entries) := by
      rw [← h, mem_categoryMapOf]
      exact .inr ⟨pair.2, hnil ▸ hmem⟩
    simp [mem_categoryMapOf, wellFormedEntries] at hkey
  · intro h
    have hall : wellFormedEntries entries = numericEntries entries := by
      apply List.filter_eq_self.mpr
      intro pair hmem
      simpa using h pair hmem
    rw [hall]

end MediatekCommon.Ril
