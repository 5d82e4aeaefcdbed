/-
  Ril/SimLists.lean --- the two SIM lists, over whole runs.

  The vendor RIL writes the emergency numbers of a SIM to a property whenever it likes, and
  a reply to `GET_SIM_STATUS` makes this class add the customised numbers.  It reads the
  property, and sets it some time later: what the vendor writes in between is overwritten
  and lost.  Nothing else touches the two properties.

  So whatever happens in whatever order, each of them holds what was last written from
  outside and not lost, or, once a refresh of it has been accepted since then, exactly
  those numbers and the customised ones (`simLists_run`).  The numbers of that last list
  are emergency numbers until the vendor writes the list again
  (`vendorNumbers_stay_emergency`).  The lists written are taken to be of distinct numbers
  that are neither empty nor contain a comma, and so is the customised one.
-/
import MediatekCommon.Ril.Events
import MediatekCommon.Ril.RepeatedRefresh

set_option autoImplicit false

namespace MediatekCommon.Ril

open MediatekCommon.Foundation
open MediatekCommon.Foundation.JavaString

variable {β γ : Type}

/-! ## A refresh while others write -/

/-- Properties and the values that others write to them, in their order. -/
abbrev Writes : Type := List (PropKey × JavaString)

/-- The properties behind some writes. -/
def Properties.written (props : Properties) (writes : Writes) : Properties :=
  writes.foldl (fun props write => Function.update props write.1 write.2) props

/-- The refresh of one property, with what others write between its `get` and its `set`. -/
def refreshSlotAmid (P : Platform) (custom : List EccEntry) (writes : Writes)
    (props : Properties) (key : PropKey) : Except Throwable Unit × Properties :=
  let numbers := props key
  (props.written writes).set P key (join ',' (refreshedList custom numbers))

/-- `updateEmergencyNumbersProperty()`, with what others write between the `get` and the
`set` of each property. -/
def updateEmergencyNumbersAmid (P : Platform) (custom : List EccEntry) (amid : PropKey → Writes)
    (props : Properties) : Except Throwable Unit × Properties :=
  match refreshSlotAmid P custom (amid .rilEcclist) props .rilEcclist with
  | (.error t, props) => (.error t, props)
  | (.ok (), props) => refreshSlotAmid P custom (amid .rilEcclist1) props .rilEcclist1

/-- `refreshEmergencyList()`, with what others write meanwhile. -/
def MediaTekRIL.refreshAmid (P : Platform) (amid : PropKey → Writes) (s : MediaTekRIL) :
    Except Throwable Unit × MediaTekRIL :=
  if s.mEccListAssigned then
    let (res, props) :=
      updateEmergencyNumbersAmid P s.mEccList.mCustomizedEccList amid s.properties
    (res, { s with properties := props })
  else (.ok (), s)

/-- An event, with what others write while a refresh that it starts is under way. -/
structure SimEvent (β γ : Type) where
  event : RilEvent β γ
  amid : PropKey → Writes

/-- One event. -/
def simStep (F : Framework β γ) (s : ReceivingRIL) (e : SimEvent β γ) : ReceivingRIL :=
  match e.event with
  | .solicited r =>
      s.withRIL (processBehind F.superclass r (prePassWith F.superclass
        (MediaTekRIL.refreshAmid F.platform e.amid) s.toMediaTekRIL r)).2
  | event => rilStep F s event

/-- If nobody writes meanwhile, this is the step of `Ril/Events.lean`. -/
theorem simStep_undisturbed (F : Framework β γ) (s : ReceivingRIL) (event : RilEvent β γ) :
    simStep F s ⟨event, fun _ => []⟩ = rilStep F s event := by
  cases event <;> rfl

/-! ## What a SIM list should hold -/

/-- A SIM list, as seen from outside: what was last written to it and not lost, and whether
it has been refreshed since. -/
structure SimSlot where
  vendor : JavaString
  refreshed : Bool

namespace SimSlot

/-- The numbers of the list. -/
def numbers (custom : List EccEntry) (slot : SimSlot) : Set JavaString :=
  if slot.refreshed then refreshedNumbers custom slot.vendor (simNumbers slot.vendor)
  else simNumbers slot.vendor

/-- A value of the property that stands for a SIM list. -/
structure Represents (custom : List EccEntry) (slot : SimSlot) (value : JavaString) : Prop where
  vendor : ListsExactly slot.vendor (simNumbers slot.vendor)
  lists : ListsExactly value (slot.numbers custom)
  unrefreshed : slot.refreshed = false → value = slot.vendor

/-- Others write. -/
def written (key : PropKey) (slot : SimSlot) (writes : Writes) : SimSlot :=
  writes.foldl (fun slot write => if write.1 = key then ⟨write.2, false⟩ else slot) slot

/-- The refresh of a property: if the value it sets is accepted, what others have written to
that property meanwhile is lost. -/
def refreshSlot (P : Platform) (custom : List EccEntry) (writes : Writes) (props : Properties)
    (key' key : PropKey) (slot : SimSlot) : SimSlot :=
  if key' = key ∧ P.acceptsValue key' (join ',' (refreshedList custom (props key'))) = true then
    { slot with refreshed := true }
  else slot.written key writes

/-- The refresh of both properties. -/
def refreshAmid (P : Platform) (amid : PropKey → Writes) (s : MediaTekRIL) (key : PropKey)
    (slot : SimSlot) : SimSlot :=
  let custom := s.mEccList.mCustomizedEccList
  if s.mEccListAssigned then
    let slot := slot.refreshSlot P custom (amid .rilEcclist) s.properties .rilEcclist key
    match refreshSlotAmid P custom (amid .rilEcclist) s.properties .rilEcclist with
    | (.error _, _) => slot
    | (.ok (), props) => slot.refreshSlot P custom (amid .rilEcclist1) props .rilEcclist1 key
  else slot

open Classical in
/-- What an event does to a SIM list. -/
noncomputable def next (F : Framework β γ) (key : PropKey) (s : ReceivingRIL) (slot : SimSlot)
    (e : SimEvent β γ) : SimSlot :=
  match e.event with
  | .property key' value => slot.written key [(key', value)]
  | .solicited r =>
      if StartsRefresh F.superclass s.toMediaTekRIL r then
        slot.refreshAmid F.platform e.amid s.toMediaTekRIL key
      else slot
  | _ => slot

/-- What a run does to a SIM list. -/
noncomputable def along (F : Framework β γ) (key : PropKey) :
    ReceivingRIL → SimSlot → List (SimEvent β γ) → SimSlot
  | _, slot, [] => slot
  | s, slot, e :: es => along F key (simStep F s e) (slot.next F key s e) es

end SimSlot

/-! ## What leaves the lists alone -/

/-- The superclass leaves the SIM lists alone. -/
structure Framework.LeavesLists (F : Framework β γ) : Prop where
  carryOut : ∀ s out, SameLists s (F.carryOut s out)
  superMethod : ∀ s call, SameLists s (F.superMethod s call)
  processUnsolicited : ∀ s p type,
    SameLists s.toMediaTekRIL (F.receiver.processUnsolicited s p type).toMediaTekRIL

theorem Framework.reference_leavesLists : Framework.reference.LeavesLists where
  carryOut s out := by
    cases out with
    | request rr => exact .refl s
    | superDial | superSetRadioPower | superDeactivateDataCall => exact sameLists_sendNew s _ _ _
  superMethod s call := by
    unfold reference
    dsimp only
    split <;> exact sameLists_sendNew s _ _ _
  processUnsolicited s _ _ := .refl s.toMediaTekRIL

theorem sameLists_withSuper {F : Framework β γ} (hF : F.LeavesLists) {s s' : MediaTekRIL}
    (h : SameLists s s') : SameLists s (.withSuper F s s') := by
  unfold MediaTekRIL.withSuper
  generalize s'.outgoing.drop s.outgoing.length = outs
  induction outs generalizing s' with
  | nil => exact h
  | cons out outs ih => exact ih (h.trans (hF.carryOut s' out))

theorem CallCases.sameLists {s : MediaTekRIL} {result : Option Message}
    {r : Except Throwable Unit × MediaTekRIL} (h : CallCases s result r) : SameLists s r.2 := by
  cases h with
  | throws t s' h => exact h.lists
  | sends s' h => exact h.lists.trans (sameLists_sendNew s' _ _ _)
  | sendsTwo s' h =>
      exact h.lists.trans ((sameLists_sendNew s' _ _ _).trans (sameLists_sendNew _ _ _ _))
  | superclass s' h => exact h.lists.trans ⟨fun _ _ => rfl, rfl, rfl⟩

theorem IndicationCases.sameLists {s s' : MediaTekRIL} (h : IndicationCases s s') :
    SameLists s s' := by
  cases h <;> exact ⟨fun _ _ => rfl, rfl, rfl⟩

theorem sameLists_unsolicited {F : Framework β γ} (hF : F.LeavesLists) (s : ReceivingRIL)
    (p : Parcel γ) (type : Int) :
    SameLists s.toMediaTekRIL (rilStep F s (.unsolicited p type)).toMediaTekRIL := by
  unfold rilStep processUnsolicited
  dsimp only
  cases UnsolicitedCode.ofInt (readInt F.receiver p).1 with
  | none => exact hF.processUnsolicited s _ type
  | some code => exact sameLists_withSuper hF (processLocal_cases F.receiver s code _).sameLists

/-- An event that neither writes a property nor is a reply. -/
def RilEvent.LeavesLists : RilEvent β γ → Prop
  | .property .. | .solicited _ => False
  | _ => True

theorem sameLists_rilStep {F : Framework β γ} (hF : F.LeavesLists) (s : ReceivingRIL)
    {e : RilEvent β γ} (he : e.LeavesLists) :
    SameLists s.toMediaTekRIL (rilStep F s e).toMediaTekRIL := by
  cases e with
  | dial address clirMode uusInfo result =>
      exact sameLists_withSuper hF (dial_callCases F.platform F.keySet s.toMediaTekRIL address
        clirMode uusInfo result).sameLists
  | setupDataCall =>
      exact sameLists_withSuper hF
        (setupDataCall_callCases s.toMediaTekRIL _ _ _ _ _ _ _ _).sameLists
  | deactivateDataCall cid reason result =>
      exact sameLists_withSuper hF
        (deactivateDataCall_callCases s.toMediaTekRIL cid reason result).sameLists
  | setRadioPower on result =>
      exact sameLists_withSuper hF
        (setRadioPower_callCases F.platform s.toMediaTekRIL on result).sameLists
  | setInitialAttachApn apn protocol authType username password result =>
      exact sameLists_withSuper hF (setInitialAttachApn_cases F.receiver s apn protocol authType
        username password).sameLists
  | superMethod call => exact hF.superMethod s.toMediaTekRIL call
  | unsolicited p type => exact sameLists_unsolicited hF s p type
  | airplaneMode value => exact ⟨fun _ _ => rfl, rfl, rfl⟩
  | solicited | property => exact he.elim

/-! ## What a refresh does to them -/

variable {custom : List EccEntry} {key : PropKey}

/-- A property that stands for a list stands for the refreshed list once it is refreshed. -/
theorem SimSlot.Represents.refresh (hecc : PlainEccs custom) (hdistinct : DistinctEccs custom)
    {slot : SimSlot} {value : JavaString} (h : slot.Represents custom value) :
    ({ slot with refreshed := true } : SimSlot).Represents custom
      (join ',' (refreshedList custom value)) := by
  have hvendor := h.vendor
  obtain ⟨vendor, refreshed⟩ := slot
  have hlists := listsExactly_refreshed hecc hdistinct h.lists
  refine ⟨hvendor, ?_, fun hfalse => by cases hfalse⟩
  cases refreshed with
  | false =>
      rw [h.unrefreshed rfl] at hlists ⊢
      exact hlists
  | true =>
      -- refreshed before: the numbers stay the same
      rwa [SimSlot.numbers, if_pos rfl, refreshedNumbers_idem custom hvendor h.lists] at hlists

/-- What is written to the property are lists of distinct numbers. -/
def WritesLists (key : PropKey) (writes : Writes) : Prop :=
  ∀ value, (key, value) ∈ writes → ListsExactly value (simNumbers value)

/-- Others write lists. -/
theorem SimSlot.Represents.written {slot : SimSlot} {props : Properties}
    (h : slot.Represents custom (props key)) {writes : Writes} (hwrites : WritesLists key writes) :
    (slot.written key writes).Represents custom (props.written writes key) := by
  induction writes generalizing slot props with
  | nil => exact h
  | cons write writes ih =>
      obtain ⟨key', value⟩ := write
      refine ih ?_ fun value' hmem => hwrites value' (List.mem_cons_of_mem _ hmem)
      dsimp only
      by_cases hsame : key' = key
      · subst hsame
        have hvalue := hwrites value List.mem_cons_self
        rw [if_pos rfl, Function.update_self]
        exact ⟨hvalue, hvalue, fun _ => rfl⟩
      · rw [if_neg hsame, Function.update_of_ne (Ne.symm hsame)]
        exact h

/-- The refresh of either property keeps each of them in step with its list. -/
theorem SimSlot.Represents.refreshSlot (hecc : PlainEccs custom)
    (hdistinct : DistinctEccs custom) (P : Platform) {slot : SimSlot} {props : Properties}
    (h : slot.Represents custom (props key)) {writes : Writes} (hwrites : WritesLists key writes)
    (key' : PropKey) :
    (slot.refreshSlot P custom writes props key' key).Represents custom
      ((refreshSlotAmid P custom writes props key').2 key) := by
  have hwritten := h.written hwrites
  unfold SimSlot.refreshSlot refreshSlotAmid Properties.set
  dsimp only
  by_cases haccepts : P.acceptsValue key' (join ',' (refreshedList custom (props key'))) = true
  · rw [if_pos haccepts]
    dsimp only
    by_cases hsame : key' = key
    · subst hsame
      rw [if_pos ⟨rfl, haccepts⟩, Function.update_self]
      exact h.refresh hecc hdistinct
    · rw [if_neg fun hboth => hsame hboth.1, Function.update_of_ne (Ne.symm hsame)]
      exact hwritten
  · rw [if_neg haccepts, if_neg fun hboth => haccepts hboth.2]
    exact hwritten

/-- The refresh of both does. -/
theorem SimSlot.Represents.refreshAmid (P : Platform) {s : MediaTekRIL}
    (hecc : PlainEccs s.mEccList.mCustomizedEccList)
    (hdistinct : DistinctEccs s.mEccList.mCustomizedEccList) {slot : SimSlot}
    (h : slot.Represents s.mEccList.mCustomizedEccList (s.properties key))
    {amid : PropKey → Writes} (hamid : ∀ key', WritesLists key (amid key')) :
    (slot.refreshAmid P amid s key).Represents s.mEccList.mCustomizedEccList
      ((s.refreshAmid P amid).2.properties key) := by
  have hfirst := h.refreshSlot hecc hdistinct P (hamid .rilEcclist) .rilEcclist
  unfold SimSlot.refreshAmid MediaTekRIL.refreshAmid updateEmergencyNumbersAmid
  dsimp only
  split
  · generalize refreshSlotAmid P s.mEccList.mCustomizedEccList (amid .rilEcclist) s.properties
      .rilEcclist = refreshed at hfirst ⊢
    obtain ⟨res, props⟩ := refreshed
    cases res with
    | error t => exact hfirst
    | ok u => exact hfirst.refreshSlot hecc hdistinct P (hamid .rilEcclist1) .rilEcclist1
  · exact h

theorem custom_refreshAmid (P : Platform) (amid : PropKey → Writes) (s : MediaTekRIL) :
    (s.refreshAmid P amid).2.mEccList = s.mEccList := by
  unfold MediaTekRIL.refreshAmid
  split <;> rfl

/-! ## Whole runs -/

/-- What an event writes to the property from outside are lists of distinct numbers. -/
def SimEvent.WritesLists (key : PropKey) (e : SimEvent β γ) : Prop :=
  (∀ key' value, e.event = .property key' value → Ril.WritesLists key [(key', value)]) ∧
    ∀ key', Ril.WritesLists key (e.amid key')

/-- An event of which the lists know nothing. -/
theorem SimSlot.next_of_leavesLists (F : Framework β γ) (key : PropKey) (s : ReceivingRIL)
    (slot : SimSlot) {e : SimEvent β γ} (he : e.event.LeavesLists) :
    slot.next F key s e = slot ∧ simStep F s e = rilStep F s e.event := by
  obtain ⟨event, amid⟩ := e
  cases event with
  | property | solicited => exact he.elim
  | _ => exact ⟨rfl, rfl⟩

/-- Every event keeps the property in step with the list it stands for. -/
theorem represents_simStep {F : Framework β γ} (hF : F.LeavesLists) (hkey : IsSimKey key)
    {s : ReceivingRIL} (hecc : PlainEccs s.mEccList.mCustomizedEccList)
    (hdistinct : DistinctEccs s.mEccList.mCustomizedEccList) {slot : SimSlot}
    (h : slot.Represents s.mEccList.mCustomizedEccList (s.properties key)) {e : SimEvent β γ}
    (he : e.WritesLists key) :
    (simStep F s e).mEccList.mCustomizedEccList = s.mEccList.mCustomizedEccList ∧
      (slot.next F key s e).Represents s.mEccList.mCustomizedEccList
        ((simStep F s e).properties key) := by
  have hquiet : e.event.LeavesLists →
      (simStep F s e).mEccList.mCustomizedEccList = s.mEccList.mCustomizedEccList ∧
        (slot.next F key s e).Represents s.mEccList.mCustomizedEccList
          ((simStep F s e).properties key) := by
    intro hleaves
    have hlists := sameLists_rilStep hF s hleaves
    obtain ⟨hslot, hstep⟩ := SimSlot.next_of_leavesLists F key s slot hleaves
    rw [hslot, hstep, hlists.properties key hkey]
    exact ⟨hlists.custom, h⟩
  obtain ⟨event, amid⟩ := e
  cases event with
  | property key' value =>
      exact ⟨rfl, h.written (he.1 key' value rfl)⟩
  | solicited r =>
      obtain ⟨hstarts, hnot⟩ := processWith_frame F.superclass
        (MediaTekRIL.refreshAmid F.platform amid) s.toMediaTekRIL r
      simp only [SimSlot.next, simStep, ReceivingRIL.withRIL]
      by_cases hstart : StartsRefresh F.superclass s.toMediaTekRIL r
      · have hlists := (hstarts hstart).lists
        have hcustom := custom_refreshAmid F.platform amid s.toMediaTekRIL
        rw [if_pos hstart, hlists.properties key hkey]
        exact ⟨hlists.custom.trans (congrArg MtkEccList.mCustomizedEccList hcustom),
          h.refreshAmid F.platform hecc hdistinct he.2⟩
      · have hlists := (hnot hstart).lists
        rw [if_neg hstart, hlists.properties key hkey]
        exact ⟨hlists.custom, h⟩
  | dial | setupDataCall | deactivateDataCall | setRadioPower | setInitialAttachApn
  | superMethod | unsolicited | airplaneMode => exact hquiet trivial

theorem represents_run {F : Framework β γ} (hF : F.LeavesLists) (hkey : IsSimKey key)
    (hecc : PlainEccs custom) (hdistinct : DistinctEccs custom) {es : List (SimEvent β γ)}
    (hes : ∀ e ∈ es, e.WritesLists key) {s : ReceivingRIL} {slot : SimSlot}
    (hcustom : s.mEccList.mCustomizedEccList = custom)
    (h : slot.Represents custom (s.properties key)) :
    (run (simStep F) s es).mEccList.mCustomizedEccList = custom ∧
      (slot.along F key s es).Represents custom ((run (simStep F) s es).properties key) := by
  induction es generalizing s slot with
  | nil => exact ⟨hcustom, h⟩
  | cons e es ih =>
      subst hcustom
      obtain ⟨hcustom', h'⟩ :=
        represents_simStep hF hkey hecc hdistinct h (hes e List.mem_cons_self)
      exact ih (fun e' hmem => hes e' (List.mem_cons_of_mem e hmem)) hcustom' h'

theorem listsExactly_join {numbers : List JavaString} (hplain : ∀ n ∈ numbers, PlainNumber n)
    (hnodup : numbers.Nodup) :
    ListsExactly (join ',' numbers) (simNumbers (join ',' numbers)) :=
  ⟨numbers, hplain, hnodup, rfl, (simNumbers_join hplain).symm⟩

/-- The vendor lists the numbers of a SIM, and a reply to `GET_SIM_STATUS` refreshes them.
Another list comes while the refresh is under way, and is lost. -/
def simInserted : List (SimEvent (List ParcelItem) (List ParcelItem)) :=
  [⟨.property .rilEcclist "08,911".toList, fun _ => []⟩,
    ⟨.superMethod ⟨"getIccCardStatus".toList, [], some 7⟩, fun _ => []⟩,
    ⟨.solicited ⟨0, 0, []⟩, fun key =>
      if key = .rilEcclist then [(.rilEcclist, "110".toList)] else []⟩]

theorem simInserted_writesLists : ∀ e ∈ simInserted, e.WritesLists .rilEcclist := by
  have hfirst : "08,911".toList = join ',' ["08".toList, "911".toList] := by decide
  have hlost : "110".toList = join ',' ["110".toList] := by decide
  intro e he
  simp only [simInserted, List.mem_cons, List.not_mem_nil, or_false] at he
  rcases he with rfl | rfl | rfl
  · refine ⟨fun key' value hwrite value' hmem => ?_, fun _ _ hmem => (by cases hmem)⟩
    cases hwrite
    obtain rfl : value' = "08,911".toList := by simpa using hmem
    rw [hfirst]
    exact listsExactly_join (by unfold PlainNumber; decide) (by decide)
  · exact ⟨fun _ _ hwrite => (by cases hwrite), fun _ _ hmem => (by cases hmem)⟩
  · refine ⟨fun _ _ hwrite => (by cases hwrite), fun key' value hmem => ?_⟩
    dsimp only at hmem
    split at hmem
    · obtain rfl : value = "110".toList := by simpa using hmem
      rw [hlost]
      exact listsExactly_join (by unfold PlainNumber; decide) (by decide)
    · cases hmem

section Run

variable (F : Framework β γ) (L : MtkEccList) (props : Properties)
  (mUSSDRegistrant : Option (List (List (Option JavaString)))) (es : List (SimEvent β γ))

/-- The list a property stands for behind a run from the constructor. -/
noncomputable def simSlotAfter (key : PropKey) : SimSlot :=
  SimSlot.along F key (ReceivingRIL.start L props mUSSDRegistrant) ⟨props key, false⟩ es

/-- Whatever happens in whatever order, each SIM property is what was last written from
outside and not lost or, once a refresh of it has been accepted since, lists exactly these
numbers and the customised ones. -/
theorem simLists_run (hF : F.LeavesLists) (hkey : IsSimKey key)
    (hecc : PlainEccs L.mCustomizedEccList) (hdistinct : DistinctEccs L.mCustomizedEccList)
    (hprops : ListsExactly (props key) (simNumbers (props key)))
    (hes : ∀ e ∈ es, e.WritesLists key) :
    (simSlotAfter F L props mUSSDRegistrant es key).Represents L.mCustomizedEccList
      ((run (simStep F) (.start L props mUSSDRegistrant) es).properties key) :=
  (represents_run hF hkey hecc hdistinct hes rfl ⟨hprops, hprops, fun _ => rfl⟩).2

/-- A SIM is inserted into a phone with the installed list. -/
theorem simLists_run_inserted :
    (simSlotAfter .reference ⟨eccTable, ∅⟩ (propertiesOfLists [] [] []) none simInserted
        .rilEcclist).Represents eccTable
      ((run (simStep .reference) (.start ⟨eccTable, ∅⟩ (propertiesOfLists [] [] []) none)
        simInserted).properties .rilEcclist) :=
  simLists_run .reference ⟨eccTable, ∅⟩ (propertiesOfLists [] [] []) none simInserted
    Framework.reference_leavesLists (.inl rfl) (by unfold PlainEccs PlainNumber; decide)
    (by unfold DistinctEccs; decide) (listsExactly_join (by simp) List.nodup_nil)
    simInserted_writesLists

/-- A number of the list that the vendor wrote last, and that was not lost, is dialled as an
emergency number, if its category can be read, and never as an ordinary one. -/
theorem vendorNumbers_stay_emergency (hF : F.LeavesLists) (hkey : IsSimKey key)
    (hecc : PlainEccs L.mCustomizedEccList) (hdistinct : DistinctEccs L.mCustomizedEccList)
    (hprops : ListsExactly (props key) (simNumbers (props key)))
    (hes : ∀ e ∈ es, e.WritesLists key) (address : JavaString)
    (haddress : Covers (simNumbers (simSlotAfter F L props mUSSDRegistrant es key).vendor)
      (F.platform.extractNetworkPortionAlt address))
    (clirMode : Int) (uusInfo : Option UUSInfo) (result : Option Message) :
    let s := (run (simStep F) (.start L props mUSSDRegistrant) es).toMediaTekRIL
    let r := dial F.platform F.keySet s (some address) clirMode uusInfo result
    ¬ DialsNormally s r (some address) clirMode uusInfo result ∧
      (DialsEmergency s r (some address) clirMode uusInfo result ↔
        CategoriesNumeric (categoryEntries s.properties) ∧
          CategoryReadable s.properties s.mEccList.mCustomizedEccList address) := by
  intro s r
  have hrepresents : (simSlotAfter F L props mUSSDRegistrant es key).Represents
      L.mCustomizedEccList (s.properties key) :=
    (represents_run hF hkey hecc hdistinct hes rfl ⟨hprops, hprops, fun _ => rfl⟩).2
  have hlisted : simNumbers (simSlotAfter F L props mUSSDRegistrant es key).vendor ⊆
      simNumbers (s.properties key) := by
    rw [hrepresents.lists.simNumbers_eq]
    unfold SimSlot.numbers
    split
    · exact fun n hn => .inl (.inl hn)
    · exact subset_rfl
  have hemergency : IsEmergencyAddress F.platform s address := by
    refine (haddress.mono hlisted).mono fun n hn => .inl ?_
    rcases hkey with rfl | rfl
    · exact .inl (.inl (.inr hn))
    · exact .inl (.inr hn)
  exact ⟨not_dialsNormally_of_emergency F.platform F.keySet address clirMode uusInfo result
      hemergency,
    dialsEmergency_iff F.platform F.keySet address clirMode uusInfo result hemergency⟩

end Run

/-- A number of the SIM is dialled behind the refresh. -/
theorem vendorNumbers_stay_emergency_08 :
    let s := (run (simStep .reference) (.start ⟨eccTable, ∅⟩ (propertiesOfLists [] [] []) none)
      simInserted).toMediaTekRIL
    let r := dial .reference .reference s (some "08".toList) 0 none (some 8)
    ¬ DialsNormally s r (some "08".toList) 0 none (some 8) ∧
      (DialsEmergency s r (some "08".toList) 0 none (some 8) ↔
        CategoriesNumeric (categoryEntries s.properties) ∧
          CategoryReadable s.properties s.mEccList.mCustomizedEccList "08".toList) := by
  refine vendorNumbers_stay_emergency .reference ⟨eccTable, ∅⟩ (propertiesOfLists [] [] []) none
    simInserted Framework.reference_leavesLists (.inl rfl) (by unfold PlainEccs PlainNumber; decide)
    (by unfold DistinctEccs; decide) (listsExactly_join (by simp) List.nodup_nil)
    simInserted_writesLists "08".toList ⟨"08".toList, ?_, by decide⟩ 0 none (some 8)
  have hvendor : (simSlotAfter .reference ⟨eccTable, ∅⟩ (propertiesOfLists [] [] []) none
      simInserted .rilEcclist).vendor = join ',' ["08".toList, "911".toList] := by
    simp only [simSlotAfter, SimSlot.along, SimSlot.next, simInserted]
    split <;> rfl
  rw [hvendor, simNumbers_join (by unfold PlainNumber; decide)]
  simp

end MediatekCommon.Ril
