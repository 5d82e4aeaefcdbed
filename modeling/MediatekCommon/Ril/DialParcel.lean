/-
  Ril/DialParcel.lean --- reading `RIL_REQUEST_EMERGENCY_DIAL` back.

  The payload of a dial request is the address, `clirMode` and a flag that says whether
  UUS information follows.  `dial` writes the flag twice: first a 0 whatever the call
  carries, and then the right one.  The reader stops at the first, so it finds no UUS
  information and leaves at least one item unread.
-/
import MediatekCommon.Ril.Dial

set_option autoImplicit false

namespace MediatekCommon.Ril

open MediatekCommon.Foundation

/-! ## The layout -/

/-- What a dial request says. -/
structure DialRequest where
  address : Option JavaString
  clirMode : Int
  uusInfo : Option UUSInfo
  deriving DecidableEq, Repr

/-- The UUS-present flag and, behind a 1, the UUS information. -/
def uusItems : Option UUSInfo → List ParcelItem
  | none => [.int 0]
  | some uusInfo => [.int 1, .int uusInfo.uusType, .int uusInfo.uusDcs, .byteArray uusInfo.uusData]

/-- Read the flag and what it announces. -/
def readUus : List ParcelItem → Option (Option UUSInfo × List ParcelItem)
  | .int flag :: rest =>
      if flag = 1 then
        match rest with
        | .int uusType :: .int uusDcs :: .byteArray uusData :: rest =>
            some (some ⟨uusType, uusDcs, uusData⟩, rest)
        | _ => none
      else some (none, rest)
  | _ => none

/-- Read a dial request: address, `clirMode` and UUS information. -/
def readDial : List ParcelItem → Option (DialRequest × List ParcelItem)
  | .string address :: .int clirMode :: rest =>
      (readUus rest).map fun (uusInfo, rest) => (⟨address, clirMode, uusInfo⟩, rest)
  | _ => none

/-- The parcel is read back as this request, with nothing left. -/
def DecodesTo (parcel : List ParcelItem) (request : DialRequest) : Prop :=
  readDial parcel = some (request, [])

theorem readUus_uusItems (uusInfo : Option UUSInfo) (rest : List ParcelItem) :
    readUus (uusItems uusInfo ++ rest) = some (uusInfo, rest) := by
  cases uusInfo <;> rfl

/-- With one flag the layout can be read back. -/
theorem decodesTo_layout (request : DialRequest) :
    DecodesTo (.string request.address :: .int request.clirMode :: uusItems request.uusInfo)
      request := by
  have hread := readUus_uusItems request.uusInfo []
  rw [List.append_nil] at hread
  simp only [DecodesTo, readDial, hread, Option.map_some]

/-! ## What `dial` writes -/

/-- The layout with a 0 in front of the flag. -/
theorem emergencyDialParcel_eq (address : Option JavaString) (clirMode : Int)
    (uusInfo : Option UUSInfo) :
    emergencyDialParcel address clirMode uusInfo =
      .string address :: .int clirMode :: .int 0 :: uusItems uusInfo := by
  cases uusInfo <;> rfl

/-- The reader finds no UUS information, and leaves the second flag and what follows. -/
theorem readDial_emergencyDialParcel (address : Option JavaString) (clirMode : Int)
    (uusInfo : Option UUSInfo) :
    readDial (emergencyDialParcel address clirMode uusInfo) =
      some (⟨address, clirMode, none⟩, uusItems uusInfo) := by
  rw [emergencyDialParcel_eq]
  rfl

/-- The emergency dial that a call sends has this payload. -/
theorem mParcel_of_sent {P : Platform} {K : KeySet} {s : MediaTekRIL}
    {address : Option JavaString} {clirMode : Int} {uusInfo : Option UUSInfo}
    {result : Option Message} {rr : RILRequest}
    (hsent : rr ∈ sentSince s (dial P K s address clirMode uusInfo result).2)
    (hcode : rr.mRequest = .emergencyDial) :
    rr.mParcel = emergencyDialParcel address clirMode uusInfo := by
  have hnothing : ∀ L : MtkEccList, sentSince s { s with mEccList := L } = [] := by
    intro L
    simp [sentSince]
  unfold dial at hsent
  split at hsent
  · rw [hnothing] at hsent
    cases hsent
  · rename_i L _
    dsimp only at hsent
    split at hsent
    · rw [hnothing] at hsent
      cases hsent
    · rename_i serviceCategory _
      rw [@sentSince_of_outgoing s _ [.request ⟨s.nextSerial, .setEccServiceCategory,
        [.int 1, .int serviceCategory], none⟩, .request ⟨s.nextSerial + 1, .emergencyDial,
        emergencyDialParcel address clirMode uusInfo, result⟩] (by simp)] at hsent
      rcases List.mem_cons.mp hsent with rfl | hsent
      · cases hcode
      · obtain rfl := List.mem_singleton.mp hsent
        rfl
  · rw [@sentSince_of_outgoing s _ [.superDial address clirMode uusInfo result] rfl] at hsent
    cases hsent

/-- No emergency dial can be read back: whatever the call carries, something is left
unread. -/
theorem dial_not_decodesTo (P : Platform) (K : KeySet) (s : MediaTekRIL)
    (address : Option JavaString) (clirMode : Int) (uusInfo : Option UUSInfo)
    (result : Option Message) {rr : RILRequest}
    (hsent : rr ∈ sentSince s (dial P K s address clirMode uusInfo result).2)
    (hcode : rr.mRequest = .emergencyDial) :
    ¬ DecodesTo rr.mParcel ⟨address, clirMode, uusInfo⟩ := by
  rw [mParcel_of_sent hsent hcode, DecodesTo, readDial_emergencyDialParcel]
  cases uusInfo <;> simp [uusItems]

/-- The emergency dial of 112 without UUS information. -/
theorem dial_not_decodesTo_112 :
    let s := MediaTekRIL.start ⟨eccTable, ∅⟩ (propertiesOfLists [] [] [])
    ∃ rr ∈ sentSince s (dial .reference .reference s (some "112".toList) 0 none none).2,
      ¬ DecodesTo rr.mParcel ⟨some "112".toList, 0, none⟩ := by
  intro s
  have hsent : sentSince s (dial .reference .reference s (some "112".toList) 0 none none).2 =
      [⟨0, .setEccServiceCategory, [.int 1, .int 0], none⟩,
        ⟨1, .emergencyDial, emergencyDialParcel (some "112".toList) 0 none, none⟩] := rfl
  have hmem : (⟨1, .emergencyDial, emergencyDialParcel (some "112".toList) 0 none, none⟩ :
      RILRequest) ∈ sentSince s
        (dial .reference .reference s (some "112".toList) 0 none none).2 := by
    rw [hsent]
    exact List.mem_cons_of_mem _ (List.mem_singleton_self _)
  exact ⟨_, hmem, dial_not_decodesTo .reference .reference s _ 0 none none hmem rfl⟩

/-- 112 dialled with UUS information: the reader finds none. -/
theorem dial_loses_uusInfo :
    let s := MediaTekRIL.start ⟨eccTable, ∅⟩ (propertiesOfLists [] [] [])
    let uusInfo : UUSInfo := ⟨0, 4, some [1, 2, 3]⟩
    let r := dial .reference .reference s (some "112".toList) 0 (some uusInfo) none
    ∃ rr ∈ sentSince s r.2, rr.mRequest = .emergencyDial ∧
      readDial rr.mParcel =
        some (⟨some "112".toList, 0, none⟩, [.int 1, .int 0, .int 4, .byteArray (some [1, 2, 3])]) ∧
      ¬ DecodesTo rr.mParcel ⟨some "112".toList, 0, some uusInfo⟩ := by
  intro s uusInfo r
  have hsent : sentSince s r.2 =
      [⟨0, .setEccServiceCategory, [.int 1, .int 0], none⟩,
        ⟨1, .emergencyDial, emergencyDialParcel (some "112".toList) 0 (some uusInfo), none⟩] := rfl
  rw [hsent]
  refine ⟨_, List.mem_cons_of_mem _ (List.mem_singleton_self _), rfl, rfl, ?_⟩
  intro h
  obtain ⟨hrequest, -⟩ := Prod.mk.inj (Option.some.inj h)
  cases hrequest

end MediatekCommon.Ril
