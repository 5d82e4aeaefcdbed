/-
  Ril/DataCall.lean --- data calls: the table of cids and the interface ids taken
  from it.

  `dataCallCids` has five entries, of which every loop of the class visits the
  first four.  An entry below zero is free.  A call is announced to the modem
  under the number of the first free entry; the entry itself is filled when the
  reply arrives, again the first free one, and freed by the first entry that
  holds the cid.
-/
import MediatekCommon.Foundation.Slots
import MediatekCommon.Ril.MediaTekRIL

set_option autoImplicit false

namespace MediatekCommon.Ril

open MediatekCommon.Foundation

/-! ## The loops over `dataCallCids` -/

/-- The first entry below zero. -/
def firstFreeSlot (dataCallCids : Fin 5 → Int) : Option (Fin 4) :=
  Fin.find? fun i : Fin 4 => decide (dataCallCids i.castSucc < 0)

/-- The first entry that equals a cid. -/
def slotHolding (dataCallCids : Fin 5 → Int) (cid : Int) : Option (Fin 4) :=
  Fin.find? fun i : Fin 4 => decide (dataCallCids i.castSucc = cid)

/-- The interface id a call is announced under: one more than the first free
entry, and 0 when there is none. -/
def interfaceIdFor (dataCallCids : Fin 5 → Int) : Nat :=
  match firstFreeSlot dataCallCids with
  | some i => i + 1
  | none => 0

/-- Store a cid in the first free entry. -/
def storeCid (dataCallCids : Fin 5 → Int) (cid : Int) : Fin 5 → Int :=
  match firstFreeSlot dataCallCids with
  | some i => Function.update dataCallCids i.castSucc cid
  | none => dataCallCids

/-- Free the first entry that equals a cid. -/
def clearCid (dataCallCids : Fin 5 → Int) (cid : Int) : Fin 5 → Int :=
  match slotHolding dataCallCids cid with
  | some i => Function.update dataCallCids i.castSucc (-1)
  | none => dataCallCids

/-! ## The requests -/

/-- `Integer.toString`. -/
def integerToString (value : Int) : JavaString := (toString value).toList

/-- The sum of two Java integers. -/
def addInt (x y : Int) : Int := Int.bmod (x + y) (2 ^ 32)

namespace MediaTekRIL

def setupDataCall (s : MediaTekRIL) (radioTechnology profile : Int)
    (apn user password : Option JavaString) (authType : Int) (protocol : Option JavaString)
    (result : Option Message) : MediaTekRIL :=
  s.sendNew .setupDataCall result
    [.int 8,
     .string (some (integerToString (addInt radioTechnology 2))),
     .string (some (integerToString profile)),
     .string apn,
     .string user,
     .string password,
     .string (some (integerToString authType)),
     .string protocol,
     .string (some (integerToString (interfaceIdFor s.dataCallCids)))]

def deactivateDataCall (s : MediaTekRIL) (cid reason : Int) (result : Option Message) :
    MediaTekRIL :=
  { s with dataCallCids := clearCid s.dataCallCids cid }.handOn
    (.superDeactivateDataCall cid reason result)

end MediaTekRIL

/-- The interface id a sent request carries: the last string of its parcel. -/
def RILRequest.interfaceId (rr : RILRequest) : Option JavaString :=
  match rr.mParcel.getLast? with
  | some (.string value) => value
  | _ => none

/-! ## The table as slots -/

/-- The four entries the loops visit, as slots. -/
def slotsOf (dataCallCids : Fin 5 → Int) : Slots 4 Int := fun i =>
  if dataCallCids i.castSucc < 0 then none else some (dataCallCids i.castSucc)

@[simp] theorem slotsOf_eq_none_iff {cids : Fin 5 → Int} {i : Fin 4} :
    slotsOf cids i = none ↔ cids i.castSucc < 0 := by
  simp [slotsOf]

@[simp] theorem slotsOf_eq_some_iff {cids : Fin 5 → Int} {i : Fin 4} {cid : Int} :
    slotsOf cids i = some cid ↔ 0 ≤ cid ∧ cids i.castSucc = cid := by
  unfold slotsOf
  split
  · constructor
    · intro h
      cases h
    · intro h
      omega
  · constructor
    · intro h
      cases h
      omega
    · intro h
      rw [h.2]

@[simp] theorem firstFree_slotsOf (cids : Fin 5 → Int) :
    (slotsOf cids).firstFree = firstFreeSlot cids := by
  unfold Slots.firstFree firstFreeSlot
  congr 1
  funext i
  by_cases hi : cids i.castSucc < 0 <;> simp [slotsOf, hi]

/-- Writing an entry writes the slot. -/
theorem slotsOf_update (cids : Fin 5 → Int) (i : Fin 4) (value : Int) :
    slotsOf (Function.update cids i.castSucc value) =
      Function.update (slotsOf cids) i (if value < 0 then none else some value) := by
  funext j
  by_cases hj : j = i
  · subst hj
    simp [slotsOf]
  · have hne : j.castSucc ≠ i.castSucc := by simpa using hj
    simp [slotsOf, Function.update_of_ne hj, Function.update_of_ne hne]

theorem slotsOf_storeCid (cids : Fin 5 → Int) {cid : Int} (hcid : 0 ≤ cid) :
    slotsOf (storeCid cids cid) = (slotsOf cids).store cid := by
  unfold storeCid Slots.store
  rw [firstFree_slotsOf]
  cases firstFreeSlot cids with
  | none => rfl
  | some i => simp only [slotsOf_update, if_neg (by omega : ¬ cid < 0)]

/-- Freeing an entry releases its slot.  The loop also stops at an entry below
zero when it is asked for one, but such an entry is free already. -/
theorem slotsOf_clearCid (cids : Fin 5 → Int) (cid : Int) :
    slotsOf (clearCid cids cid) = (slotsOf cids).release cid := by
  by_cases hcid : 0 ≤ cid
  · have hholder : (slotsOf cids).holder cid = slotHolding cids cid := by
      simp [Slots.holder, slotHolding, hcid]
    unfold clearCid Slots.release
    rw [hholder]
    cases slotHolding cids cid with
    | none => rfl
    | some i => simp [slotsOf_update]
  · rw [Slots.release_of_not_held (by simp [hcid])]
    unfold clearCid
    cases hfind : slotHolding cids cid with
    | none => rfl
    | some i =>
        have hi : cids i.castSucc = cid := by
          simpa using (Fin.find?_eq_some_iff.mp hfind).1
        have hfree : slotsOf cids i = none := slotsOf_eq_none_iff.mpr (by omega)
        simp [slotsOf_update, hfree]

/-! ## Announced interface ids -/

/-- The text of the interface id that belongs to a slot. -/
def interfaceText (i : Fin 4) : JavaString := integerToString (i + 1 : Nat)

theorem interfaceText_injective {i j : Fin 4} (h : interfaceText i = interfaceText j) :
    i = j := by
  revert i j
  decide

/-- While an entry is free a call is announced under its number. -/
theorem interfaceIdFor_of_firstFree {cids : Fin 5 → Int} {i : Fin 4}
    (h : firstFreeSlot cids = some i) :
    integerToString (interfaceIdFor cids) = interfaceText i := by
  simp [interfaceIdFor, h, interfaceText]

end MediatekCommon.Ril
