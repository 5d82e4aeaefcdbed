/-
  Wpa/StaStatistics.lean --- `testmode_sta_statistics_handler`: the answer of the driver
  to a request for station statistics.

  The answer is a set of nested attributes, which libnl parses under a policy.  The
  handler goes over the attribute numbers and stores each payload that is present in
  the field of the record that belongs to it.  The bytes of a payload are kept with
  the length the policy promises.  What libnl reads from a payload is a parameter
  (`Libnl`), with what it documents for a hypothesis.

  `staStatisticsOf` writes the record down field by field, each from its own attribute;
  the loop computes it (`testmodeStaStatisticsHandler_eq`).
-/
import Mathlib.Logic.Function.Basic

set_option autoImplicit false

namespace MediatekCommon.Wpa

/-! ## Attributes -/

/-- `nl80211_testmode_sta_link_statistics_attr`, from 1 on. -/
inductive StaAttr where
  | version | mac | linkScore | flag | per | rssi | phyMode | txRate | totalCnt | thresholdCnt
  | avgProcessTime | maxProcessTime | avgHifProcessTime | maxHifProcessTime | failCnt
  | timeoutCnt | avgAirTime | tcEmptyCntArray | tcQueLenArray | tcAvgQueLenArray
  | tcCurQueLenArray | enqueue | staEnqueue | dequeue | staDequeue | rbArray | noTcArray
  | tcUsedArray | tcWantedArray | irqIsrCnt | irqIsrPassCnt | irqTaskCnt | irqAbCnt | irqSwCnt
  | irqTxCnt | irqRxCnt | reservedArray
  deriving DecidableEq, Repr

/-- The attributes in the order of their numbers, as the loop visits them. -/
def StaAttr.all : List StaAttr :=
  [.version, .mac, .linkScore, .flag, .per, .rssi, .phyMode, .txRate, .totalCnt, .thresholdCnt,
   .avgProcessTime, .maxProcessTime, .avgHifProcessTime, .maxHifProcessTime, .failCnt,
   .timeoutCnt, .avgAirTime, .tcEmptyCntArray, .tcQueLenArray, .tcAvgQueLenArray,
   .tcCurQueLenArray, .enqueue, .staEnqueue, .dequeue, .staDequeue, .rbArray, .noTcArray,
   .tcUsedArray, .tcWantedArray, .irqIsrCnt, .irqIsrPassCnt, .irqTaskCnt, .irqAbCnt, .irqSwCnt,
   .irqTxCnt, .irqRxCnt, .reservedArray]

/-- The attribute types of libnl the policy uses. -/
inductive NlaType where
  | unspec | u8 | u16 | u32
  deriving DecidableEq, Repr

/-- The shortest payload libnl accepts for a type. -/
def NlaType.minlen : NlaType → Nat
  | .unspec => 0
  | .u8 => 1
  | .u16 => 2
  | .u32 => 4

/-- `policy`. -/
def policy : StaAttr → NlaType
  | .version => .u8
  | .mac => .unspec
  | .linkScore => .u32
  | .flag => .u32
  | .per => .u8
  | .rssi => .u8
  | .phyMode => .u32
  | .txRate => .u16
  | .failCnt => .u32
  | .timeoutCnt => .u32
  | .avgAirTime => .u32
  | .totalCnt => .u32
  | .thresholdCnt => .u32
  | .avgProcessTime => .u32
  | .maxProcessTime => .u32
  | .avgHifProcessTime => .u32
  | .maxHifProcessTime => .u32
  | .tcEmptyCntArray => .unspec
  | .tcQueLenArray => .unspec
  | .tcAvgQueLenArray => .unspec
  | .tcCurQueLenArray => .unspec
  | .enqueue => .u32
  | .staEnqueue => .u32
  | .dequeue => .u32
  | .staDequeue => .u32
  | .rbArray => .unspec
  | .noTcArray => .unspec
  | .tcUsedArray => .unspec
  | .tcWantedArray => .unspec
  | .irqIsrCnt => .u32
  | .irqIsrPassCnt => .u32
  | .irqTaskCnt => .u32
  | .irqAbCnt => .u32
  | .irqSwCnt => .u32
  | .irqTxCnt => .u32
  | .irqRxCnt => .u32
  | .reservedArray => .unspec

/-- The payload of an attribute of this type. -/
abbrev Payload (type : NlaType) : Type := { bytes : List UInt8 // type.minlen ≤ bytes.length }

/-- `sinfo`: what `nla_parse_nested` finds, with the payloads the policy accepts. -/
abbrev StaSinfo : Type := (attr : StaAttr) → Option (Payload (policy attr))

/-- The number stored in these bytes, the lowest one first. -/
def littleEndian (bytes : List UInt8) : Nat :=
  bytes.foldr (fun byte n => byte.toNat + 256 * n) 0

/-- A byte. -/
def decodeU8 (payload : Payload .u8) : UInt8 := UInt8.ofNat (littleEndian (payload.val.take 1))

/-- Two bytes. -/
def decodeU16 (payload : Payload .u16) : UInt16 :=
  UInt16.ofNat (littleEndian (payload.val.take 2))

/-- Four bytes. -/
def decodeU32 (payload : Payload .u32) : UInt32 :=
  UInt32.ofNat (littleEndian (payload.val.take 4))

/-- The functions of libnl that read a payload. -/
structure Libnl where
  /-- `nla_get_u8` -/
  nlaGetU8 : Payload .u8 → UInt8
  /-- `nla_get_u16` -/
  nlaGetU16 : Payload .u16 → UInt16
  /-- `nla_get_u32` -/
  nlaGetU32 : Payload .u32 → UInt32
  /-- `nla_memcpy(dest, src, count)` into an array of `count` bytes, for a payload `src`. -/
  nlaMemcpy {count : Nat} : Vector UInt8 count → List UInt8 → Vector UInt8 count

/-- They read numbers as a little-endian machine stores them, and copy as many bytes as the
payload and the array both have. -/
structure Libnl.Documented (nl : Libnl) : Prop where
  nlaGetU8 : ∀ payload, nl.nlaGetU8 payload = decodeU8 payload
  nlaGetU16 : ∀ payload, nl.nlaGetU16 payload = decodeU16 payload
  nlaGetU32 : ∀ payload, nl.nlaGetU32 payload = decodeU32 payload
  nlaMemcpy : ∀ {count : Nat} (dest : Vector UInt8 count) (src : List UInt8),
    (nl.nlaMemcpy dest src).toList = src.take count ++ dest.toList.drop src.length

/-- Such functions. -/
def Libnl.reference : Libnl where
  nlaGetU8 := decodeU8
  nlaGetU16 := decodeU16
  nlaGetU32 := decodeU32
  nlaMemcpy dest src := Vector.ofFn fun i => src.getD i dest[i]

/-! ## The record -/

/-- The bytes of a `u32` array with `TC_DATA_NUM` elements. -/
abbrev TcArray : Type := Vector UInt8 16

/-- `struct wpa_driver_sta_statistics_s`. -/
structure StaStatistics where
  version : UInt8
  addr : Vector UInt8 6
  flag : UInt32
  linkScore : UInt32
  per : UInt8
  rssi : Int
  phyMode : UInt32
  txRate : Float
  txTotalCnt : UInt32
  enqueueTotalCnt : UInt32
  dequeueTotalCnt : UInt32
  enqueueStaTotalCnt : UInt32
  dequeueStaTotalCnt : UInt32
  txExcThresholdCnt : UInt32
  txAvgProcessTime : UInt32
  txMaxProcessTime : UInt32
  txAvgHifProcessTime : UInt32
  txMaxHifProcessTime : UInt32
  txFailCnt : UInt32
  txTimeoutCnt : UInt32
  txAvgAirTime : UInt32
  tcBufFullCnt : TcArray
  tcQueLen : TcArray
  tcBackCount : TcArray
  dequeueNoTcRes : TcArray
  tcWantedRes : TcArray
  tcUsedRes : TcArray
  isrCnt : UInt32
  isrPassCnt : UInt32
  isrTaskCnt : UInt32
  isrAbCnt : UInt32
  isrSwCnt : UInt32
  isrTxCnt : UInt32
  isrRxCnt : UInt32
  tcAvgQueLen : TcArray
  tcCurQueLen : TcArray
  reserved : Vector UInt8 32
  deriving Inhabited

/-- `sta_statistics`, as `memset` leaves it. -/
def StaStatistics.zero : StaStatistics where
  version := 0
  addr := .replicate 6 0
  flag := 0
  linkScore := 0
  per := 0
  rssi := 0
  phyMode := 0
  txRate := 0
  txTotalCnt := 0
  enqueueTotalCnt := 0
  dequeueTotalCnt := 0
  enqueueStaTotalCnt := 0
  dequeueStaTotalCnt := 0
  txExcThresholdCnt := 0
  txAvgProcessTime := 0
  txMaxProcessTime := 0
  txAvgHifProcessTime := 0
  txMaxHifProcessTime := 0
  txFailCnt := 0
  txTimeoutCnt := 0
  txAvgAirTime := 0
  tcBufFullCnt := .replicate 16 0
  tcQueLen := .replicate 16 0
  tcBackCount := .replicate 16 0
  dequeueNoTcRes := .replicate 16 0
  tcWantedRes := .replicate 16 0
  tcUsedRes := .replicate 16 0
  isrCnt := 0
  isrPassCnt := 0
  isrTaskCnt := 0
  isrAbCnt := 0
  isrSwCnt := 0
  isrTxCnt := 0
  isrRxCnt := 0
  tcAvgQueLen := .replicate 16 0
  tcCurQueLen := .replicate 16 0
  reserved := .replicate 32 0

/-- The `switch` on the attribute. -/
def storeAttr (nl : Libnl) (s : StaStatistics) :
    (attr : StaAttr) → Payload (policy attr) → StaStatistics
  | .version, payload => { s with version := nl.nlaGetU8 payload }
  | .mac, payload => { s with addr := nl.nlaMemcpy s.addr payload.val }
  | .linkScore, payload => { s with linkScore := nl.nlaGetU32 payload }
  | .flag, payload => { s with flag := nl.nlaGetU32 payload }
  | .per, payload => { s with per := nl.nlaGetU8 payload }
  | .rssi, payload => { s with rssi := Int.tdiv ((nl.nlaGetU8 payload).toNat - 220) 2 }
  | .phyMode, payload => { s with phyMode := nl.nlaGetU32 payload }
  | .txRate, payload => { s with txRate := (nl.nlaGetU16 payload).toFloat / 2 }
  | .failCnt, payload => { s with txFailCnt := nl.nlaGetU32 payload }
  | .timeoutCnt, payload => { s with txTimeoutCnt := nl.nlaGetU32 payload }
  | .avgAirTime, payload => { s with txAvgAirTime := nl.nlaGetU32 payload }
  | .totalCnt, payload => { s with txTotalCnt := nl.nlaGetU32 payload }
  | .thresholdCnt, payload => { s with txExcThresholdCnt := nl.nlaGetU32 payload }
  | .avgProcessTime, payload => { s with txAvgProcessTime := nl.nlaGetU32 payload }
  | .maxProcessTime, payload => { s with txMaxProcessTime := nl.nlaGetU32 payload }
  | .avgHifProcessTime, payload => { s with txAvgHifProcessTime := nl.nlaGetU32 payload }
  | .maxHifProcessTime, payload => { s with txMaxHifProcessTime := nl.nlaGetU32 payload }
  | .tcEmptyCntArray, payload => { s with tcBufFullCnt := nl.nlaMemcpy s.tcBufFullCnt payload.val }
  | .tcQueLenArray, payload => { s with tcQueLen := nl.nlaMemcpy s.tcQueLen payload.val }
  | .tcAvgQueLenArray, payload => { s with tcAvgQueLen := nl.nlaMemcpy s.tcAvgQueLen payload.val }
  | .tcCurQueLenArray, payload => { s with tcCurQueLen := nl.nlaMemcpy s.tcCurQueLen payload.val }
  | .enqueue, payload => { s with enqueueTotalCnt := nl.nlaGetU32 payload }
  | .dequeue, payload => { s with dequeueTotalCnt := nl.nlaGetU32 payload }
  | .staEnqueue, payload => { s with enqueueStaTotalCnt := nl.nlaGetU32 payload }
  | .staDequeue, payload => { s with dequeueStaTotalCnt := nl.nlaGetU32 payload }
  | .irqIsrCnt, payload => { s with isrCnt := nl.nlaGetU32 payload }
  | .irqIsrPassCnt, payload => { s with isrPassCnt := nl.nlaGetU32 payload }
  | .irqTaskCnt, payload => { s with isrTaskCnt := nl.nlaGetU32 payload }
  | .irqAbCnt, payload => { s with isrAbCnt := nl.nlaGetU32 payload }
  | .irqSwCnt, payload => { s with isrSwCnt := nl.nlaGetU32 payload }
  | .irqTxCnt, payload => { s with isrTxCnt := nl.nlaGetU32 payload }
  | .irqRxCnt, payload => { s with isrRxCnt := nl.nlaGetU32 payload }
  | .noTcArray, payload => { s with dequeueNoTcRes := nl.nlaMemcpy s.dequeueNoTcRes payload.val }
  | .tcUsedArray, payload => { s with tcUsedRes := nl.nlaMemcpy s.tcUsedRes payload.val }
  | .tcWantedArray, payload => { s with tcWantedRes := nl.nlaMemcpy s.tcWantedRes payload.val }
  | .rbArray, payload => { s with tcBackCount := nl.nlaMemcpy s.tcBackCount payload.val }
  | .reservedArray, payload => { s with reserved := nl.nlaMemcpy s.reserved payload.val }

/-- The body of the loop over the attribute numbers. -/
def visitAttr (nl : Libnl) (sinfo : StaSinfo) (s : StaStatistics) (attr : StaAttr) :
    StaStatistics :=
  match sinfo attr with
  | none => s
  | some payload => storeAttr nl s attr payload

/-- `enum nl_cb_action`. -/
inductive NlCbAction where
  | ok | skip | stop
  deriving DecidableEq, Repr

/-- `testmode_sta_statistics_handler(msg, arg)`; `sinfo` is none where the message has no
test data, or libnl rejects the attributes in it. -/
def testmodeStaStatisticsHandler (nl : Libnl) (sinfo : Option StaSinfo) (s : StaStatistics) :
    NlCbAction × StaStatistics :=
  match sinfo with
  | none => (.skip, s)
  | some sinfo => (.skip, StaAttr.all.foldl (visitAttr nl sinfo) s)

/-- The record once the handler has been called for these messages. -/
def handleMessages (nl : Libnl) (messages : List (Option StaSinfo)) (s : StaStatistics) :
    StaStatistics :=
  messages.foldl (fun s sinfo => (testmodeStaStatisticsHandler nl sinfo s).2) s

/-! ## Field by field -/

/-- A number: decoded from its attribute where that is present. -/
def received {type : NlaType} {α : Type} (payload : Option (Payload type))
    (decode : Payload type → α) (prior : α) : α :=
  match payload with
  | some payload => decode payload
  | none => prior

/-- An array: its first bytes replaced by those of its attribute where that is present. -/
def overwritten {type : NlaType} {count : Nat} (payload : Option (Payload type))
    (prior : Vector UInt8 count) : Vector UInt8 count :=
  match payload with
  | some payload => Vector.ofFn fun i => payload.val.getD i prior[i]
  | none => prior

/-- The received signal strength in dBm; the division truncates toward zero. -/
def decodeRssi (payload : Payload .u8) : Int := Int.tdiv ((decodeU8 payload).toNat - 220) 2

/-- The rate, which is sent in units of one half. -/
def decodeRate (payload : Payload .u16) : Float := (decodeU16 payload).toFloat / 2

/-- The record where each field is what its own attribute says, or what it was. -/
def staStatisticsOf (sinfo : StaSinfo) (s : StaStatistics) : StaStatistics where
  version := received (sinfo .version) decodeU8 s.version
  addr := overwritten (sinfo .mac) s.addr
  flag := received (sinfo .flag) decodeU32 s.flag
  linkScore := received (sinfo .linkScore) decodeU32 s.linkScore
  per := received (sinfo .per) decodeU8 s.per
  rssi := received (sinfo .rssi) decodeRssi s.rssi
  phyMode := received (sinfo .phyMode) decodeU32 s.phyMode
  txRate := received (sinfo .txRate) decodeRate s.txRate
  txTotalCnt := received (sinfo .totalCnt) decodeU32 s.txTotalCnt
  enqueueTotalCnt := received (sinfo .enqueue) decodeU32 s.enqueueTotalCnt
  dequeueTotalCnt := received (sinfo .dequeue) decodeU32 s.dequeueTotalCnt
  enqueueStaTotalCnt := received (sinfo .staEnqueue) decodeU32 s.enqueueStaTotalCnt
  dequeueStaTotalCnt := received (sinfo .staDequeue) decodeU32 s.dequeueStaTotalCnt
  txExcThresholdCnt := received (sinfo .thresholdCnt) decodeU32 s.txExcThresholdCnt
  txAvgProcessTime := received (sinfo .avgProcessTime) decodeU32 s.txAvgProcessTime
  txMaxProcessTime := received (sinfo .maxProcessTime) decodeU32 s.txMaxProcessTime
  txAvgHifProcessTime := received (sinfo .avgHifProcessTime) decodeU32 s.txAvgHifProcessTime
  txMaxHifProcessTime := received (sinfo .maxHifProcessTime) decodeU32 s.txMaxHifProcessTime
  txFailCnt := received (sinfo .failCnt) decodeU32 s.txFailCnt
  txTimeoutCnt := received (sinfo .timeoutCnt) decodeU32 s.txTimeoutCnt
  txAvgAirTime := received (sinfo .avgAirTime) decodeU32 s.txAvgAirTime
  tcBufFullCnt := overwritten (sinfo .tcEmptyCntArray) s.tcBufFullCnt
  tcQueLen := overwritten (sinfo .tcQueLenArray) s.tcQueLen
  tcBackCount := overwritten (sinfo .rbArray) s.tcBackCount
  dequeueNoTcRes := overwritten (sinfo .noTcArray) s.dequeueNoTcRes
  tcWantedRes := overwritten (sinfo .tcWantedArray) s.tcWantedRes
  tcUsedRes := overwritten (sinfo .tcUsedArray) s.tcUsedRes
  isrCnt := received (sinfo .irqIsrCnt) decodeU32 s.isrCnt
  isrPassCnt := received (sinfo .irqIsrPassCnt) decodeU32 s.isrPassCnt
  isrTaskCnt := received (sinfo .irqTaskCnt) decodeU32 s.isrTaskCnt
  isrAbCnt := received (sinfo .irqAbCnt) decodeU32 s.isrAbCnt
  isrSwCnt := received (sinfo .irqSwCnt) decodeU32 s.isrSwCnt
  isrTxCnt := received (sinfo .irqTxCnt) decodeU32 s.isrTxCnt
  isrRxCnt := received (sinfo .irqRxCnt) decodeU32 s.isrRxCnt
  tcAvgQueLen := overwritten (sinfo .tcAvgQueLenArray) s.tcAvgQueLen
  tcCurQueLen := overwritten (sinfo .tcCurQueLenArray) s.tcCurQueLen
  reserved := overwritten (sinfo .reservedArray) s.reserved

theorem Libnl.reference_documented : Libnl.reference.Documented where
  nlaGetU8 _ := rfl
  nlaGetU16 _ := rfl
  nlaGetU32 _ := rfl
  nlaMemcpy {count} dest src := by
    apply List.ext_getElem
    · simp
      omega
    · intro i hi hi'
      have hcount : i < count := by simpa using hi
      simp only [reference, Vector.getElem_toList, Vector.getElem_ofFn]
      rcases Nat.lt_or_ge i src.length with hsrc | hsrc
      · rw [List.getElem_append_left (by simp; omega), List.getElem_take]
        simp [hsrc]
      · rw [List.getElem_append_right (by simp; omega)]
        simp [hsrc]
        congr 1
        omega

/-- `nla_memcpy` replaces as many bytes as the payload has, up to the size of the array. -/
theorem Libnl.Documented.memcpy_eq {nl : Libnl} (hnl : nl.Documented) {type : NlaType}
    {count : Nat} (prior : Vector UInt8 count) (payload : Payload type) :
    nl.nlaMemcpy prior payload.val = overwritten (some payload) prior := by
  rw [← Vector.toList_inj, hnl.nlaMemcpy, ← Libnl.reference_documented.nlaMemcpy]
  rfl

/-- What the field of an attribute holds. -/
def StaAttr.Value : StaAttr → Type
  | .version | .per => UInt8
  | .mac => Vector UInt8 6
  | .rssi => Int
  | .txRate => Float
  | .tcEmptyCntArray | .tcQueLenArray | .tcAvgQueLenArray | .tcCurQueLenArray | .rbArray
  | .noTcArray | .tcUsedArray | .tcWantedArray => TcArray
  | .reservedArray => Vector UInt8 32
  | _ => UInt32

/-- The field of an attribute. -/
def field (s : StaStatistics) : (attr : StaAttr) → attr.Value
  | .version => s.version
  | .mac => s.addr
  | .linkScore => s.linkScore
  | .flag => s.flag
  | .per => s.per
  | .rssi => s.rssi
  | .phyMode => s.phyMode
  | .txRate => s.txRate
  | .totalCnt => s.txTotalCnt
  | .thresholdCnt => s.txExcThresholdCnt
  | .avgProcessTime => s.txAvgProcessTime
  | .maxProcessTime => s.txMaxProcessTime
  | .avgHifProcessTime => s.txAvgHifProcessTime
  | .maxHifProcessTime => s.txMaxHifProcessTime
  | .failCnt => s.txFailCnt
  | .timeoutCnt => s.txTimeoutCnt
  | .avgAirTime => s.txAvgAirTime
  | .tcEmptyCntArray => s.tcBufFullCnt
  | .tcQueLenArray => s.tcQueLen
  | .tcAvgQueLenArray => s.tcAvgQueLen
  | .tcCurQueLenArray => s.tcCurQueLen
  | .enqueue => s.enqueueTotalCnt
  | .staEnqueue => s.enqueueStaTotalCnt
  | .dequeue => s.dequeueTotalCnt
  | .staDequeue => s.dequeueStaTotalCnt
  | .rbArray => s.tcBackCount
  | .noTcArray => s.dequeueNoTcRes
  | .tcUsedArray => s.tcUsedRes
  | .tcWantedArray => s.tcWantedRes
  | .irqIsrCnt => s.isrCnt
  | .irqIsrPassCnt => s.isrPassCnt
  | .irqTaskCnt => s.isrTaskCnt
  | .irqAbCnt => s.isrAbCnt
  | .irqSwCnt => s.isrSwCnt
  | .irqTxCnt => s.isrTxCnt
  | .irqRxCnt => s.isrRxCnt
  | .reservedArray => s.reserved

/-- The fields of the attributes are all there are. -/
theorem eq_of_field_eq {s s' : StaStatistics} (h : ∀ attr, field s attr = field s' attr) :
    s = s' := by
  obtain ⟨⟩ := s
  obtain ⟨⟩ := s'
  simp only [StaStatistics.mk.injEq]
  exact ⟨h .version, h .mac, h .flag, h .linkScore, h .per, h .rssi, h .phyMode, h .txRate,
    h .totalCnt, h .enqueue, h .dequeue, h .staEnqueue, h .staDequeue, h .thresholdCnt,
    h .avgProcessTime, h .maxProcessTime, h .avgHifProcessTime, h .maxHifProcessTime,
    h .failCnt, h .timeoutCnt, h .avgAirTime, h .tcEmptyCntArray, h .tcQueLenArray,
    h .rbArray, h .noTcArray, h .tcWantedArray, h .tcUsedArray, h .irqIsrCnt,
    h .irqIsrPassCnt, h .irqTaskCnt, h .irqAbCnt, h .irqSwCnt, h .irqTxCnt, h .irqRxCnt,
    h .tcAvgQueLenArray, h .tcCurQueLenArray, h .reservedArray⟩

section Handler

variable {nl : Libnl}

/-- An attribute leaves the fields of the others as they were. -/
theorem field_storeAttr_of_ne {attr other : StaAttr} (h : other ≠ attr) (s : StaStatistics)
    (payload : Payload (policy attr)) :
    field (storeAttr nl s attr payload) other = field s other := by
  cases attr <;> cases other <;> first | rfl | exact absurd rfl h

/-- What an attribute stores depends on the record only through its own field. -/
theorem field_storeAttr_congr {attr : StaAttr} {s t : StaStatistics}
    (h : field t attr = field s attr) (payload : Payload (policy attr)) :
    field (storeAttr nl t attr payload) attr = field (storeAttr nl s attr payload) attr := by
  cases attr <;> first | rfl | exact congrArg (nl.nlaMemcpy · payload.val) h

theorem field_visitAttr_of_ne {attr other : StaAttr} (h : other ≠ attr) (sinfo : StaSinfo)
    (s : StaStatistics) : field (visitAttr nl sinfo s attr) other = field s other := by
  unfold visitAttr
  cases sinfo attr with
  | none => rfl
  | some payload => exact field_storeAttr_of_ne h s payload

theorem field_visitAttr_congr {attr : StaAttr} {s t : StaStatistics}
    (h : field t attr = field s attr) (sinfo : StaSinfo) :
    field (visitAttr nl sinfo t attr) attr = field (visitAttr nl sinfo s attr) attr := by
  unfold visitAttr
  cases sinfo attr with
  | none => exact h
  | some payload => exact field_storeAttr_congr h payload

theorem field_foldl_of_not_mem (sinfo : StaSinfo) {attr : StaAttr} {attrs : List StaAttr}
    (h : attr ∉ attrs) (s : StaStatistics) :
    field (attrs.foldl (visitAttr nl sinfo) s) attr = field s attr := by
  induction attrs generalizing s with
  | nil => rfl
  | cons first rest ih =>
      rw [List.mem_cons, not_or] at h
      rw [List.foldl_cons, ih h.2, field_visitAttr_of_ne h.1]

/-- Behind a run over distinct attributes each field is what its own visit makes of it. -/
theorem field_foldl_of_mem (sinfo : StaSinfo) {attr : StaAttr} {attrs : List StaAttr}
    (hnodup : attrs.Nodup) (h : attr ∈ attrs) (s : StaStatistics) :
    field (attrs.foldl (visitAttr nl sinfo) s) attr = field (visitAttr nl sinfo s attr) attr := by
  induction attrs generalizing s with
  | nil => cases h
  | cons first rest ih =>
      obtain ⟨hfirst, hrest⟩ := List.nodup_cons.mp hnodup
      rw [List.foldl_cons]
      by_cases heq : attr = first
      · subst heq
        exact field_foldl_of_not_mem sinfo hfirst _
      · rw [ih hrest (List.mem_of_ne_of_mem heq h)]
        exact field_visitAttr_congr (field_visitAttr_of_ne heq sinfo s) sinfo

/-- An attribute stores what its payload is decoded to. -/
theorem field_storeAttr (hnl : nl.Documented) (sinfo : StaSinfo) {attr : StaAttr}
    {payload : Payload (policy attr)} (h : sinfo attr = some payload) (s : StaStatistics) :
    field (staStatisticsOf sinfo s) attr = field (storeAttr nl s attr payload) attr := by
  obtain ⟨nlaGetU8, nlaGetU16, nlaGetU32, nlaMemcpy⟩ := nl
  obtain rfl : nlaGetU8 = decodeU8 := funext hnl.nlaGetU8
  obtain rfl : nlaGetU16 = decodeU16 := funext hnl.nlaGetU16
  obtain rfl : nlaGetU32 = decodeU32 := funext hnl.nlaGetU32
  cases attr <;> first
    | exact congrArg (received · _ _) h
    | exact (congrArg (overwritten · _) h).trans (hnl.memcpy_eq _ payload).symm

theorem field_staStatisticsOf (hnl : nl.Documented) (sinfo : StaSinfo) (s : StaStatistics)
    (attr : StaAttr) :
    field (staStatisticsOf sinfo s) attr = field (visitAttr nl sinfo s attr) attr := by
  unfold visitAttr
  cases h : sinfo attr with
  | none =>
      cases attr <;> first | exact congrArg (received · _ _) h | exact congrArg (overwritten · _) h
  | some payload => exact field_storeAttr hnl sinfo h s

end Handler

theorem StaAttr.all_nodup : StaAttr.all.Nodup := by decide

theorem StaAttr.mem_all (attr : StaAttr) : attr ∈ StaAttr.all := by cases attr <;> decide

/-- Each field of the record is decoded from its own attribute where that is present, and
is what it was where it is not. -/
theorem testmodeStaStatisticsHandler_eq {nl : Libnl} (hnl : nl.Documented) (sinfo : StaSinfo)
    (s : StaStatistics) :
    (testmodeStaStatisticsHandler nl (some sinfo) s).2 = staStatisticsOf sinfo s := by
  apply eq_of_field_eq
  intro attr
  rw [field_staStatisticsOf hnl]
  exact field_foldl_of_mem sinfo StaAttr.all_nodup attr.mem_all s

/-- A message with the signal strength and an address that is cut short. -/
def rssiAndMac : StaSinfo
  | .rssi => some ⟨[99], by decide⟩
  | .mac => some ⟨[2, 0, 0, 7], by decide⟩
  | _ => none

/-- The payload 99 of the signal strength is -60 dBm: -121 / 2, truncated; of the address
the last two bytes stay. -/
theorem testmodeStaStatisticsHandler_eq_rssi :
    let record := (testmodeStaStatisticsHandler .reference (some rssiAndMac) .zero).2
    record.rssi = -60 ∧ record.addr = #v[2, 0, 0, 7, 0, 0] ∧ record.linkScore = 0 := by
  intro record
  have hrecord : record = staStatisticsOf rssiAndMac .zero :=
    testmodeStaStatisticsHandler_eq Libnl.reference_documented rssiAndMac .zero
  rw [hrecord]
  exact ⟨by decide, by decide, rfl⟩

end MediatekCommon.Wpa
