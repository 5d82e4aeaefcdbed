/-
  Wpa/StaCommand.lean --- `GET_STA_STATISTICS`, from the command to the text in the buffer.

  The command asks the driver for the statistics of a station.  The handler is called for
  each message of the answer and stores what it carries into one record, which is zero at
  first; the record is then printed into the reply.  What is proved of these steps is put
  together here: what the caller reads is the report of a record in which each field is made
  of the payloads of its own attribute, in the order they came.
-/
import MediatekCommon.Wpa.DriverCmd

set_option autoImplicit false

namespace MediatekCommon.Wpa

open MediatekCommon.Foundation

/-! ## The record -/

/-- The payloads of an attribute in these messages, oldest first. -/
def payloadsOf (attr : StaAttr) (messages : List (Option StaSinfo)) :
    List (Payload (policy attr)) :=
  messages.filterMap fun sinfo => sinfo.bind fun sinfo => sinfo attr

/-- What these payloads of one attribute store. -/
def storeAll (nl : Libnl) (attr : StaAttr) (payloads : List (Payload (policy attr)))
    (s : StaStatistics) : StaStatistics :=
  payloads.foldl (fun s payload => storeAttr nl s attr payload) s

section Record

variable {nl : Libnl}

/-- A message touches the field of an attribute only by the payload it has for it. -/
theorem field_handler (sinfo : Option StaSinfo) (s : StaStatistics) (attr : StaAttr) :
    field (testmodeStaStatisticsHandler nl sinfo s).2 attr =
      field (storeAll nl attr (payloadsOf attr [sinfo]) s) attr := by
  cases sinfo with
  | none => rfl
  | some sinfo =>
      have hvisit : field (testmodeStaStatisticsHandler nl (some sinfo) s).2 attr =
          field (visitAttr nl sinfo s attr) attr :=
        field_foldl_of_mem sinfo StaAttr.all_nodup attr.mem_all s
      rw [hvisit, visitAttr]
      cases hpayload : sinfo attr with
      | none => simp [payloadsOf, storeAll, hpayload]
      | some payload => simp [payloadsOf, storeAll, hpayload]

/-- What the payloads store depends on the record only through the field itself. -/
theorem field_storeAll_congr {attr : StaAttr} {s t : StaStatistics}
    (h : field t attr = field s attr) (payloads : List (Payload (policy attr))) :
    field (storeAll nl attr payloads t) attr = field (storeAll nl attr payloads s) attr := by
  induction payloads generalizing s t with
  | nil => exact h
  | cons payload rest ih => exact ih (field_storeAttr_congr h payload)

/-- Over all messages, each field is made of the payloads of its own attribute. -/
theorem field_handleMessages (messages : List (Option StaSinfo)) (s : StaStatistics)
    (attr : StaAttr) :
    field (handleMessages nl messages s) attr =
      field (storeAll nl attr (payloadsOf attr messages) s) attr := by
  induction messages generalizing s with
  | nil => rfl
  | cons sinfo rest ih =>
      have hsplit : payloadsOf attr (sinfo :: rest) =
          payloadsOf attr [sinfo] ++ payloadsOf attr rest := by
        rw [payloadsOf, payloadsOf, payloadsOf, ← List.filterMap_append]
        rfl
      have hnext : handleMessages nl (sinfo :: rest) s =
          handleMessages nl rest (testmodeStaStatisticsHandler nl sinfo s).2 := rfl
      rw [hnext, ih, field_storeAll_congr (field_handler sinfo s attr), hsplit, storeAll, storeAll,
        storeAll, List.foldl_append]

end Record

/-! ## The report is a string -/

theorem nul_not_mem_decimalInt (n : Int) : 0 ∉ decimalInt n := by
  unfold decimalInt
  split
  · intro hmem
    rcases List.mem_cons.mp hmem with hsign | hdigits
    · exact absurd hsign (by decide)
    · exact nul_not_mem_decimal _ hdigits
  · exact nul_not_mem_decimal _

theorem nul_not_mem_upperHex (k n : Nat) : 0 ∉ upperHex k n := by
  have hdigit : ∀ d < 16, upperDigit d ≠ 0 := by decide
  intro hmem
  obtain ⟨d, hd, hzero⟩ := List.mem_map.mp hmem
  exact hdigit d (lt_of_mem_hexDigits hd) hzero

/-- Parts with a separator between them have a NUL only where one of them has. -/
theorem nul_not_mem_intercalate {sep : List UInt8} (hsep : 0 ∉ sep) {parts : List (List UInt8)}
    (hparts : ∀ part ∈ parts, 0 ∉ part) : 0 ∉ sep.intercalate parts := by
  induction parts with
  | nil => exact List.not_mem_nil
  | cons first rest ih =>
      obtain ⟨hfirst, hrest⟩ := List.forall_mem_cons.mp hparts
      cases rest with
      | nil => simpa using hfirst
      | cons second rest =>
          rw [List.intercalate_cons_cons]
          simp only [List.mem_append, not_or]
          exact ⟨⟨hfirst, hsep⟩, ih hrest⟩

theorem nul_not_mem_reportLine {label : String} {value : List UInt8} (hlabel : 0 ∉ ascii label)
    (hvalue : 0 ∉ value) : 0 ∉ reportLine label value := by
  rw [reportLine, List.mem_append, List.mem_append, not_or, not_or]
  exact ⟨⟨hlabel, hvalue⟩, by decide⟩

theorem nul_not_mem_macText (bytes : List UInt8) : 0 ∉ macText bytes := by
  refine nul_not_mem_intercalate (by decide) fun part hpart => ?_
  obtain ⟨byte, -, rfl⟩ := List.mem_map.mp hpart
  exact nul_not_mem_hexByte byte

theorem nul_not_mem_tcText (elements : List UInt32) : 0 ∉ tcText elements := by
  refine nul_not_mem_intercalate (by decide) fun part hpart => ?_
  obtain ⟨element, -, rfl⟩ := List.mem_map.mp hpart
  exact nul_not_mem_decimalInt _

theorem nul_not_mem_reservedRow (reserved : Vector UInt8 32) (first count : Nat) :
    0 ∉ reservedRow reserved first count := by
  intro hmem
  obtain ⟨i, -, hbyte⟩ := List.mem_flatMap.mp hmem
  rcases List.mem_append.mp hbyte with hdigits | hblank
  · exact nul_not_mem_upperHex _ _ hdigits
  · split at hblank
    · exact absurd hblank (by decide)
    · exact List.not_mem_nil hblank

/-- If the rate is printed without a NUL, so is everything. -/
theorem nul_not_mem_staReport {formatRate : Float → List UInt8}
    (hrate : ∀ rate, 0 ∉ formatRate rate) (s : StaStatistics) : 0 ∉ staReport formatRate s := by
  have hdecimal : ∀ label : String, 0 ∉ ascii label → ∀ w : UInt32,
      0 ∉ reportLine label (decimalU32 w) :=
    fun _ hlabel _ => nul_not_mem_reportLine hlabel (nul_not_mem_decimalInt _)
  have htc : ∀ label : String, 0 ∉ ascii label → ∀ elements,
      0 ∉ reportLine label (tcText elements) :=
    fun _ hlabel _ => nul_not_mem_reportLine hlabel (nul_not_mem_tcText _)
  have hbody : 0 ∉ staReportBody formatRate s := by
    unfold staReportBody
    rw [List.mem_flatten]
    rintro ⟨part, hpart, hnul⟩
    revert hnul
    revert part
    simp only [List.forall_mem_cons]
    refine ⟨nul_not_mem_reportLine (by decide) (nul_not_mem_macText _),
      hdecimal _ (by decide) _,
      nul_not_mem_reportLine (by decide) (nul_not_mem_decimalInt _),
      nul_not_mem_reportLine (by decide) (nul_not_mem_decimalInt _),
      nul_not_mem_reportLine (by decide) (nul_not_mem_upperHex _ _),
      nul_not_mem_reportLine (by decide) (hrate _),
      hdecimal _ (by decide) _, hdecimal _ (by decide) _, hdecimal _ (by decide) _,
      hdecimal _ (by decide) _, hdecimal _ (by decide) _, hdecimal _ (by decide) _,
      htc _ (by decide) _, htc _ (by decide) _, htc _ (by decide) _, htc _ (by decide) _,
      nul_not_mem_reportLine (by decide) (nul_not_mem_upperHex _ _),
      by decide, nul_not_mem_reservedRow _ _ _, by decide, by decide,
      nul_not_mem_reservedRow _ _ _, ?_⟩
    intro part hpart
    cases hpart
  rw [staReport, List.mem_append, not_or]
  exact ⟨hbody, by decide⟩

/-! ## The report in the buffer -/

/-- A text stored at the beginning, with its NUL, is the string there. -/
theorem stringAt_storeText {text : List UInt8} (hnul : 0 ∉ text) (hne : text ≠ []) {n : Nat}
    (hn : text.length < n) (mem : Nat → UInt8) : stringAt (storeText mem 0 text) n = text := by
  have htext : (List.range text.length).map (storeText mem 0 text) = text := by
    apply List.ext_getElem
    · simp
    · intro i hi hi'
      rw [List.getElem_map, List.getElem_range]
      simpa using (storeText_add hi' : storeText mem 0 text (0 + i) = _)
  have hend : storeText mem 0 text text.length = 0 := by
    simpa using (storeText_add_length hne : storeText mem 0 text (0 + _) = 0)
  have htake : ((List.range n).map (storeText mem 0 text)).take (text.length + 1) =
      text ++ [0] := by
    rw [← List.map_take, List.take_range, Nat.min_eq_left (by omega), List.range_succ,
      List.map_append, htext, List.map_singleton, hend]
  rw [stringAt, ← List.take_append_drop (text.length + 1) ((List.range n).map _), htake,
    List.append_assoc]
  exact textOf_append_nul hnul

theorem printedReport_eq (formatRate : Float → List UInt8) (hrate : ∀ rate, 0 ∉ formatRate rate)
    (s : StaStatistics) (bufLen : Nat) (buf : List UInt8) :
    let report := staReport formatRate s
    (report.length < bufLen →
        printedReport formatRate s bufLen buf = ((report.length : Int), report)) ∧
      (bufLen ≤ report.length → ∃ text, printedReport formatRate s bufLen buf = (0, text)) := by
  intro report
  have hne : report ≠ [] := staReport_ne_nil formatRate s
  obtain ⟨hfits, htruncated⟩ :=
    prints_printStaReport formatRate s ⟨fun i => buf.getD i 0, 0, []⟩ (Nat.zero_le bufLen)
  rw [fits_iff_of_ne_nil hne, Nat.zero_add] at hfits htruncated
  unfold printedReport printStaStatistics
  generalize (printStaReport bufLen formatRate s).run ⟨fun i => buf.getD i 0, 0, []⟩ = ran
    at hfits htruncated
  obtain ⟨result, out⟩ := ran
  constructor
  · intro hroom
    obtain ⟨rfl, hpos, hmem⟩ := hfits hroom
    dsimp only at hpos hmem ⊢
    rw [hmem, hpos]
    have hlooked : report.length < max bufLen (buf.length + 1) :=
      Nat.lt_of_lt_of_le hroom (Nat.le_max_left _ _)
    exact Prod.ext rfl (stringAt_storeText (nul_not_mem_staReport hrate s) hne hlooked _)
  · intro hsmall
    obtain ⟨rfl, -⟩ := htruncated (Nat.not_lt.mpr hsmall)
    exact ⟨_, rfl⟩

/-! ## The command -/

section Command

variable {h : Host}

/-- Without an address nothing happens. -/
theorem run_getStaStatistics_of_none {addr : CString} (haddr : h.hwaddrAton addr = none)
    (bufLen : Nat) (s : DriverState) :
    (wpaDriverGetStaStatistics h addr bufLen).run s = (.ok (-1), s) := by
  rw [wpaDriverGetStaStatistics, haddr]
  rfl

theorem run_wpasGetStaStatistics (staAddr : List UInt8) (s : DriverState) :
    (wpasGetStaStatistics h staAddr).run s =
      (.ok (h.testmode (staStatisticsCall h staAddr)).ret,
        { s with effects := s.effects ++ [.testmode (staStatisticsCall h staAddr)] }) := rfl

/-- With one the driver is asked. -/
theorem run_getStaStatistics_of_failed {addr : CString} {staAddr : List UInt8}
    (haddr : h.hwaddrAton addr = some staAddr)
    (hfailed : (h.testmode (staStatisticsCall h staAddr)).ret < 0) (bufLen : Nat)
    (s : DriverState) :
    (wpaDriverGetStaStatistics h addr bufLen).run s =
      (.ok (-1),
        { s with effects := s.effects ++ [.testmode (staStatisticsCall h staAddr)] }) := by
  rw [wpaDriverGetStaStatistics, haddr]
  dsimp only
  rw [Faulting.run_bind_of_ok (run_wpasGetStaStatistics staAddr s), if_pos hfailed]
  rfl

/-- Where it does not fail, the record is printed. -/
theorem run_getStaStatistics_of_answered {addr : CString} {staAddr : List UInt8}
    (haddr : h.hwaddrAton addr = some staAddr)
    (hanswered : 0 ≤ (h.testmode (staStatisticsCall h staAddr)).ret) {bufLen : Nat}
    {s : DriverState} {len : Int} {text : List UInt8}
    (hprinted : printedReport h.formatRate (h.staStatistics staAddr) bufLen s.buf = (len, text)) :
    (wpaDriverGetStaStatistics h addr bufLen).run s =
      (.ok len,
        { s with
          effects := s.effects ++ [.testmode (staStatisticsCall h staAddr)]
          buf := text }) := by
  rw [wpaDriverGetStaStatistics, haddr]
  dsimp only
  rw [Faulting.run_bind_of_ok (run_wpasGetStaStatistics staAddr s),
    if_neg (Int.not_lt.mpr hanswered), Faulting.run_bind_of_ok (Faulting.run_get _)]
  dsimp only
  rw [hprinted]
  rfl

end Command

/-- A request for the statistics of a station, in any letter case. -/
def staCommand : CString := .literal "get_sta_statistics 02:00:00:00:00:02"

/-- A host that reads one address, and whose driver answers with three messages: one that is
cut short, one that libnl rejects, and one with a new signal strength. -/
def Host.oneStation : Host :=
  { Host.reference with
    hwaddrAton := fun _ => some [2, 0, 0, 0, 0, 2]
    staMessages := fun _ =>
      [some rssiAndMac, none, some fun | .rssi => some ⟨[100], by decide⟩ | _ => none] }

end MediatekCommon.Wpa
