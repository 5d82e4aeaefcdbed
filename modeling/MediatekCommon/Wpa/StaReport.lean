/-
  Wpa/StaReport.lean --- `print_sta_statistics`: the text of the station statistics.

  Each line is one bounded print at a moving cursor, but the two rows of reserved
  bytes, which a loop prints byte by byte.  The first print that does not fit ends the
  function with 0.  The text all of them make is `staReport`.

  The index `i` of the loops is used again behind them: the prints that end the rows
  pass `reserved[i]` to a format without a directive.  What the arguments are read from
  is logged, so that these reads can be seen.
-/
import MediatekCommon.Foundation.BoundedPrint
import MediatekCommon.Foundation.CText
import MediatekCommon.Wpa.StaStatistics

set_option autoImplicit false

namespace MediatekCommon.Wpa

open MediatekCommon.Foundation

/-! ## Arrays -/

/-- The arrays of the record the report reads. -/
inductive StaArray where
  | addr | tcBufFullCnt | tcQueLen | tcAvgQueLen | tcCurQueLen | reserved
  deriving DecidableEq, Repr

/-- How many elements an array is declared with. -/
def StaArray.size : StaArray → Nat
  | .addr => 6
  | .reserved => 32
  -- TC_DATA_NUM
  | _ => 4

/-- An element that is read. -/
structure ArrayRead where
  array : StaArray
  index : Nat
  deriving DecidableEq, Repr

/-- The element exists. -/
def ArrayRead.InBounds (read : ArrayRead) : Prop := read.index < read.array.size

instance (read : ArrayRead) : Decidable read.InBounds := inferInstanceAs (Decidable (_ < _))

/-- Read a byte; behind the end of the array it may be any. -/
def readByte {count : Nat} (array : StaArray) (bytes : Vector UInt8 count) (index : Nat) :
    Printer ArrayRead UInt8 := do
  note ⟨array, index⟩
  return bytes.toList.getD index 0

/-- An element of a `u32` array. -/
def tcElement (elements : TcArray) (index : Nat) : UInt32 :=
  UInt32.ofNat (littleEndian ((elements.toList.drop (4 * index)).take 4))

/-- Read a `u32`. -/
def readTc (array : StaArray) (elements : TcArray) (index : Nat) : Printer ArrayRead UInt32 := do
  note ⟨array, index⟩
  return tcElement elements index

/-! ## Formats -/

/-- `%d` -/
def decimalInt (n : Int) : List UInt8 :=
  if n < 0 then 45 :: decimal n.natAbs else decimal n.natAbs

/-- `%d` of a `u32`, which is taken for an `int`. -/
def decimalU32 (w : UInt32) : List UInt8 := decimalInt ((w.toNat : Int).bmod (2 ^ 32))

/-- A hexadecimal digit, as `%X` prints it. -/
def upperDigit (d : Nat) : UInt8 := UInt8.ofNat (if d < 10 then 48 + d else 55 + d)

/-- `%0*X` of a number below `16 ^ k`. -/
def upperHex (k n : Nat) : List UInt8 := (hexDigits k n).map upperDigit

/-- `MACSTR` -/
def macText (bytes : List UInt8) : List UInt8 := [58].intercalate (bytes.map hexByte)

/-- `%d:%d:%d:%d` -/
def tcText (elements : List UInt32) : List UInt8 := [58].intercalate (elements.map decimalU32)

/-- A line `label=value`. -/
def reportLine (label : String) (value : List UInt8) : List UInt8 :=
  ascii label ++ value ++ ascii "\n"

/-! ## `print_sta_statistics` -/

section Print

variable (buflen : Nat)

/-- The line with the address. -/
def printStaAddr (addr : Vector UInt8 6) : Printer ArrayRead Unit := do
  let b0 ← readByte .addr addr 0
  let b1 ← readByte .addr addr 1
  let b2 ← readByte .addr addr 2
  let b3 ← readByte .addr addr 3
  let b4 ← readByte .addr addr 4
  let b5 ← readByte .addr addr 5
  printBounded buflen (reportLine "sta_addr=" (macText [b0, b1, b2, b3, b4, b5]))

/-- The line of a traffic class array. -/
def printTcArray (label : String) (array : StaArray) (elements : TcArray) :
    Printer ArrayRead Unit := do
  let tc0 ← readTc array elements 0
  let tc1 ← readTc array elements 1
  let tc2 ← readTc array elements 2
  let tc3 ← readTc array elements 3
  printBounded buflen (reportLine label (tcText [tc0, tc1, tc2, tc3]))

/-- The loop over reserved bytes, from `i` on; it yields the `i` it ends with. -/
def printReserved (reserved : Vector UInt8 32) : Nat → Nat → Printer ArrayRead Nat
  | 0, i => return i
  | remaining + 1, i => do
      let byte ← readByte .reserved reserved i
      printBounded buflen (upperHex 2 byte.toNat)
      if (i + 1) % 4 = 0 then do
        let _ ← readByte .reserved reserved i
        printBounded buflen (ascii " ")
        printReserved reserved remaining (i + 1)
      else printReserved reserved remaining (i + 1)

/-- The prints up to the second row of reserved bytes; `formatRate` is `%.1f`. -/
def printThroughReserved (formatRate : Float → List UInt8) (s : StaStatistics) :
    Printer ArrayRead Nat := do
  printStaAddr buflen s.addr
  printBounded buflen (reportLine "link_score=" (decimalU32 s.linkScore))
  printBounded buflen (reportLine "per=" (decimalInt s.per.toNat))
  printBounded buflen (reportLine "rssi=" (decimalInt s.rssi))
  printBounded buflen (reportLine "phy=0x" (upperHex 8 s.phyMode.toNat))
  printBounded buflen (reportLine "rate=" (formatRate s.txRate))
  printBounded buflen (reportLine "total_cnt=" (decimalU32 s.txTotalCnt))
  printBounded buflen (reportLine "threshold_cnt=" (decimalU32 s.txExcThresholdCnt))
  printBounded buflen (reportLine "fail_cnt=" (decimalU32 s.txFailCnt))
  printBounded buflen (reportLine "timeout_cnt=" (decimalU32 s.txTimeoutCnt))
  printBounded buflen (reportLine "apt=" (decimalU32 s.txAvgProcessTime))
  printBounded buflen (reportLine "aat=" (decimalU32 s.txAvgAirTime))
  printTcArray buflen "TC_buf_full_cnt=" .tcBufFullCnt s.tcBufFullCnt
  printTcArray buflen "TC_sta_que_len=" .tcQueLen s.tcQueLen
  printTcArray buflen "TC_avg_que_len=" .tcAvgQueLen s.tcAvgQueLen
  printTcArray buflen "TC_cur_que_len=" .tcCurQueLen s.tcCurQueLen
  printBounded buflen (reportLine "flag=0x" (upperHex 8 s.flag.toNat))
  printBounded buflen (ascii "reserved0=")
  let i ← printReserved buflen s.reserved 16 0
  let _ ← readByte .reserved s.reserved i
  printBounded buflen (ascii "\n")
  printBounded buflen (ascii "reserved1=")
  printReserved buflen s.reserved 16 16

/-- All the prints. -/
def printStaReport (formatRate : Float → List UInt8) (s : StaStatistics) :
    Printer ArrayRead Unit := do
  let i ← printThroughReserved buflen formatRate s
  let _ ← readByte .reserved s.reserved i
  printBounded buflen (ascii "\n")
  printBounded buflen (ascii "====\n")

/-- `print_sta_statistics(wpa_s, sta_stats, mask, buf, buflen)` over this memory at `buf`:
what it returns, and the memory and the reads it leaves. -/
def printStaStatistics (formatRate : Float → List UInt8) (s : StaStatistics)
    (mem : Nat → UInt8) : Int × Output ArrayRead :=
  match (printStaReport buflen formatRate s).run ⟨mem, 0, []⟩ with
  | (.ok (), out) => (out.pos, out)
  | (.error (), out) => (0, out)

end Print

/-- The string at `buf`, the first `n` bytes of which are looked at. -/
def stringAt (mem : Nat → UInt8) (n : Nat) : List UInt8 := textOf ((List.range n).map mem)

/-- `print_sta_statistics` into a buffer of this length with this string: what it returns,
and the string it leaves. -/
def printedReport (formatRate : Float → List UInt8) (s : StaStatistics) (bufLen : Nat)
    (buf : List UInt8) : Int × List UInt8 :=
  let (ret, out) := printStaStatistics bufLen formatRate s fun i => buf.getD i 0
  (ret, stringAt out.mem (max bufLen (buf.length + 1)))

/-! ## The report -/

/-- A row of reserved bytes: two digits a byte, and a blank behind every fourth. -/
def reservedRow (reserved : Vector UInt8 32) (first count : Nat) : List UInt8 :=
  (List.range' first count).flatMap fun i =>
    upperHex 2 (reserved.toList.getD i 0).toNat ++ if (i + 1) % 4 = 0 then ascii " " else []

/-- The report without its last two line ends and the rule between them. -/
def staReportBody (formatRate : Float → List UInt8) (s : StaStatistics) : List UInt8 :=
  [reportLine "sta_addr=" (macText s.addr.toList),
    reportLine "link_score=" (decimalU32 s.linkScore),
    reportLine "per=" (decimalInt s.per.toNat),
    reportLine "rssi=" (decimalInt s.rssi),
    reportLine "phy=0x" (upperHex 8 s.phyMode.toNat),
    reportLine "rate=" (formatRate s.txRate),
    reportLine "total_cnt=" (decimalU32 s.txTotalCnt),
    reportLine "threshold_cnt=" (decimalU32 s.txExcThresholdCnt),
    reportLine "fail_cnt=" (decimalU32 s.txFailCnt),
    reportLine "timeout_cnt=" (decimalU32 s.txTimeoutCnt),
    reportLine "apt=" (decimalU32 s.txAvgProcessTime),
    reportLine "aat=" (decimalU32 s.txAvgAirTime),
    reportLine "TC_buf_full_cnt=" (tcText ((List.range 4).map (tcElement s.tcBufFullCnt))),
    reportLine "TC_sta_que_len=" (tcText ((List.range 4).map (tcElement s.tcQueLen))),
    reportLine "TC_avg_que_len=" (tcText ((List.range 4).map (tcElement s.tcAvgQueLen))),
    reportLine "TC_cur_que_len=" (tcText ((List.range 4).map (tcElement s.tcCurQueLen))),
    reportLine "flag=0x" (upperHex 8 s.flag.toNat),
    ascii "reserved0=", reservedRow s.reserved 0 16, ascii "\n",
    ascii "reserved1=", reservedRow s.reserved 16 16].flatten

/-- The complete report. -/
def staReport (formatRate : Float → List UInt8) (s : StaStatistics) : List UInt8 :=
  staReportBody formatRate s ++ ascii "\n====\n"

/-! ## What is printed -/

section Prints

variable {buflen : Nat}

theorem reportLine_ne_nil (label : String) (value : List UInt8) : reportLine label value ≠ [] := by
  simp [reportLine, ascii]

theorem upperHex_two_ne_nil (n : Nat) : upperHex 2 n ≠ [] := by
  refine List.ne_nil_of_length_pos ?_
  rw [upperHex, List.length_map, length_hexDigits]
  omega

theorem prints_readByte {count : Nat} (array : StaArray) (bytes : Vector UInt8 count)
    (index : Nat) :
    Prints buflen (readByte array bytes index) [] (bytes.toList.getD index 0) :=
  (prints_note _).bind (prints_pure _)

theorem prints_readTc (array : StaArray) (elements : TcArray) (index : Nat) :
    Prints buflen (readTc array elements index) [] (tcElement elements index) :=
  (prints_note _).bind (prints_pure _)

theorem prints_reportLine (label : String) (value : List UInt8) :
    Prints buflen (printBounded buflen (reportLine label value) : Printer ArrayRead Unit)
      (reportLine label value) () :=
  prints_printBounded (reportLine_ne_nil label value)

/-- Six bytes read one by one are the whole address. -/
theorem getD_six {bytes : List UInt8} (h : bytes.length = 6) :
    [bytes.getD 0 0, bytes.getD 1 0, bytes.getD 2 0, bytes.getD 3 0, bytes.getD 4 0,
      bytes.getD 5 0] = bytes := by
  match bytes, h with
  | [_, _, _, _, _, _], _ => rfl

theorem prints_printStaAddr (addr : Vector UInt8 6) :
    Prints buflen (printStaAddr buflen addr) (reportLine "sta_addr=" (macText addr.toList)) () := by
  rw [← getD_six (show addr.toList.length = 6 by simp)]
  refine (prints_readByte .addr addr 0).bind_of_nil ?_
  refine (prints_readByte .addr addr 1).bind_of_nil ?_
  refine (prints_readByte .addr addr 2).bind_of_nil ?_
  refine (prints_readByte .addr addr 3).bind_of_nil ?_
  refine (prints_readByte .addr addr 4).bind_of_nil ?_
  refine (prints_readByte .addr addr 5).bind_of_nil ?_
  exact prints_reportLine _ _

theorem prints_printTcArray (label : String) (array : StaArray) (elements : TcArray) :
    Prints buflen (printTcArray buflen label array elements)
      (reportLine label (tcText ((List.range 4).map (tcElement elements)))) () := by
  refine (prints_readTc array elements 0).bind_of_nil ?_
  refine (prints_readTc array elements 1).bind_of_nil ?_
  refine (prints_readTc array elements 2).bind_of_nil ?_
  refine (prints_readTc array elements 3).bind_of_nil ?_
  exact prints_reportLine _ _

/-- The loop prints a row and ends with `i` behind it. -/
theorem prints_printReserved (reserved : Vector UInt8 32) (remaining i : Nat) :
    Prints buflen (printReserved buflen reserved remaining i) (reservedRow reserved i remaining)
      (i + remaining) := by
  induction remaining generalizing i with
  | zero => exact prints_pure i
  | succ remaining ih =>
      have hrow : reservedRow reserved i (remaining + 1) =
          upperHex 2 (reserved.toList.getD i 0).toNat ++
            ((if (i + 1) % 4 = 0 then ascii " " else []) ++
              reservedRow reserved (i + 1) remaining) := by
        rw [reservedRow, List.range'_succ, List.flatMap_cons, List.append_assoc]
        rfl
      have hnext := ih (i + 1)
      rw [Nat.add_right_comm, Nat.add_assoc] at hnext
      rw [hrow, printReserved]
      refine (prints_readByte .reserved reserved i).bind_of_nil ?_
      refine (prints_printBounded (upperHex_two_ne_nil _)).bind ?_
      split
      · refine (prints_readByte .reserved reserved i).bind_of_nil ?_
        exact (prints_printBounded (by decide)).bind hnext
      · exact hnext

theorem prints_printThroughReserved (formatRate : Float → List UInt8) (s : StaStatistics) :
    Prints buflen (printThroughReserved buflen formatRate s) (staReportBody formatRate s) 32 := by
  refine (prints_printStaAddr s.addr).cons ?_
  iterate 11 refine (prints_reportLine _ _).cons ?_
  iterate 4 refine (prints_printTcArray _ _ _).cons ?_
  refine (prints_reportLine _ _).cons ?_
  refine (prints_printBounded (by decide)).cons ?_
  refine (prints_printReserved s.reserved 16 0).cons ?_
  -- The first loop ends with 16, and the next print passes `reserved[16]`.
  refine (prints_readByte .reserved s.reserved 16).bind_of_nil ?_
  refine (prints_printBounded (by decide)).cons ?_
  refine (prints_printBounded (by decide)).cons ?_
  exact (prints_printReserved s.reserved 16 16).singleton

/-- All the prints together print the report. -/
theorem prints_printStaReport (formatRate : Float → List UInt8) (s : StaStatistics) :
    Prints buflen (printStaReport buflen formatRate s) (staReport formatRate s) () := by
  have hend : ascii "\n====\n" = ascii "\n" ++ ascii "====\n" := by decide
  rw [staReport, hend]
  refine (prints_printThroughReserved formatRate s).bind ?_
  refine (prints_readByte .reserved s.reserved 32).bind_of_nil ?_
  exact (prints_printBounded (by decide)).bind (prints_printBounded (by decide))

end Prints

theorem staReport_ne_nil (formatRate : Float → List UInt8) (s : StaStatistics) :
    staReport formatRate s ≠ [] :=
  List.append_ne_nil_of_right_ne_nil _ (by decide)

/-- The report is stored whole, with its NUL, and its length returned, or it is not and 0
is returned; behind the end of the buffer nothing is stored. -/
theorem printStaStatistics_all_or_nothing (formatRate : Float → List UInt8) (s : StaStatistics)
    (buflen : Nat) (mem : Nat → UInt8) :
    let report := staReport formatRate s
    let (ret, out) := printStaStatistics buflen formatRate s mem
    (∀ i, buflen ≤ i → out.mem i = mem i) ∧
      (report.length < buflen → ret = report.length ∧
        (∀ i (h : i < report.length), out.mem i = report[i]) ∧ out.mem report.length = 0) ∧
      (buflen ≤ report.length → ret = 0) := by
  have hne := staReport_ne_nil formatRate s
  obtain ⟨hfits, htruncated⟩ := prints_printStaReport formatRate s ⟨mem, 0, []⟩ (Nat.zero_le buflen)
  rw [fits_iff_of_ne_nil hne, Nat.zero_add] at hfits htruncated
  unfold printStaStatistics
  generalize (printStaReport buflen formatRate s).run ⟨mem, 0, []⟩ = ran at hfits htruncated
  obtain ⟨result, out⟩ := ran
  rcases Nat.lt_or_ge (staReport formatRate s).length buflen with hroom | hroom
  · obtain ⟨rfl, hpos, hmem⟩ := hfits hroom
    dsimp only at hpos hmem ⊢
    rw [hmem, hpos]
    refine ⟨fun i hi => storeText_of_lt (by omega), fun _ => ⟨rfl, fun i hi => ?_, ?_⟩,
      fun hle => absurd hroom (Nat.not_lt.mpr hle)⟩
    · simpa using (storeText_add hi : storeText mem 0 (staReport formatRate s) (0 + i) = _)
    · simpa using
        (storeText_add_length hne : storeText mem 0 (staReport formatRate s) (0 + _) = 0)
  · obtain ⟨rfl, hmem⟩ := htruncated (Nat.not_lt.mpr hroom)
    exact ⟨hmem, fun hlt => absurd hlt (Nat.not_lt.mpr hroom), fun _ => rfl⟩

/-! ## What is read -/

section Reads

variable {buflen : Nat}

theorem logsOnly_readByte {count index : Nat} {array : StaArray}
    (h : (⟨array, index⟩ : ArrayRead).InBounds) (bytes : Vector UInt8 count) :
    LogsOnly ArrayRead.InBounds (readByte array bytes index) :=
  (logsOnly_note h).bind fun _ => logsOnly_pure _

theorem logsOnly_readTc {index : Nat} {array : StaArray}
    (h : (⟨array, index⟩ : ArrayRead).InBounds) (elements : TcArray) :
    LogsOnly ArrayRead.InBounds (readTc array elements index) :=
  (logsOnly_note h).bind fun _ => logsOnly_pure _

theorem logsOnly_printStaAddr (addr : Vector UInt8 6) :
    LogsOnly ArrayRead.InBounds (printStaAddr buflen addr) := by
  refine (logsOnly_readByte (by decide) addr).bind fun b0 => ?_
  refine (logsOnly_readByte (by decide) addr).bind fun b1 => ?_
  refine (logsOnly_readByte (by decide) addr).bind fun b2 => ?_
  refine (logsOnly_readByte (by decide) addr).bind fun b3 => ?_
  refine (logsOnly_readByte (by decide) addr).bind fun b4 => ?_
  refine (logsOnly_readByte (by decide) addr).bind fun b5 => ?_
  exact logsOnly_printBounded buflen _

theorem logsOnly_printTcArray (label : String) {array : StaArray} (h : array.size = 4)
    (elements : TcArray) :
    LogsOnly ArrayRead.InBounds (printTcArray buflen label array elements) := by
  have hread : ∀ index < 4, LogsOnly ArrayRead.InBounds (readTc array elements index) :=
    fun index hindex => logsOnly_readTc (by rw [ArrayRead.InBounds, h]; exact hindex) elements
  refine (hread 0 (by omega)).bind fun tc0 => ?_
  refine (hread 1 (by omega)).bind fun tc1 => ?_
  refine (hread 2 (by omega)).bind fun tc2 => ?_
  refine (hread 3 (by omega)).bind fun tc3 => ?_
  exact logsOnly_printBounded buflen _

/-- The loop reads the elements it runs over. -/
theorem logsOnly_printReserved (reserved : Vector UInt8 32) {remaining i : Nat}
    (h : i + remaining ≤ 32) :
    LogsOnly ArrayRead.InBounds (printReserved buflen reserved remaining i) := by
  induction remaining generalizing i with
  | zero => exact logsOnly_pure i
  | succ remaining ih =>
      have hi : (⟨.reserved, i⟩ : ArrayRead).InBounds := by
        change i < 32
        omega
      have hread : LogsOnly ArrayRead.InBounds (readByte .reserved reserved i) :=
        logsOnly_readByte hi reserved
      have hnext := ih (i := i + 1) (by omega)
      refine hread.bind fun byte => (logsOnly_printBounded buflen _).bind fun _ => ?_
      split
      · exact hread.bind fun _ => (logsOnly_printBounded buflen _).bind fun _ => hnext
      · exact hnext

theorem yields_printReserved (reserved : Vector UInt8 32) (remaining i : Nat) :
    Faulting.Yields (printReserved buflen reserved remaining i) (i + remaining) := by
  induction remaining generalizing i with
  | zero => exact Faulting.yields_pure i
  | succ remaining ih =>
      have hnext := ih (i + 1)
      rw [Nat.add_right_comm, Nat.add_assoc] at hnext
      refine Faulting.Yields.bind fun byte => Faulting.Yields.bind fun _ => ?_
      split
      · exact Faulting.Yields.bind fun _ => Faulting.Yields.bind fun _ => hnext
      · exact hnext

theorem logsOnly_printThroughReserved (formatRate : Float → List UInt8) (s : StaStatistics) :
    LogsOnly ArrayRead.InBounds (printThroughReserved buflen formatRate s) := by
  refine (logsOnly_printStaAddr s.addr).bind fun _ => ?_
  iterate 11 refine (logsOnly_printBounded buflen _).bind fun _ => ?_
  iterate 4 refine (logsOnly_printTcArray _ rfl _).bind fun _ => ?_
  iterate 2 refine (logsOnly_printBounded buflen _).bind fun _ => ?_
  refine (logsOnly_printReserved s.reserved (by omega)).bind_of_yields
    (yields_printReserved s.reserved 16 0) ?_
  refine (logsOnly_readByte (by decide) s.reserved).bind fun _ => ?_
  iterate 2 refine (logsOnly_printBounded buflen _).bind fun _ => ?_
  exact logsOnly_printReserved s.reserved (by omega)

end Reads

theorem printStaStatistics_snd (formatRate : Float → List UInt8) (s : StaStatistics)
    (buflen : Nat) (mem : Nat → UInt8) :
    (printStaStatistics buflen formatRate s mem).2 =
      ((printStaReport buflen formatRate s).run ⟨mem, 0, []⟩).2 := by
  unfold printStaStatistics
  split <;> rename_i h <;> rw [h]

/-- Where the report up to the second row fits, `reserved[32]` is read. -/
theorem mem_log_printStaStatistics {formatRate : Float → List UInt8} {s : StaStatistics}
    {buflen : Nat} (h : (staReportBody formatRate s).length < buflen) (mem : Nat → UInt8) :
    ⟨.reserved, 32⟩ ∈ (printStaStatistics buflen formatRate s mem).2.log := by
  have hbody : Fits buflen 0 (staReportBody formatRate s) := .inr (by omega)
  obtain ⟨hok, -⟩ := (prints_printThroughReserved formatRate s ⟨mem, 0, []⟩ (Nat.zero_le _)).1 hbody
  rw [printStaStatistics_snd]
  cases hrun : (printThroughReserved buflen formatRate s).run ⟨mem, 0, []⟩ with
  | mk result out =>
      rw [hrun] at hok
      obtain rfl : result = .ok 32 := hok
      rw [printStaReport, Faulting.run_bind_of_ok hrun]
      -- Behind the read only prints follow.
      have hend : LogsNothing ((printBounded buflen (ascii "\n") : Printer ArrayRead Unit) >>=
          fun _ => printBounded buflen (ascii "====\n")) :=
        (logsNothing_printBounded buflen _).bind fun _ => logsNothing_printBounded buflen _
      exact hend.mem_log (List.mem_append_right out.log (List.mem_singleton_self _))

/-- Every element read exists exactly when the report up to the second row does not fit. -/
theorem printStaStatistics_inBounds_iff (formatRate : Float → List UInt8) (s : StaStatistics)
    (buflen : Nat) (mem : Nat → UInt8) :
    (∀ read ∈ (printStaStatistics buflen formatRate s mem).2.log, read.InBounds) ↔
      buflen ≤ (staReportBody formatRate s).length := by
  constructor
  · intro hreads
    by_contra hroom
    exact absurd (hreads _ (mem_log_printStaStatistics (Nat.lt_of_not_le hroom) mem)) (by decide)
  · intro hroom
    have hbody : ¬ Fits buflen 0 (staReportBody formatRate s) := by
      rw [fits_iff_of_ne_nil (by simp [staReportBody, reportLine_ne_nil])]
      omega
    obtain ⟨herror, -⟩ :=
      (prints_printThroughReserved formatRate s ⟨mem, 0, []⟩ (Nat.zero_le _)).2 hbody
    rw [printStaStatistics_snd]
    cases hrun : (printThroughReserved buflen formatRate s).run ⟨mem, 0, []⟩ with
    | mk result out =>
        rw [hrun] at herror
        obtain rfl : result = .error () := herror
        rw [printStaReport, Faulting.run_bind_of_error hrun]
        have hlog : LogsOnly ArrayRead.InBounds (printThroughReserved buflen formatRate s) :=
          logsOnly_printThroughReserved formatRate s
        replace hlog := hlog ⟨mem, 0, []⟩
        rw [hrun] at hlog
        exact hlog (by simp)

/-- A record of zeros and a buffer of 4096 bytes. -/
theorem printStaStatistics_reads_behind_reserved :
    ¬ ∀ (formatRate : Float → List UInt8) (s : StaStatistics) (buflen : Nat) (mem : Nat → UInt8),
      ∀ read ∈ (printStaStatistics buflen formatRate s mem).2.log, read.InBounds := by
  intro h
  have hlength : (staReportBody (fun _ => ascii "0.0") default).length < 4096 := by decide +kernel
  exact absurd (h (fun _ => ascii "0.0") default 4096 (fun _ => 0) _
    (mem_log_printStaStatistics hlength _)) (by decide)

end MediatekCommon.Wpa
