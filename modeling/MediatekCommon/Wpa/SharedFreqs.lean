/-
  Wpa/SharedFreqs.lean --- `mtk_get_shared_radio_freqs`: what a scan of the interfaces
  on a radio finds.

  The scan visits the interfaces in their order until its array is full.  After each
  visit the array is a function of the interfaces visited, `entriesOf`: their distinct
  frequencies in the order of their first uses, each with the flag of its last user in
  infrastructure mode (`visitIface_entriesOf`).  So the frequencies are the first ones
  of all.  A flag is another matter: a later user replaces it, and users behind the end
  of the scan are not seen.
-/
import Mathlib.Data.List.Induction
import Mathlib.Data.List.Nodup
import MediatekCommon.Wpa.P2p

set_option autoImplicit false

namespace MediatekCommon.Wpa

/-! ## Lists without repetition -/

theorem eraseDups_concat {α : Type} [DecidableEq α] (l : List α) (a : α) :
    (l ++ [a]).eraseDups = if a ∈ l then l.eraseDups else l.eraseDups ++ [a] := by
  rw [List.eraseDups_append]
  by_cases h : a ∈ l <;> simp [h, List.removeAll, List.eraseDups_cons]

theorem nodup_append_singleton {α : Type} {l : List α} {a : α} (h : l.Nodup) (ha : a ∉ l) :
    (l ++ [a]).Nodup := by
  rw [← List.concat_eq_append]
  exact List.Nodup.concat ha h

theorem nodup_eraseDups {α : Type} [DecidableEq α] (l : List α) : l.eraseDups.Nodup := by
  induction l using List.reverseRecOn with
  | nil => exact List.nodup_nil
  | append_singleton l a ih =>
      rw [eraseDups_concat]
      split
      · exact ih
      · rename_i h
        exact nodup_append_singleton ih fun hmem => h (List.mem_eraseDups.mp hmem)

/-- Where keys are not repeated, changing the first entry of a key is changing each entry
of that key. -/
theorem modify_findIdx_eq_map {α κ : Type} [DecidableEq κ] (key : α → κ) (k : κ) (g : α → α)
    {l : List α} (h : (l.map key).Nodup) :
    l.modify (l.findIdx fun a => key a = k) g = l.map fun a => if key a = k then g a else a := by
  induction l with
  | nil => rfl
  | cons a l ih =>
      rw [List.map_cons, List.nodup_cons] at h
      by_cases hkey : key a = k
      · have hrest : ∀ b ∈ l, (if key b = k then g b else b) = b := by
          intro b hb
          refine if_neg fun hb' => h.1 ?_
          rw [hkey, ← hb']
          exact List.mem_map_of_mem hb
        rw [List.findIdx_cons, List.map_cons, List.map_congr_left hrest]
        simp [hkey]
      · rw [List.findIdx_cons, List.map_cons, ← ih h.2]
        simp [hkey]

/-! ## What an interface contributes -/

/-- The frequency an interface operates on, if it has one. -/
def RadioIface.contributed (ifs : RadioIface) : Option Int :=
  match ifs.currentSsid with
  | none => none
  | some ssid =>
      if ifs.assocFreq = 0 then none
      else if ssid.mode = .ap ∨ ssid.mode = .p2pGo then some ssid.frequency
      else if ifs.hasBssid then some ifs.assocFreq
      else none

/-- The distinct operating frequencies, in the order of their first uses. -/
def operatingFreqs (ifaces : List RadioIface) : List Int :=
  (ifaces.filterMap RadioIface.contributed).eraseDups

/-- The flag of a user: of a P2P group, or of another interface. -/
def UsedByFlags.flag (F : UsedByFlags) (p2pGroup : Bool) : UInt32 :=
  if p2pGroup then F.p2pClient else F.infraStation

/-- What a visit to an interface makes the flags of a frequency. -/
def RadioIface.flagOn (F : UsedByFlags) (freq : Int) (ifs : RadioIface) : Option UInt32 :=
  if ifs.contributed = some freq then
    match ifs.currentSsid with
    | some ssid => if ssid.mode = .infra then some (F.flag ssid.p2pGroup) else none
    | none => none
  else none

/-- The flags the last of these interfaces has left. -/
def flagsOf (F : UsedByFlags) (visited : List RadioIface) (freq : Int) : UInt32 :=
  (visited.filterMap (RadioIface.flagOn F freq)).getLast?.getD 0

/-- The array once these interfaces have been visited. -/
def entriesOf (F : UsedByFlags) (visited : List RadioIface) : List UsedFreq :=
  (operatingFreqs visited).map fun freq => ⟨freq, flagsOf F visited freq⟩

theorem operatingFreqs_concat (visited : List RadioIface) (ifs : RadioIface) :
    operatingFreqs (visited ++ [ifs]) =
      match ifs.contributed with
      | none => operatingFreqs visited
      | some freq =>
          if freq ∈ operatingFreqs visited then operatingFreqs visited
          else operatingFreqs visited ++ [freq] := by
  unfold operatingFreqs
  rw [List.filterMap_append]
  cases h : ifs.contributed with
  | none => simp [h]
  | some freq =>
      simp only [List.filterMap_cons, h, List.filterMap_nil, eraseDups_concat, List.mem_eraseDups]

theorem mem_operatingFreqs {ifaces : List RadioIface} {freq : Int} :
    freq ∈ operatingFreqs ifaces ↔ ∃ ifs ∈ ifaces, ifs.contributed = some freq := by
  rw [operatingFreqs, List.mem_eraseDups, List.mem_filterMap]

/-- Further interfaces come behind. -/
theorem operatingFreqs_isPrefix (front back : List RadioIface) :
    operatingFreqs front <+: operatingFreqs (front ++ back) := by
  rw [operatingFreqs, operatingFreqs, List.filterMap_append, List.eraseDups_append]
  exact List.prefix_append _ _

theorem flagsOf_concat (F : UsedByFlags) (visited : List RadioIface) (ifs : RadioIface)
    (freq : Int) :
    flagsOf F (visited ++ [ifs]) freq = (ifs.flagOn F freq).getD (flagsOf F visited freq) := by
  unfold flagsOf
  rw [List.filterMap_append]
  cases h : ifs.flagOn F freq <;> simp [h]

theorem flagOn_of_ne {F : UsedByFlags} {ifs : RadioIface} {freq : Int}
    (h : ifs.contributed ≠ some freq) : ifs.flagOn F freq = none := if_neg h

theorem flagsOf_of_not_mem (F : UsedByFlags) {visited : List RadioIface} {freq : Int}
    (h : freq ∉ operatingFreqs visited) : flagsOf F visited freq = 0 := by
  have hnone : visited.filterMap (RadioIface.flagOn F freq) = [] := by
    rw [List.filterMap_eq_nil_iff]
    exact fun ifs hifs => flagOn_of_ne fun hfreq => h (mem_operatingFreqs.mpr ⟨ifs, hifs, hfreq⟩)
  simp [flagsOf, hnone]

/-! ## One visit -/

/-- What a visit comes to: an entry for the frequency, if there is none yet, and for an
interface in infrastructure mode its flag in that entry. -/
theorem enterFreq_eq (F : UsedByFlags) (ssid : WpaSsid) (freq : Int) {data : List UsedFreq}
    (h : (data.map UsedFreq.freq).Nodup) :
    enterFreq F ssid freq data =
      (if freq ∈ data.map UsedFreq.freq then data else data ++ [⟨freq, 0⟩]).map fun used =>
        if used.freq = freq ∧ ssid.mode = .infra then
          { used with flags := F.flag ssid.p2pGroup }
        else used := by
  have hidx : data.findIdx (fun used => used.freq = freq) = data.length ↔
      freq ∉ data.map UsedFreq.freq := by
    simp [List.findIdx_eq_length]
  -- The list with the entry, and the index of the entry in it.
  obtain ⟨entered, hentered, hnodup, hmodify⟩ : ∃ entered : List UsedFreq,
      entered = (if freq ∈ data.map UsedFreq.freq then data else data ++ [⟨freq, 0⟩]) ∧
        (entered.map UsedFreq.freq).Nodup ∧
        entered.findIdx (fun used => used.freq = freq) =
          data.findIdx fun used => used.freq = freq := by
    refine ⟨_, rfl, ?_⟩
    split
    · exact ⟨h, rfl⟩
    · rename_i hnew
      refine ⟨?_, ?_⟩
      · rw [List.map_append, List.map_singleton]
        exact nodup_append_singleton h hnew
      · rw [List.findIdx_append, hidx.mpr hnew]
        simp
  have hdata : (if data.findIdx (fun used => used.freq = freq) = data.length then
      data ++ [⟨freq, 0⟩] else data) = entered := by
    rw [hentered, if_congr hidx rfl rfl, ite_not]
  rw [← hentered]
  unfold enterFreq
  simp only [hdata]
  rw [← hmodify]
  by_cases hinfra : ssid.mode = .infra
  · rw [if_pos hinfra, modify_findIdx_eq_map UsedFreq.freq freq _ hnodup]
    simp only [hinfra, and_true]
    rfl
  · simp [hinfra]

theorem visitIface_of_none {F : UsedByFlags} {ifs : RadioIface} (h : ifs.contributed = none)
    (data : List UsedFreq) : visitIface F ifs data = data := by
  unfold RadioIface.contributed at h
  unfold visitIface
  cases hssid : ifs.currentSsid with
  | none => rfl
  | some ssid =>
      rw [hssid] at h
      dsimp only at h ⊢
      split_ifs at h ⊢
      · rfl
      · rfl

theorem visitIface_of_some {F : UsedByFlags} {ifs : RadioIface} {freq : Int}
    (h : ifs.contributed = some freq) (data : List UsedFreq) :
    ∃ ssid, ifs.currentSsid = some ssid ∧
      visitIface F ifs data = enterFreq F ssid freq data := by
  unfold RadioIface.contributed at h
  unfold visitIface
  cases hssid : ifs.currentSsid with
  | none =>
      rw [hssid] at h
      cases h
  | some ssid =>
      rw [hssid] at h
      refine ⟨ssid, rfl, ?_⟩
      dsimp only at h ⊢
      split_ifs at h ⊢
      · rw [Option.some.inj h]
      · rw [Option.some.inj h]

theorem map_freq_entriesOf (F : UsedByFlags) (visited : List RadioIface) :
    (entriesOf F visited).map UsedFreq.freq = operatingFreqs visited := by
  simp [entriesOf, Function.comp_def]

/-- A visit to one more interface. -/
theorem visitIface_entriesOf (F : UsedByFlags) (visited : List RadioIface) (ifs : RadioIface) :
    visitIface F ifs (entriesOf F visited) = entriesOf F (visited ++ [ifs]) := by
  cases h : ifs.contributed with
  | none =>
      have hflags : ∀ freq, flagsOf F (visited ++ [ifs]) freq = flagsOf F visited freq :=
        fun freq => by rw [flagsOf_concat, flagOn_of_ne (by simp [h]), Option.getD_none]
      rw [visitIface_of_none h, entriesOf, entriesOf, operatingFreqs_concat, h]
      simp only [hflags]
  | some freq =>
      obtain ⟨ssid, hssid, hvisit⟩ := visitIface_of_some (F := F) h (entriesOf F visited)
      have hnodup : ((entriesOf F visited).map UsedFreq.freq).Nodup := by
        rw [map_freq_entriesOf]
        exact nodup_eraseDups _
      -- The flags of one entry before and after the visit.
      have hflags : ∀ f, (⟨f, flagsOf F (visited ++ [ifs]) f⟩ : UsedFreq) =
          if f = freq ∧ ssid.mode = .infra then ⟨f, F.flag ssid.p2pGroup⟩
          else ⟨f, flagsOf F visited f⟩ := by
        intro f
        rw [flagsOf_concat]
        by_cases hf : f = freq
        · subst hf
          by_cases hinfra : ssid.mode = .infra <;> simp [RadioIface.flagOn, h, hssid, hinfra]
        · rw [flagOn_of_ne (by simpa [h] using Ne.symm hf)]
          simp [hf]
      rw [hvisit, enterFreq_eq F ssid freq hnodup, map_freq_entriesOf, entriesOf, entriesOf,
        operatingFreqs_concat, h]
      dsimp only
      split
      · simp only [hflags, List.map_map, Function.comp_def]
      · rename_i hnew
        have hzero := flagsOf_of_not_mem F hnew
        simp only [hflags, List.map_append, List.map_map, List.map_singleton, Function.comp_def,
          hzero]

/-! ## The scan -/

/-- The scan of `ifaces` visited `front`: either all of them, or as many as it took to fill
the array. -/
structure Scanned (len : Nat) (ifaces front : List RadioIface) : Prop where
  isPrefix : front <+: ifaces
  fits : (operatingFreqs front).length ≤ len
  stops : front = ifaces ∨ (operatingFreqs front).length = len
  /-- Each interface was visited with the array not full. -/
  room : ∀ before ifs, before ++ [ifs] <+: front → (operatingFreqs before).length < len

theorem length_operatingFreqs_mono {front ifaces : List RadioIface} (h : front <+: ifaces) :
    (operatingFreqs front).length ≤ (operatingFreqs ifaces).length := by
  obtain ⟨back, rfl⟩ := h
  exact (operatingFreqs_isPrefix front back).length_le

theorem length_operatingFreqs_concat_le (visited : List RadioIface) (ifs : RadioIface) :
    (operatingFreqs (visited ++ [ifs])).length ≤ (operatingFreqs visited).length + 1 := by
  rw [operatingFreqs_concat]
  cases ifs.contributed with
  | none => exact Nat.le_succ _
  | some freq =>
      dsimp only
      split
      · exact Nat.le_succ _
      · exact Nat.le_of_eq (by rw [List.length_append, List.length_singleton])

/-- The scan from a point where these interfaces have been visited. -/
theorem exists_scanned (F : UsedByFlags) {len : Nat} (rest visited : List RadioIface)
    (hfits : (operatingFreqs visited).length ≤ len)
    (hroom : ∀ before ifs, before ++ [ifs] <+: visited → (operatingFreqs before).length < len) :
    ∃ front, Scanned len (visited ++ rest) front ∧
      mtkGetSharedRadioFreqsData F len rest (entriesOf F visited) = entriesOf F front := by
  induction rest generalizing visited with
  | nil => exact ⟨visited, ⟨by simp, hfits, .inl (by simp), hroom⟩, rfl⟩
  | cons ifs rest ih =>
      have hlength : (entriesOf F visited).length = (operatingFreqs visited).length := by
        rw [entriesOf, List.length_map]
      rw [mtkGetSharedRadioFreqsData, hlength]
      split
      · rename_i hfull
        exact ⟨visited, ⟨List.prefix_append _ _, hfits, .inr hfull, hroom⟩, rfl⟩
      · rename_i hfull
        have hlt : (operatingFreqs visited).length < len := Nat.lt_of_le_of_ne hfits hfull
        have hstep := ih (visited ++ [ifs])
          (Nat.le_trans (length_operatingFreqs_concat_le visited ifs) hlt) ?_
        · rw [visitIface_entriesOf]
          simpa using hstep
        · intro before user hstart
          rcases List.prefix_concat_iff.mp hstart with heq | hbefore
          · rw [(List.append_inj' heq rfl).1]
            exact hlt
          · exact hroom before user hbefore

theorem exists_scanned_all (F : UsedByFlags) (len : Nat) (ifaces : List RadioIface) :
    ∃ front, Scanned len ifaces front ∧
      mtkGetSharedRadioFreqsData F len ifaces [] = entriesOf F front := by
  refine exists_scanned F ifaces [] (Nat.zero_le len) fun before ifs h => ?_
  simp at h

/-- The frequencies found are the first ones. -/
theorem Scanned.operatingFreqs_eq {len : Nat} {ifaces front : List RadioIface}
    (h : Scanned len ifaces front) : operatingFreqs front = (operatingFreqs ifaces).take len := by
  rcases h.stops with heq | hfull
  · rw [← heq, List.take_of_length_le h.fits]
  · obtain ⟨back, rfl⟩ := h.isPrefix
    rw [← hfull]
    exact List.prefix_iff_eq_take.mp (operatingFreqs_isPrefix front back)

/-- The scan returns the number of distinct operating frequencies, but `len` at most; the
array holds the first ones and zeros behind them. -/
theorem mtkGetSharedRadioFreqs_eq (F : UsedByFlags) (ifaces : List RadioIface) (len : Nat) :
    let n := min len (operatingFreqs ifaces).length
    mtkGetSharedRadioFreqs F false ifaces len =
      ((n : Int), (operatingFreqs ifaces).take n ++ List.replicate (len - n) 0) := by
  intro n
  obtain ⟨front, hscanned, hdata⟩ := exists_scanned_all F len ifaces
  have hfreqs := hscanned.operatingFreqs_eq
  have hlength : (entriesOf F front).length = n := by
    rw [← List.length_map (f := UsedFreq.freq), map_freq_entriesOf, hfreqs, List.length_take]
  have htake : (operatingFreqs ifaces).take len = (operatingFreqs ifaces).take n := by
    rw [← List.take_take, List.take_length]
  simp only [mtkGetSharedRadioFreqs, Bool.false_eq_true, if_false, hdata, hlength,
    map_freq_entriesOf, hfreqs, htake]

/-- Two stations, one of them on the channel of the access point, and an array of one. -/
example :
    let infra : WpaSsid := ⟨.infra, 0, false⟩
    let ifaces : List RadioIface :=
      [⟨some ⟨.ap, 2412, false⟩, 2412, false⟩, ⟨some infra, 2412, true⟩, ⟨some infra, 5180, true⟩]
    mtkGetSharedRadioFreqs ⟨1, 2⟩ false ifaces 1 = (1, [2412]) := by decide

/-! ## The flags -/

/-- The interface uses the frequency in infrastructure mode, as a P2P group or not. -/
def RadioIface.InfraOn (ifs : RadioIface) (freq : Int) (p2pGroup : Bool) : Prop :=
  ifs.contributed = some freq ∧
    ∃ ssid, ifs.currentSsid = some ssid ∧ ssid.mode = .infra ∧ ssid.p2pGroup = p2pGroup

/-- The two flags are different bits. -/
structure UsedByFlags.Separate (F : UsedByFlags) : Prop where
  ne_zero : ∀ p2pGroup, F.flag p2pGroup ≠ 0
  disjoint : ∀ p2pGroup, F.flag p2pGroup &&& F.flag (!p2pGroup) = 0

/-- The flags of each entry say by which kinds of interfaces its frequency is used. -/
def FlagsAccumulate (F : UsedByFlags) (ifaces : List RadioIface) (data : List UsedFreq) : Prop :=
  ∀ used ∈ data, ∀ p2pGroup,
    used.flags &&& F.flag p2pGroup ≠ 0 ↔ ∃ ifs ∈ ifaces, ifs.InfraOn used.freq p2pGroup

/-- No frequency is used in infrastructure mode both by a P2P group and by another. -/
def OneKind (ifaces : List RadioIface) : Prop :=
  ∀ freq, ∀ user ∈ ifaces, ∀ group ∈ ifaces,
    ¬ (user.InfraOn freq false ∧ group.InfraOn freq true)

/-- A frequency used in infrastructure mode is used so by some interface with fewer than
`len` frequencies in front of it. -/
def EachReached (len : Nat) (ifaces : List RadioIface) : Prop :=
  ∀ freq, (∃ ifs ∈ ifaces, ∃ p2pGroup, ifs.InfraOn freq p2pGroup) →
    ∃ before user, before ++ [user] <+: ifaces ∧ (operatingFreqs before).length < len ∧
      ∃ p2pGroup, user.InfraOn freq p2pGroup

theorem flagOn_eq_some_iff {F : UsedByFlags} {ifs : RadioIface} {freq : Int} {flags : UInt32} :
    ifs.flagOn F freq = some flags ↔
      ∃ p2pGroup, ifs.InfraOn freq p2pGroup ∧ flags = F.flag p2pGroup := by
  unfold RadioIface.flagOn RadioIface.InfraOn
  by_cases hfreq : ifs.contributed = some freq
  · cases hssid : ifs.currentSsid with
    | none => simp
    | some ssid =>
        by_cases hinfra : ssid.mode = .infra
        · simp [hfreq, hinfra, eq_comm]
        · simp [hinfra]
  · simp [hfreq]

/-- The flags are those of one user, or there is none. -/
theorem flagsOf_cases (F : UsedByFlags) (visited : List RadioIface) (freq : Int) :
    (flagsOf F visited freq = 0 ∧ ∀ ifs ∈ visited, ∀ p2pGroup, ¬ ifs.InfraOn freq p2pGroup) ∨
      ∃ ifs ∈ visited, ∃ p2pGroup,
        ifs.InfraOn freq p2pGroup ∧ flagsOf F visited freq = F.flag p2pGroup := by
  unfold flagsOf
  cases hlast : (visited.filterMap (RadioIface.flagOn F freq)).getLast? with
  | none =>
      rw [List.getLast?_eq_none_iff, List.filterMap_eq_nil_iff] at hlast
      refine .inl ⟨rfl, fun ifs hifs p2pGroup hinfra => ?_⟩
      have hsome := flagOn_eq_some_iff (F := F).mpr ⟨p2pGroup, hinfra, rfl⟩
      rw [hlast ifs hifs] at hsome
      cases hsome
  | some flags =>
      obtain ⟨ifs, hifs, hflag⟩ := List.mem_filterMap.mp (List.mem_of_getLast? hlast)
      obtain ⟨p2pGroup, hinfra, rfl⟩ := flagOn_eq_some_iff.mp hflag
      exact .inr ⟨ifs, hifs, p2pGroup, hinfra, rfl⟩

/-- An interface reached with room in the array was visited. -/
theorem Scanned.mem_of_room {len : Nat} {ifaces front before : List RadioIface}
    {user : RadioIface} (h : Scanned len ifaces front) (hstart : before ++ [user] <+: ifaces)
    (hroom : (operatingFreqs before).length < len) : user ∈ front := by
  have hvisited : before ++ [user] <+: front := by
    rcases h.stops with heq | hfull
    · rwa [heq]
    · rcases List.prefix_or_prefix_of_prefix hstart h.isPrefix with hvisited | hvisited
      · exact hvisited
      · rcases List.prefix_concat_iff.mp hvisited with heq | hbefore
        · exact heq ▸ List.prefix_refl _
        · have hmono := length_operatingFreqs_mono hbefore
          omega
  exact hvisited.subset (by simp)

theorem OneKind.eq {ifaces : List RadioIface} (h : OneKind ifaces) {freq : Int}
    {user user' : RadioIface} {p2pGroup p2pGroup' : Bool} (huser : user ∈ ifaces)
    (huser' : user' ∈ ifaces) (hon : user.InfraOn freq p2pGroup)
    (hon' : user'.InfraOn freq p2pGroup') : p2pGroup = p2pGroup' := by
  cases p2pGroup <;> cases p2pGroup'
  · rfl
  · exact absurd ⟨hon, hon'⟩ (h freq user huser user' huser')
  · exact absurd ⟨hon', hon⟩ (h freq user' huser' user huser)
  · rfl

theorem UsedByFlags.Separate.and_ne_zero_iff {F : UsedByFlags} (h : F.Separate)
    {p2pGroup p2pGroup' : Bool} :
    F.flag p2pGroup &&& F.flag p2pGroup' ≠ 0 ↔ p2pGroup = p2pGroup' := by
  by_cases heq : p2pGroup = p2pGroup'
  · subst heq
    simpa using h.ne_zero p2pGroup
  · obtain rfl : p2pGroup' = !p2pGroup := by
      cases p2pGroup <;> cases p2pGroup' <;> simp at heq ⊢
    simp [h.disjoint p2pGroup]

/-- The flags have the bit of a kind exactly where some user of the kind has left them. -/
theorem UsedByFlags.Separate.flagsOf_and_ne_zero_iff {F : UsedByFlags} (h : F.Separate)
    (visited : List RadioIface) (freq : Int) (p2pGroup : Bool) :
    flagsOf F visited freq &&& F.flag p2pGroup ≠ 0 ↔
      ∃ user ∈ visited, user.InfraOn freq p2pGroup ∧
        flagsOf F visited freq = F.flag p2pGroup := by
  constructor
  · intro hbit
    rcases flagsOf_cases F visited freq with ⟨hzero, -⟩ | ⟨user, huser, kind, hon, hflag⟩
    · simp [hzero] at hbit
    · rw [hflag, h.and_ne_zero_iff] at hbit
      subst hbit
      exact ⟨user, huser, hon, hflag⟩
  · rintro ⟨-, -, -, hflag⟩
    rw [hflag, h.and_ne_zero_iff]

/-- Where the array has room for all frequencies, the flags of each tell by whom it is used
if and only if no frequency has users of both kinds and each is reached in time. -/
theorem flagsAccumulate_iff {F : UsedByFlags} (hF : F.Separate) {ifaces : List RadioIface}
    {len : Nat} (hlen : (operatingFreqs ifaces).length ≤ len) :
    FlagsAccumulate F ifaces (mtkGetSharedRadioFreqsData F len ifaces []) ↔
      OneKind ifaces ∧ EachReached len ifaces := by
  obtain ⟨front, hscanned, hdata⟩ := exists_scanned_all F len ifaces
  have hfreqs : operatingFreqs front = operatingFreqs ifaces := by
    rw [hscanned.operatingFreqs_eq, List.take_of_length_le hlen]
  have hentries : FlagsAccumulate F ifaces (mtkGetSharedRadioFreqsData F len ifaces []) ↔
      ∀ freq ∈ operatingFreqs ifaces, ∀ p2pGroup,
        flagsOf F front freq &&& F.flag p2pGroup ≠ 0 ↔
          ∃ ifs ∈ ifaces, ifs.InfraOn freq p2pGroup := by
    rw [hdata, FlagsAccumulate, entriesOf, hfreqs]
    exact List.forall_mem_map
  rw [hentries]
  constructor
  · intro hflags
    refine ⟨?_, ?_⟩
    · rintro freq user huser group hgroup ⟨hon, hon'⟩
      have hmem := mem_operatingFreqs.mpr ⟨user, huser, hon.1⟩
      have hinfra := (hflags freq hmem false).mpr ⟨user, huser, hon⟩
      have hclient := (hflags freq hmem true).mpr ⟨group, hgroup, hon'⟩
      -- One user's flag cannot have both bits.
      obtain ⟨-, -, -, hflag⟩ := (hF.flagsOf_and_ne_zero_iff front freq false).mp hinfra
      rw [hflag, hF.and_ne_zero_iff] at hclient
      cases hclient
    · rintro freq ⟨ifs, hifs, p2pGroup, hon⟩
      have hbit := (hflags freq (mem_operatingFreqs.mpr ⟨ifs, hifs, hon.1⟩) p2pGroup).mpr
        ⟨ifs, hifs, hon⟩
      obtain ⟨user, huser, hon', -⟩ := (hF.flagsOf_and_ne_zero_iff front freq p2pGroup).mp hbit
      obtain ⟨before, after, hsplit⟩ := List.append_of_mem huser
      have hstart : before ++ [user] <+: front := ⟨after, by simp [hsplit]⟩
      exact ⟨before, user, hstart.trans hscanned.isPrefix, hscanned.room before user hstart,
        p2pGroup, hon'⟩
  · rintro ⟨hkind, hreached⟩ freq - p2pGroup
    constructor
    · intro hbit
      obtain ⟨user, huser, hon, -⟩ := (hF.flagsOf_and_ne_zero_iff front freq p2pGroup).mp hbit
      exact ⟨user, hscanned.isPrefix.subset huser, hon⟩
    · rintro ⟨ifs, hifs, hon⟩
      obtain ⟨before, user, hstart, hroom, p2pGroup', hon'⟩ :=
        hreached freq ⟨ifs, hifs, p2pGroup, hon⟩
      rcases flagsOf_cases F front freq with ⟨-, hnone⟩ | ⟨last, hlast, kind, honLast, hflag⟩
      · exact absurd hon' (hnone user (hscanned.mem_of_room hstart hroom) p2pGroup')
      · rw [hflag, hF.and_ne_zero_iff]
        exact hkind.eq (hscanned.isPrefix.subset hlast) hifs honLast hon

/-- Flags in the two lowest bits. -/
theorem separate_one_two : (⟨1, 2⟩ : UsedByFlags).Separate where
  ne_zero p2pGroup := by cases p2pGroup <;> decide
  disjoint p2pGroup := by cases p2pGroup <;> decide

/-- An interface connected on this frequency, a P2P client or a station. -/
def RadioIface.connected (freq : Int) (p2pGroup : Bool) : RadioIface :=
  ⟨some ⟨.infra, 0, p2pGroup⟩, freq, true⟩

/-- An access point on this frequency. -/
def RadioIface.accessPoint (freq : Int) : RadioIface := ⟨some ⟨.ap, freq, false⟩, freq, false⟩

theorem infraOn_connected {freq freq' : Int} {p2pGroup p2pGroup' : Bool} (h : freq ≠ 0) :
    (RadioIface.connected freq p2pGroup).InfraOn freq' p2pGroup' ↔
      freq = freq' ∧ p2pGroup = p2pGroup' := by
  simp [RadioIface.InfraOn, RadioIface.connected, RadioIface.contributed, h]

theorem not_infraOn_accessPoint (freq freq' : Int) (p2pGroup : Bool) :
    ¬ (RadioIface.accessPoint freq).InfraOn freq' p2pGroup := by
  rintro ⟨-, ssid, hssid, hmode, -⟩
  cases hssid
  cases hmode

/-- A station and an access point on its channel, and a P2P client on another channel. -/
theorem flagsAccumulate_two_channels :
    let ifaces : List RadioIface := [.connected 2412 false, .accessPoint 2412, .connected 5180 true]
    FlagsAccumulate ⟨1, 2⟩ ifaces (mtkGetSharedRadioFreqsData ⟨1, 2⟩ 2 ifaces []) := by
  intro ifaces
  refine (flagsAccumulate_iff separate_one_two (by decide)).mpr ⟨?_, ?_⟩
  · rintro freq user huser group hgroup ⟨hon, hon'⟩
    simp only [ifaces, List.mem_cons, List.not_mem_nil, or_false] at huser hgroup
    rcases huser with rfl | rfl | rfl
    · rcases hgroup with rfl | rfl | rfl
      · cases ((infraOn_connected (by decide)).mp hon').2
      · exact not_infraOn_accessPoint _ _ _ hon'
      · cases ((infraOn_connected (by decide)).mp hon').1.trans
          ((infraOn_connected (by decide)).mp hon).1.symm
    · exact not_infraOn_accessPoint _ _ _ hon
    · cases ((infraOn_connected (by decide)).mp hon).2
  · rintro freq ⟨ifs, hifs, p2pGroup, hon⟩
    simp only [ifaces, List.mem_cons, List.not_mem_nil, or_false] at hifs
    rcases hifs with rfl | rfl | rfl
    · exact ⟨[], _, by simp [ifaces], by decide, p2pGroup, hon⟩
    · exact absurd hon (not_infraOn_accessPoint _ _ _)
    · exact ⟨[.connected 2412 false, .accessPoint 2412], _, by simp [ifaces], by decide, p2pGroup,
        hon⟩

/-- A station and a P2P client on one channel: only the flag of the second is left. -/
theorem flags_of_station_and_client :
    ¬ ∀ (ifaces : List RadioIface) (len : Nat), (operatingFreqs ifaces).length ≤ len →
      FlagsAccumulate ⟨1, 2⟩ ifaces (mtkGetSharedRadioFreqsData ⟨1, 2⟩ len ifaces []) := by
  intro h
  let ifaces : List RadioIface := [.connected 2412 false, .connected 2412 true]
  have hflags := h ifaces 2 (by decide)
  have hdata : mtkGetSharedRadioFreqsData ⟨1, 2⟩ 2 ifaces [] = [⟨2412, 2⟩] := by decide
  rw [hdata] at hflags
  have hbit := (hflags _ (List.mem_singleton_self _) false).mpr
    ⟨.connected 2412 false, by simp [ifaces], (infraOn_connected (by decide)).mpr ⟨rfl, rfl⟩⟩
  exact absurd hbit (by decide)

end MediatekCommon.Wpa
