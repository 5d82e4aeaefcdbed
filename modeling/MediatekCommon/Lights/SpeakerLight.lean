/-
  Lights/SpeakerLight.lean --- what the red and the green LED show.

  The last command written for an LED is read off the log of writes.  The module
  remembers its kind only (`Tracks`): whether the LED is off, blinks or is steady.
  A request of the same kind is dropped, so after a request an LED shows
  `coalesce LedCommand.status` of what it showed and what is requested; the only
  requests lost this way are other intervals for an LED that blinks.

  An unlit battery state first switches both LEDs off, after which no request of
  the notification is lost.  What remains is a lit battery state that makes an LED
  blink while it blinks with other intervals.
-/
import MediatekCommon.Foundation.Coalesce
import MediatekCommon.Foundation.Runs
import MediatekCommon.Lights.Device

set_option autoImplicit false

namespace MediatekCommon.Lights

open MediatekCommon.Foundation

/-! ## Commands -/

/-- What an LED is told to do. -/
inductive LedCommand where
  | off
  | timer (delayOn delayOff : Int)
  | steady
  deriving DecidableEq, Repr

namespace LedCommand

/-- The kind of a command, as `preStatus` remembers it. -/
def status : LedCommand → LedStatus
  | .off => .off
  | .timer _ _ => .blink
  | .steady => .noBlink

/-- The command after a further write to one of the LED's files.  The trigger
`timer` waits for its intervals, `none` for a brightness. -/
def afterWrite (c : LedCommand) : LedFile → SysfsValue → LedCommand
  | .brightness, .int value => if value = 0 then .off else .steady
  | .trigger, .timer => .timer 0 0
  | .trigger, .none => .off
  | .delayOn, .int value =>
      match c with
      | .timer _ delayOff => .timer value delayOff
      | c => c
  | .delayOff, .int value =>
      match c with
      | .timer delayOn _ => .timer delayOn value
      | c => c
  | _, _ => c

/-- The command a call of `blink_red` or `blink_green` asks for. -/
def ofBlink (level onMS offMS : Int) : LedCommand :=
  match nowStatus level onMS offMS with
  | .off => .off
  | .blink => .timer onMS offMS
  | .noBlink => .steady

@[simp] theorem status_ofBlink (level onMS offMS : Int) :
    (ofBlink level onMS offMS).status = nowStatus level onMS offMS := by
  unfold ofBlink
  split <;> simp_all [status]

@[simp] theorem ofBlink_zero (onMS offMS : Int) : ofBlink 0 onMS offMS = .off := rfl

theorem eq_off_of_status {c : LedCommand} (h : c.status = .off) : c = .off := by
  cases c <;> first | rfl | cases h

/-- Two commands of one kind differ only in the intervals of a blink. -/
theorem ne_iff_of_status {c c' : LedCommand} :
    c.status = c'.status ∧ c ≠ c' ↔
      ∃ delayOn delayOff delayOn' delayOff', c = .timer delayOn delayOff ∧
        c' = .timer delayOn' delayOff' ∧ (delayOn, delayOff) ≠ (delayOn', delayOff') := by
  cases c <;> cases c' <;> simp [status]

end LedCommand

/-- The command after one write of the module. -/
def commandStep (led : Led) (c : LedCommand) (w : SysfsFile × SysfsValue) : LedCommand :=
  match w.1 with
  | .led led' file => if led' = led then c.afterWrite file w.2 else c
  | _ => c

/-- The last command written for an LED; one that was never written is off. -/
def LightsModule.ledCommand (s : LightsModule) (led : Led) : LedCommand :=
  s.writes.foldl (commandStep led) .off

@[simp] theorem ledCommand_write (s : LightsModule) (led : Led) (path : SysfsFile)
    (value : SysfsValue) :
    (s.write path value).ledCommand led = commandStep led (s.ledCommand led) (path, value) := by
  simp [LightsModule.ledCommand, LightsModule.write, List.foldl_append]

/-- `preStatus` is the kind of the last command written. -/
def Tracks (s : LightsModule) : Prop := ∀ led, s.preStatus led = (s.ledCommand led).status

/-! ## One request -/

/-- After a call the remembered kind is that of the call. -/
theorem preStatus_blink (s : LightsModule) (led : Led) (level onMS offMS : Int) :
    (s.blink led level onMS offMS).preStatus =
      Function.update s.preStatus led (nowStatus level onMS offMS) := by
  unfold LightsModule.blink
  dsimp only
  split
  · rename_i hsame
    rw [← hsame, Function.update_eq_self]
  · split <;> rfl

/-- A call that is not dropped writes its command. -/
theorem ledCommand_blink_of_ne {s : LightsModule} {led : Led} {level onMS offMS : Int}
    (h : s.preStatus led ≠ nowStatus level onMS offMS) (led' : Led) :
    (s.blink led level onMS offMS).ledCommand led' =
      if led' = led then .ofBlink level onMS offMS else s.ledCommand led' := by
  have hframe : ∀ (t : LightsModule) (status : Led → LedStatus),
      LightsModule.ledCommand { t with preStatus := status } led' = t.ledCommand led' :=
    fun _ _ => rfl
  unfold LightsModule.blink LedCommand.ofBlink
  simp only [if_neg h, hframe]
  by_cases hled : led = led'
  · subst hled
    cases nowStatus level onMS offMS <;> simp [commandStep, LedCommand.afterWrite]
  · have hled' : led' ≠ led := fun heq => hled heq.symm
    cases nowStatus level onMS offMS <;> simp [commandStep, hled, hled']

/-- A request to an LED coalesces with what it shows, and the other LED keeps its
command. -/
theorem blink_spec {s : LightsModule} (hs : Tracks s) (led : Led) (level onMS offMS : Int) :
    Tracks (s.blink led level onMS offMS) ∧
      ∀ led', (s.blink led level onMS offMS).ledCommand led' =
        if led' = led then
          coalesce LedCommand.status (s.ledCommand led) (.ofBlink level onMS offMS)
        else s.ledCommand led' := by
  have hcommand : ∀ led', (s.blink led level onMS offMS).ledCommand led' =
      if led' = led then
        coalesce LedCommand.status (s.ledCommand led) (.ofBlink level onMS offMS)
      else s.ledCommand led' := by
    intro led'
    by_cases hsame : s.preStatus led = nowStatus level onMS offMS
    · have hdropped : s.blink led level onMS offMS = s := by
        simp [LightsModule.blink, hsame]
      have hkind : (s.ledCommand led).status = nowStatus level onMS offMS :=
        (hs led).symm.trans hsame
      rw [hdropped, coalesce, LedCommand.status_ofBlink, if_pos hkind]
      split
      · rename_i hled
        rw [hled]
      · rfl
    · have hkind : (s.ledCommand led).status ≠ nowStatus level onMS offMS :=
        fun heq => hsame ((hs led).trans heq)
      rw [ledCommand_blink_of_ne hsame, coalesce, LedCommand.status_ofBlink, if_neg hkind]
  refine ⟨?_, hcommand⟩
  intro led'
  rw [hcommand, preStatus_blink]
  by_cases hled : led' = led
  · subst hled
    rw [Function.update_self, if_pos rfl, summary_coalesce LedCommand.status,
      LedCommand.status_ofBlink]
  · rw [Function.update_of_ne hled, if_neg hled]
    exact hs led'

/-- Two requests, one to each LED. -/
theorem blink_blink_spec {s : LightsModule} (hs : Tracks s) {led led' : Led} (hne : led ≠ led')
    (level onMS offMS level' onMS' offMS' : Int) :
    let s' := (s.blink led level onMS offMS).blink led' level' onMS' offMS'
    Tracks s' ∧
      s'.ledCommand led =
        coalesce LedCommand.status (s.ledCommand led) (.ofBlink level onMS offMS) ∧
      s'.ledCommand led' =
        coalesce LedCommand.status (s.ledCommand led') (.ofBlink level' onMS' offMS') := by
  obtain ⟨hs', hfirst⟩ := blink_spec hs led level onMS offMS
  obtain ⟨hs'', hsecond⟩ := blink_spec hs' led' level' onMS' offMS'
  refine ⟨hs'', ?_, ?_⟩
  · rw [hsecond, if_neg hne, hfirst, if_pos rfl]
  · rw [hsecond, if_pos rfl, hfirst, if_neg hne.symm]

/-! ## One light state -/

/-- The brightness a light state asks of an LED.  Orange lights both, any other
colour one of them, red before green. -/
def LightState.level (state : LightState) : Led → Int
  | .red => state.red
  | .green =>
      if state.red ≠ 0 then if state.color = LightState.orange then state.red else 0
      else state.green

/-- The command a light state asks of an LED. -/
def requested (state : LightState) (led : Led) : LedCommand :=
  .ofBlink (state.level led) state.onMS state.offMS

/-- A light state coalesces with what the LEDs show. -/
theorem setSpeakerLightLocked_spec {s : LightsModule} (hs : Tracks s) (state : LightState) :
    Tracks (s.setSpeakerLightLocked state) ∧
      ∀ led, (s.setSpeakerLightLocked state).ledCommand led =
        coalesce LedCommand.status (s.ledCommand led) (requested state led) := by
  have hgr : Led.green ≠ .red := by decide
  unfold LightsModule.setSpeakerLightLocked
  dsimp only [LightsModule.blinkRed, LightsModule.blinkGreen]
  split
  · rename_i hred
    split
    · rename_i horange
      obtain ⟨ht, hgreen, hredc⟩ := blink_blink_spec hs hgr
        state.red state.onMS state.offMS state.red state.onMS state.offMS
      refine ⟨ht, fun led => ?_⟩
      cases led with
      | red => exact hredc
      | green => simpa [requested, LightState.level, hred, horange] using hgreen
    · rename_i horange
      obtain ⟨ht, hgreen, hredc⟩ := blink_blink_spec hs hgr
        0 0 0 state.red state.onMS state.offMS
      refine ⟨ht, fun led => ?_⟩
      cases led with
      | red => exact hredc
      | green => simpa [requested, LightState.level, hred, horange] using hgreen
  · rename_i hred
    have hred : state.red = 0 := by omega
    split
    · obtain ⟨ht, hredc, hgreen⟩ := blink_blink_spec hs hgr.symm
        0 0 0 state.green state.onMS state.offMS
      refine ⟨ht, fun led => ?_⟩
      cases led with
      | red => simpa [requested, LightState.level, hred] using hredc
      | green => simpa [requested, LightState.level, hred] using hgreen
    · rename_i hgreen0
      have hgreen0 : state.green = 0 := by omega
      obtain ⟨ht, hredc, hgreen⟩ := blink_blink_spec hs hgr.symm 0 0 0 0 0 0
      refine ⟨ht, fun led => ?_⟩
      cases led with
      | red => simpa [requested, LightState.level, hred] using hredc
      | green => simpa [requested, LightState.level, hred, hgreen0] using hgreen

theorem coalesce_off (c : LedCommand) : coalesce LedCommand.status .off c = c :=
  coalesce_from_unique fun _ h => LedCommand.eq_off_of_status h

theorem coalesce_to_off (c : LedCommand) : coalesce LedCommand.status c .off = .off :=
  coalesce_of_unique fun _ h => LedCommand.eq_off_of_status h

/-- An unlit state has no red and no green. -/
theorem channel_eq_zero_of_isLit {state : LightState} (h : state.isLit = 0) {shift : Nat}
    (hshift : shift ≤ 16) : state.channel shift = 0 := by
  have hcolor : state.color &&& 0x00ffffff#32 = 0#32 := by
    apply BitVec.eq_of_toNat_eq
    simpa [LightState.isLit] using h
  have hmask : ∀ k : Fin 17, (0x00ffffff#32 >>> k.val) &&& 0xFF#32 = 0xFF#32 := by decide
  have hbits : state.color >>> shift &&& 0xFF#32 = 0#32 :=
    calc state.color >>> shift &&& 0xFF#32
        = state.color >>> shift &&& (0x00ffffff#32 >>> shift &&& 0xFF#32) := by
          rw [hmask ⟨shift, by omega⟩]
      _ = (state.color &&& 0x00ffffff#32) >>> shift &&& 0xFF#32 := by
          rw [← BitVec.and_assoc, ← BitVec.ushiftRight_and_distrib]
      _ = 0#32 := by simp [hcolor]
  simp [LightState.channel, hbits]

theorem requested_of_unlit {state : LightState} (h : state.isLit = 0) (led : Led) :
    requested state led = .off := by
  have hred : state.red = 0 := by simp [LightState.red, channel_eq_zero_of_isLit h]
  have hgreen : state.green = 0 := by simp [LightState.green, channel_eq_zero_of_isLit h]
  cases led <;> simp [requested, LightState.level, hred, hgreen]

/-! ## What the LEDs show -/

theorem tracks_start (haveTrackballLight : Bool) : Tracks (.start haveTrackballLight) :=
  fun _ => rfl

/-- The command `set_speaker_light_locked` causes for a state when the LEDs have never
been written. -/
def freshCommand (state : LightState) (led : Led) : LedCommand :=
  ((LightsModule.start false).setSpeakerLightLocked state).ledCommand led

theorem freshCommand_eq (state : LightState) (led : Led) :
    freshCommand state led = requested state led := by
  have hspec := (setSpeakerLightLocked_spec (tracks_start false) state).2 led
  rw [freshCommand, hspec]
  exact coalesce_off _

/-- The state that is selected: the battery's while it is lit. -/
def LightsModule.selected (s : LightsModule) : LightState :=
  if s.gBattery.isLit ≠ 0 then s.gBattery else s.gNotification

/-- Both LEDs show the selected state. -/
def ShowsSelected (s : LightsModule) : Prop :=
  ∀ led, s.ledCommand led = freshCommand s.selected led

/-- The selected state coalesces with what the LEDs show while the battery is lit, and
is shown in any case while it is not. -/
theorem handleSpeakerBatteryLocked_spec {s : LightsModule} (hs : Tracks s) :
    Tracks s.handleSpeakerBatteryLocked ∧
      ∀ led, s.handleSpeakerBatteryLocked.ledCommand led =
        if s.gBattery.isLit ≠ 0 then
          coalesce LedCommand.status (s.ledCommand led) (requested s.gBattery led)
        else requested s.gNotification led := by
  obtain ⟨hbattery, hshown⟩ := setSpeakerLightLocked_spec hs s.gBattery
  unfold LightsModule.handleSpeakerBatteryLocked
  split
  · exact ⟨hbattery, hshown⟩
  · rename_i hunlit
    have hunlit : s.gBattery.isLit = 0 := by omega
    obtain ⟨hnotification, hshown'⟩ := setSpeakerLightLocked_spec hbattery s.gNotification
    refine ⟨hnotification, fun led => ?_⟩
    rw [hshown', hshown, requested_of_unlit hunlit, coalesce_to_off, coalesce_off]

/-! ## What the requests leave alone -/

/-- A change of the remembered kinds and of the log only. -/
def OnlyLeds (s s' : LightsModule) : Prop :=
  ∃ preStatus writes, s' = { s with preStatus := preStatus, writes := writes }

theorem OnlyLeds.refl (s : LightsModule) : OnlyLeds s s := ⟨_, _, rfl⟩

theorem OnlyLeds.trans {s s' s'' : LightsModule} (h : OnlyLeds s s') (h' : OnlyLeds s' s'') :
    OnlyLeds s s'' := by
  obtain ⟨_, _, rfl⟩ := h
  obtain ⟨preStatus, writes, rfl⟩ := h'
  exact ⟨preStatus, writes, rfl⟩

theorem OnlyLeds.selected {s s' : LightsModule} (h : OnlyLeds s s') :
    s'.selected = s.selected := by
  obtain ⟨_, _, rfl⟩ := h
  rfl

theorem OnlyLeds.gBattery {s s' : LightsModule} (h : OnlyLeds s s') :
    s'.gBattery = s.gBattery := by
  obtain ⟨_, _, rfl⟩ := h
  rfl

theorem onlyLeds_blink (s : LightsModule) (led : Led) (level onMS offMS : Int) :
    OnlyLeds s (s.blink led level onMS offMS) := by
  unfold LightsModule.blink
  dsimp only
  split
  · exact ⟨_, _, rfl⟩
  · split <;> exact ⟨_, _, rfl⟩

theorem onlyLeds_setSpeakerLightLocked (s : LightsModule) (state : LightState) :
    OnlyLeds s (s.setSpeakerLightLocked state) := by
  have htwo : ∀ led led' l onMS offMS l' onMS' offMS',
      OnlyLeds s ((s.blink led l onMS offMS).blink led' l' onMS' offMS') :=
    fun _ _ _ _ _ _ _ _ => (onlyLeds_blink _ _ _ _ _).trans (onlyLeds_blink _ _ _ _ _)
  unfold LightsModule.setSpeakerLightLocked
  dsimp only [LightsModule.blinkRed, LightsModule.blinkGreen]
  split
  · split <;> exact htwo _ _ _ _ _ _ _ _
  · split <;> exact htwo _ _ _ _ _ _ _ _

theorem onlyLeds_handleSpeakerBatteryLocked (s : LightsModule) :
    OnlyLeds s s.handleSpeakerBatteryLocked := by
  unfold LightsModule.handleSpeakerBatteryLocked
  split
  · exact onlyLeds_setSpeakerLightLocked _ _
  · exact (onlyLeds_setSpeakerLightLocked _ _).trans (onlyLeds_setSpeakerLightLocked _ _)

/-! ## The invariant over all calls -/

/-- A write to a file that is no LED's. -/
theorem tracks_write {s : LightsModule} (hs : Tracks s) {path : SysfsFile}
    (hpath : ∀ led file, path ≠ .led led file) (value : SysfsValue) :
    Tracks (s.write path value) := by
  intro led
  have hsame : commandStep led (s.ledCommand led) (path, value) = s.ledCommand led := by
    cases path with
    | led led' file => exact absurd rfl (hpath led' file)
    | _ => rfl
  rw [ledCommand_write, hsame]
  exact hs led

theorem handleTrackballLightLocked_spec {s : LightsModule} (hs : Tracks s) :
    Tracks s.handleTrackballLightLocked ∧
      OnlyLeds s s.handleTrackballLightLocked ∧
      ∀ led, s.handleTrackballLightLocked.ledCommand led = s.ledCommand led := by
  unfold LightsModule.handleTrackballLightLocked
  generalize (if s.gAttention = 7 ∧ s.gBacklight ≠ 0 then 0 else s.gAttention) = mode
  dsimp only
  split
  · exact ⟨hs, ⟨_, _, rfl⟩, fun _ => rfl⟩
  · refine ⟨tracks_write hs (by intro led file h; cases h) _, ⟨_, _, rfl⟩, fun led => ?_⟩
    rw [ledCommand_write]
    rfl

/-- Every call keeps the remembered kinds in step with what was written. -/
theorem tracks_setLight {s : LightsModule} (hs : Tracks s) (call : LightCall) :
    Tracks (setLight s call) := by
  have htrackball : ∀ {t : LightsModule}, Tracks t →
      Tracks (if t.gHaveTrackballLight then t.handleTrackballLightLocked else t) := by
    intro t ht
    split
    · exact (handleTrackballLightLocked_spec ht).1
    · exact ht
  obtain ⟨id, state⟩ := call
  cases id with
  | backlight =>
      apply htrackball
      exact tracks_write hs (by intro led file h; cases h) _
  | keyboard => exact tracks_write hs (by intro led file h; cases h) _
  | buttons => exact tracks_write hs (by intro led file h; cases h) _
  | battery =>
      have hstored : Tracks { s with gBattery := state } := hs
      apply (handleSpeakerBatteryLocked_spec _).1
      dsimp only
      split
      · exact (setSpeakerLightLocked_spec hstored state).1
      · exact hstored
  | notifications =>
      apply (handleSpeakerBatteryLocked_spec _).1
      exact htrackball hs
  | attention =>
      apply htrackball
      cases state.flashMode <;> exact hs

theorem tracks_run (haveTrackballLight : Bool) (calls : List LightCall) :
    Tracks (run setLight (.start haveTrackballLight) calls) := by
  have hstep : ∀ s call, Tracks s → Tracks (setLight s call) :=
    fun _ call hs => tracks_setLight hs call
  exact run_of_invariant hstep (tracks_start haveTrackballLight) calls

/-! ## The last request -/

/-- The battery state once a call has been stored. -/
def LightCall.battery (call : LightCall) (s : LightsModule) : LightState :=
  match call.id with
  | .battery => call.state
  | _ => s.gBattery

/-- The state makes the LED blink, with the intervals `flashOnMS` and `flashOffMS`. -/
def LightState.Blinks (state : LightState) (led : Led) : Prop :=
  state.flashMode = .timed ∧ state.flashOnMS ≠ 0 ∧ state.flashOffMS ≠ 0 ∧ state.level led ≠ 0

/-- The battery state makes an LED blink that blinks with other intervals. -/
def ChangesIntervals (s : LightsModule) (call : LightCall) : Prop :=
  ∃ led, (call.battery s).Blinks led ∧ ∃ delayOn delayOff,
    s.ledCommand led = .timer delayOn delayOff ∧
      (delayOn, delayOff) ≠ ((call.battery s).flashOnMS, (call.battery s).flashOffMS)

theorem requested_eq_timer_iff {state : LightState} {led : Led} {delayOn delayOff : Int} :
    requested state led = .timer delayOn delayOff ↔
      state.Blinks led ∧ delayOn = state.flashOnMS ∧ delayOff = state.flashOffMS := by
  unfold requested LedCommand.ofBlink nowStatus LightState.Blinks LightState.onMS
    LightState.offMS
  cases state.flashMode with
  | timed =>
      by_cases hlevel : state.level led = 0
      · simp [hlevel]
      · by_cases hon : state.flashOnMS = 0
        · simp [hlevel, hon]
        · by_cases hoff : state.flashOffMS = 0
          · simp [hlevel, hon, hoff]
          · simp [hlevel, hon, hoff, eq_comm]
  | _ => by_cases hlevel : state.level led = 0 <;> simp [hlevel]

/-- Both functions end in `handle_speaker_battery_locked`, from a state that holds the
new battery state and whose LEDs show what they showed before the call or already have
the battery state coalesced with it. -/
theorem setLight_speaker_eq {s : LightsModule} (hs : Tracks s) {call : LightCall}
    (hcall : call.id = .battery ∨ call.id = .notifications) :
    ∃ t : LightsModule, setLight s call = t.handleSpeakerBatteryLocked ∧ Tracks t ∧
      t.gBattery = call.battery s ∧ ∀ led, t.ledCommand led = s.ledCommand led ∨
        t.ledCommand led =
          coalesce LedCommand.status (s.ledCommand led) (requested (call.battery s) led) := by
  obtain ⟨id, state⟩ := call
  rcases hcall with rfl | rfl
  · have hstored : Tracks { s with gBattery := state } := hs
    refine ⟨_, rfl, ?_⟩
    dsimp only [LightCall.battery]
    split
    · obtain ⟨happlied, hled⟩ := setSpeakerLightLocked_spec hstored state
      have hframe := onlyLeds_setSpeakerLightLocked { s with gBattery := state } state
      exact ⟨happlied, hframe.gBattery, fun led => .inr (hled led)⟩
    · exact ⟨hstored, rfl, fun led => .inl rfl⟩
  · have hstored : Tracks { s with gNotification := state } := hs
    refine ⟨_, rfl, ?_⟩
    dsimp only [LightCall.battery]
    split
    · obtain ⟨happlied, hframe, hled⟩ := handleTrackballLightLocked_spec hstored
      exact ⟨happlied, hframe.gBattery, fun led => .inl (hled led)⟩
    · exact ⟨hstored, rfl, fun led => .inl rfl⟩

/-- What the LEDs show after a call for the battery or the notifications, and what is
selected then. -/
theorem setLight_speaker_spec {s : LightsModule} (hs : Tracks s) {call : LightCall}
    (hcall : call.id = .battery ∨ call.id = .notifications) :
    if (call.battery s).isLit ≠ 0 then
      (setLight s call).selected = call.battery s ∧
        ∀ led, (setLight s call).ledCommand led =
          coalesce LedCommand.status (s.ledCommand led) (requested (call.battery s) led)
    else ∀ led, (setLight s call).ledCommand led = requested (setLight s call).selected led := by
  obtain ⟨t, heq, ht, hbattery, hled⟩ := setLight_speaker_eq hs hcall
  have hselected := (onlyLeds_handleSpeakerBatteryLocked t).selected
  have hshown := (handleSpeakerBatteryLocked_spec ht).2
  rw [heq, hselected]
  simp only [hshown, LightsModule.selected, hbattery]
  split
  · refine ⟨rfl, fun led => ?_⟩
    rcases hled led with hsame | hdone
    · rw [hsame]
    · rw [hdone, coalesce_coalesce]
  · intro led
    rfl

/-- What the LED shows is lost exactly if both commands blink, with different
intervals. -/
theorem changesInterval_iff {c : LedCommand} {state : LightState} {led : Led} :
    ¬ (c.status = (requested state led).status → c = requested state led) ↔
      state.Blinks led ∧ ∃ delayOn delayOff, c = .timer delayOn delayOff ∧
        (delayOn, delayOff) ≠ (state.flashOnMS, state.flashOffMS) := by
  rw [Classical.not_imp, LedCommand.ne_iff_of_status]
  constructor
  · intro h
    obtain ⟨on, off, on', off', hc, hrequested, hne⟩ := h
    obtain ⟨hblinks, rfl, rfl⟩ := requested_eq_timer_iff.mp hrequested
    exact ⟨hblinks, on, off, hc, hne⟩
  · intro h
    obtain ⟨hblinks, on, off, hc, hne⟩ := h
    exact ⟨on, off, _, _, hc, requested_eq_timer_iff.mpr ⟨hblinks, rfl, rfl⟩, hne⟩

/-- After a call for the battery or the notifications both LEDs show the selected
state, whatever calls came before, if and only if the battery state does not make an
LED blink that blinks with other intervals. -/
theorem showsSelected_iff (haveTrackballLight : Bool) (calls : List LightCall)
    {call : LightCall} (hcall : call.id = .battery ∨ call.id = .notifications) :
    ShowsSelected (run setLight (.start haveTrackballLight) (calls ++ [call])) ↔
      ¬ ChangesIntervals (run setLight (.start haveTrackballLight) calls) call := by
  have hs := tracks_run haveTrackballLight calls
  rw [run_concat]
  generalize run setLight (.start haveTrackballLight) calls = s at hs ⊢
  have hspec := setLight_speaker_spec hs hcall
  simp only [ShowsSelected, ChangesIntervals, freshCommand_eq]
  split at hspec
  · obtain ⟨hselected, hshown⟩ := hspec
    simp only [hselected, hshown, coalesce_eq_right_iff, ← changesInterval_iff, not_exists,
      not_not]
  · rename_i hunlit
    have hunlit : (call.battery s).isLit = 0 := by omega
    refine iff_of_true hspec ?_
    intro h
    obtain ⟨led, hblinks, -⟩ := h
    have htimer := requested_eq_timer_iff.mpr ⟨hblinks, rfl, rfl⟩
    rw [requested_of_unlit hunlit] at htimer
    cases htimer

/-- A red battery state. -/
def redBattery (flashMode : FlashMode) (flashOnMS flashOffMS : Int) : LightCall :=
  ⟨.battery, ⟨0xFFFF0000#32, flashMode, flashOnMS, flashOffMS⟩⟩

/-- Steady red and then blinking red: the last request is shown. -/
theorem showsSelected_steady_then_blink :
    ShowsSelected (run setLight (.start false)
      ([redBattery .none 0 0] ++ [redBattery .timed 500 500])) := by
  apply (showsSelected_iff false [redBattery .none 0 0] (.inl rfl)).mpr
  intro h
  obtain ⟨led, hblinks, on, off, hcommand, -⟩ := h
  have hsteady : (run setLight (.start false) [redBattery .none 0 0]).ledCommand .red =
      .steady := by rfl
  cases led with
  | red =>
      rw [hsteady] at hcommand
      cases hcommand
  | green => exact absurd hblinks.2.2.2 (by decide)

/-- A red LED that blinks slowly and is asked to blink fast: it goes on blinking
slowly. -/
theorem setLightBattery_keeps_intervals :
    let s := run setLight (.start false) [redBattery .timed 500 500, redBattery .timed 100 100]
    s.selected = (redBattery .timed 100 100).state ∧
      s.ledCommand .red = .timer 500 500 ∧
      freshCommand s.selected .red = .timer 100 100 ∧ ¬ ShowsSelected s := by
  intro s
  have hshown : s.ledCommand .red = .timer 500 500 := rfl
  have hselected : s.selected = (redBattery .timed 100 100).state := by decide
  have hfresh : freshCommand s.selected .red = .timer 100 100 := by
    rw [hselected]
    decide
  refine ⟨hselected, hshown, hfresh, ?_⟩
  intro h
  have hred := h .red
  rw [hshown, hfresh] at hred
  exact absurd hred (by decide)

end MediatekCommon.Lights
