/-
  Lights/Sysfs.lean --- the lights module as it talks to the kernel.

  Every write opens a file, writes and closes it again, and each of these calls may fail.
  A blinking LED waits for its `delay_off` file first, ten times at most.  The functions
  are sections here: they run with `g_lock`, one access after the other.

  What the calls return has no influence on what the module does next, but for the wait.
  So the module asks for the same writes and ends in the same state whatever the kernel
  answers (`lights_setLight`).  What reaches the files is a part of what is asked for, and
  only three of the six functions say whether their write did.

  Log lines are left out.
-/
import MediatekCommon.Foundation.CText
import MediatekCommon.Foundation.Posix
import MediatekCommon.Foundation.Sections
import MediatekCommon.Lights.SpeakerLight

set_option autoImplicit false

namespace MediatekCommon.Lights

open MediatekCommon.Foundation MediatekCommon.Foundation.Posix

/-! ## The kernel -/

/-- `O_RDWR` or `O_WRONLY`. -/
inductive OpenMode where
  | rdwr
  | wronly
  deriving DecidableEq, Repr

/-- `F_OK` or `R_OK|W_OK`. -/
inductive AccessMode where
  | exists
  | readWrite
  deriving DecidableEq, Repr

/-- What the calls of `nanosleep` in one wait return, each of which goes on for the time
that was left when a signal ended the one before.  No wait is ended by signals for ever. -/
inductive Sleep where
  | elapsed
  | failed (errno : Int)
  /-- The call fails with `EINTR`. -/
  | interrupted (again : Sleep)
  deriving DecidableEq, Repr

/-- How many signals end a call of the wait. -/
def Sleep.signals : Sleep → Nat
  | .elapsed | .failed _ => 0
  | .interrupted again => again.signals + 1

/-- What the calls of the module return; a call that fails leaves its `errno`. -/
structure SysfsKernel where
  openFile : (p : Process) → OpenMode → SysfsFile → Except Int { fd : Nat // fd ∉ p.fds }
  write : Process → (fd : Nat) → (text : List UInt8) → Except Int Nat
  close : Process → (fd : Nat) → Option Int
  access : Process → SysfsFile → AccessMode → Bool
  /-- The calls of a wait that starts in this state. -/
  nanosleep : Process → Sleep

/-- No wait is interrupted by more than `n` signals. -/
def SysfsKernel.InterruptsAtMost (k : SysfsKernel) (n : Nat) : Prop :=
  ∀ p, (k.nanosleep p).signals ≤ n

/-- A call that fails leaves a positive `errno`. -/
structure SysfsKernel.ReportsErrno (k : SysfsKernel) : Prop where
  openFile : ∀ p mode path errno, k.openFile p mode path = .error errno → 0 < errno
  write : ∀ p fd text errno, k.write p fd text = .error errno → 0 < errno
  close : ∀ p fd errno, k.close p fd = some errno → 0 < errno

/-- The module, its process, and the writes that reached their files, oldest first.  The
log of the module holds the writes it asked for. -/
structure LightsProcess where
  lights : LightsModule
  process : Process
  accepted : List (SysfsFile × SysfsValue)

/-- A function that runs with `g_lock`. -/
abbrev Locked : Type → Type := Section LightsProcess

/-- One more call has been made. -/
def LightsProcess.called (s : LightsProcess) : LightsProcess :=
  { s with process := { s.process with calls := s.process.calls + 1 } }

/-- What `sprintf` leaves in `buffer`. -/
def SysfsValue.text : SysfsValue → List UInt8
  | .int value => (if value < 0 then ascii "-" else []) ++ decimal value.natAbs ++ ascii "\n"
  | .none => ascii "none"
  | .timer => ascii "timer"

section Calls

variable (k : SysfsKernel)

/-- `open(path, mode)`, for this value. -/
def openFile (mode : OpenMode) (path : SysfsFile) (value : SysfsValue) : Locked (Except Int Nat) :=
  .act fun s =>
    let s' := { s.called with lights := s.lights.write path value }
    match k.openFile s.process mode path with
    | .error errno => (.error errno, s')
    | .ok fd =>
        (.ok fd, { s' with process := { s'.process with fds := insert (fd : Nat) s.process.fds } })

/-- `write(fd, buffer, bytes)`. -/
def writeText (fd : Nat) (path : SysfsFile) (value : SysfsValue) : Locked (Except Int Nat) :=
  .act fun s =>
    match k.write s.process fd value.text with
    | .error errno => (.error errno, s.called)
    | .ok amt => (.ok amt, { s.called with accepted := s.accepted ++ [(path, value)] })

/-- `close(fd)`. -/
def closeFile (fd : Nat) : Locked (Option Int) :=
  .act fun s =>
    (k.close s.process fd,
      { s with process := { fds := s.process.fds.erase fd, calls := s.process.calls + 1 } })

/-- `access(path, mode) == 0`. -/
def accessible (path : SysfsFile) (mode : AccessMode) : Locked Bool :=
  .act fun s => (k.access s.process path mode, s.called)

/-- The loop of `led_wait_delay`, behind a call of `nanosleep`: one more call for each that
a signal ended. -/
def sleepOn : Sleep → Locked Int
  | .elapsed => return 0
  | .failed errno => return errno
  | .interrupted again => do
      Section.modify LightsProcess.called
      sleepOn again

/-- `led_wait_delay(ms)`. -/
def ledWaitDelay : Locked Int := do
  let ret ← .act fun s => (k.nanosleep s.process, s.called)
  sleepOn ret

/-! ## The functions -/

/-- Write to an open file, close it and say how the write went. -/
def writeAndClose (fd : Nat) (path : SysfsFile) (value : SysfsValue) : Locked Int := do
  let amt ← writeText k fd path value
  let closed ← closeFile k fd
  match amt with
  -- `errno` is read behind `close`, which may have failed too
  | .error errno => return -closed.getD errno
  | .ok _ => return 0

/-- `write_int` and `write_str`, which differ in the mode. -/
def writeFile (mode : OpenMode) (path : SysfsFile) (value : SysfsValue) : Locked Int := do
  match ← openFile k mode path value with
  | .error errno => return -errno
  | .ok fd => writeAndClose k fd path value

/-- `write_int(path, value)`. -/
def writeInt (path : SysfsFile) (value : Int) : Locked Int := writeFile k .rdwr path (.int value)

/-- `write_str(path, str)`. -/
def writeStr (path : SysfsFile) (str : SysfsValue) : Locked Int := writeFile k .wronly path str

/-- The condition of the wait: `delay_off` does not exist or cannot be written. -/
def delayOffMissing (led : Led) : Locked Bool := do
  if ← accessible k (.led led .delayOff) .exists then
    return !(← accessible k (.led led .delayOff) .readWrite)
  else return true

/-- The wait for `delay_off`, with this many rounds to go. -/
def awaitDelayOff (led : Led) : Nat → Locked Unit
  | 0 => do
      let _ ← delayOffMissing k led
      return ()
  | rounds + 1 => do
      if ← delayOffMissing k led then
        let _ ← ledWaitDelay k
        awaitDelayOff led rounds
      else return ()

/-- Assign static variables of the module. -/
def assign (f : LightsModule → LightsModule) : Locked Unit :=
  .modify fun s => { s with lights := f s.lights }

@[simp] theorem exec_assign (f : LightsModule → LightsModule) (s : LightsProcess) :
    (assign f).exec s = ((), { s with lights := f s.lights }) := rfl

/-- `blink_red` and `blink_green`, which differ in their files only. -/
def blinkLed (led : Led) (level onMS offMS : Int) : Locked Int := do
  let nowStatus := nowStatus level onMS offMS
  let preStatus ← Section.read fun s => s.lights.preStatus led
  if preStatus = nowStatus then return -1
  else do
    match nowStatus with
    | .off =>
        let _ ← writeInt k (.led led .brightness) 0
    | .blink =>
        let _ ← writeStr k (.led led .trigger) .timer
        awaitDelayOff k led 10
        let _ ← writeInt k (.led led .delayOff) offMS
        let _ ← writeInt k (.led led .delayOn) onMS
    | .noBlink =>
        let _ ← writeStr k (.led led .trigger) .none
        let _ ← writeInt k (.led led .brightness) 255
    assign fun m => { m with preStatus := Function.update m.preStatus led nowStatus }
    return 0

/-- `handle_trackball_light_locked(dev)`. -/
def handleTrackballLightLocked : Locked Int := do
  let gAttention ← Section.read fun s => s.lights.gAttention
  let gBacklight ← Section.read fun s => s.lights.gBacklight
  let mode := if gAttention = 7 ∧ gBacklight ≠ 0 then 0 else gAttention
  let gTrackball ← Section.read fun s => s.lights.gTrackball
  if gTrackball = mode then return 0 else writeInt k .trackball mode

/-- `set_speaker_light_locked(dev, state)`, which returns 0. -/
def setSpeakerLightLocked (state : LightState) : Locked Unit := do
  let red := state.red
  let green := state.green
  let onMS := state.onMS
  let offMS := state.offMS
  if red ≠ 0 then
    if state.color = LightState.orange then
      let _ ← blinkLed k .green red onMS offMS
      let _ ← blinkLed k .red red onMS offMS
    else
      let _ ← blinkLed k .green 0 0 0
      let _ ← blinkLed k .red red onMS offMS
  else if green ≠ 0 then
    let _ ← blinkLed k .red 0 0 0
    let _ ← blinkLed k .green green onMS offMS
  else
    let _ ← blinkLed k .red 0 0 0
    let _ ← blinkLed k .green 0 0 0

/-- `handle_speaker_battery_locked(dev)`. -/
def handleSpeakerBatteryLocked : Locked Unit := do
  let gBattery ← Section.read fun s => s.lights.gBattery
  if gBattery.isLit ≠ 0 then setSpeakerLightLocked k gBattery
  else
    setSpeakerLightLocked k gBattery
    let gNotification ← Section.read fun s => s.lights.gNotification
    setSpeakerLightLocked k gNotification

/-- `if (g_haveTrackballLight)` -/
def ifTrackball (x : Locked Unit) : Locked Unit := do
  if ← Section.read fun s => s.lights.gHaveTrackballLight then x

def setLightBacklight (state : LightState) : Locked Int := do
  let brightness := state.rgbToBrightness
  assign fun m => { m with gBacklight := brightness }
  let err ← writeInt k .lcd brightness
  ifTrackball do
    let _ ← handleTrackballLightLocked k
  return err

def setLightKeyboard (state : LightState) : Locked Int :=
  writeInt k .keyboard (if state.isLit ≠ 0 then 255 else 0)

def setLightButtons (state : LightState) : Locked Int := do
  let on := state.isLit
  assign fun m => { m with gButtons := on }
  writeInt k .button (if on ≠ 0 then 255 else 0)

def setLightBattery (state : LightState) : Locked Int := do
  assign fun m => { m with gBattery := state }
  ifTrackball (setSpeakerLightLocked k state)
  handleSpeakerBatteryLocked k
  return 0

def setLightNotifications (state : LightState) : Locked Int := do
  assign fun m => { m with gNotification := state }
  ifTrackball do
    let _ ← handleTrackballLightLocked k
  handleSpeakerBatteryLocked k
  return 0

def setLightAttention (state : LightState) : Locked Int := do
  match state.flashMode with
  | .hardware => assign fun m => { m with gAttention := state.flashOnMS }
  | .none => assign fun m => { m with gAttention := 0 }
  | _ => pure ()
  ifTrackball do
    let _ ← handleTrackballLightLocked k
  return 0

/-- The function `open_lights` installs as `set_light`, called on a state. -/
def setLightLocked (call : LightCall) : Locked Int :=
  match call.id with
  | .backlight => setLightBacklight k call.state
  | .keyboard => setLightKeyboard k call.state
  | .buttons => setLightButtons k call.state
  | .battery => setLightBattery k call.state
  | .notifications => setLightNotifications k call.state
  | .attention => setLightAttention k call.state

/-! ## The module does not depend on the kernel -/

@[simp] theorem lights_writeFile (mode : OpenMode) (path : SysfsFile) (value : SysfsValue)
    (s : LightsProcess) :
    ((writeFile k mode path value).exec s).2.lights = s.lights.write path value := by
  simp only [writeFile, openFile, Section.exec_bind, Section.exec_act]
  cases k.openFile s.process mode path with
  | error errno => rfl
  | ok fd =>
      simp only [writeAndClose, writeText, closeFile, Section.exec_bind, Section.exec_act]
      cases k.write _ fd value.text <;> rfl

@[simp] theorem lights_delayOffMissing (led : Led) (s : LightsProcess) :
    ((delayOffMissing k led).exec s).2.lights = s.lights := by
  simp only [delayOffMissing, Section.exec_bind, Section.exec_ite]
  split <;> rfl

@[simp] theorem lights_sleepOn (ret : Sleep) (s : LightsProcess) :
    ((sleepOn ret).exec s).2.lights = s.lights := by
  induction ret generalizing s with
  | elapsed => rfl
  | failed errno => rfl
  | interrupted again ih => exact ih s.called

@[simp] theorem lights_ledWaitDelay (s : LightsProcess) :
    ((ledWaitDelay k).exec s).2.lights = s.lights := lights_sleepOn _ s.called

@[simp] theorem lights_awaitDelayOff (led : Led) (rounds : Nat) (s : LightsProcess) :
    ((awaitDelayOff k led rounds).exec s).2.lights = s.lights := by
  induction rounds generalizing s with
  | zero => simp [awaitDelayOff]
  | succ rounds ih =>
      simp only [awaitDelayOff, Section.exec_bind, Section.exec_ite]
      split
      · rw [ih]
        simp
      · simp

@[simp] theorem lights_blinkLed (led : Led) (level onMS offMS : Int) (s : LightsProcess) :
    ((blinkLed k led level onMS offMS).exec s).2.lights = s.lights.blink led level onMS offMS := by
  simp only [blinkLed, LightsModule.blink, Section.exec_read_bind, Section.exec_ite]
  split
  · rfl
  · cases nowStatus level onMS offMS <;> simp [writeInt, writeStr]

@[simp] theorem lights_handleTrackballLightLocked (s : LightsProcess) :
    ((handleTrackballLightLocked k).exec s).2.lights = s.lights.handleTrackballLightLocked := by
  simp only [handleTrackballLightLocked, LightsModule.handleTrackballLightLocked,
    Section.exec_read_bind, Section.exec_ite]
  generalize (if s.lights.gAttention = 7 ∧ s.lights.gBacklight ≠ 0 then 0
    else s.lights.gAttention) = mode
  split
  · rfl
  · exact lights_writeFile k _ _ _ s

@[simp] theorem lights_setSpeakerLightLocked (state : LightState) (s : LightsProcess) :
    ((setSpeakerLightLocked k state).exec s).2.lights = s.lights.setSpeakerLightLocked state := by
  simp only [setSpeakerLightLocked, LightsModule.setSpeakerLightLocked, LightsModule.blinkRed,
    LightsModule.blinkGreen, Section.exec_ite]
  split_ifs <;> simp

@[simp] theorem lights_handleSpeakerBatteryLocked (s : LightsProcess) :
    ((handleSpeakerBatteryLocked k).exec s).2.lights = s.lights.handleSpeakerBatteryLocked := by
  simp only [handleSpeakerBatteryLocked, LightsModule.handleSpeakerBatteryLocked,
    Section.exec_read_bind, Section.exec_ite]
  split
  · exact lights_setSpeakerLightLocked k _ s
  · obtain ⟨_, _, hsame⟩ := onlyLeds_setSpeakerLightLocked s.lights s.lights.gBattery
    have hkept : (s.lights.setSpeakerLightLocked s.lights.gBattery).gNotification =
        s.lights.gNotification := by rw [hsame]
    simp [hkept]

theorem lights_ifTrackball (f : LightsModule → LightsModule) {x : Locked Unit}
    (hx : ∀ s, (x.exec s).2.lights = f s.lights) (s : LightsProcess) :
    ((ifTrackball x).exec s).2.lights =
      if s.lights.gHaveTrackballLight then f s.lights else s.lights := by
  simp only [ifTrackball, Section.exec_read_bind, Section.exec_ite]
  split
  · exact hx s
  · rfl

/-- The module changes as if every call of the kernel succeeded. -/
theorem lights_setLightLocked (call : LightCall) (s : LightsProcess) :
    ((setLightLocked k call).exec s).2.lights = setLight s.lights call := by
  have hspeaker : ∀ (state : LightState) (s : LightsProcess),
      ((ifTrackball (setSpeakerLightLocked k state)).exec s).2.lights =
        if s.lights.gHaveTrackballLight then s.lights.setSpeakerLightLocked state
        else s.lights :=
    fun state => lights_ifTrackball (fun m => m.setSpeakerLightLocked state) fun s => by simp
  have htrackball : ∀ s : LightsProcess,
      ((ifTrackball do let _ ← handleTrackballLightLocked k).exec s).2.lights =
        if s.lights.gHaveTrackballLight then s.lights.handleTrackballLightLocked
        else s.lights :=
    lights_ifTrackball LightsModule.handleTrackballLightLocked fun s => by simp
  obtain ⟨id, state⟩ := call
  cases id with
  | backlight =>
      simp only [setLightLocked, setLightBacklight, setLight, LightsModule.setLightBacklight,
        Section.exec_bind, Section.exec_pure, htrackball, writeInt, lights_writeFile]
      rfl
  | keyboard => exact lights_writeFile k _ _ _ s
  | buttons =>
      simp only [setLightLocked, setLightButtons, setLight, LightsModule.setLightButtons,
        Section.exec_bind, writeInt, lights_writeFile]
      rfl
  | battery =>
      simp only [setLightLocked, setLightBattery, setLight, LightsModule.setLightBattery,
        Section.exec_bind, Section.exec_pure, lights_handleSpeakerBatteryLocked,
        hspeaker]
      rfl
  | notifications =>
      simp only [setLightLocked, setLightNotifications, setLight,
        LightsModule.setLightNotifications, Section.exec_bind, Section.exec_pure, htrackball,
        lights_handleSpeakerBatteryLocked]
      rfl
  | attention =>
      simp only [setLightLocked, setLightAttention, setLight, LightsModule.setLightAttention]
      cases state.flashMode <;>
        simp only [Section.exec_bind, Section.exec_pure, htrackball] <;> rfl

/-! ## What reaches the files -/

/-- What happens between two states of a process that runs functions of the module: the
open descriptors are the same again, and of the writes asked for some were accepted, in
their order. -/
structure Proceeds (s s' : LightsProcess) : Prop where
  fds : s'.process.fds = s.process.fds
  writes : ∃ asked taken, s'.lights.writes = s.lights.writes ++ asked ∧
    s'.accepted = s.accepted ++ taken ∧ taken.Sublist asked

instance : Std.Refl Proceeds where
  refl s := ⟨rfl, [], [], by simp, by simp, .slnil⟩

instance : Trans Proceeds Proceeds Proceeds where
  trans h h' := by
    obtain ⟨hfds, asked, taken, hasked, htaken, hsub⟩ := h
    obtain ⟨hfds', asked', taken', hasked', htaken', hsub'⟩ := h'
    refine ⟨hfds'.trans hfds, asked ++ asked', taken ++ taken', ?_, ?_, hsub.append hsub'⟩
    · rw [hasked', hasked, List.append_assoc]
    · rw [htaken', htaken, List.append_assoc]

/-- A change of neither the descriptors nor the two logs. -/
theorem proceeds_of_eq {s s' : LightsProcess} (hfds : s'.process.fds = s.process.fds)
    (hwrites : s'.lights.writes = s.lights.writes) (haccepted : s'.accepted = s.accepted) :
    Proceeds s s' := ⟨hfds, [], [], by simp [hwrites], by simp [haccepted], .slnil⟩

/-- The result is 0 if the write was accepted, and negative if not. -/
def TellsAccepted (path : SysfsFile) (value : SysfsValue) (s : LightsProcess)
    (r : Int × LightsProcess) : Prop :=
  (r.1 = 0 ∧ r.2.accepted = s.accepted ++ [(path, value)]) ∨
    ((k.ReportsErrno → r.1 < 0) ∧ r.2.accepted = s.accepted)

theorem writeAndClose_spec (fd : Nat) (path : SysfsFile) (value : SysfsValue)
    (s : LightsProcess) :
    ((writeAndClose k fd path value).exec s).2.process.fds = s.process.fds.erase fd ∧
      TellsAccepted k path value s ((writeAndClose k fd path value).exec s) := by
  simp only [writeAndClose, writeText, Section.exec_bind, Section.exec_act]
  cases hwrite : k.write s.process fd value.text with
  | ok amt => exact ⟨rfl, .inl ⟨rfl, rfl⟩⟩
  | error errno =>
      refine ⟨rfl, .inr ⟨fun hk => ?_, rfl⟩⟩
      have hwritten := hk.write _ _ _ _ hwrite
      have hclosed := hk.close s.called.process fd
      simp only [closeFile, Section.exec_act, Section.exec_pure]
      cases hclose : k.close s.called.process fd with
      | none => simpa using hwritten
      | some errno' => simpa using hclosed errno' hclose

/-- The descriptor of a write is closed again. -/
theorem writeFile_spec (mode : OpenMode) (path : SysfsFile) (value : SysfsValue)
    (s : LightsProcess) :
    ((writeFile k mode path value).exec s).2.process.fds = s.process.fds ∧
      TellsAccepted k path value s ((writeFile k mode path value).exec s) := by
  simp only [writeFile, openFile, Section.exec_bind, Section.exec_act]
  cases hopen : k.openFile s.process mode path with
  | error errno =>
      refine ⟨rfl, .inr ⟨fun hk => ?_, rfl⟩⟩
      simpa using hk.openFile _ _ _ _ hopen
  | ok fd =>
      obtain ⟨hfds, htells⟩ := writeAndClose_spec k fd path value
        { s.called with
          lights := s.lights.write path value
          process := { s.called.process with fds := insert (fd : Nat) s.process.fds } }
      exact ⟨hfds.trans (Finset.erase_insert fd.property), htells⟩

theorem keeps_writeFile (mode : OpenMode) (path : SysfsFile) (value : SysfsValue) :
    Section.Keeps Proceeds (writeFile k mode path value) := by
  intro s
  obtain ⟨hfds, h⟩ := writeFile_spec k mode path value s
  refine ⟨hfds, [(path, value)], ?_⟩
  rw [lights_writeFile]
  rcases h with ⟨-, haccepted⟩ | ⟨-, haccepted⟩
  · exact ⟨_, rfl, haccepted, .refl _⟩
  · exact ⟨[], rfl, by rw [haccepted, List.append_nil], List.nil_sublist _⟩

theorem keeps_act_called {α : Type} (f : LightsProcess → α) :
    Section.Keeps Proceeds (.act fun s => (f s, s.called)) :=
  fun _ => proceeds_of_eq rfl rfl rfl

theorem keeps_delayOffMissing (led : Led) : Section.Keeps Proceeds (delayOffMissing k led) := by
  refine (keeps_act_called _).bind fun found => .ite ?_ (Section.keeps_pure true)
  exact (keeps_act_called _).bind fun _ => Section.keeps_pure _

theorem keeps_sleepOn (ret : Sleep) : Section.Keeps Proceeds (sleepOn ret) := by
  induction ret with
  | elapsed => exact Section.keeps_pure _
  | failed errno => exact Section.keeps_pure _
  | interrupted again ih => exact (keeps_act_called fun _ => ()).bind fun _ => ih

theorem keeps_ledWaitDelay : Section.Keeps Proceeds (ledWaitDelay k) :=
  (keeps_act_called _).bind keeps_sleepOn

theorem keeps_awaitDelayOff (led : Led) (rounds : Nat) :
    Section.Keeps Proceeds (awaitDelayOff k led rounds) := by
  induction rounds with
  | zero => exact (keeps_delayOffMissing k led).bind fun _ => Section.keeps_pure _
  | succ rounds ih =>
      refine (keeps_delayOffMissing k led).bind fun missing => .ite ?_ (Section.keeps_pure _)
      exact (keeps_ledWaitDelay k).bind fun _ => ih

theorem keeps_assign {f : LightsModule → LightsModule}
    (hf : ∀ m, (f m).writes = m.writes) : Section.Keeps Proceeds (assign f) :=
  fun s => proceeds_of_eq rfl (hf s.lights) rfl

theorem keeps_blinkLed (led : Led) (level onMS offMS : Int) :
    Section.Keeps Proceeds (blinkLed k led level onMS offMS) := by
  have hremember : ∀ status : LedStatus, Section.Keeps Proceeds (do
      assign fun m => { m with preStatus := Function.update m.preStatus led status }
      return (0 : Int)) := by
    intro status
    refine Section.Keeps.bind ?_ fun _ => Section.keeps_pure _
    exact keeps_assign fun _ => rfl
  unfold blinkLed
  refine (Section.keeps_read _).bind fun preStatus => .ite (Section.keeps_pure _) ?_
  cases nowStatus level onMS offMS with
  | off => exact (keeps_writeFile k _ _ _).bind fun _ => hremember _
  | blink =>
      refine (keeps_writeFile k _ _ _).bind fun _ => ?_
      refine (keeps_awaitDelayOff k led 10).bind fun _ => ?_
      refine (keeps_writeFile k _ _ _).bind fun _ => ?_
      exact (keeps_writeFile k _ _ _).bind fun _ => hremember _
  | noBlink =>
      refine (keeps_writeFile k _ _ _).bind fun _ => ?_
      exact (keeps_writeFile k _ _ _).bind fun _ => hremember _

theorem keeps_setSpeakerLightLocked (state : LightState) :
    Section.Keeps Proceeds (setSpeakerLightLocked k state) := by
  have htwo : ∀ led led' l onMS offMS l' onMS' offMS', Section.Keeps Proceeds (do
      let _ ← blinkLed k led l onMS offMS
      let _ ← blinkLed k led' l' onMS' offMS') :=
    fun _ _ _ _ _ _ _ _ => (keeps_blinkLed k _ _ _ _).bind fun _ =>
      (keeps_blinkLed k _ _ _ _).bind fun _ => Section.keeps_pure _
  exact .ite (.ite (htwo _ _ _ _ _ _ _ _) (htwo _ _ _ _ _ _ _ _))
    (.ite (htwo _ _ _ _ _ _ _ _) (htwo _ _ _ _ _ _ _ _))

theorem keeps_handleSpeakerBatteryLocked :
    Section.Keeps Proceeds (handleSpeakerBatteryLocked k) := by
  refine (Section.keeps_read _).bind fun gBattery => .ite ?_ ?_
  · exact keeps_setSpeakerLightLocked k gBattery
  · refine (keeps_setSpeakerLightLocked k gBattery).bind fun _ => ?_
    exact (Section.keeps_read _).bind fun _ => keeps_setSpeakerLightLocked k _

theorem keeps_handleTrackballLightLocked :
    Section.Keeps Proceeds (handleTrackballLightLocked k) := by
  refine (Section.keeps_read _).bind fun _ => (Section.keeps_read _).bind fun _ => ?_
  refine (Section.keeps_read _).bind fun _ => .ite (Section.keeps_pure _) ?_
  exact keeps_writeFile k _ _ _

theorem keeps_ifTrackball {x : Locked Unit} (hx : Section.Keeps Proceeds x) :
    Section.Keeps Proceeds (ifTrackball x) :=
  (Section.keeps_read _).bind fun _ => .ite hx (Section.keeps_pure _)

theorem keeps_trackball :
    Section.Keeps Proceeds (ifTrackball do let _ ← handleTrackballLightLocked k) :=
  keeps_ifTrackball ((keeps_handleTrackballLightLocked k).bind fun _ => Section.keeps_pure _)

theorem keeps_setLightLocked (call : LightCall) :
    Section.Keeps Proceeds (setLightLocked k call) := by
  obtain ⟨id, state⟩ := call
  cases id with
  | backlight =>
      refine Section.Keeps.bind (keeps_assign fun _ => rfl) fun _ => ?_
      refine (keeps_writeFile k _ _ _).bind fun _ => ?_
      exact (keeps_trackball k).bind fun _ => Section.keeps_pure _
  | keyboard => exact keeps_writeFile k _ _ _
  | buttons =>
      refine Section.Keeps.bind (keeps_assign fun _ => rfl) fun _ => ?_
      exact keeps_writeFile k _ _ _
  | battery =>
      refine Section.Keeps.bind (keeps_assign fun _ => rfl) fun _ => ?_
      refine (keeps_ifTrackball (keeps_setSpeakerLightLocked k state)).bind fun _ => ?_
      exact (keeps_handleSpeakerBatteryLocked k).bind fun _ => Section.keeps_pure _
  | notifications =>
      refine Section.Keeps.bind (keeps_assign fun _ => rfl) fun _ => ?_
      refine (keeps_trackball k).bind fun _ => ?_
      exact (keeps_handleSpeakerBatteryLocked k).bind fun _ => Section.keeps_pure _
  | attention =>
      have hrest : Section.Keeps Proceeds (do
          ifTrackball do let _ ← handleTrackballLightLocked k
          return (0 : Int)) := (keeps_trackball k).bind fun _ => Section.keeps_pure _
      simp only [setLightLocked, setLightAttention]
      cases state.flashMode with
      | hardware | none =>
          refine Section.Keeps.bind ?_ fun _ => hrest
          exact keeps_assign fun _ => rfl
      | timed | other => exact hrest

/-! ## What the results say -/

/-- The write a call reports on, if it does. -/
def LightCall.reported (call : LightCall) : List (SysfsFile × SysfsValue) :=
  match call.id with
  | .backlight => [(.lcd, .int call.state.rgbToBrightness)]
  | .keyboard => [(.keyboard, .int (if call.state.isLit ≠ 0 then 255 else 0))]
  | .buttons => [(.button, .int (if call.state.isLit ≠ 0 then 255 else 0))]
  | _ => []

/-- The result is 0 if the write the call reports on was accepted, and negative if not. -/
def Reports (call : LightCall) (s : LightsProcess) (r : Int × LightsProcess) : Prop :=
  ∃ taken, r.2.accepted = s.accepted ++ taken ∧
    ((r.1 = 0 ∧ ∀ w ∈ call.reported, w ∈ taken) ∨ (r.1 < 0 ∧ ∀ w ∈ call.reported, w ∉ taken))

/-- The trackball light asks for writes to its own file only. -/
theorem trackball_asks (s : LightsProcess) :
    let s' := ((ifTrackball do let _ ← handleTrackballLightLocked k).exec s).2
    ∃ taken, s'.accepted = s.accepted ++ taken ∧ ∀ w ∈ taken, w.1 = .trackball := by
  obtain ⟨-, asked, taken, hasked, htaken, hsub⟩ := keeps_trackball k s
  refine ⟨taken, htaken, fun w hw => ?_⟩
  have hmem := hsub.subset hw
  rw [lights_ifTrackball LightsModule.handleTrackballLightLocked fun s => by simp] at hasked
  unfold LightsModule.handleTrackballLightLocked at hasked
  generalize (if s.lights.gAttention = 7 ∧ s.lights.gBacklight ≠ 0 then 0
    else s.lights.gAttention) = mode at hasked
  dsimp only at hasked
  have hnone : asked = [] ∨ asked = [(.trackball, .int mode)] := by
    split_ifs at hasked <;> simp_all [LightsModule.write]
  rcases hnone with rfl | rfl
  · cases hmem
  · rw [List.mem_singleton.mp hmem]

/-- A call that writes one file and reports on it. -/
theorem reports_writeFile {call : LightCall} {mode : OpenMode} {path : SysfsFile}
    {value : SysfsValue} (hk : k.ReportsErrno) (hcall : call.reported = [(path, value)])
    (s : LightsProcess) : Reports call s ((writeFile k mode path value).exec s) := by
  obtain ⟨-, ⟨hret, haccepted⟩ | ⟨hret, haccepted⟩⟩ := writeFile_spec k mode path value s
  · exact ⟨[(path, value)], haccepted, .inl ⟨hret, by simp [hcall]⟩⟩
  · exact ⟨[], by simp [haccepted], .inr ⟨hret hk, by simp⟩⟩

/-- A call that reports on nothing and returns 0. -/
theorem reports_of_zero {call : LightCall} (hcall : call.reported = []) {s : LightsProcess}
    (hret : ((setLightLocked k call).exec s).1 = 0) :
    Reports call s ((setLightLocked k call).exec s) := by
  obtain ⟨-, _, taken, -, htaken, -⟩ := keeps_setLightLocked k call s
  exact ⟨taken, htaken, .inl ⟨hret, by simp [hcall]⟩⟩

theorem setLightBacklight_reports (hk : k.ReportsErrno) (state : LightState) (s : LightsProcess) :
    Reports ⟨.backlight, state⟩ s ((setLightBacklight k state).exec s) := by
  simp only [setLightBacklight, Section.exec_bind, Section.exec_pure, exec_assign, writeInt]
  generalize hstored : LightsProcess.mk _ s.process s.accepted = t
  have haccepted : t.accepted = s.accepted := by rw [← hstored]
  obtain ⟨later, hlater, htrackball⟩ :=
    trackball_asks k ((writeFile k .rdwr .lcd (.int state.rgbToBrightness)).exec t).2
  have hlcd : ((.lcd, .int state.rgbToBrightness) : SysfsFile × SysfsValue) ∉ later := by
    intro hmem
    cases htrackball _ hmem
  obtain ⟨-, ⟨hret, htaken⟩ | ⟨hret, htaken⟩⟩ :=
    writeFile_spec k .rdwr .lcd (.int state.rgbToBrightness) t
  · refine ⟨(.lcd, .int state.rgbToBrightness) :: later, ?_, .inl ⟨hret, ?_⟩⟩
    · rw [hlater, htaken, haccepted, List.append_assoc]
      rfl
    · simp [LightCall.reported]
  · refine ⟨later, ?_, .inr ⟨hret hk, ?_⟩⟩
    · rw [hlater, htaken, haccepted]
    · simpa [LightCall.reported] using hlcd

/-- Each call reports on the write to its own file, if it has one, and on no other. -/
theorem setLightLocked_reports (hk : k.ReportsErrno) (call : LightCall) (s : LightsProcess) :
    Reports call s ((setLightLocked k call).exec s) := by
  obtain ⟨id, state⟩ := call
  cases id with
  | backlight => exact setLightBacklight_reports k hk state s
  | keyboard => exact reports_writeFile k hk rfl s
  | buttons =>
      let t : LightsProcess := { s with lights := { s.lights with gButtons := state.isLit } }
      have hstored : Reports ⟨.buttons, state⟩ t
          ((writeInt k .button (if state.isLit ≠ 0 then 255 else 0)).exec t) :=
        reports_writeFile k hk rfl t
      exact hstored
  | battery =>
      refine reports_of_zero k rfl ?_
      simp [setLightLocked, setLightBattery]
  | notifications =>
      refine reports_of_zero k rfl ?_
      simp [setLightLocked, setLightNotifications]
  | attention =>
      refine reports_of_zero k rfl ?_
      simp only [setLightLocked, setLightAttention]
      cases state.flashMode <;> simp

end Calls

/-- A kernel on which files can be opened from the `n`th call on, with the number of the
call as their descriptor; nothing else fails. -/
def SysfsKernel.openingFrom (n : Nat) : SysfsKernel where
  openFile p _ _ :=
    if p.calls < n then .error 5
    else if h : p.calls ∉ p.fds then .ok ⟨p.calls, h⟩
    else .error 24
  write _ _ text := .ok text.length
  close _ _ := none
  access _ _ _ := true
  nanosleep _ := .elapsed

theorem SysfsKernel.openingFrom_reportsErrno (n : Nat) : (openingFrom n).ReportsErrno where
  openFile p mode path errno h := by
    unfold openingFrom at h
    dsimp only at h
    split at h
    · cases h
      decide
    · split at h
      · cases h
      · cases h
        decide
  write _ _ _ _ h := by cases h
  close _ _ _ h := by cases h

/-- Whatever the kernel answers, a call of `set_light` changes the module, and asks for
writes, as if everything succeeded; it closes what it opens, its writes arrive in order or
not at all, and it reports on the write to its own file. -/
theorem setLightLocked_spec {k : SysfsKernel} (hk : k.ReportsErrno) (call : LightCall)
    (s : LightsProcess) :
    let r := (setLightLocked k call).exec s
    r.2.lights = setLight s.lights call ∧ Proceeds s r.2 ∧ Reports call s r :=
  ⟨lights_setLightLocked k call s, keeps_setLightLocked k call s,
    setLightLocked_reports k hk call s⟩

/-- A write to the keyboard light on a kernel that opens no file yet. -/
theorem setLightLocked_spec_keyboard :
    let s : LightsProcess := ⟨.start false, ⟨∅, 0⟩, []⟩
    let call : LightCall := ⟨.keyboard, ⟨0xFFFFFFFF#32, .none, 0, 0⟩⟩
    let r := (setLightLocked (.openingFrom 1) call).exec s
    r.2.lights = setLight s.lights call ∧ Proceeds s r.2 ∧ Reports call s r :=
  setLightLocked_spec (SysfsKernel.openingFrom_reportsErrno 1) _ _

end MediatekCommon.Lights
