/-
  Lights/Device.lean --- the lights module: its globals, its six `set_light`
  functions and what they write.

  The static variables are the fields of one record, `preStatus` of `blink_red` and
  `blink_green` included; what `write_int` and `write_str` write goes to a log.
  Every write succeeds here, so the functions return nothing but the new state, and
  the wait for `delay_off` to appear is over at once.
-/
import Mathlib.Logic.Function.Basic

set_option autoImplicit false

namespace MediatekCommon.Lights

/-! ## Light states and files -/

/-- `flashMode`: `LIGHT_FLASH_NONE`, `LIGHT_FLASH_TIMED`, `LIGHT_FLASH_HARDWARE`
or any other number. -/
inductive FlashMode where
  | none
  | timed
  | hardware
  | other (value : Int)
  deriving DecidableEq, Repr

/-- `struct light_state_t`. -/
structure LightState where
  color : BitVec 32
  flashMode : FlashMode
  flashOnMS : Int
  flashOffMS : Int
  deriving DecidableEq, Repr

/-- The LEDs that are driven. -/
inductive Led where
  | red
  | green
  deriving DecidableEq, Repr

/-- The files of one LED under `/sys/class/leds`. -/
inductive LedFile where
  | brightness
  | trigger
  | delayOn
  | delayOff
  deriving DecidableEq, Repr

/-- The files written to. -/
inductive SysfsFile where
  /-- `TRACKBALL_FILE` -/
  | trackball
  /-- `LCD_FILE` -/
  | lcd
  /-- `KEYBOARD_FILE` -/
  | keyboard
  /-- `BUTTON_FILE` -/
  | button
  /-- `RED_LED_FILE`, `RED_TRIGGER_FILE` and so on. -/
  | led (led : Led) (file : LedFile)
  deriving DecidableEq, Repr

/-- What is written: a number, or the name of a trigger. -/
inductive SysfsValue where
  | int (value : Int)
  | none
  | timer
  deriving DecidableEq, Repr

/-- `preStatus`: 0, 1 or 2. -/
inductive LedStatus where
  | off
  | blink
  | noBlink
  deriving DecidableEq, Repr

/-- The static variables of the module and the writes so far, oldest first. -/
structure LightsModule where
  gHaveTrackballLight : Bool
  gNotification : LightState
  gBattery : LightState
  gBacklight : Int
  gTrackball : Int
  gButtons : Int
  gAttention : Int
  /-- `preStatus` of `blink_red` and of `blink_green`. -/
  preStatus : Led → LedStatus
  writes : List (SysfsFile × SysfsValue)

namespace LightState

/-- A state with all fields 0. -/
def zero : LightState := ⟨0, .none, 0, 0⟩

/-- `is_lit(state)`. -/
def isLit (state : LightState) : Int := (state.color &&& 0x00ffffff#32).toNat

/-- `(color >> shift) & 0xFF`. -/
def channel (state : LightState) (shift : Nat) : Int :=
  ((state.color >>> shift) &&& 0xFF#32).toNat

/-- `rgb_to_brightness(state)`. -/
def rgbToBrightness (state : LightState) : Int :=
  (77 * state.channel 16 + 150 * state.channel 8 + 29 * state.channel 0) / 256

/-- `red` in `set_speaker_light_locked`; alpha = 0 means turn the LED off. -/
def red (state : LightState) : Int :=
  if state.channel 24 ≠ 0 then state.channel 16 else 0

/-- `green` in `set_speaker_light_locked`. -/
def green (state : LightState) : Int :=
  if state.channel 24 ≠ 0 then state.channel 8 else 0

/-- `onMS`. -/
def onMS (state : LightState) : Int :=
  match state.flashMode with
  | .timed => state.flashOnMS
  | _ => 0

/-- `offMS`. -/
def offMS (state : LightState) : Int :=
  match state.flashMode with
  | .timed => state.flashOffMS
  | _ => 0

/-- Orange, #ff6200. -/
def orange : BitVec 32 := BitVec.ofInt 32 (-40448)

end LightState

/-! ## The functions -/

/-- `nowStatus`. -/
def nowStatus (level onMS offMS : Int) : LedStatus :=
  if level = 0 then .off
  else if onMS ≠ 0 ∧ offMS ≠ 0 then .blink
  else .noBlink

namespace LightsModule

/-- The module after `init_globals`. -/
def start (haveTrackballLight : Bool) : LightsModule where
  gHaveTrackballLight := haveTrackballLight
  gNotification := .zero
  gBattery := .zero
  gBacklight := 255
  gTrackball := -1
  gButtons := 0
  gAttention := 0
  preStatus := fun _ => .off
  writes := []

/-- `write_int` and `write_str`. -/
def write (s : LightsModule) (path : SysfsFile) (value : SysfsValue) : LightsModule :=
  { s with writes := s.writes ++ [(path, value)] }

/-- `blink_red` and `blink_green`, which differ in their files only. -/
def blink (led : Led) (s : LightsModule) (level onMS offMS : Int) : LightsModule :=
  let nowStatus := nowStatus level onMS offMS
  if s.preStatus led = nowStatus then s
  else
    let s :=
      match nowStatus with
      | .off => s.write (.led led .brightness) (.int 0)
      | .blink =>
          ((s.write (.led led .trigger) .timer).write (.led led .delayOff) (.int offMS)).write
            (.led led .delayOn) (.int onMS)
      | .noBlink =>
          (s.write (.led led .trigger) .none).write (.led led .brightness) (.int 255)
    { s with preStatus := Function.update s.preStatus led nowStatus }

/-- `blink_red(level, onMS, offMS)`. -/
def blinkRed (s : LightsModule) (level onMS offMS : Int) : LightsModule := s.blink .red level onMS offMS

/-- `blink_green(level, onMS, offMS)`. -/
def blinkGreen (s : LightsModule) (level onMS offMS : Int) : LightsModule :=
  s.blink .green level onMS offMS

def handleTrackballLightLocked (s : LightsModule) : LightsModule :=
  let mode := if s.gAttention = 7 ∧ s.gBacklight ≠ 0 then 0 else s.gAttention
  if s.gTrackball = mode then s else s.write .trackball (.int mode)

def setSpeakerLightLocked (s : LightsModule) (state : LightState) : LightsModule :=
  let red := state.red
  let green := state.green
  let onMS := state.onMS
  let offMS := state.offMS
  if red ≠ 0 then
    if state.color = LightState.orange then
      (s.blinkGreen red onMS offMS).blinkRed red onMS offMS
    else (s.blinkGreen 0 0 0).blinkRed red onMS offMS
  else if green ≠ 0 then (s.blinkRed 0 0 0).blinkGreen green onMS offMS
  else (s.blinkRed 0 0 0).blinkGreen 0 0 0

def handleSpeakerBatteryLocked (s : LightsModule) : LightsModule :=
  if s.gBattery.isLit ≠ 0 then s.setSpeakerLightLocked s.gBattery
  else
    -- Turkey workaround: notification and Low battery case, IPO bootup, NLED cannot blink
    (s.setSpeakerLightLocked s.gBattery).setSpeakerLightLocked s.gNotification

def setLightBacklight (s : LightsModule) (state : LightState) : LightsModule :=
  let brightness := state.rgbToBrightness
  let s := { s with gBacklight := brightness }.write .lcd (.int brightness)
  if s.gHaveTrackballLight then s.handleTrackballLightLocked else s

def setLightKeyboard (s : LightsModule) (state : LightState) : LightsModule :=
  s.write .keyboard (.int (if state.isLit ≠ 0 then 255 else 0))

def setLightButtons (s : LightsModule) (state : LightState) : LightsModule :=
  let on := state.isLit
  { s with gButtons := on }.write .button (.int (if on ≠ 0 then 255 else 0))

def setLightBattery (s : LightsModule) (state : LightState) : LightsModule :=
  let s := { s with gBattery := state }
  let s := if s.gHaveTrackballLight then s.setSpeakerLightLocked state else s
  s.handleSpeakerBatteryLocked

def setLightNotifications (s : LightsModule) (state : LightState) : LightsModule :=
  let s := { s with gNotification := state }
  let s := if s.gHaveTrackballLight then s.handleTrackballLightLocked else s
  s.handleSpeakerBatteryLocked

def setLightAttention (s : LightsModule) (state : LightState) : LightsModule :=
  let s :=
    match state.flashMode with
    | .hardware => { s with gAttention := state.flashOnMS }
    | .none => { s with gAttention := 0 }
    | _ => s
  if s.gHaveTrackballLight then s.handleTrackballLightLocked else s

end LightsModule

/-- The names `open_lights` knows. -/
inductive LightId where
  | backlight
  | keyboard
  | buttons
  | battery
  | notifications
  | attention
  deriving DecidableEq, Repr

/-- A call of `set_light` on one of the opened devices. -/
structure LightCall where
  id : LightId
  state : LightState
  deriving DecidableEq, Repr

/-- The function `open_lights` installs as `set_light`, called on a state. -/
def setLight (s : LightsModule) (call : LightCall) : LightsModule :=
  match call.id with
  | .backlight => s.setLightBacklight call.state
  | .keyboard => s.setLightKeyboard call.state
  | .buttons => s.setLightButtons call.state
  | .battery => s.setLightBattery call.state
  | .notifications => s.setLightNotifications call.state
  | .attention => s.setLightAttention call.state

end MediatekCommon.Lights
