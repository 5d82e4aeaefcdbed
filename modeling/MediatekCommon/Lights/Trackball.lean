/-
  Lights/Trackball.lean --- the breathing mode of the trackball light.

  The mode is chosen by `g_attention` and `g_backlight`, which three of the
  `set_light` functions change, and written by `handle_trackball_light_locked`
  unless it equals `g_trackball`.  That variable is meant to hold the value last
  written, but no function assigns it: it keeps the -1 it starts with.  So a mode
  is written by every call that reaches the light, changed or not, and the mode -1
  is never written.
-/
import MediatekCommon.Lights.SpeakerLight

set_option autoImplicit false

namespace MediatekCommon.Lights

open MediatekCommon.Foundation

/-! ## The mode and the file -/

/-- The mode that belongs to `g_attention` and `g_backlight`. -/
def trackballMode (gAttention gBacklight : Int) : Int :=
  if gAttention = 7 ∧ gBacklight ≠ 0 then 0 else gAttention

namespace LightsModule

/-- What was written to the trackball file, oldest first. -/
def trackballWrites (s : LightsModule) : List SysfsValue :=
  (s.writes.filter fun w => w.1 = .trackball).map Prod.snd

/-- The value last written to the trackball file. -/
def trackballFile (s : LightsModule) : Option SysfsValue := s.trackballWrites.getLast?

theorem trackballWrites_write (s : LightsModule) (path : SysfsFile) (value : SysfsValue) :
    (s.write path value).trackballWrites =
      if path = .trackball then s.trackballWrites ++ [value] else s.trackballWrites := by
  by_cases hpath : path = .trackball <;> simp [trackballWrites, write, hpath]

theorem trackballWrites_blink (s : LightsModule) (led : Led) (level onMS offMS : Int) :
    (s.blink led level onMS offMS).trackballWrites = s.trackballWrites := by
  have hframe : ∀ (t : LightsModule) (status : Led → LedStatus),
      trackballWrites { t with preStatus := status } = t.trackballWrites := fun _ _ => rfl
  unfold blink
  dsimp only
  split
  · rfl
  · rw [hframe]
    cases nowStatus level onMS offMS <;> simp [trackballWrites_write]

theorem trackballWrites_setSpeakerLightLocked (s : LightsModule) (state : LightState) :
    (s.setSpeakerLightLocked state).trackballWrites = s.trackballWrites := by
  unfold setSpeakerLightLocked
  dsimp only [blinkRed, blinkGreen]
  split
  · split <;> simp only [trackballWrites_blink]
  · split <;> simp only [trackballWrites_blink]

theorem trackballWrites_handleSpeakerBatteryLocked (s : LightsModule) :
    s.handleSpeakerBatteryLocked.trackballWrites = s.trackballWrites := by
  unfold handleSpeakerBatteryLocked
  split <;> simp only [trackballWrites_setSpeakerLightLocked]

end LightsModule

/-! ## One call -/

/-- The functions that end in `handle_trackball_light_locked`. -/
def LightCall.ReachesTrackball (call : LightCall) : Prop :=
  call.id = .backlight ∨ call.id = .notifications ∨ call.id = .attention

instance decidableReachesTrackball (call : LightCall) : Decidable call.ReachesTrackball :=
  inferInstanceAs (Decidable (_ ∨ _))

/-- `g_attention` once a call has been stored. -/
def LightCall.attention (call : LightCall) (s : LightsModule) : Int :=
  match call.id, call.state.flashMode with
  | .attention, .hardware => call.state.flashOnMS
  | .attention, .none => 0
  | _, _ => s.gAttention

/-- `g_backlight` once a call has been stored. -/
def LightCall.backlight (call : LightCall) (s : LightsModule) : Int :=
  match call.id with
  | .backlight => call.state.rgbToBrightness
  | _ => s.gBacklight

/-- The mode a call asks for. -/
def LightCall.mode (call : LightCall) (s : LightsModule) : Int :=
  trackballMode (call.attention s) (call.backlight s)

/-- A module with a trackball light.  `g_trackball` is what it was set to at first, and
that value was never written. -/
structure HasTrackball (s : LightsModule) : Prop where
  light : s.gHaveTrackballLight = true
  cache : s.gTrackball = -1
  unwritten : .int (-1) ∉ s.trackballWrites

theorem hasTrackball_start : HasTrackball (.start true) := ⟨rfl, rfl, List.not_mem_nil⟩

/-- `handle_trackball_light_locked` writes every mode but -1. -/
theorem trackballWrites_handleTrackballLightLocked {s : LightsModule} (hs : HasTrackball s) :
    s.handleTrackballLightLocked.trackballWrites =
      if trackballMode s.gAttention s.gBacklight = -1 then s.trackballWrites
      else s.trackballWrites ++ [.int (trackballMode s.gAttention s.gBacklight)] := by
  unfold LightsModule.handleTrackballLightLocked
  change LightsModule.trackballWrites
      (if s.gTrackball = trackballMode s.gAttention s.gBacklight then s
        else s.write .trackball (.int (trackballMode s.gAttention s.gBacklight))) = _
  rw [hs.cache]
  by_cases hmode : trackballMode s.gAttention s.gBacklight = -1
  · rw [if_pos hmode.symm, if_pos hmode]
  · rw [if_neg (fun h => hmode h.symm), if_neg hmode, LightsModule.trackballWrites_write,
      if_pos rfl]

theorem onlyLeds_handleTrackballLightLocked (s : LightsModule) :
    OnlyLeds s s.handleTrackballLightLocked := by
  unfold LightsModule.handleTrackballLightLocked
  generalize (if s.gAttention = 7 ∧ s.gBacklight ≠ 0 then 0 else s.gAttention) = mode
  dsimp only
  split <;> exact ⟨_, _, rfl⟩

/-- Each of these functions stores its state, may write other files, and calls the
handler; what follows the handler concerns the LEDs only. -/
theorem setLight_handles_trackball {s : LightsModule} (hs : HasTrackball s) {call : LightCall}
    (hcall : call.ReachesTrackball) :
    ∃ t : LightsModule, HasTrackball t ∧ t.gAttention = call.attention s ∧
      t.gBacklight = call.backlight s ∧ t.trackballWrites = s.trackballWrites ∧
      OnlyLeds t.handleTrackballLightLocked (setLight s call) ∧
      (setLight s call).trackballWrites = t.handleTrackballLightLocked.trackballWrites := by
  obtain ⟨id, state⟩ := call
  rcases hcall with rfl | rfl | rfl
  · let t := { s with gBacklight := state.rgbToBrightness }.write .lcd (.int state.rgbToBrightness)
    have hstep : setLight s ⟨.backlight, state⟩ = t.handleTrackballLightLocked := if_pos hs.light
    have hwrites : t.trackballWrites = s.trackballWrites :=
      LightsModule.trackballWrites_write _ _ _
    rw [hstep]
    exact ⟨t, ⟨hs.light, hs.cache, hwrites ▸ hs.unwritten⟩, rfl, rfl, hwrites, .refl _, rfl⟩
  · let t := { s with gNotification := state }
    have hstep : setLight s ⟨.notifications, state⟩ =
        t.handleTrackballLightLocked.handleSpeakerBatteryLocked := by
      simp only [setLight, LightsModule.setLightNotifications, hs.light, if_true, t]
    rw [hstep]
    exact ⟨t, ⟨hs.light, hs.cache, hs.unwritten⟩, rfl, rfl, rfl,
      onlyLeds_handleSpeakerBatteryLocked _,
      LightsModule.trackballWrites_handleSpeakerBatteryLocked _⟩
  · let t := { s with gAttention := LightCall.attention ⟨.attention, state⟩ s }
    have hstep : setLight s ⟨.attention, state⟩ = t.handleTrackballLightLocked := by
      unfold setLight LightsModule.setLightAttention
      cases hmode : state.flashMode <;> simp only [LightCall.attention, hmode, t] <;>
        exact if_pos hs.light
    rw [hstep]
    exact ⟨t, ⟨hs.light, hs.cache, hs.unwritten⟩, rfl, rfl, rfl, .refl _, rfl⟩

/-- What a call does to the trackball file. -/
theorem setLight_trackball_spec {s : LightsModule} (hs : HasTrackball s) {call : LightCall}
    (hcall : call.ReachesTrackball) :
    HasTrackball (setLight s call) ∧
      trackballMode (setLight s call).gAttention (setLight s call).gBacklight = call.mode s ∧
      (setLight s call).trackballWrites =
        if call.mode s = -1 then s.trackballWrites
        else s.trackballWrites ++ [.int (call.mode s)] := by
  obtain ⟨t, ht, hattention, hbacklight, hwrites, hframe, hfile⟩ :=
    setLight_handles_trackball hs hcall
  obtain ⟨_, _, hsame⟩ := (onlyLeds_handleTrackballLightLocked t).trans hframe
  have hmode : call.mode s = trackballMode t.gAttention t.gBacklight := by
    rw [LightCall.mode, hattention, hbacklight]
  refine ⟨?_, ?_, ?_⟩
  · have hunwritten : .int (-1) ∉ (setLight s call).trackballWrites := by
      rw [hfile, trackballWrites_handleTrackballLightLocked ht]
      split
      · exact ht.unwritten
      · rename_i hne
        simpa using ⟨ht.unwritten, fun h => hne h.symm⟩
    refine ⟨?_, ?_, hunwritten⟩
    · rw [hsame]
      exact ht.light
    · rw [hsame]
      exact ht.cache
  · rw [hmode, hsame]
  · rw [hfile, trackballWrites_handleTrackballLightLocked ht, hmode, hwrites]

/-! ## Sequences of calls -/

/-- The file holds the current mode after the call, and the call wrote it only if that
mode differs from the value written before. -/
def TrackballFollows (s : LightsModule) (call : LightCall) : Prop :=
  let s' := setLight s call
  let mode : SysfsValue := .int (trackballMode s'.gAttention s'.gBacklight)
  s'.trackballFile = some mode ∧
    (s'.trackballWrites ≠ s.trackballWrites → s.trackballFile ≠ some mode)

/-- The call asks for a mode that is not -1 and not the value last written. -/
def ChangesMode (s : LightsModule) (call : LightCall) : Prop :=
  call.mode s ≠ -1 ∧ s.trackballFile ≠ some (.int (call.mode s))

theorem trackballFollows_iff {s : LightsModule} (hs : HasTrackball s) {call : LightCall}
    (hcall : call.ReachesTrackball) : TrackballFollows s call ↔ ChangesMode s call := by
  obtain ⟨-, hmode, hwrites⟩ := setLight_trackball_spec hs hcall
  simp only [TrackballFollows, ChangesMode, LightsModule.trackballFile, hmode, hwrites]
  by_cases hnever : call.mode s = -1
  · -- Nothing is written, and the file does not hold -1 from before.
    have hfile : s.trackballWrites.getLast? ≠ some (.int (-1)) :=
      fun h => hs.unwritten (List.mem_of_getLast? h)
    simp [hnever, hfile]
  · simp [hnever]

/-- On a device with a trackball light, the file follows the mode and is written only
when the mode changes, throughout a sequence of calls, if and only if every call asks
for a mode that is not -1 and not the value last written. -/
theorem trackballFollows_iff_changesMode {calls : List LightCall}
    (hcalls : ∀ call ∈ calls, call.ReachesTrackball) :
    Along setLight TrackballFollows (.start true) calls ↔
      Along setLight ChangesMode (.start true) calls := by
  have hadm : Along setLight (fun s call => HasTrackball s ∧ call.ReachesTrackball)
      (.start true) calls := by
    apply along_of_step _ _ hasTrackball_start (along_of_forall _ hcalls)
    · intro s call hs hcall
      exact (setLight_trackball_spec hs hcall).1
    · intro s call hs hcall
      exact ⟨hs, hcall⟩
  exact along_congr (fun s call h => trackballFollows_iff h.1 h.2) hadm

/-- A call of `set_light_attention`. -/
def attentionCall (flashMode : FlashMode) (flashOnMS : Int) : LightCall :=
  ⟨.attention, ⟨0#32, flashMode, flashOnMS, 0⟩⟩

/-- Breathing starts and ends: the file follows the mode. -/
theorem trackballFollows_breathing :
    Along setLight TrackballFollows (.start true)
      [attentionCall .hardware 3, attentionCall .none 0] :=
  (trackballFollows_iff_changesMode (by decide)).mpr
    (by simp [ChangesMode]; decide)

/-- The same breathing mode asked for twice: it is written twice. -/
theorem setLightAttention_rewrites :
    let calls := [attentionCall .hardware 3, attentionCall .hardware 3]
    (run setLight (.start true) calls).trackballWrites = [.int 3, .int 3] ∧
      ¬ Along setLight TrackballFollows (.start true) calls := by
  intro calls
  refine ⟨by decide, ?_⟩
  intro h
  obtain ⟨-, ⟨-, hwritten⟩, -⟩ := h
  exact hwritten (by decide) (by decide)

end MediatekCommon.Lights
