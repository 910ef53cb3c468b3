import TufanAks.AppMain.Equiv.Contactors
import TufanAks.Cores.Equiv.Components

/-!
# The relays between two phases

Each phase of `run` drives the relays as a whole call does (`drives_runStep`), so that on a bus that
does not fail the driver knows what was commanded last, and the chip shows it unless something else
changes the chip (`energised_iff_commanded`).
-/

namespace TufanAks.Cores

open Firmware (Action BootInput)
open Machine
open RelayActuatorAdapter (Drives Follows relayActuator drives_transitionTo drives_periodic
  outputsMatch_verifyIfDue follows_changeChip testBit_commandedState)
open RelayManager (Energised OutputsMatch)
open VcuLogic (RunPc Vcu lastContactorCommand runStep transitionTo transitionTo_commands
  transitionTo_s_relays)

/-- **One phase** of `run` drives the relays. -/
theorem drives_runStep (pc : RunPc) (v : Vcu RelayManager) :
    Drives v (runStep relayActuator pc v).1 := by
  cases pc with
  | eStopPending | faultPending =>
    simp only [runStep]
    split_ifs
    · exact .of_eq (transitionTo_s_relays _ _) (transitionTo_commands _ _)
    · exact .of_eq rfl rfl
  | verifyIfDue =>
    have hverified : Drives v
        { v with s_relays := relayActuator.verifyIfDue v.s_uptimeMs v.s_relays } :=
      .of_call (a := .verifyIfDue v.s_uptimeMs) rfl rfl
        (fun h hmatch => outputsMatch_verifyIfDue h hmatch _) rfl rfl
    refine hverified.trans ?_
    simp only [runStep]
    split_ifs
    · exact .of_eq (transitionTo_s_relays _ _) (transitionTo_commands _ _)
    · exact .of_eq (transitionTo_s_relays _ _) (transitionTo_commands _ _)
    · exact .of_eq rfl rfl
  | pollEvent =>
    rcases hq : v.s_eventQueue with _ | _ | ⟨event, rest⟩
    all_goals
      simp only [runStep, VcuLogic.pollEvent, hq]
      exact .of_eq rfl rfl
  | event event =>
    simp only [runStep]
    split_ifs
    · exact .of_eq (transitionTo_s_relays _ _) (transitionTo_commands _ _)
    · exact .of_eq (transitionTo_s_relays _ _) (transitionTo_commands _ _)
    · exact .of_eq rfl rfl
    · exact .of_eq rfl rfl
    · show Drives v (transitionTo .IDLE _)
      refine .trans ?_ (drives_transitionTo _ _)
      exact .of_call (a := .clearActuatorFault) rfl rfl (fun _ hmatch => hmatch.of_eq rfl rfl)
        rfl rfl
    · obtain ⟨-, -, -, hrelays, hcommands⟩ := @VcuLogic.handleEvent_frame _ relayActuator event v
      exact .of_eq hrelays hcommands
  | handler => exact drives_periodic v

/-- **One action** that does not change the chip from outside drives the relays. -/
theorem drives_step (c : Cores) {a : Action} (ha : ∀ change, a ≠ .chip change) :
    Drives c.tasks.vcu (step c a).tasks.vcu := by
  have hstep := stepped_step c a
  generalize step c a = c' at hstep ⊢
  cases hstep with
  | whole => exact Firmware.drives_step c.tasks ha
  | phase hpc =>
    simp only [vcuStep, hpc]
    exact drives_runStep c.runPc c.tasks.vcu
  | read | shown => exact .of_eq rfl rfl

/-- Whatever happens to the chip, the driver knows what was commanded last. -/
theorem follows_after {b : BootInput} (hbus : ∀ n, b.succeeds n = true) (as : List Action) :
    Follows (after b as).tasks.vcu := by
  refine exec_invariant (fun c : Cores => Follows c.tasks.vcu) (fun c a _ h => ?_) ?_
  · cases a with
    | chip change => exact follows_changeChip h change
    | can | vcu | hmi | lora | receive => exact (drives_step c (by simp)).follows h
  · exact Firmware.follows_after hbus []

/-- The relays that are energised are those that are commanded on. -/
theorem energised_iff_commanded {b : BootInput} (hbus : ∀ n, b.succeeds n = true) {as : List Action}
    (hchip : ∀ change, .chip change ∉ as) {channel : ℕ} (hlt : channel < RELAY_TOTAL_CHANNELS) :
    Energised (after b as).tasks.vcu.s_relays.chip channel ↔
      lastContactorCommand (after b as).tasks.vcu.commands = some .allOn := by
  have hdrives : Drives (booted b).tasks.vcu (after b as).tasks.vcu := by
    refine exec_invariant (fun c : Cores => Drives (booted b).tasks.vcu c.tasks.vcu)
      (fun c a ha h => h.trans (drives_step c ?_)) (.of_eq rfl rfl)
    rintro change rfl
    exact hchip change ha
  have hmatch := hdrives.shows (follows_after hbus [])
    (.inl (Firmware.outputsMatch_booted hbus))
  exact Firmware.energised_iff_of_follows (follows_after hbus as) hmatch hlt

/-- What the display task reads of a relay. -/
theorem getRelayState_iff_commanded {b : BootInput} (hbus : ∀ n, b.succeeds n = true)
    (as : List Action) {channel : ℕ} (hlt : channel < RELAY_TOTAL_CHANNELS) :
    (after b as).tasks.vcu.s_relays.getRelayState (UInt8.ofNat channel) = true ↔
      lastContactorCommand (after b as).tasks.vcu.commands = some .allOn := by
  have hten : channel < 10 := hlt
  have hnat : (UInt8.ofNat channel).toNat = channel :=
    UInt8.toNat_ofNat_of_lt (Nat.lt_trans hten (by decide))
  rw [RelayManager.getRelayState_eq_testBit (by rw [hnat]; exact hlt), hnat,
    (follows_after hbus as).shadow]
  exact testBit_commandedState _ hlt

end TufanAks.Cores
