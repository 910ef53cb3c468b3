import TufanAks.AppMain.Equiv.Components
import TufanAks.RelayActuatorAdapter.Equiv.Pins

/-!
# From the commands to the contactors

The pins of the relay chip are as the state machine has commanded last, in every schedule: on a bus
that does not fail, since power-up or since the first contactor command after a change of the chip
from outside (`pins_follow_commands`).
-/

namespace TufanAks.Firmware

open Machine
open RelayActuatorAdapter (relayActuator Drives Follows contactorCommands)
open RelayManager (Energised OutputsMatch)
open VcuLogic (lastContactorCommand ContactorsOpen)

/-- Only a change of the chip is a change of the actuator from outside. -/
theorem not_actuator_of_mem {f : Firmware} {a : Action} (ha : ∀ change, a ≠ .chip change)
    {call : VcuLogic.Action RelayManager} (h : call ∈ vcuActs f a) :
    ∀ change, call ≠ .actuator change := by
  rintro change rfl
  cases a with
  | can input =>
    rcases hpc : f.canPc with _ | _ | (_ | ⟨_ | _, events⟩) | _
    all_goals simp [vcuActs, hpc] at h
  | vcu => cases hpc : f.vcuPc <;> simp [vcuActs, hpc] at h
  | hmi input => cases hpc : f.hmiPc <;> simp [vcuActs, hpc] at h
  | lora | receive => simp [vcuActs] at h
  | chip change' => exact ha change' rfl

/-- **One action** that does not change the chip from outside drives the relays. -/
theorem drives_step (f : Firmware) {a : Action} (ha : ∀ change, a ≠ .chip change) :
    Drives f.vcu (step f a).vcu := by
  have hview := vcu_step f a
  rcases vcuActs_le_one f a with hnone | ⟨call, hcall⟩
  · rw [hnone] at hview
    rw [hview]
    exact .of_eq rfl rfl
  · have hmem : call ∈ vcuActs f a := by
      rw [hcall]
      exact List.mem_singleton.mpr rfl
    rw [hcall] at hview
    rw [hview]
    exact RelayActuatorAdapter.drives_step f.vcu (not_actuator_of_mem ha hmem)

theorem drives_exec (f : Firmware) {as : List Action} (has : ∀ change, .chip change ∉ as) :
    Drives f.vcu (exec step f as).vcu := by
  refine exec_invariant (fun g : Firmware => Drives f.vcu g.vcu) (fun g a ha h => ?_)
    (.of_eq rfl rfl)
  refine h.trans (drives_step g ?_)
  rintro change rfl
  exact has change ha

/-- Whatever happens to the chip, the driver knows what was commanded last. -/
theorem follows_after {b : BootInput} (hbus : ∀ n, b.succeeds n = true) (as : List Action) :
    Follows (after b as).vcu := by
  refine exec_invariant (fun f : Firmware => Follows f.vcu) (fun f a _ h => ?_) ?_
  · cases a with
    | chip change => exact RelayActuatorAdapter.follows_changeChip h change
    | can | vcu | hmi | lora | receive => exact (drives_step f (by simp)).follows h
  · have hboot := (RelayActuatorAdapter.follows_boot b.chip hbus b.eventQueueCreated
      b.mutexCreated).1
    exact ⟨hboot.faultFree, hboot.shadow⟩

theorem outputsMatch_booted {b : BootInput} (hbus : ∀ n, b.succeeds n = true) :
    OutputsMatch (booted b).vcu.s_relays :=
  (RelayActuatorAdapter.follows_boot b.chip hbus b.eventQueueCreated b.mutexCreated).2

/-- The driver knows what was commanded last, and the chip shows what the driver knows. -/
theorem energised_iff_of_follows {v : VcuLogic.Vcu RelayManager} (h : Follows v)
    (hmatch : OutputsMatch v.s_relays) {channel : ℕ} (hlt : channel < RELAY_TOTAL_CHANNELS) :
    Energised v.s_relays.chip channel ↔ lastContactorCommand v.commands = some .allOn := by
  rw [RelayActuatorAdapter.energised_iff hmatch hlt, h.shadow,
    RelayActuatorAdapter.testBit_commandedState v hlt]

/-- Relays that are commanded open are off, if the bus does not fail and nothing else has changed
the chip. -/
theorem not_energised_of_contactorsOpen {b : BootInput} (hbus : ∀ n, b.succeeds n = true)
    {as : List Action} (hchip : ∀ change, .chip change ∉ as)
    (hopen : ContactorsOpen (after b as).vcu) {channel : ℕ} (hlt : channel < RELAY_TOTAL_CHANNELS) :
    ¬Energised (after b as).vcu.s_relays.chip channel := by
  have hmatch := (drives_exec (booted b) hchip).shows (follows_after hbus [])
    (.inl (outputsMatch_booted hbus))
  rw [energised_iff_of_follows (follows_after hbus as) hmatch hlt]
  intro hon
  unfold ContactorsOpen at hopen
  rw [hon] at hopen
  cases hopen

/-- **The pins follow the commands.**  In every schedule, on a bus that does not fail: if the chip
has never been changed from outside, or a contactor command was issued since, each of the ten relays
is energised exactly when the last contactor command was `allOn`. -/
theorem pins_follow_commands (b : BootInput) (hbus : ∀ n, b.succeeds n = true)
    (pre post : List Action) (hchip : ∀ change, .chip change ∉ post)
    (hpre : pre = [] ∨
      contactorCommands (after b (pre ++ post)).vcu ≠ contactorCommands (after b pre).vcu)
    {channel : ℕ} (hlt : channel < RELAY_TOTAL_CHANNELS) :
    Energised (after b (pre ++ post)).vcu.s_relays.chip channel ↔
      lastContactorCommand (after b (pre ++ post)).vcu.commands = some .allOn := by
  refine energised_iff_of_follows (follows_after hbus _) ?_ hlt
  have hdrives := drives_exec (after b pre) hchip
  rw [← exec_append] at hdrives
  refine hdrives.shows (follows_after hbus pre) (hpre.imp_left ?_)
  rintro rfl
  exact outputsMatch_booted hbus

/-- On the bench all registers are cleared from outside in `READY`, and then the operator stops the
vehicle; once the contactors have been commanded open, the last relay is off. -/
theorem pins_follow_commands_on_bench :
    ¬Energised (after bench (startup ++ [.vcu, .chip fun _ => 0x00] ++
      [.receive [0x5A, 0x03, 0xFC], benchHmi, benchHmi, benchHmi, .vcu, .vcu, .vcu,
        .vcu])).vcu.s_relays.chip 9 := by
  rw [pins_follow_commands bench (fun _ => rfl) _ _ (by simp [benchHmi]) (.inr (by decide +kernel))
    (by decide)]
  decide +kernel

end TufanAks.Firmware
