import TufanAks.AppMain.Equiv.Contactors
import TufanAks.VcuLogic.Equiv.Latched

/-!
# Stops

A stop is asked for by the operator, with a frame that the display task recognises, or by the CAN
task, which passes on a fault.  Neither waits in the queue.  The next `run` leads to a safe state
(`stopped_of_run`), which is not left until a `RESET` frame is recognised; the contactors open in
the first `run` after that which finds no request for the other safe state
(`contactors_open_after_stop`).
-/

namespace TufanAks.Firmware

open Machine
open RelayActuatorAdapter (relayActuator)
open VcuLogic (StopOrdered Opening ContactorsOpen FlagsStay)

/-! ### Commands that arrive -/

/-- The display task recognises the command `c`. -/
def Recognises (c : UInt8) (f : Firmware) (a : Action) : Prop :=
  ∃ input, a = .hmi input ∧ f.hmiPc = .readTouchCommand ∧
    f.HMI_display.readTouchCommand.1 = some c

/-- A stop is asked for: the emergency stop of the operator, or a fault that the CAN task passes
on. -/
def AsksForStop (f : Firmware) (a : Action) : Prop :=
  Recognises HMI_CMD_EMERGENCY_STOP f a ∨
    ∃ input events, a = .can input ∧ f.canPc = .notify (.FAULT_DETECTED :: events)

/-- Only the display task posts a `RESET`, when it recognises one. -/
theorem recognises_of_reset {f : Firmware} {a : Action}
    (h : .postEvent .RESET ∈ vcuActs f a) : Recognises HMI_CMD_RESET f a := by
  cases a with
  | can input =>
    rcases hpc : f.canPc with _ | _ | (_ | ⟨_ | _, events⟩) | _
    all_goals simp [vcuActs, hpc] at h
  | vcu => cases hpc : f.vcuPc <;> simp [vcuActs, hpc] at h
  | hmi input =>
    cases hpc : f.hmiPc with
    | readTouchCommand =>
      refine ⟨input, rfl, hpc, ?_⟩
      simp only [vcuActs, hpc, List.mem_map, Option.mem_toList, VcuLogic.Action.postEvent.injEq,
        exists_eq_right] at h
      obtain ⟨c, hc, hevent⟩ := Option.bind_eq_some_iff.mp h
      rw [hc]
      unfold commandEvent at hevent
      split_ifs at hevent with h1 h2 h3 h4 <;> simp_all
    | _ => simp [vcuActs, hpc] at h
  | lora | receive | chip => simp [vcuActs] at h

/-- The request sets its flag. -/
theorem vcu_of_asksForStop {f : Firmware} {a : Action} (h : AsksForStop f a) :
    (step f a).vcu = VcuLogic.postEvent .EMERGENCY_STOP f.vcu ∨
      (step f a).vcu = VcuLogic.postEvent .FAULT_DETECTED f.vcu := by
  rcases h with ⟨input, rfl, hpc, hc⟩ | ⟨input, events, rfl, hpc⟩
  · left
    have hevent : commandEvent HMI_CMD_EMERGENCY_STOP = some .EMERGENCY_STOP := by decide
    simp [step, hmiStep, hpc, hc, hevent]
  · right
    simp [step, canStep, hpc, CAN_handleEvent]

/-- The event queue is created once and for all. -/
theorem eventQueue_ne_none {b : BootInput} (hb : b.eventQueueCreated = true) (as : List Action) :
    (after b as).vcu.s_eventQueue ≠ none := by
  have hbooted : (booted b).vcu.s_eventQueue ≠ none := by
    obtain ⟨_, _, _, m, _, _, _⟩ := b
    obtain rfl : _ = true := hb
    cases m <;> simp [booted, RelayActuatorAdapter.boot, VcuLogic.init, VcuLogic.setTorqueSink,
      VcuLogic.issue, VcuLogic.transitionTo]
  refine vcuComponent.invariant (fun v => v.s_eventQueue ≠ none) (fun v call h => ?_) hbooted as
  by_cases hrun : call = .run
  · subst hrun
    exact VcuLogic.queue_run h
  · obtain ⟨-, -, hnone⟩ := @VcuLogic.step_flags_of_ne_run _ relayActuator v _ hrun
    exact fun h' => h (hnone.mp h')

/-! ### The stop is answered -/

theorem stopOrdered_of_asksForStop {b : BootInput} (hb : b.eventQueueCreated = true)
    {pre : List Action} {a : Action} (hreset : .RESET ∉ VcuLogic.queued (after b pre).vcu)
    (hstop : AsksForStop (after b pre) a) : StopOrdered (after b (pre ++ [a])).vcu := by
  have hqueue := eventQueue_ne_none hb pre
  have hreachable := reachable_vcu b (pre ++ [a])
  rw [show after b (pre ++ [a]) = step (after b pre) a from exec_concat _ _ _] at hreachable ⊢
  obtain ⟨queue, hq⟩ := Option.ne_none_iff_exists'.mp hqueue
  rcases vcu_of_asksForStop hstop with hvcu | hvcu
  all_goals
    rw [hvcu] at hreachable ⊢
    refine ⟨hreachable, ?_, ?_, ?_⟩
    · simp [VcuLogic.postEvent, hq]
    · simpa [VcuLogic.queued, VcuLogic.postEvent, hq] using hreset
    · simp [VcuLogic.postEvent, hq]

/-- An invariant of the state machine that every call but the posting of a `RESET` keeps is kept by
every action that does not recognise one. -/
theorem vcu_step_of_not_reset {Inv : VcuLogic.Vcu RelayManager → Prop}
    (hInv : ∀ v call, Inv v → call ≠ .postEvent .RESET → Inv (VcuLogic.step relayActuator v call))
    {f : Firmware} {a : Action} (h : Inv f.vcu) (hno : ¬Recognises HMI_CMD_RESET f a) :
    Inv (step f a).vcu := by
  rw [vcu_step]
  have hne : .postEvent .RESET ∉ vcuActs f a := fun hmem => hno (recognises_of_reset hmem)
  rcases vcuActs_le_one f a with hnone | ⟨call, hcall⟩
  · rw [hnone]
    exact h
  · rw [hcall, List.mem_singleton] at hne
    rw [hcall]
    exact hInv _ _ h (Ne.symm hne)

/-- The invariant along a run. -/
theorem vcu_exec_of_not_reset {Inv : VcuLogic.Vcu RelayManager → Prop}
    (hInv : ∀ v call, Inv v → call ≠ .postEvent .RESET → Inv (VcuLogic.step relayActuator v call))
    {f : Firmware} (h : Inv f.vcu) {as : List Action}
    (hno : Along step (fun f a => ¬Recognises HMI_CMD_RESET f a) f as) :
    Inv (exec step f as).vcu :=
  exec_invariant_of_along (fun f : Firmware => Inv f.vcu)
    (fun _ _ hf ha => vcu_step_of_not_reset hInv hf ha) h hno

/-- A stop is ordered, and nothing has closed the contactors since the commands `before`. -/
def Unclosed (before : List VcuLogic.Command) (v : VcuLogic.Vcu RelayManager) : Prop :=
  StopOrdered v ∧ ∃ issued, v.commands = before ++ issued ∧ .allOn ∉ issued

theorem unclosed_step {before : List VcuLogic.Command} {v : VcuLogic.Vcu RelayManager}
    {call : VcuLogic.Action RelayManager} (h : Unclosed before v)
    (hne : call ≠ .postEvent .RESET) : Unclosed before (VcuLogic.step relayActuator v call) := by
  obtain ⟨hordered, issued, hissued, hnot⟩ := h
  obtain ⟨new, hnew, hclosed⟩ := @StopOrdered.commands_step _ relayActuator _ hordered call
  refine ⟨hordered.step hne, issued ++ new, ?_, ?_⟩
  · rw [hnew, hissued, List.append_assoc]
  · rw [List.mem_append, not_or]
    exact ⟨hnot, hclosed⟩

/-- The stop has been answered. -/
def Stopped (v : VcuLogic.Vcu RelayManager) : Prop := StopOrdered v ∧ v.s_state.safe

theorem stopped_step {v : VcuLogic.Vcu RelayManager} {call : VcuLogic.Action RelayManager}
    (h : Stopped v) (hne : call ≠ .postEvent .RESET) :
    Stopped (VcuLogic.step relayActuator v call) := by
  refine ⟨h.1.step hne, ?_⟩
  by_cases hrun : call = .run
  · subst hrun
    exact h.1.safe_run
  · rw [VcuLogic.step_s_state_of_ne_run relayActuator v hrun]
    exact h.2

/-- The next `run` answers the stop. -/
theorem stopped_of_run {f : Firmware} (h : StopOrdered f.vcu) (hpc : f.vcuPc = .run)
    {rest : List Action} (hno : Along step (fun f a => ¬Recognises HMI_CMD_RESET f a) f
      (.vcu :: rest)) : Stopped (exec step f (.vcu :: rest)).vcu := by
  have hrun : (step f .vcu).vcu = VcuLogic.run relayActuator f.vcu := by
    simp [step, vcuStep, hpc]
  have hstopped : Stopped (step f .vcu).vcu := by
    rw [hrun]
    exact ⟨h.step (a := .run) (by simp), h.safe_run⟩
  rw [exec_cons]
  exact vcu_exec_of_not_reset (fun _ _ h hne => stopped_step h hne) hstopped hno.2

/-! ### The contactors open -/

theorem opening_of_asksForStop {b : BootInput} (hb : b.eventQueueCreated = true)
    {pre : List Action} {a : Action} (hlive : ¬(after b pre).vcu.s_state.safe)
    (hreset : .RESET ∉ VcuLogic.queued (after b pre).vcu)
    (hstop : AsksForStop (after b pre) a) : Opening (after b (pre ++ [a])).vcu := by
  refine ⟨stopOrdered_of_asksForStop hb hreset hstop, fun hsafe => absurd ?_ hlive⟩
  rw [show after b (pre ++ [a]) = step (after b pre) a from exec_concat _ _ _] at hsafe
  rcases vcu_of_asksForStop hstop with hvcu | hvcu
  all_goals
    rw [hvcu] at hsafe
    rwa [← VcuLogic.step_s_state_of_ne_run relayActuator _ (a := .postEvent _) (by simp)]

/-- The contactors have been opened after a stop. -/
def Opened (v : VcuLogic.Vcu RelayManager) : Prop := Opening v ∧ ContactorsOpen v

theorem opened_step {v : VcuLogic.Vcu RelayManager} {call : VcuLogic.Action RelayManager}
    (h : Opened v) (hne : call ≠ .postEvent .RESET) :
    Opened (VcuLogic.step relayActuator v call) :=
  ⟨(h.1.step hne).1, (h.1.step hne).2 h.2⟩

end TufanAks.Firmware
