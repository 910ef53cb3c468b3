import TufanAks.AppMain.Equiv.Components
import TufanAks.DisplayHMI.Equiv.Soundness
import TufanAks.VcuLogic.Equiv.Intake

/-!
# The operator is in charge

The state machine takes its events from a queue, the display task posts them, and the display task
has them from frames in a byte stream.  Every entry into `READY`, every entry into `DRIVE` and every
exit from a safe state uses up a frame of its own: `guarded_by_frames` follows such a transition
back to the bytes, for every schedule.
-/

namespace TufanAks.Firmware

open Machine
open DisplayHMI (Framed received)
open VcuLogic (VcuEvent)
open RelayActuatorAdapter (relayActuator)

/-! ### Frames in what has arrived -/

/-- A display that has been started is one that has been started once, and then used. -/
theorem eq_fresh_or_afterBegin (acts : List DisplayHMI.Action) :
    DisplayHMI.after acts = {} ∨
      ∃ pre rest, acts = pre ++ .begin true :: rest ∧
        DisplayHMI.after acts = DisplayHMI.afterBegin rest := by
  induction acts using List.reverseRecOn with
  | nil => exact .inl rfl
  | append_singleton acts a ih =>
    have hstep : DisplayHMI.after (acts ++ [a]) = DisplayHMI.step (DisplayHMI.after acts) a :=
      exec_concat _ _ _
    rcases ih with hfresh | ⟨pre, rest, hacts, hafter⟩
    · rw [hstep, hfresh]
      cases a with
      | begin driverInstalled =>
        cases driverInstalled with
        | false => exact .inl rfl
        | true => exact .inr ⟨acts, [], rfl, rfl⟩
      | receive bytes => exact .inl rfl
      | readTouchCommand => exact .inl rfl
    · refine .inr ⟨pre, rest ++ [a], by rw [hacts]; simp, ?_⟩
      rw [hstep, hafter]
      exact (exec_concat _ _ _).symm

/-- More bytes in front do no harm. -/
theorem framed_prepend {bytes cs : List UInt8} (h : Framed bytes cs) (before : List UInt8) :
    Framed (before ++ bytes) cs := by
  cases cs with
  | nil => trivial
  | cons c cs =>
    obtain ⟨gap, rest, rfl, hrest⟩ := h
    exact ⟨before ++ gap, rest, by simp only [List.append_assoc], hrest⟩

/-- The frames of the commands that the display has returned lie in what has arrived. -/
theorem framed_commands (acts : List DisplayHMI.Action) :
    Framed (received acts) (DisplayHMI.after acts).commands := by
  rcases eq_fresh_or_afterBegin acts with hfresh | ⟨pre, rest, rfl, hafter⟩
  · rw [hfresh]
    trivial
  · obtain ⟨-, bs, hreceived, -, hcommands⟩ := DisplayHMI.afterBegin_spec rest
    have hsplit : received (pre ++ .begin true :: rest) =
        received pre ++ (bs ++ (DisplayHMI.afterBegin rest).rx) := by
      rw [← hreceived]
      simp [received]
    rw [hsplit, hafter, hcommands]
    exact framed_prepend (DisplayHMI.framed_append (DisplayHMI.framed_completed bs) _) _

/-! ### From commands to events -/

/-- The bytes that arrive from the display during a run. -/
def arrived (as : List Action) : List UInt8 :=
  as.flatMap fun
    | .receive bytes => bytes
    | _ => []

theorem received_displayActs (f : Firmware) (a : Action) :
    received (displayActs f a) = arrived [a] := by
  cases a with
  | hmi input => cases hpc : f.hmiPc <;> simp [displayActs, hpc, received, arrived]
  | can | vcu | lora | receive | chip => simp [displayActs, received, arrived]

theorem received_displayCalls (b : BootInput) (as : List Action) :
    received (displayCalls b as) = arrived as := by
  induction as using List.reverseRecOn with
  | nil => rfl
  | append_singleton as a ih =>
    have hconcat := displayComponent.trace_concat (booted b) as a
    have hacts := received_displayActs (exec step (booted b) as) a
    unfold received at ih hacts ⊢
    rw [displayCalls, hconcat, List.flatMap_append, ← displayCalls, ih]
    rw [show displayComponent.acts = displayActs from rfl, hacts]
    simp [arrived]

/-- The events that commands put into the queue: all but the emergency stop. -/
def queuedEvents (cs : List UInt8) : List VcuEvent :=
  (cs.filterMap commandEvent).filter (· ≠ .EMERGENCY_STOP)

theorem queuedEvents_append (cs ds : List UInt8) :
    queuedEvents (cs ++ ds) = queuedEvents cs ++ queuedEvents ds := by
  simp [queuedEvents, List.filterMap_append]

/-- A touch command is turned into a call, which offers its event to the queue. -/
theorem offers_of_command (c : Option UInt8) :
    ((c.bind commandEvent).toList.map
      (@VcuLogic.Action.postEvent RelayManager)).filterMap VcuLogic.Action.offers =
      queuedEvents c.toList := by
  cases c with
  | none => rfl
  | some c =>
    simp only [Option.bind_some, Option.toList_some, queuedEvents]
    unfold commandEvent
    split_ifs <;> simp_all [VcuLogic.Action.offers]

/-- The calls of one action offer what its touch command asks for. -/
theorem offers_step (f : Firmware) (a : Action) :
    ∃ new, (step f a).HMI_display.commands = f.HMI_display.commands ++ new ∧
      (vcuActs f a).filterMap VcuLogic.Action.offers = queuedEvents new := by
  cases a with
  | can input =>
    refine ⟨[], ?_, ?_⟩
    · rw [display_step]
      simp [displayActs]
    · rcases hpc : f.canPc with _ | _ | (_ | ⟨_ | _, events⟩) | _
      all_goals simp [vcuActs, hpc, queuedEvents, VcuLogic.Action.offers]
  | vcu =>
    refine ⟨[], ?_, ?_⟩
    · rw [display_step]
      simp [displayActs]
    · cases hpc : f.vcuPc with
      | peek =>
        cases hqueue : f.TEL_sensorDataQueue <;>
          simp [vcuActs, hpc, hqueue, queuedEvents, VcuLogic.Action.offers]
      | run => simp [vcuActs, hpc, queuedEvents, VcuLogic.Action.offers]
  | hmi input =>
    cases hpc : f.hmiPc with
    | readTouchCommand =>
      refine ⟨f.HMI_display.readTouchCommand.1.toList, ?_, ?_⟩
      · simp [step, hmiStep, hpc, DisplayHMI.step]
      · simp only [vcuActs, hpc]
        exact offers_of_command _
    | begin retry_count =>
      refine ⟨[], ?_, by simp [vcuActs, hpc, queuedEvents]⟩
      simp only [step, hmiStep, hpc, DisplayHMI.begin]
      split_ifs <;> simp
    | updateScreen | buildBmsNextionCommands | degraded =>
      exact ⟨[], by simp [step, hmiStep, hpc], by simp [vcuActs, hpc, queuedEvents]⟩
  | lora input =>
    refine ⟨[], ?_, by simp [vcuActs, queuedEvents]⟩
    rw [display_step]
    simp [displayActs]
  | receive bytes =>
    refine ⟨[], ?_, by simp [vcuActs, queuedEvents]⟩
    simp only [step, DisplayHMI.step]
    split_ifs <;> simp
  | chip change =>
    exact ⟨[], by simp [step], by simp [vcuActs, queuedEvents, VcuLogic.Action.offers]⟩

/-- The calls into the state machine during a run. -/
abbrev vcuCalls (b : BootInput) (as : List Action) : List (VcuLogic.Action RelayManager) :=
  vcuComponent.trace (booted b) as

/-- What is offered to the queue during a run are the events of the commands recognised. -/
theorem offers_vcuCalls (b : BootInput) (as : List Action) :
    (vcuCalls b as).filterMap VcuLogic.Action.offers =
      queuedEvents (after b as).HMI_display.commands := by
  induction as using List.reverseRecOn with
  | nil => rfl
  | append_singleton as a ih =>
    obtain ⟨new, hcommands, hoffers⟩ := offers_step (after b as) a
    rw [vcuCalls, vcuComponent.trace_concat, List.filterMap_append, ih]
    rw [show after b (as ++ [a]) = step (after b as) a from exec_concat _ _ _, hcommands,
      queuedEvents_append, ← hoffers]
    rfl

/-! ### From bytes to transitions -/

/-- The events that the guarded transitions of a run have asked for. -/
def guardedEvents (b : BootInput) (as : List Action) : List VcuEvent :=
  observe (VcuLogic.step relayActuator) (VcuLogic.guarded relayActuator) (booted b).vcu
    (vcuCalls b as)

theorem queued_booted (b : BootInput) : VcuLogic.queued (booted b).vcu = [] :=
  VcuLogic.queued_init relayActuator b.eventQueueCreated b.mutexCreated _

/-- **The operator is in charge.**  In every schedule, the bytes that have arrived from the display
hold the frames of some commands, one after the other, such that the events of the guarded
transitions are among the events of these commands, in the same order: no transition into `READY`,
into `DRIVE` or out of a safe state without a frame of its own. -/
theorem guarded_by_frames (b : BootInput) (as : List Action) :
    ∃ cs, Framed (arrived as) cs ∧ (guardedEvents b as).Sublist (cs.filterMap commandEvent) := by
  refine ⟨(after b as).HMI_display.commands, ?_, ?_⟩
  · rw [display_after, ← received_displayCalls b]
    exact framed_commands _
  · have hguarded := VcuLogic.guarded_sublist relayActuator (booted b).vcu (vcuCalls b as)
    have htaken := VcuLogic.taken_append_queued_sublist relayActuator (booted b).vcu (vcuCalls b as)
    rw [queued_booted, List.nil_append, offers_vcuCalls] at htaken
    have hqueued := (List.sublist_append_left _ _).trans htaken
    exact hguarded.trans (hqueued.trans List.filter_sublist)

end TufanAks.Firmware
