import TufanAks.AppMain.Equiv.EmergencyStop
import TufanAks.CanManager.Equiv.FaultEvents

/-!
# Faults on their way

A fault that the CAN manager finds in a frame goes through the callback to the state machine, while
the record of the frame goes through the queue.  No fault is lost or passed on twice, a record is
published only when the faults found before it have been passed on, and a fault that was passed on
is answered by the next `run` that starts in a live state, whatever is queued there
(`faults_delivered`).
-/

namespace TufanAks

/-- The events that are still to be passed on. -/
def CanPc.pending : CanPc → List CAN_Event
  | .notify events => events
  | _ => []

namespace Firmware

open Machine
open RelayActuatorAdapter (relayActuator)

/-! ### The events of the manager -/

/-- A received frame adds to the events at most. -/
theorem events_handleMessage (msg : twai_message_t) (tick : UInt32) (c : CanManager) :
    c.events <+: (c.handleMessage msg tick).events := by
  by_cases hmotor : CanManager.acceptedAs msg = some .motor
  · have h := CanManager.dispatched msg tick c
    rw [hmotor] at h
    generalize c.handleMessage msg tick = c' at h
    cases h with
    | motor =>
      unfold CanManager.handleMotorStatus
      cases CanParse.parseMotorStatus msg with
      | none => exact List.prefix_refl _
      | some parsed =>
        dsimp only
        by_cases hmutex : (!c.s_mutex) = true
        · rw [if_pos hmutex]
        · rw [if_neg hmutex, CanManager.notifyFaultIfNeeded_eq_reported]
          exact List.prefix_append _ _
  by_cases hE000 : CanManager.acceptedAs msg = some .bmsE000
  · have h := CanManager.dispatched msg tick c
    rw [hE000] at h
    generalize c.handleMessage msg tick = c' at h
    cases h with
    | bmsE000 =>
      unfold CanManager.handleLbBmsE000
      split_ifs
      · exact List.prefix_refl _
      · cases CanParse.parseLbBmsE000 msg {} with
        | none => exact List.prefix_refl _
        | some parsed =>
          dsimp only
          rw [CanManager.notifyFaultIfNeeded_eq_reported]
          exact List.prefix_append _ _
  · have hsame : CanManager.SameFaults c (c.handleMessage msg tick) :=
      CanManager.sameFaults_handleMessage hmotor hE000
    rw [show (c.handleMessage msg tick).events = c.events from
      congrArg CanManager.FaultView.events hsame]

/-- **A poll** adds to the events at most. -/
theorem events_processRxMessages (p : CanManager.Poll) (c : CanManager) :
    c.events <+: (c.processRxMessages p).events := by
  have hparts := CanManager.exec_parts c (.processRxMessages p)
  rw [show c.processRxMessages p = CanManager.step c (.processRxMessages p) from rfl, ← hparts]
  refine exec_invariant (fun c' : CanManager => c.events <+: c'.events)
    (fun c' part _ h => h.trans ?_) (List.prefix_refl _)
  cases hframe : part.isFrame with
  | false =>
    have hsame := CanManager.sameFaults_perform hframe c'
    rw [show (CanManager.perform c' part).events = c'.events from
      congrArg CanManager.FaultView.events hsame]
  | true =>
    cases part with
    | frame msg tick => exact events_handleMessage msg tick c'
    | _ => cases hframe

/-! ### Conservation -/

/-- The event that an action passes on. -/
def passedOn (f : Firmware) : Action → Option CAN_Event
  | .can _ =>
    match f.canPc with
    | .notify (CAN_event :: _) => some CAN_event
    | _ => none
  | _ => none

/-- The events that were passed on during a run. -/
def passedOnEvents (b : BootInput) (as : List Action) : List CAN_Event :=
  observe step passedOn (booted b) as

/-- **One step**: what was found is what was passed on, and what is pending. -/
theorem events_step {f : Firmware} {before : List CAN_Event}
    (h : f.can.events = before ++ f.canPc.pending) (a : Action) :
    (step f a).can.events = before ++ (passedOn f a).toList ++ (step f a).canPc.pending := by
  cases a with
  | can input =>
    rcases hpc : f.canPc with _ | _ | (_ | ⟨event, events⟩) | _
    · -- the start
      rw [hpc] at h
      have hbegin : ∀ c : CanManager, ∀ m d, (c.begin m d).events = c.events := by
        intro c m d
        unfold CanManager.begin
        split_ifs <;> rfl
      have hpending : (step f (.can input)).canPc.pending = [] := by
        simp only [step, canStep, hpc]
        split_ifs <;> rfl
      rw [hpending]
      simpa [step, canStep, hpc, passedOn, hbegin, CanManager.setEventCallback,
        CanPc.pending] using h
    · -- a poll
      rw [hpc] at h
      have hbefore : f.can.events = before := by simpa [CanPc.pending] using h
      obtain ⟨new, hnew⟩ := events_processRxMessages input.poll f.can
      simp [step, canStep, hpc, passedOn, CanPc.pending, ← hnew, hbefore]
    · rw [hpc] at h
      simpa [step, canStep, hpc, passedOn, CanPc.pending] using h
    · rw [hpc] at h
      cases event <;> simpa [step, canStep, hpc, passedOn, CanPc.pending, CAN_handleEvent] using h
    · rw [hpc] at h
      simpa [step, canStep, hpc, passedOn, CanPc.pending] using h
  | vcu => cases hpc : f.vcuPc <;> simpa [step, vcuStep, passedOn, hpc] using h
  | hmi input => cases hpc : f.hmiPc <;> simpa [step, hmiStep, passedOn, hpc] using h
  | lora input => cases hpc : f.loraPc <;> simpa [step, loraStep, passedOn, hpc] using h
  | receive | chip => simpa [step, passedOn] using h

/-- **Conservation** along a run. -/
theorem events_after (b : BootInput) (as : List Action) :
    (after b as).can.events = passedOnEvents b as ++ (after b as).canPc.pending := by
  induction as using List.reverseRecOn with
  | nil => rfl
  | append_singleton as a ih =>
    rw [passedOnEvents, observe_concat, ← passedOnEvents]
    rw [show after b (as ++ [a]) = step (after b as) a from exec_concat _ _ _]
    exact events_step ih a

/-- Nothing is pending when a record is published. -/
theorem pending_of_published {f : Firmware} {a : Action} (h : published f a ≠ none) :
    f.canPc.pending = [] := by
  cases a with
  | can input => rcases hpc : f.canPc with _ | _ | (_ | ⟨_, events⟩) | _ <;>
      simp_all [published, CanPc.pending]
  | vcu | hmi | lora | receive | chip => simp [published] at h

/-! ### The answer -/

/-- The action is a call of `run`. -/
def IsRun (f : Firmware) (a : Action) : Prop := a = .vcu ∧ f.vcuPc = .run

/-- A pending fault stays pending until the next `run`. -/
theorem faultPending_step {f : Firmware} {a : Action} (h : f.vcu.s_faultPending = true)
    (hno : ¬IsRun f a) : (step f a).vcu.s_faultPending = true := by
  rw [vcu_step]
  rcases vcuActs_le_one f a with hnone | ⟨call, hcall⟩
  · rw [hnone]
    exact h
  · rw [hcall]
    refine (@VcuLogic.step_flags_of_ne_run _ relayActuator f.vcu call ?_).2.1 h
    rintro rfl
    refine hno ?_
    cases a with
    | can input =>
      rcases hpc : f.canPc with _ | _ | (_ | ⟨_ | _, events⟩) | _
      all_goals simp [vcuActs, hpc] at hcall
    | vcu =>
      cases hpc : f.vcuPc with
      | run => exact ⟨rfl, hpc⟩
      | peek => cases hqueue : f.TEL_sensorDataQueue <;> simp [vcuActs, hpc, hqueue] at hcall
    | hmi input =>
      cases hpc : f.hmiPc with
      | readTouchCommand =>
        cases hevent : f.HMI_display.readTouchCommand.1.bind commandEvent <;>
          simp [vcuActs, hpc, hevent] at hcall
      | _ => simp [vcuActs, hpc] at hcall
    | lora | receive | chip => simp [vcuActs] at hcall

/-- **Faults are delivered.**  In every schedule: the faults that the CAN manager has found are
those that were passed on to the state machine, each once and in order, followed by those still to
be passed on; when a record is published, all faults found so far have been passed on; and the first
`run` after a fault was passed on, if it starts outside the safe states, enters one of them. -/
theorem faults_delivered (b : BootInput) (hb : b.eventQueueCreated = true) (as : List Action) :
    (after b as).can.events = passedOnEvents b as ++ (after b as).canPc.pending ∧
      (∀ pre a post, as = pre ++ a :: post → published (after b pre) a ≠ none →
        (after b pre).can.events = passedOnEvents b pre) ∧
      ∀ pre a mid post, as = pre ++ a :: mid ++ .vcu :: post →
        passedOn (after b pre) a = some .FAULT_DETECTED →
        Along step (fun f a => ¬IsRun f a) (after b (pre ++ [a])) mid →
        (after b (pre ++ a :: mid)).vcuPc = .run → ¬(after b (pre ++ a :: mid)).vcu.s_state.safe →
        (after b (pre ++ a :: mid ++ [.vcu])).vcu.s_state.safe := by
  refine ⟨events_after b as, fun pre a post _ hpublished => ?_, ?_⟩
  · have hpre := events_after b pre
    rwa [pending_of_published hpublished, List.append_nil] at hpre
  · intro pre a mid post _ hpassed hquiet hpc hlive
    have hposted : (after b (pre ++ [a])).vcu.s_faultPending = true := by
      rw [show after b (pre ++ [a]) = step (after b pre) a from exec_concat _ _ _]
      obtain ⟨queue, hq⟩ := Option.ne_none_iff_exists'.mp (eventQueue_ne_none hb pre)
      cases a with
      | can input =>
        rcases hcan : (after b pre).canPc with _ | _ | (_ | ⟨_ | _, events⟩) | _
        all_goals simp [passedOn, hcan] at hpassed
        simp [step, canStep, hcan, CAN_handleEvent, VcuLogic.postEvent, hq]
      | vcu | hmi | lora | receive | chip => simp [passedOn] at hpassed
    have hpending : (after b (pre ++ a :: mid)).vcu.s_faultPending = true := by
      have hrun := exec_invariant_of_along (fun f : Firmware => f.vcu.s_faultPending = true)
        (fun _ _ hf ha => faultPending_step hf ha) hposted hquiet
      rwa [← exec_append, List.append_assoc, List.singleton_append] at hrun
    rw [show after b (pre ++ a :: mid ++ [.vcu]) = step (after b (pre ++ a :: mid)) .vcu from
      exec_concat _ _ _]
    simp only [step, vcuStep, hpc]
    exact VcuLogic.safe_run_of_pending hlive (.inr hpending)

/-- A poll that finds the pack at 200 V. -/
def overvoltage : Action :=
  .can
    { poll :=
        { benchPoll with
          receptions := [⟨.message (benchFrame CAN_ID_LB_BMS_E000 fun i =>
            [0, 0, 7, 208, 19, 136, 19, 136].getD i 0), 10⟩] }
      us := 20000 }

/-- On the bench the fault is answered before its record is looked at. -/
theorem faults_delivered_on_bench :
    (after bench ([benchCan, overvoltage] ++ benchCan :: [.vcu] ++ [.vcu])).vcu.s_state.safe := by
  refine (faults_delivered bench rfl ([benchCan, overvoltage] ++ benchCan :: [.vcu] ++
    [.vcu])).2.2 [benchCan, overvoltage] benchCan [.vcu] [] rfl ?_ ⟨?_, trivial⟩ ?_ ?_
  · decide +kernel
  · exact fun h => absurd h.2 (by decide +kernel)
  · decide +kernel
  · decide +kernel

end Firmware

end TufanAks
