import TufanAks.VcuLogic.Run

/-!
# The transition relation of `run`

`Ran act v v'` lists, one constructor per path through `run`, what a call can do from `v`, with
the guard of the path; `ran_run` says that `run` does one of these things.  Every invariant of the
state machine is a case analysis on `ran_run`, and `run` is not unfolded again.

The states on the way are named: `checked` is the state after the two pending flags were consumed
and the actuator verified, `polled` the state after the queue was left with the rest of it, and
`Passed` says that `run` got past the flags and the safety checks.
-/

namespace TufanAks.VcuLogic

variable {σ : Type*} (act : IRelayActuator σ)

/-! ### Field lemmas -/

section fields

variable (v : Vcu σ) (next : VcuState)

@[simp] theorem transitionTo_s_state : (transitionTo next v).s_state = next := by
  cases next <;> rfl

@[simp] theorem transitionTo_s_stateTimer : (transitionTo next v).s_stateTimer = 0 := by
  cases next <;> rfl

@[simp] theorem transitionTo_s_uptimeMs :
    (transitionTo next v).s_uptimeMs = v.s_uptimeMs := by
  cases next <;> rfl

@[simp] theorem transitionTo_commands : (transitionTo next v).commands = v.commands := by
  cases next <;> rfl

@[simp] theorem transitionTo_s_eventQueue :
    (transitionTo next v).s_eventQueue = v.s_eventQueue := by
  cases next <;> rfl

@[simp] theorem transitionTo_s_TEL_latestData :
    (transitionTo next v).s_TEL_latestData = v.s_TEL_latestData := by
  cases next <;> rfl

@[simp] theorem transitionTo_s_eStopPending :
    (transitionTo next v).s_eStopPending = v.s_eStopPending := by
  cases next <;> rfl

@[simp] theorem transitionTo_s_faultPending :
    (transitionTo next v).s_faultPending = v.s_faultPending := by
  cases next <;> rfl

@[simp] theorem transitionTo_s_relays : (transitionTo next v).s_relays = v.s_relays := by
  cases next <;> rfl

/-- Every transition forgets that an earlier visit opened the contactors. -/
@[simp] theorem relaysOpened_transitionTo : relaysOpened (transitionTo next v) = false := by
  cases next <;> rfl

/-- A safe state is entered with its log timer one second in the past. -/
theorem lastLogMs_transitionTo (h : next.safe) : lastLogMs (transitionTo next v) = -1000 := by
  rcases h with rfl | rfl
  · rfl
  · rfl

/-- Issuing commands only touches the actuator and the record of commands. -/
theorem issueAll_eq (cs : List Command) :
    issueAll act v cs
      = { v with s_relays := (issueAll act v cs).s_relays, commands := v.commands ++ cs } := by
  induction cs generalizing v with
  | nil => simp [issueAll]
  | cons c cs ih =>
    have h : issueAll act v (c :: cs) = issueAll act (issue act v c) cs := rfl
    rw [h, ih]
    simp [issue]

@[simp] theorem issueAll_commands (cs : List Command) :
    (issueAll act v cs).commands = v.commands ++ cs := by rw [issueAll_eq]

/-- The periodic state logic only issues commands and keeps the latches of the two safe states. -/
theorem periodic_eq :
    periodic act v
      = { v with
          s_relays := (periodic act v).s_relays
          commands := (periodic act v).commands
          s_relaysOpenedInEstop := (periodic act v).s_relaysOpenedInEstop
          s_relaysOpenedInFault := (periodic act v).s_relaysOpenedInFault
          s_lastEstopLogMs := (periodic act v).s_lastEstopLogMs
          s_lastFaultLogMs := (periodic act v).s_lastFaultLogMs } := by
  unfold periodic
  split
  · unfold handleReady
    split_ifs
    · rfl
    · rfl
  · unfold handleEmergencyStop
    dsimp only
    generalize (shutdownTick _ _ _ _).commands = cs
    rw [issueAll_eq act v cs]
  · unfold handleFault
    dsimp only
    generalize (shutdownTick _ _ _ _).commands = cs
    rw [issueAll_eq act v cs]
  · rfl

@[simp] theorem periodic_s_state : (periodic act v).s_state = v.s_state := by rw [periodic_eq]

@[simp] theorem periodic_s_eventQueue : (periodic act v).s_eventQueue = v.s_eventQueue := by
  rw [periodic_eq]

@[simp] theorem periodic_s_uptimeMs : (periodic act v).s_uptimeMs = v.s_uptimeMs := by
  rw [periodic_eq]

@[simp] theorem periodic_s_TEL_latestData :
    (periodic act v).s_TEL_latestData = v.s_TEL_latestData := by rw [periodic_eq]

@[simp] theorem periodic_s_eStopPending : (periodic act v).s_eStopPending = v.s_eStopPending := by
  rw [periodic_eq]

@[simp] theorem periodic_s_faultPending : (periodic act v).s_faultPending = v.s_faultPending := by
  rw [periodic_eq]

/-- What the handler of a safe state issues and latches. -/
theorem periodic_of_safe (h : v.s_state.safe) :
    let t := shutdownTick v.s_torqueSink v.s_stateTimer (relaysOpened v) (lastLogMs v)
    (periodic act v).commands = v.commands ++ t.commands ∧
      relaysOpened (periodic act v) = t.relaysOpened ∧
      lastLogMs (periodic act v) = t.lastLogMs := by
  rcases h with h | h
  · have hstate := periodic_s_state act v
    simp only [relaysOpened, lastLogMs, hstate, h]
    simp [periodic, h, handleEmergencyStop]
  · have hstate := periodic_s_state act v
    simp only [relaysOpened, lastLogMs, hstate, h]
    simp [periodic, h, handleFault]

/-- In `INIT`, `IDLE` and `DRIVE` the periodic logic does nothing. -/
theorem periodic_eq_self (hr : v.s_state ≠ .READY) (hs : ¬v.s_state.safe) :
    periodic act v = v := by
  unfold periodic
  split
  · rename_i h
    exact absurd h hr
  · rename_i h
    exact absurd (.inl h) hs
  · rename_i h
    exact absurd (.inr h) hs
  · rfl

@[simp] theorem handleReady_s_state : (handleReady act v).s_state = v.s_state := by
  unfold handleReady
  split_ifs
  · rfl
  · rfl

@[simp] theorem handleReady_s_eventQueue :
    (handleReady act v).s_eventQueue = v.s_eventQueue := by
  unfold handleReady
  split_ifs
  · rfl
  · rfl

@[simp] theorem handleReady_s_uptimeMs : (handleReady act v).s_uptimeMs = v.s_uptimeMs := by
  unfold handleReady
  split_ifs
  · rfl
  · rfl

/-- `logReadyReject` only touches its own two variables. -/
theorem logReadyReject_eq (reason : String) :
    ∃ r t, logReadyReject reason v
      = { v with s_lastReadyRejectReason := r, s_lastReadyRejectLogMs := t } := by
  unfold logReadyReject
  split_ifs
  · exact ⟨_, _, rfl⟩
  · exact ⟨_, _, rfl⟩

@[simp] theorem logReadyReject_s_state (reason : String) :
    (logReadyReject reason v).s_state = v.s_state := by
  obtain ⟨r, t, h⟩ := logReadyReject_eq v reason
  rw [h]

@[simp] theorem logReadyReject_s_eventQueue (reason : String) :
    (logReadyReject reason v).s_eventQueue = v.s_eventQueue := by
  obtain ⟨r, t, h⟩ := logReadyReject_eq v reason
  rw [h]

@[simp] theorem logReadyReject_s_relays (reason : String) :
    (logReadyReject reason v).s_relays = v.s_relays := by
  obtain ⟨r, t, h⟩ := logReadyReject_eq v reason
  rw [h]

@[simp] theorem logReadyReject_commands (reason : String) :
    (logReadyReject reason v).commands = v.commands := by
  obtain ⟨r, t, h⟩ := logReadyReject_eq v reason
  rw [h]

end fields

/-! ### The paths through `run` -/

/-- The state after the timers, the two pending flags and the actuator verification. -/
def checked (v : Vcu σ) : Vcu σ :=
  { v with
    s_stateTimer := v.s_stateTimer + TASK_PERIOD_MS
    s_uptimeMs := v.s_uptimeMs + TASK_PERIOD_MS
    s_eStopPending := false
    s_faultPending := false
    s_relays := act.verifyIfDue (v.s_uptimeMs + TASK_PERIOD_MS) v.s_relays }

/-- The state in which the polled event is handled, `queue` being what is left in the queue. -/
def polled (v : Vcu σ) (queue : Option (List VcuEvent)) : Vcu σ :=
  { logWarning (checked act v) with s_eventQueue := queue }

/-- `run` gets past the pending flags and the safety checks. -/
structure Passed (v : Vcu σ) : Prop where
  eStop : v.s_eStopPending = true → v.s_state = .EMERGENCY_STOP
  fault : v.s_faultPending = true → v.s_state = .FAULT
  actuator : v.s_state = .READY ∨ v.s_state = .DRIVE →
    act.hasActuatorFault (checked act v).s_relays = false
  critical : v.s_state = .IDLE ∨ v.s_state = .READY ∨ v.s_state = .DRIVE →
    hasCriticalCondition v.s_TEL_latestData v.s_state = false

/-- The polled event has no effect in state `s`. -/
def Ignored (s : VcuState) (event : VcuEvent) : Prop :=
  event ≠ .EMERGENCY_STOP ∧ event ≠ .FAULT_DETECTED ∧ ¬(event = .RESET ∧ s.safe) ∧
    ¬(event = .START_REQUEST ∧ s = .IDLE) ∧ ¬(event = .DRIVE_ENABLE ∧ s = .READY)

/-- The paths through `run`, with their guards and results. -/
inductive Ran (v : Vcu σ) : Vcu σ → Prop
  | eStopFlag (hp : v.s_eStopPending = true) (hs : v.s_state ≠ .EMERGENCY_STOP) :
      Ran v (transitionTo .EMERGENCY_STOP
        { v with
          s_stateTimer := v.s_stateTimer + TASK_PERIOD_MS
          s_uptimeMs := v.s_uptimeMs + TASK_PERIOD_MS
          s_eStopPending := false })
  | faultFlag (he : v.s_eStopPending = true → v.s_state = .EMERGENCY_STOP)
      (hp : v.s_faultPending = true) (hs : v.s_state ≠ .FAULT) :
      Ran v (transitionTo .FAULT
        { v with
          s_stateTimer := v.s_stateTimer + TASK_PERIOD_MS
          s_uptimeMs := v.s_uptimeMs + TASK_PERIOD_MS
          s_eStopPending := false
          s_faultPending := false })
  | actuatorFault (he : v.s_eStopPending = false) (hf : v.s_faultPending = false)
      (hs : v.s_state = .READY ∨ v.s_state = .DRIVE)
      (ha : act.hasActuatorFault (checked act v).s_relays = true) :
      Ran v (transitionTo .FAULT (checked act v))
  | critical (he : v.s_eStopPending = false) (hf : v.s_faultPending = false)
      (hs : v.s_state = .IDLE ∨ v.s_state = .READY ∨ v.s_state = .DRIVE)
      (hc : hasCriticalCondition v.s_TEL_latestData v.s_state = true) :
      Ran v (transitionTo .FAULT (checked act v))
  | queuedEStop (hp : Passed act v) {rest : List VcuEvent}
      (hq : v.s_eventQueue = some (.EMERGENCY_STOP :: rest)) :
      Ran v (transitionTo .EMERGENCY_STOP (polled act v (some rest)))
  | queuedFault (hp : Passed act v) {rest : List VcuEvent}
      (hq : v.s_eventQueue = some (.FAULT_DETECTED :: rest)) :
      Ran v (if v.s_state ≠ .FAULT then transitionTo .FAULT (polled act v (some rest))
        else polled act v (some rest))
  | resetRejected (hp : Passed act v) {rest : List VcuEvent}
      (hq : v.s_eventQueue = some (.RESET :: rest)) (hs : v.s_state.safe)
      (hi : isResetInterlockSatisfied v.s_TEL_latestData v.s_state = false) :
      Ran v (polled act v (some rest))
  | resetAccepted (hp : Passed act v) {rest : List VcuEvent}
      (hq : v.s_eventQueue = some (.RESET :: rest)) (hs : v.s_state.safe)
      (hi : isResetInterlockSatisfied v.s_TEL_latestData v.s_state = true) :
      Ran v (transitionTo .IDLE
        { polled act v (some rest) with
          s_relays := act.clearActuatorFault (checked act v).s_relays })
  | startAccepted (hp : Passed act v) {rest : List VcuEvent}
      (hq : v.s_eventQueue = some (.START_REQUEST :: rest)) (hs : v.s_state = .IDLE)
      (hi : isReadyEntryPermitted v.s_TEL_latestData = true)
      (hf : act.hasActuatorFault (checked act v).s_relays = false) :
      Ran v (handleReady act (transitionTo .READY (polled act v (some rest))))
  | startRejected (hp : Passed act v) {rest : List VcuEvent}
      (hq : v.s_eventQueue = some (.START_REQUEST :: rest)) (hs : v.s_state = .IDLE)
      (hn : ¬(isReadyEntryPermitted v.s_TEL_latestData = true ∧
        act.hasActuatorFault (checked act v).s_relays = false))
      (reason : String) :
      Ran v (logReadyReject reason (polled act v (some rest)))
  | driveEnable (hp : Passed act v) {rest : List VcuEvent}
      (hq : v.s_eventQueue = some (.DRIVE_ENABLE :: rest)) (hs : v.s_state = .READY) :
      Ran v (transitionTo .DRIVE (polled act v (some rest)))
  | ignored (hp : Passed act v) {event : VcuEvent} {rest : List VcuEvent}
      (hq : v.s_eventQueue = some (event :: rest)) (hi : Ignored v.s_state event) :
      Ran v (periodic act (polled act v (some rest)))
  | noEvent (hp : Passed act v) (hq : v.s_eventQueue = none ∨ v.s_eventQueue = some []) :
      Ran v (periodic act (polled act v v.s_eventQueue))

section polled

variable (v : Vcu σ) (queue : Option (List VcuEvent))

@[simp] theorem checked_s_state : (checked act v).s_state = v.s_state := rfl
@[simp] theorem checked_s_uptimeMs :
    (checked act v).s_uptimeMs = v.s_uptimeMs + TASK_PERIOD_MS := rfl
@[simp] theorem checked_commands : (checked act v).commands = v.commands := rfl
@[simp] theorem checked_s_eventQueue : (checked act v).s_eventQueue = v.s_eventQueue := rfl
@[simp] theorem checked_s_TEL_latestData :
    (checked act v).s_TEL_latestData = v.s_TEL_latestData := rfl

@[simp] theorem polled_s_state : (polled act v queue).s_state = v.s_state := rfl
@[simp] theorem polled_s_uptimeMs :
    (polled act v queue).s_uptimeMs = v.s_uptimeMs + TASK_PERIOD_MS := rfl
@[simp] theorem polled_commands : (polled act v queue).commands = v.commands := rfl
@[simp] theorem polled_s_eventQueue : (polled act v queue).s_eventQueue = queue := rfl
@[simp] theorem polled_s_stateTimer :
    (polled act v queue).s_stateTimer = v.s_stateTimer + TASK_PERIOD_MS := rfl
@[simp] theorem relaysOpened_polled : relaysOpened (polled act v queue) = relaysOpened v := rfl
@[simp] theorem lastLogMs_polled : lastLogMs (polled act v queue) = lastLogMs v := rfl
@[simp] theorem polled_s_torqueSink : (polled act v queue).s_torqueSink = v.s_torqueSink := rfl
@[simp] theorem polled_s_TEL_latestData :
    (polled act v queue).s_TEL_latestData = v.s_TEL_latestData := rfl
@[simp] theorem polled_s_eStopPending : (polled act v queue).s_eStopPending = false := rfl
@[simp] theorem polled_s_faultPending : (polled act v queue).s_faultPending = false := rfl
@[simp] theorem polled_s_relays :
    (polled act v queue).s_relays = (checked act v).s_relays := rfl

end polled

/-- `run` from the queue on takes one of the paths of `Ran`. -/
theorem ran_runEvents {v : Vcu σ} (hp : Passed act v) :
    Ran act v (runEvents act (logWarning (checked act v))) := by
  unfold runEvents pollEvent
  have hqueue : (logWarning (checked act v)).s_eventQueue = v.s_eventQueue := rfl
  rw [hqueue]
  rcases hq : v.s_eventQueue with _ | _ | ⟨event, rest⟩
  · -- no queue, or an empty one: only the periodic logic runs
    have h := Ran.noEvent hp (.inl hq)
    rw [hq] at h
    exact (congrArg (Ran act v) (congrArg (periodic act) (by rw [polled, ← hq]; rfl))).mp h
  · have h := Ran.noEvent hp (.inr hq)
    rw [hq] at h
    exact (congrArg (Ran act v) (congrArg (periodic act) (by rw [polled, ← hq]; rfl))).mp h
  · show Ran act v (if event = .EMERGENCY_STOP then _ else _)
    change Ran act v (if event = .EMERGENCY_STOP then
        transitionTo .EMERGENCY_STOP (polled act v (some rest))
      else if event = .FAULT_DETECTED then
        if v.s_state ≠ .FAULT then transitionTo .FAULT (polled act v (some rest))
        else polled act v (some rest)
      else if event = .RESET ∧ (v.s_state = .FAULT ∨ v.s_state = .EMERGENCY_STOP) then
        if isResetInterlockSatisfied v.s_TEL_latestData v.s_state = false then
          polled act v (some rest)
        else transitionTo .IDLE
          { polled act v (some rest) with
            s_relays := act.clearActuatorFault (checked act v).s_relays }
      else periodic act (handleEvent act event (polled act v (some rest))))
    split_ifs with h1 h2 h3 h4 h5
    · exact .queuedEStop hp (h1 ▸ hq)
    · have h := Ran.queuedFault hp (h2 ▸ hq)
      rwa [if_pos h3] at h
    · have h := Ran.queuedFault hp (h2 ▸ hq)
      rwa [if_neg h3] at h
    · exact .resetRejected hp (h4.1 ▸ hq) h4.2.symm h5
    · exact .resetAccepted hp (h4.1 ▸ hq) h4.2.symm (by simpa using h5)
    · -- what is left depends on the state: two events have an effect, the others are ignored
      by_cases hstart : v.s_state = .IDLE ∧ event = .START_REQUEST
      · obtain ⟨hs, rfl⟩ := hstart
        have hev : handleEvent act .START_REQUEST (polled act v (some rest))
            = if isReadyEntryPermitted v.s_TEL_latestData &&
                  !act.hasActuatorFault (checked act v).s_relays then
                transitionTo .READY (polled act v (some rest))
              else logReadyReject
                (if act.hasActuatorFault (checked act v).s_relays then "actuator fault"
                  else readyRejectReason v.s_TEL_latestData) (polled act v (some rest)) := by
          simp only [handleEvent, polled_s_state, hs]
          rfl
        rw [hev]
        -- the reason is only logged
        generalize (if act.hasActuatorFault (checked act v).s_relays then "actuator fault"
          else readyRejectReason v.s_TEL_latestData) = reason
        split_ifs with hok
        · rw [Bool.and_eq_true, Bool.not_eq_true'] at hok
          have h := Ran.startAccepted hp hq hs hok.1 hok.2
          simpa only [periodic, transitionTo_s_state] using h
        · obtain ⟨r, t, hlog⟩ := logReadyReject_eq (polled act v (some rest)) reason
          rw [Bool.and_eq_true, Bool.not_eq_true'] at hok
          have h := Ran.startRejected hp hq hs hok reason
          rw [hlog] at h ⊢
          simpa only [periodic, polled_s_state, hs] using h
      · by_cases hdrive : v.s_state = .READY ∧ event = .DRIVE_ENABLE
        · obtain ⟨hs, rfl⟩ := hdrive
          have h := Ran.driveEnable hp hq hs
          simpa only [handleEvent, periodic, polled_s_state, hs, transitionTo_s_state] using h
        · have hig : Ignored v.s_state event :=
            ⟨h1, h2, fun h => h4 ⟨h.1, h.2.symm⟩, fun h => hstart h.symm, fun h => hdrive h.symm⟩
          have hev : handleEvent act event (polled act v (some rest))
              = polled act v (some rest) := by
            unfold handleEvent
            rw [polled_s_state]
            split
            · rename_i hs
              exact absurd ⟨hs, rfl⟩ hstart
            · rename_i hs
              exact absurd ⟨hs, rfl⟩ hdrive
            · rfl
          rw [hev]
          exact .ignored hp hq hig

/-- **`run` refines the transition relation**: every call takes one of the paths of `Ran`. -/
theorem ran_run (v : Vcu σ) : Ran act v (run act v) := by
  unfold run
  dsimp only
  split_ifs with h1 h2
  · exact .eStopFlag h1.1 h1.2
  · exact .faultFlag (fun hp => by by_contra hs; exact h1 ⟨hp, hs⟩) h2.1 h2.2
  · have heStop : v.s_eStopPending = true → v.s_state = .EMERGENCY_STOP := by
      intro hp
      by_contra hs
      exact h1 ⟨hp, hs⟩
    have hfault : v.s_faultPending = true → v.s_state = .FAULT := by
      intro hp
      by_contra hs
      exact h2 ⟨hp, hs⟩
    -- outside the safe states neither flag can have been pending
    have hflags : ¬v.s_state.safe → v.s_eStopPending = false ∧ v.s_faultPending = false := by
      intro hs
      refine ⟨Bool.eq_false_iff.mpr fun hp => ?_, Bool.eq_false_iff.mpr fun hp => ?_⟩
      · exact hs (.inl (heStop hp))
      · exact hs (.inr (hfault hp))
    unfold runChecks
    dsimp only
    split_ifs with h3 h4
    · have hs : ¬v.s_state.safe := by
        rcases h3.1 with hs | hs <;> simp [VcuState.safe, hs]
      exact .actuatorFault (hflags hs).1 (hflags hs).2 h3.1 h3.2
    · have hs : ¬v.s_state.safe := by
        rcases h4.1 with hs | hs | hs <;> simp [VcuState.safe, hs]
      exact .critical (hflags hs).1 (hflags hs).2 h4.1 h4.2
    · refine ran_runEvents act ⟨heStop, hfault, ?_, ?_⟩
      · intro hs
        exact Bool.eq_false_iff.mpr fun hf => h3 ⟨hs, hf⟩
      · intro hs
        exact Bool.eq_false_iff.mpr fun hc => h4 ⟨hs, hc⟩

end TufanAks.VcuLogic
