import TufanAks.VcuLogic.Equiv.Interlocks
import TufanAks.VcuLogic.Equiv.Requests
import TufanAks.VcuLogic.Equiv.ResetOrder
import TufanAks.VcuLogic.Phases

/-!
# What holds while a call is in progress

The phases of a call, if nothing comes between them, are the call (`finishes_run`).  In general
events are posted between them, and a stop that is asked for after the exchange of its flag waits
for the next call.  `Asked` says that it is still on its way, `Answering` that a call has begun that
answers it; without a `RESET` every phase keeps the two (`Asked.step`, `Answering.step`), and under
the second nothing closes the contactors.
-/

namespace TufanAks.VcuLogic

open Machine

variable {σ : Type*} {act : IRelayActuator σ}

/-! ### A call without interruption -/

/-- From the place `pc` a call that is not interrupted ends in `w`. -/
inductive Finishes (act : IRelayActuator σ) : RunPc → Vcu σ → Vcu σ → Prop
  | last {pc : RunPc} {v w : Vcu σ} (h : runStep act pc v = (w, .eStopPending)) :
      Finishes act pc v w
  | next {pc pc' : RunPc} {v v' w : Vcu σ} (h : runStep act pc v = (v', pc'))
      (hpc : pc' ≠ .eStopPending) (hrest : Finishes act pc' v' w) : Finishes act pc v w

theorem finishes_handler (v : Vcu σ) : Finishes act .handler v (periodic act v) := .last rfl

theorem finishes_pollEvent (v : Vcu σ) : Finishes act .pollEvent v (runEvents act v) := by
  unfold runEvents
  rcases hpoll : pollEvent v with _ | ⟨event, w⟩
  · have hstep : runStep act .pollEvent v = (v, .handler) := by simp only [runStep, hpoll]
    exact .next hstep (by simp) (finishes_handler v)
  · have hstep : runStep act .pollEvent v = (w, .event event) := by simp only [runStep, hpoll]
    refine .next hstep (by simp) ?_
    dsimp only
    split_ifs with heStop hfault hout hreset hrefused
    · exact .last (by rw [runStep, if_pos heStop])
    · exact .last (by rw [runStep, if_neg heStop, if_pos hfault, if_pos hout])
    · exact .last (by rw [runStep, if_neg heStop, if_pos hfault, if_neg hout])
    · exact .last (by rw [runStep, if_neg heStop, if_neg hfault, if_pos hreset, if_pos hrefused])
    · exact .last (by rw [runStep, if_neg heStop, if_neg hfault, if_pos hreset, if_neg hrefused])
    · have hhandled : runStep act (.event event) w = (handleEvent act event w, .handler) := by
        rw [runStep, if_neg heStop, if_neg hfault, if_neg hreset]
      exact .next hhandled (by simp) (finishes_handler _)

theorem finishes_verifyIfDue (v : Vcu σ) : Finishes act .verifyIfDue v (runChecks act v) := by
  unfold runChecks
  dsimp only
  split_ifs with hactuator hcritical
  · exact .last (by simp only [runStep, if_pos hactuator])
  · exact .last (by simp only [runStep, if_neg hactuator, if_pos hcritical])
  · refine .next (by simp only [runStep, if_neg hactuator, if_neg hcritical]; rfl) (by simp) ?_
    exact finishes_pollEvent _

/-- **A call that is not interrupted** is `run`. -/
theorem finishes_run (v : Vcu σ) : Finishes act .eStopPending v (run act v) := by
  unfold run
  dsimp only
  split_ifs with heStop hfault
  · exact .last (by simp only [runStep, if_pos heStop])
  · refine .next (by simp only [runStep, if_neg heStop]; rfl) (by simp) (.last ?_)
    simp only [runStep, if_pos hfault]
  · refine .next (by simp only [runStep, if_neg heStop]; rfl) (by simp) ?_
    refine .next (by simp only [runStep, if_neg hfault]; rfl) (by simp) ?_
    exact finishes_verifyIfDue _

/-! ### What a phase can do -/

theorem handleEvent_frame (event : VcuEvent) (v : Vcu σ) :
    (handleEvent act event v).s_eventQueue = v.s_eventQueue ∧
      (handleEvent act event v).s_eStopPending = v.s_eStopPending ∧
      (handleEvent act event v).s_faultPending = v.s_faultPending ∧
      (handleEvent act event v).s_relays = v.s_relays ∧
      (handleEvent act event v).commands = v.commands := by
  have hlogged : ∀ reason, _ := fun reason => logReadyReject_eq v reason
  unfold handleEvent
  split
  · dsimp only
    split_ifs
    · simp
    · obtain ⟨r, t, hlog⟩ := hlogged "actuator fault"
      rw [hlog]
      simp
    · obtain ⟨r, t, hlog⟩ := hlogged (readyRejectReason v.s_TEL_latestData)
      rw [hlog]
      simp
  · simp
  · simp

/-- The safe states handle no event of the queue but the three that concern them all. -/
theorem handleEvent_of_safe {v : Vcu σ} (h : v.s_state.safe) (event : VcuEvent) :
    handleEvent act event v = v := by
  rcases h with h | h
  · simp [handleEvent, h]
  · simp [handleEvent, h]

/-- Only the phase at the queue takes an event from it. -/
theorem queued_runStep (act : IRelayActuator σ) (pc : RunPc) (v : Vcu σ) :
    ((runStep act pc v).1.s_eventQueue = v.s_eventQueue ∧
        ∀ event, (runStep act pc v).2 ≠ .event event) ∨
      ∃ event rest, v.s_eventQueue = some (event :: rest) ∧
        (runStep act pc v).1.s_eventQueue = some rest ∧ (runStep act pc v).2 = .event event := by
  cases pc with
  | pollEvent =>
    rcases hq : v.s_eventQueue with _ | _ | ⟨event, rest⟩
    · exact .inl (by simp [runStep, pollEvent, hq])
    · exact .inl (by simp [runStep, pollEvent, hq])
    · exact .inr ⟨event, rest, rfl, by simp [runStep, pollEvent, hq], by
        simp [runStep, pollEvent, hq]⟩
  | event event =>
    left
    simp only [runStep]
    split_ifs <;> simp [handleEvent_frame]
  | eStopPending | faultPending | verifyIfDue =>
    left
    simp only [runStep]
    split_ifs <;> simp [logWarning]
  | handler => exact .inl (by simp [runStep])

/-- Each flag is consumed in its own phase only. -/
theorem flags_runStep (act : IRelayActuator σ) (pc : RunPc) (v : Vcu σ) :
    (pc ≠ .eStopPending → (runStep act pc v).1.s_eStopPending = v.s_eStopPending) ∧
      (pc ≠ .faultPending → (runStep act pc v).1.s_faultPending = v.s_faultPending) := by
  cases pc with
  | pollEvent =>
    rcases hq : v.s_eventQueue with _ | _ | ⟨event, rest⟩
    all_goals simp [runStep, pollEvent, hq]
  | event event =>
    simp only [runStep]
    split_ifs <;> simp [handleEvent_frame]
  | eStopPending | faultPending | verifyIfDue =>
    simp only [runStep]
    split_ifs <;> simp [logWarning]
  | handler => simp [runStep]

/-- Only an accepted `RESET` leaves the safe states. -/
theorem safe_runStep {pc : RunPc} {v : Vcu σ} (h : v.s_state.safe) (hpc : pc ≠ .event .RESET) :
    (runStep act pc v).1.s_state.safe := by
  cases pc with
  | pollEvent =>
    rcases hq : v.s_eventQueue with _ | _ | ⟨event, rest⟩
    all_goals simpa [runStep, pollEvent, hq] using h
  | event event =>
    have hevent : event ≠ .RESET := fun heq => hpc (heq ▸ rfl)
    simp only [runStep]
    split_ifs with heStop hfault hout hreset hrefused
    · exact .inl (transitionTo_s_state _ _)
    · exact .inr (transitionTo_s_state _ _)
    · exact h
    · exact h
    · exact absurd hreset.1 hevent
    · rwa [handleEvent_of_safe h]
  | eStopPending =>
    simp only [runStep]
    split_ifs
    · exact .inl (transitionTo_s_state _ _)
    · exact h
  | faultPending =>
    simp only [runStep]
    split_ifs
    · exact .inr (transitionTo_s_state _ _)
    · exact h
  | verifyIfDue =>
    simp only [runStep]
    split_ifs
    · exact .inr (transitionTo_s_state _ _)
    · exact .inr (transitionTo_s_state _ _)
    · exact h
  | handler => simpa [runStep] using h

/-- A request is answered in the phase that finds it. -/
theorem safe_runStep_of_eStop {v : Vcu σ} (h : v.s_eStopPending = true) :
    (runStep act .eStopPending v).1.s_state.safe := by
  by_cases hin : v.s_state = .EMERGENCY_STOP
  · exact safe_runStep (.inl hin) (by simp)
  · left
    simp [runStep, h, hin]

theorem safe_runStep_of_fault {v : Vcu σ} (h : v.s_faultPending = true) :
    (runStep act .faultPending v).1.s_state.safe := by
  by_cases hin : v.s_state = .FAULT
  · exact safe_runStep (.inr hin) (by simp)
  · right
    simp [runStep, h, hin]

/-- Commands are issued by the handlers only. -/
theorem commands_runStep {pc : RunPc} (h : pc ≠ .handler) (v : Vcu σ) :
    (runStep act pc v).1.commands = v.commands := by
  cases pc with
  | pollEvent =>
    rcases hq : v.s_eventQueue with _ | _ | ⟨event, rest⟩
    all_goals simp [runStep, pollEvent, hq]
  | event event =>
    simp only [runStep]
    split_ifs <;> simp [handleEvent_frame]
  | eStopPending | faultPending | verifyIfDue =>
    simp only [runStep]
    split_ifs <;> simp [logWarning]
  | handler => exact absurd rfl h

/-! ### A stop without a `RESET` -/

/-- No `RESET` is queued; one that has been taken from the queue may still be handled. -/
structure NoReset (r : RunTask σ) : Prop where
  queue : r.vcu.s_eventQueue ≠ none
  queued : .RESET ∉ queued r.vcu

/-- A safe state is reached, and the call in progress does not leave it. -/
structure Safe (r : RunTask σ) : Prop where
  state : r.vcu.s_state.safe
  runPc : r.runPc ≠ .event .RESET

/-- A stop is asked for or answered. -/
def Asked (r : RunTask σ) : Prop :=
  NoReset r ∧ (Safe r ∨ r.vcu.s_eStopPending = true ∨ r.vcu.s_faultPending = true)

/-- The call in progress answers a stop, or it is answered. -/
def Answering (r : RunTask σ) : Prop :=
  NoReset r ∧ (Safe r ∨ r.runPc = .faultPending ∧ r.vcu.s_faultPending = true)

/-- A stop is answered. -/
def Answered (r : RunTask σ) : Prop := NoReset r ∧ Safe r

variable {r : RunTask σ} {a : Action σ}

theorem RunTask.step_of_ne_run (act : IRelayActuator σ) (r : RunTask σ) (h : a ≠ .run) :
    r.step act a = { r with vcu := VcuLogic.step act r.vcu a } := by
  cases a with
  | run => exact absurd rfl h
  | postEvent | setTelemetryData | setTorqueSink | actuator => rfl

/-- The event queue is not deleted. -/
theorem queue_step (h : r.vcu.s_eventQueue ≠ none) (a : Action σ) :
    (r.step act a).vcu.s_eventQueue ≠ none := by
  by_cases hrun : a = .run
  · subst hrun
    show (runStep act r.runPc r.vcu).1.s_eventQueue ≠ none
    rcases queued_runStep act r.runPc r.vcu with ⟨hq, -⟩ | ⟨event, rest, -, hrest, -⟩
    · rwa [hq]
    · simp [hrest]
  · rw [RunTask.step_of_ne_run act r hrun]
    exact fun hq => h ((@step_flags_of_ne_run _ act r.vcu _ hrun).2.2.mp hq)

/-- **One phase, or another action**, does not bring a `RESET` in unless it posts one. -/
theorem NoReset.step (h : NoReset r) (ha : a ≠ .postEvent .RESET) :
    NoReset (r.step act a) ∧ (r.runPc ≠ .event .RESET → (r.step act a).runPc ≠ .event .RESET) := by
  by_cases hrun : a = .run
  · subst hrun
    show NoReset ⟨(runStep act r.runPc r.vcu).1, _⟩ ∧ (_ → (runStep act r.runPc r.vcu).2 ≠ _)
    rcases queued_runStep act r.runPc r.vcu with ⟨hq, hpc⟩ | ⟨event, rest, hq, hrest, hpc⟩
    · refine ⟨⟨queue_step h.queue .run, ?_⟩, fun _ => hpc _⟩
      rw [VcuLogic.queued, hq]
      exact h.queued
    · have hnot : .RESET ∉ event :: rest := by simpa [VcuLogic.queued, hq] using h.queued
      rw [List.mem_cons, not_or] at hnot
      refine ⟨⟨queue_step h.queue .run, by simpa [VcuLogic.queued, hrest] using hnot.2⟩, ?_⟩
      rw [hpc]
      exact fun _ heq => hnot.1 (RunPc.event.inj heq).symm
  · refine ⟨⟨queue_step h.queue a, ?_⟩, ?_⟩
    · rw [RunTask.step_of_ne_run act r hrun]
      rcases queued_step_of_ne_run act r.vcu hrun with hq | ⟨event, rfl, -, hq⟩
      · rw [hq]
        exact h.queued
      · rw [hq, List.mem_append, List.mem_singleton, not_or]
        exact ⟨h.queued, fun hevent => ha (by rw [← hevent])⟩
    · rw [RunTask.step_of_ne_run act r hrun]
      exact id

/-- A phase that ends in a safe state, with nothing to leave it. -/
theorem NoReset.safe_of_runStep (h : NoReset r) {pc : RunPc} (hpc : r.runPc = pc)
    (hne : pc ≠ .event .RESET) (hsafe : (runStep act pc r.vcu).1.s_state.safe) :
    Safe (r.step act .run) := by
  subst hpc
  exact ⟨hsafe, (h.step (by simp)).2 hne⟩

/-- A safe state is kept. -/
theorem Safe.step (hsafe : Safe r) (hno : NoReset r) (ha : a ≠ .postEvent .RESET) :
    Safe (r.step act a) := by
  refine ⟨?_, (hno.step ha).2 hsafe.runPc⟩
  by_cases hrun : a = .run
  · subst hrun
    exact safe_runStep hsafe.state hsafe.runPc
  · rw [RunTask.step_of_ne_run act r hrun]
    rw [step_s_state_of_ne_run act r.vcu hrun]
    exact hsafe.state

theorem Answered.step (h : Answered r) (ha : a ≠ .postEvent .RESET) : Answered (r.step act a) :=
  ⟨(h.1.step ha).1, h.2.step h.1 ha⟩

/-- The phase in which a flag is consumed leads to a safe state. -/
theorem Asked.step (h : Asked r) (ha : a ≠ .postEvent .RESET) : Asked (r.step act a) := by
  refine ⟨(h.1.step ha).1, ?_⟩
  by_cases hrun : a = .run
  · subst hrun
    obtain ⟨hno, hsafe | heStop | hfault⟩ := h
    · exact .inl (hsafe.step hno ha)
    · by_cases hpc : r.runPc = .eStopPending
      · exact .inl (hno.safe_of_runStep hpc (by simp) (safe_runStep_of_eStop heStop))
      · exact .inr (.inl (((flags_runStep act r.runPc r.vcu).1 hpc).trans heStop))
    · by_cases hpc : r.runPc = .faultPending
      · exact .inl (hno.safe_of_runStep hpc (by simp) (safe_runStep_of_fault hfault))
      · exact .inr (.inr (((flags_runStep act r.runPc r.vcu).2 hpc).trans hfault))
  · obtain ⟨hno, hasked⟩ := h
    have hflags := @step_flags_of_ne_run _ act r.vcu _ hrun
    rw [RunTask.step_of_ne_run act r hrun]
    refine hasked.imp (fun hsafe => ?_) (fun hflag => hflag.imp hflags.1 hflags.2.1)
    refine ⟨?_, hsafe.runPc⟩
    rw [step_s_state_of_ne_run act r.vcu hrun]
    exact hsafe.state

/-- **The call that begins** after a stop was asked for answers it. -/
theorem Asked.answering (h : Asked r) (hpc : r.runPc = .eStopPending) :
    Answering (r.step act .run) := by
  have hno : NoReset (r.step act .run) := (h.1.step (by simp)).1
  obtain ⟨hnoReset, hsafe | heStop | hfault⟩ := h
  · exact ⟨hno, .inl (hsafe.step hnoReset (by simp))⟩
  · exact ⟨hno, .inl (hnoReset.safe_of_runStep hpc (by simp) (safe_runStep_of_eStop heStop))⟩
  · by_cases heStop : r.vcu.s_eStopPending = true
    · exact ⟨hno, .inl (hnoReset.safe_of_runStep hpc (by simp) (safe_runStep_of_eStop heStop))⟩
    · -- the fault is found in the next phase
      refine ⟨hno, .inr ?_⟩
      show (runStep act r.runPc r.vcu).2 = _ ∧ (runStep act r.runPc r.vcu).1.s_faultPending = _
      rw [hpc]
      simp [runStep, heStop, hfault]

theorem Answering.step (h : Answering r) (ha : a ≠ .postEvent .RESET) :
    Answering (r.step act a) := by
  refine ⟨(h.1.step ha).1, ?_⟩
  obtain ⟨hno, hsafe | ⟨hpc, hfault⟩⟩ := h
  · exact .inl (hsafe.step hno ha)
  by_cases hrun : a = .run
  · subst hrun
    exact .inl (hno.safe_of_runStep hpc (by simp) (safe_runStep_of_fault hfault))
  · rw [RunTask.step_of_ne_run act r hrun]
    exact .inr ⟨hpc, (@step_flags_of_ne_run _ act r.vcu _ hrun).2.1 hfault⟩

/-- At the end of the call the stop is answered. -/
theorem Answering.answered (h : Answering r) (hpc : r.runPc = .eStopPending) : Answered r :=
  ⟨h.1, h.2.resolve_right fun hfault => absurd (hpc.symm.trans hfault.1) (by simp)⟩

/-- Nothing closes the contactors. -/
theorem Answering.commands_step (h : Answering r) (a : Action σ) :
    ∃ issued, (r.step act a).vcu.commands = r.vcu.commands ++ issued ∧ .allOn ∉ issued := by
  by_cases hrun : a = .run
  · subst hrun
    by_cases hpc : r.runPc = .handler
    · have hsafe : r.vcu.s_state.safe :=
        (h.2.resolve_right fun hfault => absurd (hpc.symm.trans hfault.1) (by simp)).state
      obtain ⟨issued, hissued, hready⟩ := @allOn_periodic _ act r.vcu
      refine ⟨issued, ?_, fun hmem => ?_⟩
      · show (runStep act r.runPc r.vcu).1.commands = _
        rw [hpc]
        exact hissued
      · simp [VcuState.safe, hready hmem] at hsafe
    · exact ⟨[], (commands_runStep hpc r.vcu).trans (List.append_nil _).symm, List.not_mem_nil⟩
  · rw [RunTask.step_of_ne_run act r hrun]
    refine ⟨[], ?_, List.not_mem_nil⟩
    rw [step_commands_of_ne_run act r.vcu hrun, List.append_nil]

end TufanAks.VcuLogic
