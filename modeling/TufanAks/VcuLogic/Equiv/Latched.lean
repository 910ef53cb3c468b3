import TufanAks.VcuLogic.Equiv.Contactors
import TufanAks.VcuLogic.Equiv.Intake
import TufanAks.VcuLogic.Equiv.Requests

/-!
# A stop without a `RESET`

`StopOrdered` is the state from the moment a request for a safe state is posted, while no `RESET` is
queued.  Every call but the posting of a `RESET` keeps it (`StopOrdered.step`): `run` answers the
request, the safe states are not left, and nothing closes the contactors.  They open at the first
`run` in a safe state that no pending flag diverts (`Opening.run`), and stay open.
-/

namespace TufanAks.VcuLogic

open Machine

variable {σ : Type*} {act : IRelayActuator σ}

/-! ### The stop -/

/-- A safe state is asked for or reached, and no `RESET` is in sight. -/
structure StopOrdered (v : Vcu σ) : Prop where
  reachable : Reachable v
  queue : v.s_eventQueue ≠ none
  noReset : .RESET ∉ queued v
  request : v.s_state.safe ∨ v.s_eStopPending = true ∨ v.s_faultPending = true

/-- What is queued after a `run` was queued before. -/
theorem mem_queued_of_run {v : Vcu σ} {event : VcuEvent} (h : event ∈ queued (run act v)) :
    event ∈ queued v := by
  rcases queued_run act v with hq | ⟨head, hq⟩
  · rwa [hq] at h
  · rw [hq]
    exact List.mem_cons_of_mem _ h

theorem queue_run {v : Vcu σ} (h : v.s_eventQueue ≠ none) : (run act v).s_eventQueue ≠ none := by
  rcases (ran_run act v).s_eventQueue with hq | ⟨event, rest, -, hq⟩
  · rwa [hq]
  · simp [hq]

namespace StopOrdered

variable {v : Vcu σ}

theorem not_dequeuesReset (h : StopOrdered v) (satisfied : Bool) : ¬DequeuesReset satisfied v := by
  intro hreset
  obtain ⟨rest, hq⟩ : ∃ rest, v.s_eventQueue = some (.RESET :: rest) := by
    have hnext := hreset.2.2.1
    rcases hq : v.s_eventQueue with _ | _ | ⟨event, rest⟩
    · simp [nextEvent, hq] at hnext
    · simp [nextEvent, hq] at hnext
    · rw [nextEvent_cons hq, Option.some.injEq] at hnext
      exact ⟨rest, by rw [hnext]⟩
  exact h.noReset (by simp [queued, hq])

/-- The next `run` answers the request. -/
theorem safe_run (h : StopOrdered v) : (run act v).s_state.safe := by
  by_cases hs : v.s_state.safe
  · exact (safe_run_iff h.reachable hs).mpr (h.not_dequeuesReset true)
  · exact safe_run_of_pending hs (h.request.resolve_left hs)

/-- **One call** that does not post a `RESET`. -/
theorem step (h : StopOrdered v) {a : Action σ} (ha : a ≠ .postEvent .RESET) :
    StopOrdered (step act v a) := by
  by_cases hrun : a = .run
  · subst hrun
    exact ⟨reachable_run h.reachable, queue_run h.queue,
      fun hmem => h.noReset (mem_queued_of_run hmem), .inl h.safe_run⟩
  · obtain ⟨heStop, hfault, hnone⟩ := @step_flags_of_ne_run _ act v _ hrun
    refine ⟨reachable_step h.reachable a, fun hq => h.queue (hnone.mp hq), ?_, ?_⟩
    · rcases queued_step_of_ne_run act v hrun with hq | ⟨event, rfl, -, hq⟩
      · rw [hq]
        exact h.noReset
      · rw [hq, List.mem_append, List.mem_singleton, not_or]
        exact ⟨h.noReset, fun hevent => ha (by rw [← hevent])⟩
    · rw [step_s_state_of_ne_run act v hrun]
      exact h.request.imp_right fun hflag => hflag.imp heStop hfault

/-- One call closes nothing. -/
theorem commands_step (h : StopOrdered v) (a : Action σ) :
    ∃ issued, (VcuLogic.step act v a).commands = v.commands ++ issued ∧ .allOn ∉ issued := by
  obtain ⟨issued, hissued, hready⟩ := (@interlocked_step _ act v a).allOn
  refine ⟨issued, hissued, fun hmem => ?_⟩
  have hentered := hready hmem
  by_cases hrun : a = .run
  · subst hrun
    have hsafe : (VcuLogic.step act v .run).s_state.safe := h.safe_run
    simp [VcuState.safe, hentered] at hsafe
  · rw [step_commands_of_ne_run act v hrun, List.self_eq_append_right] at hissued
    rw [hissued] at hmem
    cases hmem

end StopOrdered

/-! ### The opening -/

/-- A stop has been ordered, and contactors that are still closed in a safe state have been so since
it was entered. -/
structure Opening (v : Vcu σ) : Prop where
  ordered : StopOrdered v
  timer : v.s_state.safe → ¬ContactorsOpen v → v.s_stateTimer = 0

namespace Opening

variable {v : Vcu σ}

/-- **One `run`**: in a safe state it opens the contactors, unless a pending flag makes it change to
the other safe state; open contactors stay open. -/
theorem run (h : Opening v) :
    Opening (run act v) ∧ (ContactorsOpen v → ContactorsOpen (VcuLogic.run act v)) ∧
      (v.s_state.safe → FlagsStay v → ContactorsOpen (VcuLogic.run act v)) := by
  have hordered : StopOrdered (VcuLogic.run act v) := h.ordered.step (a := .run) (by simp)
  by_cases hs : v.s_state.safe
  · have hran := ranSafe_run act h.ordered.reachable hs
    have hopened := h.ordered.reachable.opened
    have htimer := h.timer hs
    generalize VcuLogic.run act v = w at hran hordered ⊢
    cases hran with
    | switched hflags _ _ hcommands =>
      refine ⟨⟨hordered, fun _ _ => by simp⟩, fun hopen => ?_, fun _ h' => absurd h' hflags⟩
      exact (contactorsOpen_congr (by simpa using hcommands)).mpr hopen
    | left hreset => exact absurd hreset (h.ordered.not_dequeuesReset true)
    | refused hreset => exact absurd hreset (h.ordered.not_dequeuesReset false)
    | ticked =>
      have hopen : ContactorsOpen (periodic act (polled act v (v.s_eventQueue.map List.tail))) := by
        rw [contactorsOpen_tick act (v := polled act v _) hs hopened]
        by_cases hnow : ContactorsOpen v
        · exact .inl hnow
        · exact .inr (delay_le_of_timer_eq_zero (htimer hnow))
      exact ⟨⟨hordered, fun _ hclosed => absurd hopen hclosed⟩, fun _ => hopen, fun _ _ => hopen⟩
  · obtain ⟨next, w, -, hrun, hcommands⟩ :=
      (ran_run act v).entered hs h.ordered.safe_run
    refine ⟨⟨hordered, fun _ _ => ?_⟩, fun hopen => ?_, fun hsafe => absurd hsafe hs⟩
    · rw [hrun, transitionTo_s_stateTimer]
    · refine (contactorsOpen_congr ?_).mpr hopen
      rw [hrun, transitionTo_commands, hcommands]

/-- **One call** that does not post a `RESET`. -/
theorem step (h : Opening v) {a : Action σ} (ha : a ≠ .postEvent .RESET) :
    Opening (step act v a) ∧ (ContactorsOpen v → ContactorsOpen (VcuLogic.step act v a)) := by
  by_cases hrun : a = .run
  · subst hrun
    exact ⟨h.run.1, h.run.2.1⟩
  · have hordered : StopOrdered (VcuLogic.step act v a) := h.ordered.step ha
    have hcommands := step_commands_of_ne_run act v hrun
    obtain ⟨_, _, _, _, _, _, hstep⟩ := step_eq_of_ne_run act v hrun
    refine ⟨⟨hordered, ?_⟩, (contactorsOpen_congr hcommands).mpr⟩
    rw [hstep]
    exact h.timer

end Opening

end TufanAks.VcuLogic
