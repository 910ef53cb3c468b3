import TufanAks.Machine.Ledger
import TufanAks.VcuLogic.Equiv.Interlocks
import TufanAks.VcuLogic.Equiv.ResetOrder

/-!
# What the state machine takes from its queue

The events that `run` takes were posted, each is taken once, and they are taken in the order in
which they were posted (`taken_append_queued_sublist`).  The guarded transitions use up one taken
event each (`guarded_sublist`).
-/

namespace TufanAks.VcuLogic

open Machine

variable {σ : Type*} (act : IRelayActuator σ)

/-- The event that a call offers to the queue; the two requests that bypass it are no such. -/
def Action.offers : Action σ → Option VcuEvent
  | .postEvent .EMERGENCY_STOP => none
  | .postEvent .FAULT_DETECTED => none
  | .postEvent event => some event
  | _ => none

/-- The event that a call takes from the queue. -/
def taken (v : Vcu σ) (a : Action σ) : Option VcuEvent :=
  if (queued (step act v a)).length < (queued v).length then (queued v).head? else none

/-- A posted event is appended to the queue, unless the queue is full or does not exist or the event
bypasses it. -/
theorem queued_postEvent_sublist (event : VcuEvent) (v : Vcu σ) :
    (queued (postEvent event v)).Sublist
      (queued v ++ (Action.offers (.postEvent event : Action σ)).toList) ∧
      (queued v).length ≤ (queued (postEvent event v)).length := by
  rcases hq : v.s_eventQueue with _ | queue
  · simp [postEvent, queued, hq]
  · by_cases hE : event = .EMERGENCY_STOP
    · simp [postEvent, queued, hq, hE, Action.offers]
    by_cases hF : event = .FAULT_DETECTED
    · simp [postEvent, queued, hq, hF, Action.offers]
    have hoffers : (Action.postEvent event : Action σ).offers = some event := by
      cases event with
      | EMERGENCY_STOP => exact absurd rfl hE
      | FAULT_DETECTED => exact absurd rfl hF
      | NONE | START_REQUEST | DRIVE_ENABLE | RESET => rfl
    rw [hoffers]
    simp only [postEvent, hq, if_neg hE, if_neg hF]
    split_ifs
    · simp [queued, hq]
    · simp [queued, hq]

/-- One call takes the head of the queue at most. -/
theorem takes_step : Takes (step act) queued Action.offers (taken act) := by
  intro v a
  have hkeep : (queued v).length ≤ (queued (step act v a)).length → taken act v a = none :=
    fun h => if_neg (Nat.not_lt.mpr h)
  cases a with
  | run =>
    simp only [Action.offers, Option.toList_none, List.append_nil]
    rcases queued_run act v with hq | ⟨event, hq⟩
    · rw [hkeep (by rw [step, hq]), step, hq]
      exact List.Sublist.refl _
    · have htaken : taken act v .run = some event := by
        unfold taken
        rw [step, if_pos (by rw [hq]; simp), hq]
        rfl
      rw [htaken, step, hq]
      exact List.Sublist.refl _
  | postEvent event =>
    obtain ⟨hsub, hle⟩ := queued_postEvent_sublist event v
    rw [hkeep hle]
    exact hsub
  | setTelemetryData d =>
    have hq : queued (step act v (.setTelemetryData d)) = queued v := by
      simp only [step, setTelemetryData]
      split_ifs <;> rfl
    rw [hkeep (by rw [hq]), hq]
    simp [Action.offers]
  | setTorqueSink bound =>
    rw [hkeep le_rfl]
    simp [step, setTorqueSink, queued, Action.offers]
  | actuator change =>
    rw [hkeep le_rfl]
    simp [step, queued, Action.offers]

/-- **What a run takes** was posted before, in the same order. -/
theorem taken_append_queued_sublist (v : Vcu σ) (as : List (Action σ)) :
    (observe (step act) (taken act) v as ++ queued (exec (step act) v as)).Sublist
      (queued v ++ as.filterMap Action.offers) :=
  taken_append_sublist (takes_step act) v as

/-! ### Guarded transitions -/

/-- The event that a guarded transition asks for: `START_REQUEST` into `READY`, `DRIVE_ENABLE` into
`DRIVE` and `RESET` out of the safe states. -/
def guarded (v : Vcu σ) (a : Action σ) : Option VcuEvent :=
  if v.s_state.safe ∧ ¬(step act v a).s_state.safe then some .RESET
  else if v.s_state ≠ .READY ∧ (step act v a).s_state = .READY then some .START_REQUEST
  else if v.s_state ≠ .DRIVE ∧ (step act v a).s_state = .DRIVE then some .DRIVE_ENABLE
  else none

/-- A call that dequeues an event takes it. -/
theorem taken_of_dequeues {v : Vcu σ} {event : VcuEvent} (h : Dequeues act event v) :
    taken act v .run = some event := by
  obtain ⟨rest, hq, hrun⟩ := h
  simp [taken, step, queued, hq, hrun]

/-- **A guarded transition** takes the event that it asks for. -/
theorem taken_of_guarded {v : Vcu σ} {a : Action σ} {event : VcuEvent}
    (h : guarded act v a = some event) : taken act v a = some event := by
  have hlocked := @interlocked_step _ act v a
  unfold guarded at h
  split_ifs at h with hexit hready hdrive
  · obtain rfl := Option.some.inj h
    obtain ⟨rfl, hentry⟩ := hlocked.exit hexit.1 hexit.2
    exact taken_of_dequeues act hentry.event
  · obtain rfl := Option.some.inj h
    obtain ⟨rfl, hentry⟩ := hlocked.ready hready.1 hready.2
    exact taken_of_dequeues act hentry.event
  · obtain rfl := Option.some.inj h
    obtain ⟨rfl, hentry⟩ := hlocked.drive hdrive.1 hdrive.2
    exact taken_of_dequeues act hentry.event

/-- The guarded transitions of a run ask for events that the run takes, in the same order. -/
theorem guarded_sublist (v : Vcu σ) (as : List (Action σ)) :
    (observe (step act) (guarded act) v as).Sublist (observe (step act) (taken act) v as) := by
  refine observe_sublist (fun v a => ?_) v as
  cases h : guarded act v a with
  | none => exact List.nil_sublist _
  | some event => rw [taken_of_guarded act h]

end TufanAks.VcuLogic
