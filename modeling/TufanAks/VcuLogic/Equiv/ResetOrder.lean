import TufanAks.Machine.Fifo
import TufanAks.VcuLogic.Equiv.Invariants

/-!
# `RESET` against a later `EMERGENCY_STOP`

An `EMERGENCY_STOP` bypasses the queue, so it is handled before the events that were queued when it
was posted, a `RESET` among them.  With the stamps of `Machine.Fifo` the event that a `run` dequeues
is traced back to the call that posted it; `resetPostedAfterEStop_iff` says in which runs
`EMERGENCY_STOP` is left by a `RESET` newer than every emergency stop only.
-/

namespace TufanAks.VcuLogic

open Machine

variable {σ : Type*} (act : IRelayActuator σ)

/-- The queued events, oldest first. -/
def queued (v : Vcu σ) : List VcuEvent := v.s_eventQueue.getD []

/-- The call posts an emergency stop. -/
def Action.isEmergencyStop : Action σ → Bool
  | .postEvent .EMERGENCY_STOP => true
  | _ => false

/-- For each queued event the position of the call that posted it, and the number of events that
were queued at the latest emergency stop and still are. -/
def eventStamps (q m : Bool) (relays : σ) (as : List (Action σ)) : Stamps :=
  stamps queued (step act) Action.isEmergencyStop (init act q m relays) as

/-- Whenever `run` leaves `EMERGENCY_STOP` to `IDLE`, the event it dequeues was posted as a `RESET`
after every `EMERGENCY_STOP`. -/
def ResetPostedAfterEStop (q m : Bool) (relays : σ) (as : List (Action σ)) : Prop :=
  ∀ pre post, as = pre ++ .run :: post →
    (after act q m relays pre).s_state = .EMERGENCY_STOP →
    (after act q m relays (pre ++ [.run])).s_state = .IDLE →
    ∃ j, (eventStamps act q m relays pre).times.head? = some j ∧
      pre[j]? = some (.postEvent .RESET) ∧
      ∀ i, pre[i]? = some (.postEvent .EMERGENCY_STOP) → i < j

theorem isEmergencyStop_iff {a : Action σ} :
    a.isEmergencyStop = true ↔ a = .postEvent .EMERGENCY_STOP := by
  constructor
  · intro h
    unfold Action.isEmergencyStop at h
    split at h
    · rfl
    · cases h
  · rintro rfl
    rfl

/-- What a call other than `run` does to the queue. -/
theorem queued_step_of_ne_run (v : Vcu σ) {a : Action σ} (h : a ≠ .run) :
    queued (step act v a) = queued v ∨
      ∃ event, a = .postEvent event ∧ event ≠ .EMERGENCY_STOP ∧
        queued (step act v a) = queued v ++ [event] := by
  cases a with
  | run => exact absurd rfl h
  | postEvent event =>
    rcases hq : v.s_eventQueue with _ | queue
    · exact .inl (by simp [step, postEvent, hq])
    · simp only [step, postEvent, hq]
      split_ifs with hE hF hroom
      · exact .inl (by simp [queued, hq])
      · exact .inl (by simp [queued, hq])
      · exact .inr ⟨event, rfl, hE, by simp [queued, hq]⟩
      · exact .inl rfl
  | setTelemetryData d =>
    simp only [step, setTelemetryData]
    split_ifs
    · exact .inl rfl
    · exact .inl rfl
  | setTorqueSink bound => exact .inl rfl
  | actuator change => exact .inl rfl

/-- `run` takes at most the head from the queue. -/
theorem queued_run (v : Vcu σ) :
    queued (run act v) = queued v ∨ ∃ event, queued v = event :: queued (run act v) := by
  rcases (ran_run act v).s_eventQueue with hq | ⟨event, rest, hq, hq'⟩
  · exact .inl (by rw [queued, hq, queued])
  · exact .inr ⟨event, by simp [queued, hq, hq']⟩

theorem fifoStep_step (v : Vcu σ) (a : Action σ) : FifoStep (queued v) (queued (step act v a)) := by
  by_cases ha : a = .run
  · subst ha
    exact (queued_run act v).imp_right .inr
  · rcases queued_step_of_ne_run act v ha with hq | ⟨event, -, -, hq⟩
    · exact .inl hq
    · exact .inr (.inl ⟨event, hq⟩)

theorem queued_step_of_isEmergencyStop (v : Vcu σ) (a : Action σ)
    (ha : a.isEmergencyStop = true) : queued (step act v a) = queued v := by
  rw [isEmergencyStop_iff] at ha
  subst ha
  rcases queued_step_of_ne_run act v (a := .postEvent .EMERGENCY_STOP) (by simp) with
    hq | ⟨event, hevent, hne, -⟩
  · exact hq
  · rw [Action.postEvent.injEq] at hevent
    exact absurd hevent.symm hne

/-- Only `postEvent` appends to the queue. -/
theorem eq_postEvent_of_append {v : Vcu σ} {a : Action σ} {event : VcuEvent}
    (h : queued (step act v a) = queued v ++ [event]) : a = .postEvent event := by
  have hlen := congrArg List.length h
  rw [List.length_append, List.length_singleton] at hlen
  by_cases ha : a = .run
  · subst ha
    rcases queued_run act v with hq | ⟨e, hq⟩
    · have hsame := congrArg List.length hq
      simp only [step] at hlen
      omega
    · have hone := congrArg List.length hq
      simp only [step, List.length_cons] at hlen hone
      omega
  · rcases queued_step_of_ne_run act v ha with hq | ⟨event', rfl, -, hq⟩
    · rw [hq] at hlen
      omega
    · rw [hq, List.append_cancel_left_eq, List.singleton_inj] at h
      rw [h]

theorem queued_init (q m : Bool) (relays : σ) : queued (init act q m relays) = [] := by
  cases q
  · rfl
  · cases m
    · rfl
    · rfl

theorem stampsSpec_eventStamps (q m : Bool) (relays : σ) (as : List (Action σ)) :
    StampsSpec queued (step act) Action.isEmergencyStop (init act q m relays) as
      (eventStamps act q m relays as) :=
  stampsSpec (queued_init act q m relays) (fifoStep_step act)
    (queued_step_of_isEmergencyStop act) as

/-- In `EMERGENCY_STOP`, `run` ends in `IDLE` exactly when it accepts a `RESET`. -/
theorem run_estop_idle_iff {v : Vcu σ} (hv : Reachable v) (hs : v.s_state = .EMERGENCY_STOP) :
    (run act v).s_state = .IDLE ↔ DequeuesReset true v := by
  have hran := ranSafe_run act hv (.inl hs)
  generalize run act v = w at hran ⊢
  cases hran with
  | switched hflags hnext =>
    refine iff_of_false ?_ fun h => hflags h.2.1
    rcases hnext with rfl | rfl <;> simp
  | left h => exact iff_of_true (by simp) h
  | refused h => exact iff_of_false (by simp [hs]) fun h' => h'.not_refused h
  | ticked _ hnext => exact iff_of_false (by simp [hs]) fun h => hnext h.2.2.1

/-- The `RESET` at the head of the queue was posted after every emergency stop exactly when no
queued event has been overtaken. -/
theorem head_posted_after_iff (q m : Bool) (relays : σ) (pre : List (Action σ))
    (h : nextEvent (after act q m relays pre) = some .RESET) :
    (∃ j, (eventStamps act q m relays pre).times.head? = some j ∧
        pre[j]? = some (.postEvent .RESET) ∧
        ∀ i, pre[i]? = some (.postEvent .EMERGENCY_STOP) → i < j) ↔
      (eventStamps act q m relays pre).overtaken = 0 := by
  have hspec := stampsSpec_eventStamps act q m relays pre
  generalize eventStamps act q m relays pre = g at hspec ⊢
  have hhead : (queued (after act q m relays pre))[0]? = some .RESET := by
    unfold nextEvent at h
    rcases hq : (after act q m relays pre).s_eventQueue with _ | queue
    · simp [hq] at h
    · rw [hq, Option.bind_some] at h
      rw [queued, hq, Option.getD_some, ← List.head?_eq_getElem?, h]
  obtain ⟨j, hj⟩ : ∃ j, g.times[0]? = some j := by
    have hlen := (List.getElem?_eq_some_iff.mp hhead).1
    rw [← hspec.length_eq] at hlen
    exact ⟨g.times[0], List.getElem?_eq_getElem hlen⟩
  -- the call that posted the head of the queue
  obtain ⟨a, event, ha, hevent, happ⟩ := hspec.appended 0 j hj
  have hreset : event = .RESET := Option.some.inj (hevent.symm.trans hhead)
  have hpost : pre[j]? = some (.postEvent .RESET) := by
    rw [ha, eq_postEvent_of_append act happ, hreset]
  have hover := hspec.overtaken_iff 0 j hj
  rw [List.head?_eq_getElem?, hj]
  constructor
  · rintro ⟨j', hj', -, hall⟩
    obtain rfl := Option.some.inj hj'
    by_contra hne
    obtain ⟨i, b, hi, hb, hurgent⟩ := hover.mpr (Nat.pos_of_ne_zero hne)
    rw [isEmergencyStop_iff.mp hurgent] at hb
    exact absurd (hall i hb) (by omega)
  · intro hzero
    refine ⟨j, rfl, hpost, fun i hi => ?_⟩
    by_contra hge
    -- a later emergency stop would have overtaken the head, and at `j` stands the `RESET`
    rcases Nat.lt_or_eq_of_le (Nat.not_lt.mp hge) with hlt | rfl
    · have hpos := hover.mp ⟨i, _, hlt, hi, rfl⟩
      omega
    · rw [hpost] at hi
      cases hi

/-- An emergency stop that finds no `RESET` in the queue overtakes none. -/
theorem overtaken_eq_zero_of_reset (q m : Bool) (relays : σ) {as : List (Action σ)}
    (h : Along (step act) (fun v a => a = .postEvent .EMERGENCY_STOP → .RESET ∉ queued v)
      (init act q m relays) as)
    (hnext : nextEvent (after act q m relays as) = some .RESET) :
    (eventStamps act q m relays as).overtaken = 0 := by
  have hfresh : Along (step act)
      (fun v a => a.isEmergencyStop = true → ∀ event ∈ queued v, ¬event = .RESET)
      (init act q m relays) as := by
    rw [along_iff_forall] at h ⊢
    rintro pre a post hsplit ha event hmem rfl
    exact h pre a post hsplit (isEmergencyStop_iff.mp ha) hmem
  have hnot := overtaken_not (queued_init act q m relays) (fifoStep_step act)
    (queued_step_of_isEmergencyStop act) hfresh
  -- the head of the queue is a `RESET`, so it is not among the overtaken events
  have hhead : (queued (after act q m relays as)).head? = some .RESET := by
    unfold nextEvent at hnext
    rcases hq : (after act q m relays as).s_eventQueue with _ | queue
    · simp [hq] at hnext
    · simpa [queued, hq] using hnext
  obtain ⟨rest, hqueued⟩ := List.head?_eq_some_iff.mp hhead
  by_contra hne
  obtain ⟨n, hn⟩ := Nat.exists_eq_succ_of_ne_zero hne
  have hover : (stamps queued (step act) Action.isEmergencyStop
      (init act q m relays) as).overtaken = n + 1 := hn
  refine hnot .RESET ?_ rfl
  rw [show exec (step act) (init act q m relays) as = after act q m relays as from rfl, hqueued,
    hover]
  exact List.mem_cons_self

/-- **Leaving `EMERGENCY_STOP` takes a `RESET` posted after every emergency stop** in exactly those
runs in which no `run` accepts a `RESET` in `EMERGENCY_STOP` while an event that the latest
emergency stop has overtaken is still queued; in particular if no emergency stop is posted while a
`RESET` waits in the queue. -/
theorem resetPostedAfterEStop_iff (q m : Bool) (relays : σ) (as : List (Action σ)) :
    (ResetPostedAfterEStop act q m relays as ↔
      ∀ pre post, as = pre ++ .run :: post →
        (after act q m relays pre).s_state = .EMERGENCY_STOP →
        DequeuesReset true (after act q m relays pre) →
        (eventStamps act q m relays pre).overtaken = 0) ∧
      (Along (step act) (fun v a => a = .postEvent .EMERGENCY_STOP → .RESET ∉ queued v)
          (init act q m relays) as →
        ResetPostedAfterEStop act q m relays as) := by
  have hiff : ResetPostedAfterEStop act q m relays as ↔
      ∀ pre post, as = pre ++ .run :: post →
        (after act q m relays pre).s_state = .EMERGENCY_STOP →
        DequeuesReset true (after act q m relays pre) →
        (eventStamps act q m relays pre).overtaken = 0 := by
    refine forall_congr' fun pre => forall_congr' fun post => forall_congr' fun _ =>
      forall_congr' fun hs => ?_
    have hidle := run_estop_idle_iff act (reachable_after act q m relays pre) hs
    rw [after, exec_concat]
    constructor
    · intro h hreset
      exact (head_posted_after_iff act q m relays pre hreset.2.2.1).mp (h (hidle.mpr hreset))
    · intro h hrun
      have hreset := hidle.mp hrun
      exact (head_posted_after_iff act q m relays pre hreset.2.2.1).mpr (h hreset)
  refine ⟨hiff, fun h => hiff.mpr ?_⟩
  rintro pre post rfl - hreset
  exact overtaken_eq_zero_of_reset act q m relays ((along_append _ pre _).mp h).1 hreset.2.2.1

/-- A `RESET` that waits in the queue when the emergency stop is posted takes the VCU out of the
`EMERGENCY_STOP` it did not know of. -/
theorem not_resetPostedAfterEStop_of_queued_reset :
    ¬ResetPostedAfterEStop faultFreeRelays true true ()
      [.postEvent .RESET, .postEvent .EMERGENCY_STOP, .run, .run] := by
  intro h
  obtain ⟨j, hj, -, hall⟩ := h [.postEvent .RESET, .postEvent .EMERGENCY_STOP, .run] [] rfl
    (by decide) (by decide)
  have hzero : (eventStamps faultFreeRelays true true ()
      [.postEvent .RESET, .postEvent .EMERGENCY_STOP, .run]).times.head? = some 0 := by decide
  obtain rfl := Option.some.inj (hj.symm.trans hzero)
  exact absurd (hall 1 rfl) (by decide)

end TufanAks.VcuLogic
