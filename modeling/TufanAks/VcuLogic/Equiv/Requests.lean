import TufanAks.VcuLogic.Equiv.Invariants

/-!
# The two requests that bypass the queue

`EMERGENCY_STOP` and `FAULT_DETECTED` are posted as flags, which `run` consumes before it looks at
the queue.  A flag that finds the VCU already in its own safe state is consumed without effect, and
`run` goes on to the queue: `safe_run_iff_of_requestPosted` says when the request is answered
nevertheless.  The flags are read one after the other, so a fault that is pending in
`EMERGENCY_STOP` changes the state: `eStopHolds_iff`.
-/

namespace TufanAks.VcuLogic

open Machine

variable {σ : Type*} (act : IRelayActuator σ)

/-! ### A posted request is answered by the next `run` -/

/-- The calls since the previous `run` post one of the two requests. -/
def RequestPosted (mid : List (Action σ)) : Prop :=
  .run ∉ mid ∧ (.postEvent .EMERGENCY_STOP ∈ mid ∨ .postEvent .FAULT_DETECTED ∈ mid)

/-- If the calls `mid` after the run `as` post a request, the next `run` ends in a safe state. -/
def RequestAnswered (q m : Bool) (relays : σ) (as mid : List (Action σ)) : Prop :=
  RequestPosted mid → (after act q m relays (as ++ mid ++ [.run])).s_state.safe

variable {act}

/-- Between two `run` calls a pending flag stays pending and the queue is neither created nor
deleted. -/
theorem step_flags_of_ne_run (v : Vcu σ) {a : Action σ} (h : a ≠ .run) :
    (v.s_eStopPending = true → (step act v a).s_eStopPending = true) ∧
      (v.s_faultPending = true → (step act v a).s_faultPending = true) ∧
      ((step act v a).s_eventQueue = none ↔ v.s_eventQueue = none) := by
  cases a with
  | run => exact absurd rfl h
  | postEvent event =>
    rcases hq : v.s_eventQueue with _ | queue
    · simp [step, postEvent, hq]
    · simp only [step, postEvent, hq]
      split_ifs
      · simp
      · simp
      · simp
      · simp [hq]
  | setTelemetryData d =>
    simp only [step, setTelemetryData]
    split_ifs
    · simp
    · simp
  | setTorqueSink bound => exact ⟨id, id, Iff.rfl⟩
  | actuator change => exact ⟨id, id, Iff.rfl⟩

/-- A request posted to a VCU that has a queue is still pending at the next `run`. -/
theorem pending_of_requestPosted {v : Vcu σ} {mid : List (Action σ)} (h : RequestPosted mid)
    (hq : (exec (step act) v mid).s_eventQueue ≠ none) :
    (exec (step act) v mid).s_eStopPending = true ∨
      (exec (step act) v mid).s_faultPending = true := by
  obtain ⟨hrun, hposted⟩ := h
  have hne : ∀ a ∈ mid, a ≠ .run := fun a ha hrun' => hrun (hrun' ▸ ha)
  -- the queue exists at the end, so it existed all the time and no post was dropped for its lack
  have hqueue : ∀ pre, pre <+: mid → (exec (step act) v pre).s_eventQueue ≠ none := by
    rintro pre ⟨post, rfl⟩ hnone
    refine hq ?_
    rw [exec_append]
    refine exec_invariant (fun w : Vcu σ => w.s_eventQueue = none) ?_ hnone
    exact fun w a ha => ((step_flags_of_ne_run w (hne a (List.mem_append_right _ ha))).2.2).mpr
  rcases hposted with hmem | hmem
  · obtain ⟨pre, post, rfl⟩ := List.append_of_mem hmem
    have hpre := hqueue pre (List.prefix_append _ _)
    left
    rw [exec_append, exec_cons]
    refine exec_invariant (fun w : Vcu σ => w.s_eStopPending = true) ?_ ?_
    · exact fun w a ha => (step_flags_of_ne_run w (hne a (by simp [ha]))).1
    · obtain ⟨queue, hsome⟩ := Option.ne_none_iff_exists'.mp hpre
      simp [step, postEvent, hsome]
  · obtain ⟨pre, post, rfl⟩ := List.append_of_mem hmem
    have hpre := hqueue pre (List.prefix_append _ _)
    right
    rw [exec_append, exec_cons]
    refine exec_invariant (fun w : Vcu σ => w.s_faultPending = true) ?_ ?_
    · exact fun w a ha => (step_flags_of_ne_run w (hne a (by simp [ha]))).2.1
    · obtain ⟨queue, hsome⟩ := Option.ne_none_iff_exists'.mp hpre
      simp [step, postEvent, hsome]

/-- A safe state is only left by an accepted `RESET`. -/
theorem safe_run_iff {v : Vcu σ} (hv : Reachable v) (hs : v.s_state.safe) :
    (run act v).s_state.safe ↔ ¬DequeuesReset true v := by
  have hran := ranSafe_run act hv hs
  generalize run act v = w at hran ⊢
  cases hran with
  | switched hflags hnext =>
    exact iff_of_true (by simpa using hnext) fun h => hflags h.2.1
  | left h => exact iff_of_false (by simp [VcuState.safe]) (not_not_intro h)
  | refused h => exact iff_of_true (by simpa using hs) fun h' => h'.not_refused h
  | ticked _ hnext => exact iff_of_true (by simpa using hs) fun h => hnext h.2.2.1

/-- Outside the safe states a pending flag is always answered. -/
theorem safe_run_of_pending {v : Vcu σ} (hs : ¬v.s_state.safe)
    (h : v.s_eStopPending = true ∨ v.s_faultPending = true) : (run act v).s_state.safe := by
  have hflags : ¬Passed act v := by
    intro hp
    rcases h with h | h
    · exact hs (.inl (hp.eStop h))
    · exact hs (.inr (hp.fault h))
  have hran := ran_run act v
  generalize run act v = w at hran ⊢
  cases hran with
  | eStopFlag => exact .inl (by simp)
  | faultFlag | actuatorFault | critical => exact .inr (by simp)
  | queuedEStop hp | queuedFault hp | resetRejected hp | resetAccepted hp | startAccepted hp
  | startRejected hp | driveEnable hp | ignored hp | noEvent hp => exact absurd hp hflags

variable (act)

/-- **A posted request is answered** by the next `run` exactly when the VCU has its queue and the
request does not find the VCU in the very state it asks for with an acceptable `RESET` at the head
of the queue. -/
theorem safe_run_iff_of_requestPosted (q m : Bool) (relays : σ) (as mid : List (Action σ))
    (h : RequestPosted mid) :
    (after act q m relays (as ++ mid ++ [.run])).s_state.safe ↔
      (after act q m relays (as ++ mid)).s_eventQueue ≠ none ∧
        ¬DequeuesReset true (after act q m relays (as ++ mid)) := by
  have hv := reachable_after act q m relays (as ++ mid)
  have hpending : (after act q m relays (as ++ mid)).s_eventQueue ≠ none →
      (after act q m relays (as ++ mid)).s_eStopPending = true ∨
        (after act q m relays (as ++ mid)).s_faultPending = true := by
    rw [after, exec_append]
    exact pending_of_requestPosted h
  have hlast : after act q m relays (as ++ mid ++ [.run])
      = run act (after act q m relays (as ++ mid)) := by
    simp only [after, exec_append, exec_cons, exec_nil]
    rfl
  rw [hlast]
  generalize after act q m relays (as ++ mid) = v at hv hpending ⊢
  by_cases hq : v.s_eventQueue = none
  · -- nothing was posted, and the VCU stays in `INIT`
    obtain ⟨hs, he, hf⟩ := hv.noQueue hq
    have hrun := (ran_run act v).noQueue hq hs he hf
    simp [VcuState.safe, hrun.1, hq]
  · rw [and_iff_right hq]
    by_cases hs : v.s_state.safe
    · exact safe_run_iff hv hs
    · exact iff_of_true (safe_run_of_pending hs (hpending hq)) fun hd => hs hd.1

/-- A fault detected in `READY` is answered, whatever is queued. -/
theorem safe_run_of_fault_in_ready :
    (after faultFreeRelays true true ()
      ([.setTelemetryData healthyData, .postEvent .START_REQUEST, .run] ++
        [.postEvent .DRIVE_ENABLE, .postEvent .FAULT_DETECTED] ++ [.run])).s_state.safe :=
  (safe_run_iff_of_requestPosted faultFreeRelays true true () _ _ ⟨by simp, by simp⟩).mpr
    (by decide)

/-- An emergency stop that is posted again, behind a queued `RESET`, is consumed in
`EMERGENCY_STOP` without effect, and the same `run` leaves to `IDLE`. -/
theorem not_requestAnswered_of_repeated_estop :
    ¬RequestAnswered faultFreeRelays true true ()
      [.setTelemetryData healthyData, .postEvent .EMERGENCY_STOP, .run]
      [.postEvent .RESET, .postEvent .EMERGENCY_STOP] := by
  intro h
  exact absurd (h ⟨by simp, by simp⟩) (by decide)

/-! ### `EMERGENCY_STOP` against `FAULT` -/

/-- Once in `EMERGENCY_STOP`, the VCU stays there until a `run` dequeues a `RESET` whose interlock
is satisfied. -/
def EStopHolds (q m : Bool) (relays : σ) (as : List (Action σ)) : Prop :=
  ∀ pre rest post, as = pre ++ (rest ++ post) →
    (after act q m relays pre).s_state = .EMERGENCY_STOP →
    Along (step act) (OnRun fun v => ¬DequeuesReset true v) (after act q m relays pre) rest →
    (after act q m relays (pre ++ rest)).s_state = .EMERGENCY_STOP

variable {act}

/-- In `EMERGENCY_STOP` only a pending fault or an accepted `RESET` changes the state. -/
theorem run_of_estop {v : Vcu σ} (hv : Reachable v) (hs : v.s_state = .EMERGENCY_STOP) :
    (run act v).s_state = .EMERGENCY_STOP ↔
      v.s_faultPending = false ∧ ¬DequeuesReset true v := by
  have hflags : FlagsStay v ↔ v.s_faultPending = false := by
    simp [FlagsStay, hs]
  have hran := ranSafe_run act hv (.inl hs)
  generalize run act v = w at hran ⊢
  cases hran with
  | switched hnot _ hne =>
    refine iff_of_false ?_ fun h => hnot (hflags.mpr h.1)
    rwa [transitionTo_s_state, ← hs]
  | left h => exact iff_of_false (by simp) fun h' => h'.2 h
  | refused h => exact iff_of_true hs ⟨hflags.mp h.2.1, fun h' => h'.not_refused h⟩
  | ticked hstay hnext =>
    exact iff_of_true (by simpa using hs) ⟨hflags.mp hstay, fun h => hnext h.2.2.1⟩

variable (act)

/-- **`EMERGENCY_STOP` holds until an accepted `RESET`** in exactly those runs in which no fault is
pending when `run` is called in `EMERGENCY_STOP`. -/
theorem eStopHolds_iff (q m : Bool) (relays : σ) (as : List (Action σ)) :
    EStopHolds act q m relays as ↔
      Along (step act)
        (OnRun fun v => v.s_state = .EMERGENCY_STOP → v.s_faultPending = false)
        (init act q m relays) as := by
  constructor
  · intro h
    rw [along_iff_forall]
    rintro pre a post rfl rfl hs
    by_contra hpending
    have hflags : ¬DequeuesReset true (after act q m relays pre) := by
      intro hd
      have hstate := hd.2.1.2 (Bool.eq_true_of_not_eq_false hpending)
      rw [hs] at hstate
      cases hstate
    -- this one `run` dequeues no acceptable `RESET`, so it would have to stay
    have hstay := h pre [.run] post rfl hs ⟨fun _ => hflags, trivial⟩
    rw [after, exec_append] at hstay
    have hrun := (run_of_estop (reachable_after act q m relays pre) hs).mp hstay
    exact hpending hrun.1
  · rintro h pre rest post rfl hs hreset
    rw [along_append, along_append] at h
    obtain ⟨-, hrest, -⟩ := h
    have hboth : Along (step act)
        (fun v a => a = .run → v.s_state = .EMERGENCY_STOP →
          v.s_faultPending = false ∧ ¬DequeuesReset true v)
        (after act q m relays pre) rest := by
      rw [along_iff_forall] at hrest hreset ⊢
      intro pre' a post' hsplit ha hstate
      exact ⟨hrest pre' a post' hsplit ha hstate, hreset pre' a post' hsplit ha⟩
    have hinv : Reachable (after act q m relays (pre ++ rest)) ∧
        (after act q m relays (pre ++ rest)).s_state = .EMERGENCY_STOP := by
      rw [after, exec_append]
      refine exec_invariant_of_along
        (fun v : Vcu σ => Reachable v ∧ v.s_state = .EMERGENCY_STOP) ?_
        ⟨reachable_after act q m relays pre, hs⟩ hboth
      rintro v a ⟨hv, hstate⟩ hcond
      refine ⟨reachable_step hv a, ?_⟩
      by_cases ha : a = .run
      · subst ha
        exact (run_of_estop hv hstate).mpr (hcond rfl hstate)
      · rwa [step_s_state_of_ne_run act v ha]
    exact hinv.2

/-- A fault detected in `EMERGENCY_STOP` takes the VCU to `FAULT` without any `RESET`. -/
theorem not_eStopHolds_of_fault :
    ¬EStopHolds faultFreeRelays true true ()
      [.postEvent .EMERGENCY_STOP, .run, .postEvent .FAULT_DETECTED, .run] := by
  intro h
  have hstate := h [.postEvent .EMERGENCY_STOP, .run] [.postEvent .FAULT_DETECTED, .run] []
    rfl (by decide) ⟨by simp [OnRun], ⟨fun _ => by decide, trivial⟩⟩
  exact absurd hstate (by decide)

end TufanAks.VcuLogic
