import TufanAks.VcuLogic.Equiv.Invariants

/-!
# When the contactors are commanded open

The handlers of the two safe states open the contactors one `run` after the transition, and only in
a `run` that reaches them.  `idleIsOpen_iff` and `opensWithinTwoRuns_iff` say exactly which runs of
the VCU keep the contactors open in `IDLE`, the "safe resting state", and open them in the second
`run` that ends in a safe state.
-/

namespace TufanAks.VcuLogic

open Machine

variable {σ : Type*} (act : IRelayActuator σ)

/-! ### `IDLE` -/

/-- Whenever the VCU is in `IDLE`, the last contactor command is `allOff`. -/
def IdleIsOpen (q m : Bool) (relays : σ) (as : List (Action σ)) : Prop :=
  ∀ pre, pre <+: as → (after act q m relays pre).s_state = .IDLE →
    ContactorsOpen (after act q m relays pre)

variable {act}

/-- Outside the safe states `run` ends in `IDLE` only if it stays there, without a command. -/
theorem Ran.idle {v w : Vcu σ} (h : Ran act v w) (hs : ¬v.s_state.safe)
    (hw : w.s_state = .IDLE) : v.s_state = .IDLE ∧ w.commands = v.commands := by
  cases h with
  | eStopFlag | faultFlag | actuatorFault | critical | queuedEStop | driveEnable => simp at hw
  | queuedFault => split_ifs at hw <;> simp_all
  | resetRejected _ _ hsafe | resetAccepted _ _ hsafe => exact absurd hsafe hs
  | startAccepted => simp at hw
  | startRejected _ _ hidle => exact ⟨hidle, by simp⟩
  | ignored hp hq hi =>
    have hidle : v.s_state = .IDLE := by simpa using hw
    rw [periodic_eq_self _ _ (by simp [hidle]) (by simpa using hs)]
    exact ⟨hidle, rfl⟩
  | noEvent =>
    have hidle : v.s_state = .IDLE := by simpa using hw
    rw [periodic_eq_self _ _ (by simp [hidle]) (by simpa using hs)]
    exact ⟨hidle, rfl⟩

/-- One `run` ends in `IDLE` with the contactors closed exactly when it accepts a `RESET` while
they are closed. -/
theorem idle_run {v : Vcu σ} (hv : Reachable v)
    (hidle : v.s_state = .IDLE → ContactorsOpen v) :
    ((run act v).s_state = .IDLE → ContactorsOpen (run act v)) ↔
      (DequeuesReset true v → ContactorsOpen v) := by
  by_cases hs : v.s_state.safe
  · have hran := ranSafe_run act hv hs
    generalize run act v = w at hran ⊢
    cases hran with
    | switched hflags hnext =>
      have hne : ∀ s : VcuState, s.safe → s ≠ .IDLE := by
        rintro s (rfl | rfl) <;> simp
      simp only [transitionTo_s_state, hne _ hnext, false_implies, true_iff]
      exact fun h => absurd h.2.1 hflags
    | left h hcommands =>
      -- the transition itself issues no command, so `IDLE` inherits what was commanded before
      simp only [transitionTo_s_state, h, true_implies]
      exact contactorsOpen_congr (by simpa using hcommands)
    | refused h =>
      constructor
      · exact fun _ h' => absurd h h'.not_refused
      · intro _ hw
        rcases hs with hs | hs <;> simp [hs] at hw
    | ticked hflags hnext =>
      constructor
      · exact fun _ h => absurd h.2.2.1 hnext
      · intro _ hw
        rcases hs with hs | hs <;> simp [hs] at hw
  · constructor
    · exact fun _ h => absurd h.1 hs
    · intro _ hw
      obtain ⟨hidle', hcommands⟩ := (ran_run act v).idle hs hw
      exact (contactorsOpen_congr hcommands).mpr (hidle hidle')

variable (act)

/-- **The contactors are open in `IDLE`** in exactly those runs in which no `RESET` is accepted
while they are still commanded closed. -/
theorem idleIsOpen_iff (q m : Bool) (relays : σ) (as : List (Action σ)) :
    IdleIsOpen act q m relays as ↔
      Along (step act) (OnRun fun v => DequeuesReset true v → ContactorsOpen v)
        (init act q m relays) as := by
  let Inv : Vcu σ → Prop := fun v => Reachable v ∧ (v.s_state = .IDLE → ContactorsOpen v)
  have hinit : Inv (init act q m relays) := by
    refine ⟨reachable_init act q m relays, fun hs => ?_⟩
    rcases init_cases act q m relays with ⟨-, hopen⟩ | hinit
    · exact hopen
    · simp [hinit] at hs
  have hiff : ∀ v a, Inv v →
      (OnRun (fun v => DequeuesReset true v → ContactorsOpen v) v a ↔
        ((step act v a).s_state = .IDLE → ContactorsOpen (step act v a))) := by
    rintro v a ⟨hv, hidle⟩
    by_cases ha : a = .run
    · subst ha
      exact ⟨fun h => (idle_run hv hidle).mpr (h rfl), fun h _ => (idle_run hv hidle).mp h⟩
    · rw [step_s_state_of_ne_run act v ha, contactorsOpen_congr (step_commands_of_ne_run act v ha)]
      exact ⟨fun _ => hidle, fun _ h => absurd h ha⟩
  have hstep : ∀ v a, Inv v → OnRun (fun v => DequeuesReset true v → ContactorsOpen v) v a →
      Inv (step act v a) :=
    fun v a hinv h => ⟨reachable_step hinv.1 a, (hiff v a hinv).mp h⟩
  rw [along_iff_of_invariant Inv hiff hstep hinit]
  exact (forall_prefix_iff_along
    (fun v : Vcu σ => v.s_state = .IDLE → ContactorsOpen v) _ as).trans
    (and_iff_right hinit.2)

/-- A `RESET` that is waiting when the fault is entered is accepted before the handler of `FAULT`
runs once: the VCU is back in `IDLE` with all contactors closed. -/
theorem not_idleIsOpen_of_early_reset :
    ¬IdleIsOpen faultFreeRelays true true ()
      [.setTelemetryData healthyData, .postEvent .START_REQUEST, .run,
        .postEvent .FAULT_DETECTED, .run, .postEvent .RESET, .run] := by
  intro h
  have hopen := h _ (List.prefix_refl _) (by decide)
  exact absurd hopen (by decide)

/-! ### Two `run` calls in the safe states -/

/-- If two consecutive `run` calls both end in a safe state, the contactors are commanded open
after the second. -/
def OpensWithinTwoRuns (q m : Bool) (relays : σ) (as : List (Action σ)) : Prop :=
  ∀ pre mid post, as = pre ++ .run :: (mid ++ .run :: post) → .run ∉ mid →
    (after act q m relays (pre ++ [.run])).s_state.safe →
    (after act q m relays (pre ++ .run :: (mid ++ [.run]))).s_state.safe →
    ContactorsOpen (after act q m relays (pre ++ .run :: (mid ++ [.run])))

/-- In a safe state with the contactors still closed, the next `run` is neither diverted to the
other safe state nor spent on a refused `RESET`. -/
def OpeningUndisturbed (v : Vcu σ) : Prop :=
  v.s_state.safe → ¬ContactorsOpen v → FlagsStay v ∧ ¬DequeuesReset false v

variable {act}

/-- The first tick of a visit is late enough to open the contactors. -/
theorem delay_le_of_timer_eq_zero {v : Vcu σ} (h : v.s_stateTimer = 0) :
    VCU_CONTACTOR_OPEN_DELAY_MS ≤ v.s_stateTimer + TASK_PERIOD_MS := by
  rw [h]
  decide

/-- One `run` between safe states leaves the contactors open exactly when the opening is not
disturbed. -/
theorem safe_run {v : Vcu σ} (hv : Reachable v)
    (htimer : v.s_state.safe → ¬ContactorsOpen v → v.s_stateTimer = 0) :
    (v.s_state.safe → (run act v).s_state.safe → ContactorsOpen (run act v)) ↔
      OpeningUndisturbed v := by
  unfold OpeningUndisturbed
  by_cases hs : v.s_state.safe
  · simp only [hs, true_implies]
    by_cases hopen : ContactorsOpen v
    · -- once open, no path of a safe state closes the contactors
      simp only [hopen, not_true_eq_false, false_implies, iff_true]
      intro _
      have hran := ranSafe_run act hv hs
      generalize run act v = w at hran ⊢
      cases hran with
      | switched _ _ _ hcommands =>
        exact (contactorsOpen_congr (by simpa using hcommands)).mpr hopen
      | left _ hcommands => exact (contactorsOpen_congr (by simpa using hcommands)).mpr hopen
      | refused => exact hopen
      | ticked =>
        exact (contactorsOpen_tick act (v := polled act v _) hs hv.opened).mpr (.inl hopen)
    · -- still closed, so the handler has not run yet: only a tick of it opens them now
      simp only [hopen, not_false_eq_true, true_implies]
      have hdelay := delay_le_of_timer_eq_zero (htimer hs hopen)
      have hran := ranSafe_run act hv hs
      generalize run act v = w at hran ⊢
      cases hran with
      | switched hflags hnext _ hcommands =>
        refine ⟨fun h => ?_, fun h => absurd h.1 hflags⟩
        have hw := h (by simpa using hnext)
        exact absurd ((contactorsOpen_congr (by simpa using hcommands)).mp hw) hopen
      | left h =>
        refine ⟨fun _ => ⟨h.2.1, h.not_refused⟩, fun _ hw => ?_⟩
        simp [VcuState.safe] at hw
      | refused h => exact ⟨fun h' => absurd (h' hs) hopen, fun h' => absurd h h'.2⟩
      | ticked hflags hnext =>
        exact ⟨fun _ => ⟨hflags, fun h => hnext h.2.2.1⟩,
          fun _ _ => (contactorsOpen_tick act (v := polled act v _) hs hv.opened).mpr (.inr hdelay)⟩
  · simp only [hs, false_implies]

/-- The property of two consecutive `run` calls is a property of each `run` in a safe state. -/
theorem opensWithinTwoRuns_iff_along (q m : Bool) (relays : σ) (as : List (Action σ)) :
    OpensWithinTwoRuns act q m relays as ↔
      Along (step act)
        (OnRun fun v => v.s_state.safe → (run act v).s_state.safe → ContactorsOpen (run act v))
        (init act q m relays) as := by
  rw [along_iff_forall]
  constructor
  · rintro h pre a post rfl rfl hs hw
    -- the state in which `run` finds the VCU was reached by an earlier `run`
    rcases exec_last_change (step act) Vcu.s_state (· = .run)
        (fun v a ha => step_s_state_of_ne_run act v ha) (init act q m relays) pre with
      ⟨-, hstate⟩ | ⟨pre', _, mid, rfl, rfl, hmid, hstate⟩
    · rw [hstate] at hs
      exact absurd hs (init_not_safe act q m relays)
    · have hlast := h pre' mid post (by simp) (fun hmem => hmid _ hmem rfl) (hstate ▸ hs)
      simp only [after, exec_append, exec_cons, exec_nil] at hlast hw ⊢
      exact hlast hw
  · rintro h pre mid post rfl hmid hs hw
    have hlast := h (pre ++ .run :: mid) .run post (by simp) rfl
    have hframe : (after act q m relays (pre ++ .run :: mid)).s_state
        = (after act q m relays (pre ++ [.run])).s_state := by
      simp only [after, exec_append, exec_cons, exec_nil]
      exact exec_frame (step act) Vcu.s_state
        (fun v a ha => step_s_state_of_ne_run act v fun hrun => hmid (hrun ▸ ha)) _
    simp only [after, exec_append, exec_cons, exec_nil] at hlast hframe hs hw ⊢
    exact hlast (hframe ▸ hs) hw

variable (act)

/-- **The second `run` in the safe states opens the contactors** in exactly those runs in which no
`run` with the contactors still closed changes from one safe state to the other or refuses a
`RESET`: both postpone the handler that opens them. -/
theorem opensWithinTwoRuns_iff (q m : Bool) (relays : σ) (as : List (Action σ)) :
    OpensWithinTwoRuns act q m relays as ↔
      Along (step act) (OnRun OpeningUndisturbed) (init act q m relays) as := by
  rw [opensWithinTwoRuns_iff_along]
  let Inv : Vcu σ → Prop :=
    fun v => Reachable v ∧ (v.s_state.safe → ¬ContactorsOpen v → v.s_stateTimer = 0)
  have hinit : Inv (init act q m relays) :=
    ⟨reachable_init act q m relays, fun hs => absurd hs (init_not_safe act q m relays)⟩
  have hstep : ∀ v a, Inv v → OnRun OpeningUndisturbed v a → Inv (step act v a) := by
    rintro v a ⟨hv, htimer⟩ h
    refine ⟨reachable_step hv a, ?_⟩
    by_cases ha : a = .run
    · subst ha
      intro hw hclosed
      by_cases hs : v.s_state.safe
      · exact absurd ((safe_run hv htimer).mpr (h rfl) hs hw) hclosed
      · -- a visit begins with its timer at zero
        obtain ⟨next, w, -, hrun, -⟩ := (ran_run act v).entered hs hw
        simp only [step, hrun, transitionTo_s_stateTimer]
    · obtain ⟨_, _, _, _, _, _, hstep⟩ := step_eq_of_ne_run act v ha
      rw [hstep]
      exact htimer
  refine (along_iff_of_invariant Inv ?_ hstep hinit as).symm
  rintro v a ⟨hv, htimer⟩
  exact forall_congr' fun _ => (safe_run hv htimer).symm

/-- Alternating requests postpone the opening: a fault after an emergency stop enters `FAULT`
before the handler of `EMERGENCY_STOP` has run, and both `run` calls end in a safe state. -/
theorem not_opensWithinTwoRuns_of_alternating :
    ¬OpensWithinTwoRuns faultFreeRelays true true ()
      [.setTelemetryData healthyData, .postEvent .START_REQUEST, .run,
        .postEvent .EMERGENCY_STOP, .run, .postEvent .FAULT_DETECTED, .run] := by
  intro h
  have hopen := h
    [.setTelemetryData healthyData, .postEvent .START_REQUEST, .run, .postEvent .EMERGENCY_STOP]
    [.postEvent .FAULT_DETECTED] [] rfl (by simp) (by decide) (by decide)
  exact absurd hopen (by decide)

end TufanAks.VcuLogic
