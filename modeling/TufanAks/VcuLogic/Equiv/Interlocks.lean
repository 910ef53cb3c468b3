import TufanAks.VcuLogic.Equiv.Invariants

/-!
# The interlocks

Which `run` calls enter `READY`, enter `DRIVE` and leave the safe states, what they dequeue and
which conditions they check (`ReadyEntry`, `DriveEntry`, `SafeExit`).  `interlocks` states that
there is no other way, for one call and for the way from a safe state to `DRIVE`;
`accepted_not_critical` compares the snapshot on which a call was decided with the critical
conditions of the state it ends in.
-/

namespace TufanAks.VcuLogic

open Machine

variable {σ : Type*} (act : IRelayActuator σ)

/-! ### The guarded transitions -/

/-- The next `run` takes `event` from the queue. -/
def Dequeues (event : VcuEvent) (v : Vcu σ) : Prop :=
  ∃ rest, v.s_eventQueue = some (event :: rest) ∧ (run act v).s_eventQueue = some rest

/-- `run` in the state `v` enters `READY`. -/
structure ReadyEntry (v : Vcu σ) : Prop where
  source : v.s_state = .IDLE
  event : Dequeues act .START_REQUEST v
  permitted : isReadyEntryPermitted v.s_TEL_latestData = true
  actuator : act.hasActuatorFault (checked act v).s_relays = false
  target : (run act v).s_state = .READY

/-- `run` in the state `v` enters `DRIVE`. -/
structure DriveEntry (v : Vcu σ) : Prop where
  source : v.s_state = .READY
  event : Dequeues act .DRIVE_ENABLE v
  eStop : v.s_eStopPending = false
  fault : v.s_faultPending = false
  actuator : act.hasActuatorFault (checked act v).s_relays = false
  critical : hasCriticalCondition v.s_TEL_latestData v.s_state = false
  target : (run act v).s_state = .DRIVE

/-- `run` in the state `v` leaves a safe state. -/
structure SafeExit (v : Vcu σ) : Prop where
  source : v.s_state.safe
  event : Dequeues act .RESET v
  interlock : isResetInterlockSatisfied v.s_TEL_latestData v.s_state = true
  target : (run act v).s_state = .IDLE

/-- What the interlocks promise about the action `a` in the state `v`. -/
structure Interlocked (v : Vcu σ) (a : Action σ) : Prop where
  ready : v.s_state ≠ .READY → (step act v a).s_state = .READY → a = .run ∧ ReadyEntry act v
  drive : v.s_state ≠ .DRIVE → (step act v a).s_state = .DRIVE → a = .run ∧ DriveEntry act v
  exit : v.s_state.safe → ¬(step act v a).s_state.safe → a = .run ∧ SafeExit act v
  allOn : ∃ issued, (step act v a).commands = v.commands ++ issued ∧
    (.allOn ∈ issued → (step act v a).s_state = .READY)

variable {act}

theorem Passed.flags_false {v : Vcu σ} (h : Passed act v) (hs : ¬v.s_state.safe) :
    v.s_eStopPending = false ∧ v.s_faultPending = false := by
  refine ⟨Bool.eq_false_iff.mpr fun hp => ?_, Bool.eq_false_iff.mpr fun hp => ?_⟩
  · exact hs (.inl (h.eStop hp))
  · exact hs (.inr (h.fault hp))

/-- `READY` is entered by an accepted `START_REQUEST` only. -/
theorem readyEntry_of_run {v : Vcu σ} (hs : v.s_state ≠ .READY)
    (hw : (run act v).s_state = .READY) : ReadyEntry act v := by
  have hran := ran_run act v
  generalize hrun : run act v = w at hran hw
  cases hran with
  | eStopFlag | faultFlag | actuatorFault | critical | queuedEStop | resetAccepted
  | driveEnable => simp at hw
  | queuedFault => split_ifs at hw <;> simp_all
  | resetRejected | startRejected | ignored | noEvent => exact absurd (by simpa using hw) hs
  | startAccepted hp hq hidle hi hf =>
    exact ⟨hidle, ⟨_, hq, by simp [hrun]⟩, hi, hf, by simp [hrun]⟩

/-- The way of a `run` that enters `READY`. -/
theorem passed_of_readyEntry {v : Vcu σ} (hs : v.s_state ≠ .READY)
    (hw : (run act v).s_state = .READY) :
    Passed act v ∧
      ∃ rest, run act v = handleReady act (transitionTo .READY (polled act v (some rest))) := by
  have hran := ran_run act v
  generalize run act v = w at hran hw ⊢
  cases hran with
  | eStopFlag | faultFlag | actuatorFault | critical | queuedEStop | resetAccepted
  | driveEnable => simp at hw
  | queuedFault => split_ifs at hw <;> simp_all
  | resetRejected | startRejected | ignored | noEvent => exact absurd (by simpa using hw) hs
  | startAccepted hp hq => exact ⟨hp, _, rfl⟩

/-- A `START_REQUEST` that nothing diverts, the telemetry permits and the actuator does not refuse
is accepted. -/
theorem run_of_start {v : Vcu σ} (hs : v.s_state = .IDLE) (hflags : FlagsStay v)
    (hnext : nextEvent v = some .START_REQUEST)
    (hpermitted : isReadyEntryPermitted v.s_TEL_latestData = true)
    (hactuator : act.hasActuatorFault (checked act v).s_relays = false) :
    (run act v).s_state = .READY := by
  have hcritical := not_critical_of_isReadyEntryPermitted hpermitted
  have hran := ran_run act v
  generalize run act v = w at hran ⊢
  cases hran with
  | eStopFlag hp hne => exact absurd (hflags.1 hp) hne
  | faultFlag _ hp hne => exact absurd (hflags.2 hp) hne
  | actuatorFault _ _ hlive => simp [hs] at hlive
  | critical _ _ _ hc =>
    rw [hs, hcritical] at hc
    cases hc
  | startAccepted => simp
  | startRejected _ _ _ hno => exact absurd ⟨hpermitted, hactuator⟩ hno
  | ignored _ hq hi =>
    rw [nextEvent_cons hq, Option.some.injEq] at hnext
    exact absurd ⟨hnext, hs⟩ hi.2.2.2.1
  | noEvent _ hq => rcases hq with hq | hq <;> simp [nextEvent, hq] at hnext
  | queuedEStop _ hq | queuedFault _ hq | resetRejected _ hq | resetAccepted _ hq
  | driveEnable _ hq => simp [nextEvent_cons hq] at hnext

/-- `DRIVE` is entered by an accepted `DRIVE_ENABLE` only. -/
theorem driveEntry_of_run {v : Vcu σ} (hs : v.s_state ≠ .DRIVE)
    (hw : (run act v).s_state = .DRIVE) : DriveEntry act v := by
  have hran := ran_run act v
  generalize hrun : run act v = w at hran hw
  cases hran with
  | eStopFlag | faultFlag | actuatorFault | critical | queuedEStop | resetAccepted
  | startAccepted => simp at hw
  | queuedFault => split_ifs at hw <;> simp_all
  | resetRejected | startRejected | ignored | noEvent => exact absurd (by simpa using hw) hs
  | driveEnable hp hq hready =>
    obtain ⟨he, hf⟩ := hp.flags_false (by simp [VcuState.safe, hready])
    exact ⟨hready, ⟨_, hq, by simp [hrun]⟩, he, hf, hp.actuator (.inl hready),
      hp.critical (.inr (.inl hready)), by simp [hrun]⟩

/-- The safe states are left by an accepted `RESET` only. -/
theorem safeExit_of_run {v : Vcu σ} (hs : v.s_state.safe) (hw : ¬(run act v).s_state.safe) :
    SafeExit act v := by
  have hran := ran_run act v
  generalize hrun : run act v = w at hran hw
  cases hran with
  | eStopFlag | queuedEStop => exact absurd (.inl (by simp)) hw
  | faultFlag | actuatorFault | critical => exact absurd (.inr (by simp)) hw
  | queuedFault =>
    split_ifs at hw
    · exact absurd (.inr (by simp)) hw
    · exact absurd hs hw
  | resetRejected | ignored | noEvent => exact absurd hs (by simpa using hw)
  | startRejected _ _ hidle => simp [VcuState.safe, hidle] at hs
  | startAccepted _ _ hidle => simp [VcuState.safe, hidle] at hs
  | driveEnable _ _ hready => simp [VcuState.safe, hready] at hs
  | resetAccepted hp hq _ hi =>
    exact ⟨hs, ⟨_, hq, by simp [hrun]⟩, hi, by simp [hrun]⟩

/-- The periodic state logic closes the contactors in `READY` only. -/
theorem allOn_periodic (v : Vcu σ) :
    ∃ issued, (periodic act v).commands = v.commands ++ issued ∧
      (.allOn ∈ issued → v.s_state = .READY) := by
  by_cases hr : v.s_state = .READY
  · simp only [periodic, hr, handleReady]
    split_ifs
    · exact ⟨[.allOn], rfl, fun _ => trivial⟩
    · exact ⟨[], by simp, fun _ => trivial⟩
  have hshutdown : ∀ sink timer opened lastLogMs,
      .allOn ∉ (shutdownTick sink timer opened lastLogMs).commands := by
    intro sink timer opened lastLogMs
    unfold shutdownTick
    split_ifs <;> simp
  by_cases hs : v.s_state.safe
  · obtain ⟨hcommands, -⟩ := periodic_of_safe act v hs
    exact ⟨_, hcommands, fun h => absurd h (hshutdown _ _ _ _)⟩
  · exact ⟨[], by rw [periodic_eq_self act v hr hs]; simp, by simp⟩

/-- `run` closes the contactors only if it ends in `READY`. -/
theorem allOn_run (v : Vcu σ) :
    ∃ issued, (run act v).commands = v.commands ++ issued ∧
      (.allOn ∈ issued → (run act v).s_state = .READY) := by
  have hran := ran_run act v
  generalize run act v = w at hran ⊢
  cases hran with
  | eStopFlag | faultFlag | actuatorFault | critical | queuedEStop | resetRejected
  | resetAccepted | startRejected | driveEnable => exact ⟨[], by simp, by simp⟩
  | queuedFault => exact ⟨[], by split_ifs <;> simp, by simp⟩
  | startAccepted =>
    unfold handleReady
    split_ifs
    · exact ⟨[.allOn], by simp [issue], by simp [issue]⟩
    · exact ⟨[], by simp, by simp⟩
  | ignored =>
    obtain ⟨issued, hcommands, hready⟩ := allOn_periodic (polled act v _)
    exact ⟨issued, hcommands, fun h => by simpa using hready h⟩
  | noEvent =>
    obtain ⟨issued, hcommands, hready⟩ := allOn_periodic (polled act v _)
    exact ⟨issued, hcommands, fun h => by simpa using hready h⟩

theorem interlocked_step (v : Vcu σ) (a : Action σ) : Interlocked act v a := by
  by_cases ha : a = .run
  · subst ha
    exact ⟨fun hs hw => ⟨rfl, readyEntry_of_run hs hw⟩,
      fun hs hw => ⟨rfl, driveEntry_of_run hs hw⟩,
      fun hs hw => ⟨rfl, safeExit_of_run hs hw⟩, allOn_run v⟩
  · have hstate := step_s_state_of_ne_run act v ha
    refine ⟨fun hs hw => absurd (hstate ▸ hw) hs, fun hs hw => absurd (hstate ▸ hw) hs,
      fun hs hw => absurd (hstate ▸ hs) hw, ⟨[], ?_, by simp⟩⟩
    rw [step_commands_of_ne_run act v ha, List.append_nil]

/-- The way from a safe state to `DRIVE` passes an accepted `RESET`, then an accepted
`START_REQUEST`, then an accepted `DRIVE_ENABLE`. -/
theorem safe_to_drive {v : Vcu σ} {rest : List (Action σ)} (hs : v.s_state.safe)
    (hdrive : (exec (step act) v rest).s_state = .DRIVE) :
    ∃ r₁ r₂ r₃ r₄, rest = r₁ ++ .run :: (r₂ ++ .run :: (r₃ ++ .run :: r₄)) ∧
      SafeExit act (exec (step act) v r₁) ∧
      ReadyEntry act (exec (step act) v (r₁ ++ .run :: r₂)) ∧
      DriveEntry act (exec (step act) v (r₁ ++ .run :: (r₂ ++ .run :: r₃))) := by
  have hne : ∀ s : VcuState, v.s_state = s → ¬s.safe → False := fun s h hn => hn (h ▸ hs)
  -- backwards: the step into `DRIVE`, then the step into `READY`, then the step out of safety
  obtain ⟨pre₃, a₃, r₄, rfl, hpre₃, hpost₃⟩ :=
    exec_crossing (fun w : Vcu σ => w.s_state = .DRIVE)
      (fun h => hne _ h (by simp [VcuState.safe])) hdrive
  obtain ⟨rfl, hdriveEntry⟩ := (interlocked_step _ a₃).drive hpre₃ hpost₃
  obtain ⟨pre₂, a₂, r₃, rfl, hpre₂, hpost₂⟩ :=
    exec_crossing (fun w : Vcu σ => w.s_state = .READY)
      (fun h => hne _ h (by simp [VcuState.safe])) hdriveEntry.source
  obtain ⟨rfl, hreadyEntry⟩ := (interlocked_step _ a₂).ready hpre₂ hpost₂
  obtain ⟨r₁, a₁, r₂, rfl, hpre₁, hpost₁⟩ :=
    exec_crossing (fun w : Vcu σ => ¬w.s_state.safe) (not_not_intro hs)
      (by rw [hreadyEntry.source]; simp [VcuState.safe])
  obtain ⟨rfl, hsafeExit⟩ := (interlocked_step _ a₁).exit (not_not.mp hpre₁) hpost₁
  refine ⟨r₁, r₂, r₃, r₄, by simp, hsafeExit, hreadyEntry, ?_⟩
  simpa using hdriveEntry

variable (act)

/-- **The interlocks of the VCU.**  In every run each call is `Interlocked`, and between a visit of
a safe state and a later `DRIVE` an accepted `RESET`, an accepted `START_REQUEST` and an accepted
`DRIVE_ENABLE` are dequeued in this order. -/
theorem interlocks (q m : Bool) (relays : σ) (as : List (Action σ)) :
    Along (step act) (Interlocked act) (init act q m relays) as ∧
      ∀ pre rest post, as = pre ++ (rest ++ post) →
        (after act q m relays pre).s_state.safe →
        (after act q m relays (pre ++ rest)).s_state = .DRIVE →
        ∃ r₁ r₂ r₃ r₄, rest = r₁ ++ .run :: (r₂ ++ .run :: (r₃ ++ .run :: r₄)) ∧
          SafeExit act (after act q m relays (pre ++ r₁)) ∧
          ReadyEntry act (after act q m relays (pre ++ (r₁ ++ .run :: r₂))) ∧
          DriveEntry act (after act q m relays (pre ++ (r₁ ++ .run :: (r₂ ++ .run :: r₃)))) := by
  constructor
  · rw [along_iff_forall]
    intro pre a post _
    exact interlocked_step _ a
  · intro pre rest post _ hs hdrive
    simp only [after, exec_append] at hdrive ⊢
    have h := safe_to_drive hs hdrive
    simpa only [after, exec_append] using h

/-! ### Snapshots -/

/-- The states in which the contactors may be closed or are about to be. -/
def VcuState.operational (s : VcuState) : Prop := s = .IDLE ∨ s = .READY ∨ s = .DRIVE

instance (s : VcuState) : Decidable s.operational := inferInstanceAs (Decidable (_ ∨ _))

/-- Every `run` that ends in an operational state was decided on a snapshot that is not critical
for that state. -/
def EndsUncritical (q m : Bool) (relays : σ) (as : List (Action σ)) : Prop :=
  ∀ pre post, as = pre ++ .run :: post →
    (after act q m relays (pre ++ [.run])).s_state.operational →
    hasCriticalCondition (after act q m relays pre).s_TEL_latestData
      (after act q m relays (pre ++ [.run])).s_state = false

/-- With a silent motor, `START_REQUEST` is accepted in `IDLE`, where the timeout does not count,
on a snapshot that is critical in `READY`. -/
theorem not_endsUncritical_of_motor_timeout :
    ¬EndsUncritical faultFreeRelays true true ()
      [.setTelemetryData { healthyData with TEL_motorTimeoutActive := true },
        .postEvent .START_REQUEST, .run] := by
  intro h
  have hcritical := h [_, _] [] rfl (by decide)
  exact absurd hcritical (by decide)

/-- The calls `mid` bring no event and leave the snapshot of the state `v` as it is. -/
def Quiet (v : Vcu σ) (mid : List (Action σ)) : Prop :=
  (∀ a ∈ mid, a ≠ .run ∧ ∀ event, a ≠ .postEvent event) ∧
    (exec (step act) v mid).s_TEL_latestData = v.s_TEL_latestData

variable {act}

/-- The snapshot is not critical for the state that `run` ends in, except where a `START_REQUEST`
is accepted while one of the two timeouts is active. -/
theorem run_ends_uncritical {v : Vcu σ} (hw : (run act v).s_state.operational) :
    hasCriticalCondition v.s_TEL_latestData (run act v).s_state = false ∨
      ReadyEntry act v ∧ hasCriticalCondition v.s_TEL_latestData .IDLE = false ∧
        (v.s_TEL_latestData.TEL_motorTimeoutActive = true ∨
          v.s_TEL_latestData.TEL_bmsTimeoutActive = true) := by
  by_cases hready : v.s_state ≠ .READY ∧ (run act v).s_state = .READY
  · -- judged in `IDLE`, where the two timeouts do not count
    have hentry := readyEntry_of_run hready.1 hready.2
    have hidle := not_critical_of_isReadyEntryPermitted hentry.permitted
    by_cases htimeout : v.s_TEL_latestData.TEL_motorTimeoutActive = true ∨
        v.s_TEL_latestData.TEL_bmsTimeoutActive = true
    · exact .inr ⟨hentry, hidle, htimeout⟩
    · rw [not_or, Bool.not_eq_true, Bool.not_eq_true] at htimeout
      left
      rw [hready.2, hasCriticalCondition_eq_or _ (by simp), hidle, htimeout.1, htimeout.2]
      rfl
  left
  have hran := ran_run act v
  generalize run act v = w at hran hw hready ⊢
  cases hran with
  | eStopFlag | faultFlag | actuatorFault | critical | queuedEStop =>
    simp [VcuState.operational] at hw
  | queuedFault => split_ifs at hw <;> simp_all [VcuState.operational]
  | resetRejected _ _ hs =>
    rcases hs with hs | hs <;> simp [VcuState.operational, hs] at hw
  | resetAccepted _ _ hs hi =>
    -- judged in the safe state, where more is critical than in `IDLE`
    have hne : v.s_state ≠ .IDLE := by rcases hs with hs | hs <;> simp [hs]
    rw [isResetInterlockSatisfied_eq, Bool.not_eq_true', hasCriticalCondition_eq_or _ hne] at hi
    simp only [Bool.or_eq_false_iff] at hi
    simpa using hi.1.1
  | startAccepted _ _ hs => exact absurd ⟨by simp [hs], by simp⟩ hready
  | startRejected hp _ hs => simpa [hs] using hp.critical (.inl hs)
  | driveEnable hp _ hs =>
    have hcritical := hp.critical (.inr (.inl hs))
    rw [transitionTo_s_state]
    rwa [hs, hasCriticalCondition_congr _ (t := .DRIVE) (by simp) (by simp)] at hcritical
  | ignored hp | noEvent hp =>
    rw [periodic_s_state] at hw ⊢
    exact hp.critical hw

/-- Without a pending fault, an actuator fault or a critical condition `run` does not enter
`FAULT`. -/
theorem run_ne_fault {v : Vcu σ} (hv : Reachable v) (hs : v.s_state ≠ .FAULT)
    (hf : v.s_faultPending = false)
    (ha : v.s_state = .READY → act.hasActuatorFault (checked act v).s_relays = false)
    (hd : v.s_state ≠ .DRIVE)
    (hc : hasCriticalCondition v.s_TEL_latestData v.s_state = false) :
    (run act v).s_state ≠ .FAULT := by
  have hran := ran_run act v
  generalize run act v = w at hran ⊢
  cases hran with
  | eStopFlag | queuedEStop | resetAccepted | startAccepted | driveEnable => simp
  | faultFlag _ hp => simp [hf] at hp
  | actuatorFault _ _ hst hfault =>
    rcases hst with hst | hst
    · rw [ha hst] at hfault
      cases hfault
    · exact absurd hst hd
  | critical _ _ _ hcritical =>
    rw [hc] at hcritical
    cases hcritical
  | queuedFault _ hq => exact absurd (nextEvent_cons hq) hv.nextEvent_ne.2
  | resetRejected | startRejected | ignored | noEvent => simpa using hs

/-- A `run` that ends in an operational state has consumed both flags. -/
theorem Ran.s_faultPending {v w : Vcu σ} (h : Ran act v w) (hw : w.s_state.operational) :
    w.s_faultPending = false := by
  cases h with
  | eStopFlag => simp [VcuState.operational] at hw
  | faultFlag | actuatorFault | critical | queuedEStop | resetAccepted | driveEnable =>
    simp
    try rfl
  | queuedFault => split_ifs <;> simp
  | startAccepted => unfold handleReady; split_ifs <;> simp [issue]
  | startRejected =>
    obtain ⟨r, t, hlog⟩ := logReadyReject_eq (polled act v _) _
    rw [hlog]
    rfl
  | resetRejected => rfl
  | ignored | noEvent => simp

/-- `run` does not touch the snapshot. -/
theorem Ran.s_TEL_latestData {v w : Vcu σ} (h : Ran act v w) :
    w.s_TEL_latestData = v.s_TEL_latestData := by
  cases h with
  | startAccepted => unfold handleReady; split_ifs <;> simp [issue]
  | startRejected =>
    obtain ⟨r, t, hlog⟩ := logReadyReject_eq (polled act v _) _
    rw [hlog]
    rfl
  | queuedFault => split_ifs <;> simp
  | _ => simp

/-- A quiet call changes neither the state nor the pending flags. -/
theorem quiet_frame {v : Vcu σ} {mid : List (Action σ)} (h : Quiet act v mid) :
    (exec (step act) v mid).s_state = v.s_state ∧
      (exec (step act) v mid).s_faultPending = v.s_faultPending := by
  have hstep : ∀ (w : Vcu σ), ∀ a ∈ mid,
      ((step act w a).s_state, (step act w a).s_faultPending) = (w.s_state, w.s_faultPending) := by
    intro w a ha
    obtain ⟨hrun, hpost⟩ := h.1 a ha
    cases a with
    | run => exact absurd rfl hrun
    | postEvent event => exact absurd rfl (hpost event)
    | setTelemetryData d =>
      simp only [step, setTelemetryData]
      split_ifs <;> rfl
    | setTorqueSink => rfl
    | actuator => rfl
  have hframe := exec_frame (step act) (fun w => (w.s_state, w.s_faultPending)) hstep v
  exact ⟨congrArg Prod.fst hframe, congrArg Prod.snd hframe⟩

/-- A request that was accepted on a snapshot without timeouts, or a `RESET` that was accepted, is
not followed by `FAULT` before the snapshot or the environment changes. -/
theorem run_ne_fault_of_accepted {v : Vcu σ} (hv : Reachable v) {mid : List (Action σ)}
    (hquiet : Quiet act (run act v) mid)
    (h : SafeExit act v ∨ ReadyEntry act v ∧
      v.s_TEL_latestData.TEL_motorTimeoutActive = false ∧
      v.s_TEL_latestData.TEL_bmsTimeoutActive = false ∧
      act.hasActuatorFault (checked act (exec (step act) (run act v) mid)).s_relays = false) :
    (run act (exec (step act) (run act v) mid)).s_state ≠ .FAULT := by
  have hran := ran_run act v
  obtain ⟨hstate, hfault⟩ := quiet_frame hquiet
  have hdata := hquiet.2.trans hran.s_TEL_latestData
  have hreach : Reachable (exec (step act) (run act v) mid) :=
    exec_invariant Reachable (fun _ a _ h => reachable_step h a) (reachable_run hv)
  have htarget : (run act v).s_state = .IDLE ∨ (run act v).s_state = .READY :=
    h.imp SafeExit.target fun h => h.1.target
  have hop : (run act v).s_state.operational := htarget.imp_right .inl
  -- the exception of `run_ends_uncritical` is excluded by either hypothesis
  have hcritical :
      hasCriticalCondition v.s_TEL_latestData (run act v).s_state = false := by
    rcases run_ends_uncritical hop with hc | ⟨hentry, -, htimeout⟩
    · exact hc
    · rcases h with hexit | ⟨-, hmotor, hbms, -⟩
      · have hsource := hexit.source
        rw [hentry.source] at hsource
        exact absurd hsource (by simp [VcuState.safe])
      · simp [hmotor, hbms] at htimeout
  refine run_ne_fault hreach ?_ (hfault.trans (hran.s_faultPending hop)) ?_ ?_ ?_
  · rw [hstate]
    rcases htarget with ht | ht <;> simp [ht]
  · intro hready
    rcases h with hexit | ⟨-, -, -, hactuator⟩
    · rw [hstate, hexit.target] at hready
      cases hready
    · exact hactuator
  · rw [hstate]
    rcases htarget with ht | ht <;> simp [ht]
  · rwa [hstate, hdata]

variable (act)

/-- **Accepted requests and critical snapshots.**  Every `run` that ends in an operational state was
decided on a snapshot that is not critical for that state, except where a `START_REQUEST` is
accepted while a timeout is active, which `IDLE` does not count.  An accepted `RESET`, and a
`START_REQUEST` accepted without an active timeout and with a working actuator, is not answered by
`FAULT` in the next `run` unless an event or a new snapshot comes in. -/
theorem accepted_not_critical (q m : Bool) (relays : σ) (as : List (Action σ)) :
    (∀ pre post, as = pre ++ .run :: post →
      (after act q m relays (pre ++ [.run])).s_state.operational →
      hasCriticalCondition (after act q m relays pre).s_TEL_latestData
          (after act q m relays (pre ++ [.run])).s_state = false ∨
        ReadyEntry act (after act q m relays pre) ∧
          hasCriticalCondition (after act q m relays pre).s_TEL_latestData .IDLE = false ∧
          ((after act q m relays pre).s_TEL_latestData.TEL_motorTimeoutActive = true ∨
            (after act q m relays pre).s_TEL_latestData.TEL_bmsTimeoutActive = true)) ∧
      ∀ pre mid post, as = pre ++ .run :: (mid ++ .run :: post) →
        Quiet act (after act q m relays (pre ++ [.run])) mid →
        (SafeExit act (after act q m relays pre) ∨
          ReadyEntry act (after act q m relays pre) ∧
            (after act q m relays pre).s_TEL_latestData.TEL_motorTimeoutActive = false ∧
            (after act q m relays pre).s_TEL_latestData.TEL_bmsTimeoutActive = false ∧
            act.hasActuatorFault
              (checked act (after act q m relays (pre ++ .run :: mid))).s_relays = false) →
        (after act q m relays (pre ++ .run :: (mid ++ [.run]))).s_state ≠ .FAULT := by
  constructor
  · intro pre post _ hop
    simp only [after, exec_append, exec_cons, exec_nil] at hop ⊢
    exact run_ends_uncritical hop
  · intro pre mid post _ hquiet h
    have hv := reachable_after act q m relays pre
    simp only [after, exec_append, exec_cons, exec_nil] at hv hquiet h ⊢
    exact run_ne_fault_of_accepted hv hquiet h

end TufanAks.VcuLogic
