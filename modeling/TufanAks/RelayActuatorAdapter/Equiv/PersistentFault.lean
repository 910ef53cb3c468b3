import TufanAks.RelayActuatorAdapter
import TufanAks.RelayManager.Equiv.FaultFlag
import TufanAks.VcuLogic.Equiv.Interlocks

/-!
# A persistent actuator failure and the way to READY

`relaysRan_run` says what one `run` does to the relay driver: nothing, verifications that keep the
fault of every failure (`RelayManager.Records`), or an accepted `RESET` that clears the fault.

While every verification fails, READY is therefore entered only between an accepted `RESET` and the
next verification.  `blocksReady_iff` names the states in which a `START_REQUEST` slips past the
interlock.
-/

namespace TufanAks.RelayActuatorAdapter

open VcuLogic RelayManager

/-! ### The relay driver along `run` -/

/-- Commands to the driver are verified; requests for torque do not reach it. -/
theorem records_issueAll (cs : List Command) (v : Vcu RelayManager) :
    ∃ oks, Records oks v.s_relays (issueAll relayActuator v cs).s_relays := by
  induction cs generalizing v with
  | nil => exact ⟨[], .refl _⟩
  | cons c cs ih =>
    have hissue : ∃ oks, Records oks v.s_relays (issue relayActuator v c).s_relays := by
      cases c with
      | allOn => exact records_allOn v.s_relays
      | allOff silent => exact records_allOff silent v.s_relays
      | torque value => exact ⟨[], .refl _⟩
    obtain ⟨oks, hoks⟩ := hissue
    obtain ⟨oks', hoks'⟩ := ih (issue relayActuator v c)
    exact ⟨oks ++ oks', hoks.trans hoks'⟩

theorem records_handleReady (v : Vcu RelayManager) :
    ∃ oks, Records oks v.s_relays (handleReady relayActuator v).s_relays := by
  unfold handleReady
  split_ifs
  · exact records_allOn v.s_relays
  · exact ⟨[], .refl _⟩

theorem records_periodic (v : Vcu RelayManager) :
    ∃ oks, Records oks v.s_relays (periodic relayActuator v).s_relays := by
  unfold periodic
  split
  · exact records_handleReady v
  · exact records_issueAll _ v
  · exact records_issueAll _ v
  · exact ⟨[], .refl _⟩

/-- What `run` records before it looks at an event. -/
theorem records_checked {v : Vcu RelayManager} (hv : Started v.s_relays) :
    ∃ oks, Records oks v.s_relays (checked relayActuator v).s_relays :=
  records_verifyIfDue hv (v.s_uptimeMs + TASK_PERIOD_MS)

theorem records_checked_of_not_due {v : Vcu RelayManager} (hv : Started v.s_relays)
    (h : ¬Due (v.s_uptimeMs + TASK_PERIOD_MS) v.s_relays) :
    Records [] v.s_relays (checked relayActuator v).s_relays :=
  records_verifyIfDue_of_not_due hv h

/-- What one `run` from `v` to `w` does to the relay driver. -/
inductive RelaysRan (v w : Vcu RelayManager) : Prop
  | untouched (hs : w.s_state.safe) (h : w.s_relays = v.s_relays)
  | cleared (hreset : DequeuesReset true v)
      (h : w.s_relays = clearActuatorFault (checked relayActuator v).s_relays)
  | recorded {oks : List Bool}
      (h : Records oks (checked relayActuator v).s_relays w.s_relays)

/-- **One `run`**: only a pending flag keeps it away from the driver, and only an accepted `RESET`
clears the fault. -/
theorem relaysRan_run (v : Vcu RelayManager) : RelaysRan v (run relayActuator v) := by
  have hran := ran_run relayActuator v
  have hself := Records.refl (checked relayActuator v).s_relays
  generalize run relayActuator v = w at hran ⊢
  cases hran with
  | eStopFlag | faultFlag => exact .untouched (by simp [VcuState.safe]) (by simp)
  | actuatorFault | critical | queuedEStop | resetRejected | startRejected | driveEnable =>
    exact .recorded (by simpa using hself)
  | queuedFault =>
    split_ifs
    · exact .recorded (by simpa using hself)
    · exact .recorded (by simpa using hself)
  | resetAccepted hp hq hs hi =>
    exact .cleared ⟨hs, hp.flagsStay, nextEvent_cons hq, hi⟩ (by simp [relayActuator])
  | startAccepted hp hq hs hi hf =>
    obtain ⟨oks, hoks⟩ := records_handleReady (transitionTo .READY (polled relayActuator v _))
    exact .recorded (by simpa using hoks)
  | ignored hp hq hi =>
    obtain ⟨oks, hoks⟩ := records_periodic (polled relayActuator v _)
    exact .recorded (by simpa using hoks)
  | noEvent hp hq =>
    obtain ⟨oks, hoks⟩ := records_periodic (polled relayActuator v _)
    exact .recorded (by simpa using hoks)

/-- What one action does to the relay driver. -/
inductive RelaysStepped (v : Vcu RelayManager) (a : Action) (w : Vcu RelayManager) : Prop
  | recorded {oks : List Bool} (h : Records oks v.s_relays w.s_relays)
  | cleared (ha : a = .run) (hreset : DequeuesReset true v) {oks : List Bool} {r : RelayManager}
      (h : Records oks v.s_relays r) (hw : w.s_relays = clearActuatorFault r)

theorem relaysStepped_step {v : Vcu RelayManager} (hv : Started v.s_relays) (a : Action) :
    RelaysStepped v a (step v a) := by
  have hself : Records [] v.s_relays v.s_relays := .refl _
  cases a with
  | run =>
    obtain ⟨oks, hoks⟩ := records_checked hv
    cases relaysRan_run v with
    | untouched hs h =>
      apply RelaysStepped.recorded
      rw [show (step v .run).s_relays = v.s_relays from h]
      exact hself
    | cleared hreset h => exact .cleared rfl hreset hoks h
    | recorded h => exact .recorded (hoks.trans h)
  | postEvent event =>
    apply RelaysStepped.recorded
    rw [show (step v (.postEvent event)).s_relays = v.s_relays from (postEvent_frame v event).1]
    exact hself
  | setTelemetryData d =>
    apply RelaysStepped.recorded
    rw [show (step v (.setTelemetryData d)).s_relays = v.s_relays from
      (setTelemetryData_frame v d).1]
    exact hself
  | setTorqueSink bound => exact .recorded hself
  | chip change => exact .recorded (.of_eq rfl rfl rfl rfl)

/-- Nothing stops the driver, and what it has recorded stays. -/
theorem started_step {v : Vcu RelayManager} (hv : Started v.s_relays) (a : Action) :
    Started (step v a).s_relays ∧ v.s_relays.verified <+: (step v a).s_relays.verified := by
  cases relaysStepped_step hv a with
  | recorded h => exact ⟨h.started hv, _, h.verified.symm⟩
  | cleared ha hreset h hw =>
    have hr := h.started hv
    rw [hw]
    exact ⟨⟨hr.initialized, hr.spiDev⟩, _, h.verified.symm⟩

theorem started_after {v : Vcu RelayManager} (hv : Started v.s_relays) (as : List Action) :
    Started (after v as).s_relays ∧ v.s_relays.verified <+: (after v as).s_relays.verified := by
  refine Machine.exec_invariant (fun w : Vcu RelayManager =>
    Started w.s_relays ∧ v.s_relays.verified <+: w.s_relays.verified) ?_ ⟨hv, List.prefix_refl _⟩
  rintro w a - ⟨hw, hprefix⟩
  have hstep := started_step hw a
  exact ⟨hstep.1, hprefix.trans hstep.2⟩

/-- Since power-up the driver has only recorded. -/
theorem records_boot (chip : Registers) (succeeds : ℕ → Bool) (q m : Bool) :
    ∃ oks r, Started r ∧ r.verified = [] ∧ r.s_actuatorFault = false ∧
      Records oks r (boot chip succeeds q m).s_relays := by
  let r₀ : RelayManager := initRegisters { s_spiDev := true, bus := ⟨chip, succeeds⟩ }
  let r : RelayManager := { r₀ with s_relayState := 0, s_initialized := true }
  have hr₀ : r₀.s_spiDev = true ∧ r₀.verified = [] ∧ r₀.s_actuatorFault = false := by
    have h := initRegisters_eq { s_spiDev := true, bus := ⟨chip, succeeds⟩ }
    rw [show r₀ = _ from h]
    exact ⟨rfl, rfl, rfl⟩
  have hbegin : Records [(verifyOutputs r).1] r (verifyOutputs r).2 := records_verifyOutputs r
  obtain ⟨oks, hoks⟩ := records_allOff false (verifyOutputs r).2
  have hboot : (boot chip succeeds q m).s_relays = (verifyOutputs r).2 ∨
      (boot chip succeeds q m).s_relays = allOff false (verifyOutputs r).2 := by
    cases q
    · exact .inl rfl
    · cases m
      · exact .inl rfl
      · exact .inr rfl
  rcases hboot with h | h
  · exact ⟨_, r, ⟨rfl, hr₀.1⟩, hr₀.2.1, hr₀.2.2, h ▸ hbegin⟩
  · exact ⟨_, r, ⟨rfl, hr₀.1⟩, hr₀.2.1, hr₀.2.2, h ▸ hbegin.trans hoks⟩

theorem started_boot (chip : Registers) (succeeds : ℕ → Bool) (q m : Bool) :
    Started (boot chip succeeds q m).s_relays := by
  obtain ⟨oks, r, hr, -, -, h⟩ := records_boot chip succeeds q m
  exact h.started hr

/-! ### Blocking READY -/

/-- `run` in the state `v` enters READY. -/
def EntersReady (v : Vcu RelayManager) : Prop :=
  v.s_state ≠ .READY ∧ (run relayActuator v).s_state = .READY

/-- From its verification number `k` on, no verification has succeeded. -/
def FailsFrom (k : ℕ) (v : Vcu RelayManager) : Prop :=
  ∀ ok ∈ v.s_relays.verified.drop k, ok = false

instance (v : Vcu RelayManager) : Decidable (EntersReady v) := inferInstanceAs (Decidable (_ ∧ _))

instance (k : ℕ) (v : Vcu RelayManager) : Decidable (FailsFrom k v) :=
  inferInstanceAs (Decidable (∀ ok ∈ v.s_relays.verified.drop k, ok = false))

/-- **A persistent failure blocks READY**: if from number `k` on every verification of the run `as`
from `v₀` fails, no event handled after verification number `k` enters READY. -/
def BlocksReady (v₀ : Vcu RelayManager) (as : List Action) : Prop :=
  ∀ k pre post, FailsFrom k (after v₀ as) → as = pre ++ .run :: post →
    k < (checked relayActuator (after v₀ pre)).s_relays.verified.length →
      ¬EntersReady (after v₀ pre)

/-- The next `run` dequeues a `START_REQUEST` in IDLE and the telemetry permits it, the fault is
clear and no verification is due. -/
structure SlipsPast (v : Vcu RelayManager) : Prop where
  idle : v.s_state = .IDLE
  flags : FlagsStay v
  start : nextEvent v = some .START_REQUEST
  permitted : isReadyEntryPermitted v.s_TEL_latestData = true
  clear : hasActuatorFault v.s_relays = false
  notDue : ¬Due (v.s_uptimeMs + TASK_PERIOD_MS) v.s_relays

/-- A request that slips past is accepted. -/
theorem SlipsPast.entersReady {v : Vcu RelayManager} (hv : Started v.s_relays)
    (h : SlipsPast v) : EntersReady v := by
  refine ⟨by simp [h.idle], run_of_start h.idle h.flags h.start h.permitted ?_⟩
  exact (records_checked_of_not_due hv h.notDue).fault.trans (by simp [h.clear])

/-- READY is entered by a request that slips past, or right after a verification that is due has
succeeded. -/
theorem EntersReady.slipsPast_or_due {v : Vcu RelayManager} (hv : Started v.s_relays)
    (h : EntersReady v) :
    SlipsPast v ∨ Records [true] v.s_relays (checked relayActuator v).s_relays := by
  have hentry := readyEntry_of_run h.1 h.2
  have hclear : hasActuatorFault (checked relayActuator v).s_relays = false := hentry.actuator
  obtain ⟨rest, hq, -⟩ := hentry.event
  by_cases hdue : Due (v.s_uptimeMs + TASK_PERIOD_MS) v.s_relays
  · -- a failed verification would have set the fault
    obtain ⟨ok, hok⟩ : ∃ ok, Records [ok] v.s_relays (checked relayActuator v).s_relays :=
      records_verifyIfDue_of_due hv hdue
    have hfault := hok.fault
    rw [hclear] at hfault
    cases ok with
    | false => simp at hfault
    | true => exact .inr hok
  · have hfault := (records_checked_of_not_due hv hdue).fault
    rw [hclear, List.any_nil, Bool.or_false] at hfault
    exact .inl ⟨hentry.source, (passed_of_readyEntry h.1 h.2).1.flagsStay, nextEvent_cons hq,
      hentry.permitted, hfault.symm, hdue⟩

/-- What a `run` that enters READY has checked stays recorded. -/
theorem EntersReady.checked_prefix {v : Vcu RelayManager} (h : EntersReady v) :
    (checked relayActuator v).s_relays.verified <+: (run relayActuator v).s_relays.verified := by
  obtain ⟨-, rest, hrun⟩ := passed_of_readyEntry h.1 h.2
  obtain ⟨oks, hoks⟩ :=
    records_handleReady (transitionTo .READY (polled relayActuator v (some rest)))
  rw [transitionTo_s_relays, polled_s_relays] at hoks
  rw [hrun]
  exact ⟨oks, hoks.verified.symm⟩

theorem blocksReady_iff_of_started {v₀ : Vcu RelayManager} (h₀ : Started v₀.s_relays)
    (as : List Action) :
    BlocksReady v₀ as ↔
      ∀ k pre post, FailsFrom k (after v₀ as) → as = pre ++ .run :: post →
        k < (after v₀ pre).s_relays.verified.length → ¬SlipsPast (after v₀ pre) := by
  constructor
  · rintro h k pre post hfails hsplit hk hslips
    obtain ⟨hstarted, -⟩ := started_after h₀ pre
    refine h k pre post hfails hsplit ?_ (hslips.entersReady hstarted)
    obtain ⟨oks, hoks⟩ := records_checked hstarted
    rw [hoks.verified, List.length_append]
    omega
  · rintro h k pre post hfails rfl hk hready
    obtain ⟨hstarted, -⟩ := started_after h₀ pre
    rcases hready.slipsPast_or_due hstarted with hslips | hok
    · refine h k pre post hfails rfl ?_ hslips
      rwa [(records_checked_of_not_due hstarted hslips.notDue).verified, List.append_nil] at hk
    · -- the verification of this `run` is one of those that fail
      have hlast : (after v₀ pre).s_relays.verified ++ [true] <+:
          (after v₀ (pre ++ .run :: post)).s_relays.verified := by
        have hafter : after v₀ (pre ++ .run :: post) = after (step (after v₀ pre) .run) post :=
          Machine.exec_append _ _ _
        have hpost := started_after (started_step hstarted .run).1 post
        rw [← hok.verified, hafter]
        exact hready.checked_prefix.trans hpost.2
      rw [hok.verified, List.length_append, List.length_singleton] at hk
      obtain ⟨rest, hrest⟩ := hlast
      have hmem : true ∈ (after v₀ (pre ++ .run :: post)).s_relays.verified.drop k := by
        rw [← hrest, List.drop_append_of_le_length (by simp; omega),
          List.drop_append_of_le_length (by omega)]
        simp
      cases hfails true hmem

/-- **When a persistent failure blocks READY**: for every content of the chip and every pattern of
failed transfers, exactly when no `START_REQUEST` slips past after the first of the failures. -/
theorem blocksReady_iff (chip : Registers) (succeeds : ℕ → Bool) (q m : Bool)
    (as : List Action) :
    BlocksReady (boot chip succeeds q m) as ↔
      ∀ k pre post, FailsFrom k (after (boot chip succeeds q m) as) → as = pre ++ .run :: post →
        k < (after (boot chip succeeds q m) pre).s_relays.verified.length →
          ¬SlipsPast (after (boot chip succeeds q m) pre) :=
  blocksReady_iff_of_started (started_boot chip succeeds q m) as

/-- No transfer ever succeeds.  An emergency stop and a `RESET` clear the fault that power-up has
latched, and a `START_REQUEST` two ticks later is accepted. -/
theorem not_blocksReady_of_reset :
    ¬BlocksReady (boot powerOnRegisters (fun _ => false) true true)
      [.postEvent .EMERGENCY_STOP, .run, .postEvent .RESET, .run, .setTelemetryData healthyData,
        .postEvent .START_REQUEST, .run] := by
  intro h
  refine h 0 [.postEvent .EMERGENCY_STOP, .run, .postEvent .RESET, .run,
    .setTelemetryData healthyData, .postEvent .START_REQUEST] [] ?_ rfl ?_ ?_
  · decide
  · decide
  · decide

end TufanAks.RelayActuatorAdapter
