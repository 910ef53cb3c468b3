import TufanAks.RelayActuatorAdapter.Equiv.PersistentFault
import TufanAks.RelayManager.Equiv.Convergence
import TufanAks.RelayManager.Equiv.Energising

/-!
# The pins follow the commands

What the state machine commands, the chip shows, if the bus does not fail.  `Follows` says that the
driver knows what was commanded last, `OutputsMatch` that the chip shows what the driver knows, and
`Drives` what a step does to the two: it keeps the first, and it keeps the second or, with a
contactor command, restores it.  Every part of `run` is of that kind (`drives_run`).
-/

namespace TufanAks.RelayActuatorAdapter

open VcuLogic RelayManager

/-! ### The pins of a driver that is known -/

/-- With matching outputs the relays that are energised are those that the shadow state has on. -/
theorem energised_iff {r : RelayManager} (h : OutputsMatch r) {channel : ℕ}
    (hlt : channel < RELAY_TOTAL_CHANNELS) :
    Energised r.chip channel ↔ r.s_relayState.toNat.testBit channel = true := by
  have hbit := testBit_expOlat r.s_relayState hlt
  have hout : IsOutput r.chip channel := by
    unfold IsOutput
    cases portOf channel with
    | A => rw [Port.IODIR, h.IODIRA, UInt8.toNat_zero, Nat.zero_testBit]
    | B => rw [Port.IODIR, h.IODIRB, UInt8.toNat_zero, Nat.zero_testBit]
  have hlow : IsLow r.chip channel ↔ r.s_relayState.toNat.testBit channel = true := by
    unfold IsLow
    cases hport : portOf channel with
    | A =>
      rw [if_pos hport] at hbit
      rw [Port.OLAT, h.OLATA, hbit, Bool.not_eq_false']
    | B =>
      rw [if_neg (by simp [hport])] at hbit
      rw [Port.OLAT, h.OLATB, hbit, Bool.not_eq_false']
  rw [Energised, hlow, and_iff_right hout]

/-- The shadow state that the last contactor command asks for. -/
def commandedState (v : Vcu RelayManager) : UInt16 :=
  if lastContactorCommand v.commands = some .allOn then
    (1 <<< UInt16.ofNat RELAY_TOTAL_CHANNELS) - 1
  else 0

theorem testBit_commandedState (v : Vcu RelayManager) {channel : ℕ}
    (hlt : channel < RELAY_TOTAL_CHANNELS) :
    (commandedState v).toNat.testBit channel = true ↔
      lastContactorCommand v.commands = some .allOn := by
  have hall : ∀ k < 10,
      ((1 <<< UInt16.ofNat RELAY_TOTAL_CHANNELS) - 1 : UInt16).toNat.testBit k = true := by
    decide
  unfold commandedState
  split_ifs with hon
  · exact iff_of_true (hall channel hlt) hon
  · simp [hon]

/-! ### Steps that drive -/

/-- The driver, on a bus that does not fail, knows what was commanded last. -/
structure Follows (v : Vcu RelayManager) : Prop where
  faultFree : FaultFree v.s_relays
  shadow : v.s_relays.s_relayState = commandedState v

/-- The contactor commands issued so far. -/
def contactorCommands (v : Vcu RelayManager) : List Command :=
  v.commands.filter Command.isContactor

/-- From `v` to `w` the driver follows the commands, and the chip shows them if it did before or if
one was issued. -/
structure Drives (v w : Vcu RelayManager) : Prop where
  follows : Follows v → Follows w
  shows : Follows v → OutputsMatch v.s_relays ∨ contactorCommands w ≠ contactorCommands v →
    OutputsMatch w.s_relays

theorem Drives.trans {u v w : Vcu RelayManager} (h : Drives u v) (h' : Drives v w) :
    Drives u w := by
  refine ⟨fun hu => h'.follows (h.follows hu), fun hu hshown => h'.shows (h.follows hu) ?_⟩
  by_cases hissued : contactorCommands v = contactorCommands u
  · rw [hissued]
    exact hshown.imp_left fun hmatch => h.shows hu (.inl hmatch)
  · exact .inl (h.shows hu (.inr hissued))

/-- A step that changes neither the driver nor the commands. -/
theorem Drives.of_eq {v w : Vcu RelayManager} (hrelays : w.s_relays = v.s_relays)
    (hcommands : w.commands = v.commands) : Drives v w := by
  refine ⟨fun h => ⟨hrelays ▸ h.faultFree, ?_⟩, fun _ hshown => ?_⟩
  · rw [hrelays, h.shadow, commandedState, commandedState, hcommands]
  · rw [contactorCommands, contactorCommands, hcommands] at hshown
    rw [hrelays]
    exact hshown.resolve_right fun hne => hne rfl

/-- A step that calls the driver without a contactor command: the call keeps the shadow state, and
the outputs if they match. -/
theorem Drives.of_call {v w : Vcu RelayManager} {a : RelayManager.Action}
    (ha : a.isBegin = false) (hshadow : a.shadow v.s_relays.s_relayState = v.s_relays.s_relayState)
    (hmatch : FaultFree v.s_relays → OutputsMatch v.s_relays →
      OutputsMatch (RelayManager.step v.s_relays a))
    (hrelays : w.s_relays = RelayManager.step v.s_relays a) (hcommands : w.commands = v.commands) :
    Drives v w := by
  refine ⟨fun h => ⟨?_, ?_⟩, fun h hshown => ?_⟩
  · rw [hrelays]
    exact (h.faultFree.step ha).1
  · rw [hrelays, (h.faultFree.step ha).2.1, hshadow, h.shadow, commandedState, commandedState,
      hcommands]
  · rw [contactorCommands, contactorCommands, hcommands] at hshown
    rw [hrelays]
    exact hmatch h.faultFree (hshown.resolve_right fun hne => hne rfl)

/-- **One command** is performed. -/
theorem drives_issue (v : Vcu RelayManager) (c : Command) : Drives v (issue relayActuator v c) := by
  cases c with
  | allOn =>
    have hstep : FaultFree v.s_relays → _ := fun h => h.step (a := .allOn) rfl
    refine ⟨fun h => ⟨(hstep h.faultFree).1, (hstep h.faultFree).2.1.trans ?_⟩,
      fun h _ => (hstep h.faultFree).2.2 trivial⟩
    simp [RelayManager.Action.shadow, commandedState, issue, lastContactorCommand,
      Command.isContactor]
  | allOff silent =>
    have hstep : FaultFree v.s_relays → _ := fun h => h.step (a := .allOff silent) rfl
    refine ⟨fun h => ⟨(hstep h.faultFree).1, (hstep h.faultFree).2.1.trans ?_⟩,
      fun h _ => (hstep h.faultFree).2.2 trivial⟩
    simp [RelayManager.Action.shadow, commandedState, issue, lastContactorCommand,
      Command.isContactor]
  | torque value =>
    have hlast : lastContactorCommand (v.commands ++ [.torque value]) =
        lastContactorCommand v.commands := by
      simp [lastContactorCommand, Command.isContactor]
    refine ⟨fun h => ⟨h.faultFree, h.shadow.trans ?_⟩, fun _ hshown => ?_⟩
    · simp [commandedState, issue, hlast]
    · refine hshown.resolve_right fun hne => hne ?_
      simp [contactorCommands, issue, Command.isContactor]

theorem drives_issueAll (cs : List Command) (v : Vcu RelayManager) :
    Drives v (issueAll relayActuator v cs) := by
  induction cs generalizing v with
  | nil => exact .of_eq rfl rfl
  | cons c cs ih => exact (drives_issue v c).trans (ih (issue relayActuator v c))

theorem drives_handleReady (v : Vcu RelayManager) : Drives v (handleReady relayActuator v) := by
  unfold handleReady
  split_ifs
  · exact drives_issue v .allOn
  · exact .of_eq rfl rfl

/-- The state handlers issue commands, and keep variables of their own. -/
theorem drives_periodic (v : Vcu RelayManager) : Drives v (periodic relayActuator v) := by
  unfold periodic
  split
  · exact drives_handleReady v
  · exact (drives_issueAll _ v).trans (.of_eq rfl rfl)
  · exact (drives_issueAll _ v).trans (.of_eq rfl rfl)
  · exact .of_eq rfl rfl

/-- The periodic verification repairs the outputs or leaves them alone. -/
theorem outputsMatch_verifyIfDue {r : RelayManager} (h : FaultFree r) (hmatch : OutputsMatch r)
    (nowMs : UInt32) : OutputsMatch (verifyIfDue nowMs r) := by
  by_cases hdue : Due nowMs r
  · rw [verifyIfDue_of_due h.started hdue]
    have hstamped : FaultFree { r with s_lastVerifyMs := nowMs } :=
      ⟨⟨h.started.initialized, h.started.spiDev⟩, h.reliable⟩
    exact hstamped.verifyOutputs.2.1
  · rw [verifyIfDue_of_not_due h.started hdue]
    split_ifs
    · exact hmatch
    · exact hmatch.of_eq rfl rfl

theorem drives_checked (v : Vcu RelayManager) : Drives v (checked relayActuator v) :=
  .of_call (a := .verifyIfDue (v.s_uptimeMs + TASK_PERIOD_MS)) rfl rfl
    (fun h hmatch => outputsMatch_verifyIfDue h hmatch _) rfl rfl

theorem drives_polled (v : Vcu RelayManager) (queue : Option (List VcuEvent)) :
    Drives v (polled relayActuator v queue) := (drives_checked v).trans (.of_eq rfl rfl)

theorem drives_transitionTo (next : VcuState) (v : Vcu RelayManager) :
    Drives v (transitionTo next v) :=
  .of_eq (transitionTo_s_relays v next) (transitionTo_commands v next)

/-- **One `run`** drives the relays, whichever path it takes. -/
theorem drives_run (v : Vcu RelayManager) : Drives v (run relayActuator v) := by
  have hran := ran_run relayActuator v
  generalize run relayActuator v = w at hran ⊢
  cases hran with
  | eStopFlag | faultFlag => exact .of_eq (transitionTo_s_relays _ _) (transitionTo_commands _ _)
  | actuatorFault | critical => exact (drives_checked v).trans (drives_transitionTo _ _)
  | queuedEStop => exact (drives_polled v _).trans (drives_transitionTo _ _)
  | queuedFault =>
    split_ifs
    · exact (drives_polled v _).trans (drives_transitionTo _ _)
    · exact drives_polled v _
  | resetRejected => exact drives_polled v _
  | @resetAccepted _ rest =>
    refine (drives_polled v (some rest)).trans (.trans ?_ (drives_transitionTo _ _))
    exact .of_call (a := .clearActuatorFault) rfl rfl (fun _ hmatch => hmatch.of_eq rfl rfl) rfl rfl
  | startAccepted =>
    exact ((drives_polled v _).trans (drives_transitionTo _ _)).trans (drives_handleReady _)
  | startRejected =>
    exact (drives_polled v _).trans
      (.of_eq (logReadyReject_s_relays _ _) (logReadyReject_commands _ _))
  | driveEnable => exact (drives_polled v _).trans (drives_transitionTo _ _)
  | ignored | noEvent => exact (drives_polled v _).trans (drives_periodic _)

/-! ### Calls -/

/-- **One call** that does not change the actuator from outside. -/
theorem drives_step (v : Vcu RelayManager) {call : VcuLogic.Action RelayManager}
    (hcall : ∀ change, call ≠ .actuator change) :
    Drives v (VcuLogic.step relayActuator v call) := by
  cases call with
  | run => exact drives_run v
  | postEvent event =>
    refine .of_eq (postEvent_frame v event).1 ?_
    exact step_commands_of_ne_run relayActuator v (a := .postEvent event) (by simp)
  | setTelemetryData d =>
    refine .of_eq (setTelemetryData_frame v d).1 ?_
    exact step_commands_of_ne_run relayActuator v (a := .setTelemetryData d) (by simp)
  | setTorqueSink bound => exact .of_eq rfl rfl
  | actuator change => exact absurd rfl (hcall change)

/-- A change of the chip from outside does not make the driver forget. -/
theorem follows_changeChip {v : Vcu RelayManager} (h : Follows v)
    (change : Registers → Registers) :
    Follows { v with s_relays := changeChip change v.s_relays } :=
  ⟨(h.faultFree.step (a := .chip change) rfl).1, h.shadow⟩

/-- After power-up the driver follows the commands, and the chip shows them. -/
theorem follows_boot (chip : Registers) {succeeds : ℕ → Bool} (hbus : ∀ n, succeeds n = true)
    (q m : Bool) :
    Follows (boot chip succeeds q m) ∧ OutputsMatch (boot chip succeeds q m).s_relays := by
  have hbegin := faultFree_begin (r := { bus := ⟨chip, succeeds⟩ }) hbus
    (show (begin true true _).1 = true from rfl)
  have hmatch : OutputsMatch (begin true true { bus := ⟨chip, succeeds⟩ }).2 := by
    have hfree : FaultFree { initRegisters
          { ({ bus := ⟨chip, succeeds⟩ } : RelayManager) with s_spiDev := true } with
        s_relayState := 0, s_initialized := true } := by
      refine ⟨⟨rfl, ?_⟩, reliable_initRegisters
        (r := { ({ bus := ⟨chip, succeeds⟩ } : RelayManager) with s_spiDev := true }) hbus⟩
      rw [initRegisters_eq]
    exact hfree.verifyOutputs.2.1
  generalize hr : (begin true true { bus := ⟨chip, succeeds⟩ }).2 = r at hbegin hmatch
  have hfresh : ∀ v : Vcu RelayManager, v.s_relays = r → v.commands = [] → Follows v := by
    intro v hv hcommands
    refine ⟨hv ▸ hbegin.1, ?_⟩
    rw [hv, hbegin.2, commandedState, hcommands]
    rfl
  unfold boot
  rw [hr]
  rcases q, m with ⟨_ | _, _ | _⟩
  · exact ⟨hfresh _ rfl rfl, hmatch⟩
  · exact ⟨hfresh _ rfl rfl, hmatch⟩
  · exact ⟨hfresh _ rfl rfl, hmatch⟩
  · let v : Vcu RelayManager :=
      { s_relays := r, s_eventQueue := some [], s_TEL_dataMutex := true }
    have hv : Follows v := hfresh v rfl rfl
    have hdrives : Drives v (init relayActuator true true r) :=
      (drives_issue v (.allOff false)).trans (drives_transitionTo .IDLE _)
    exact ⟨hdrives.follows hv, hdrives.shows hv (.inl hmatch)⟩

end TufanAks.RelayActuatorAdapter
