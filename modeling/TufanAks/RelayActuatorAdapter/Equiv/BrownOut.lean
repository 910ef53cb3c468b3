import TufanAks.RelayActuatorAdapter.Equiv.PersistentFault
import TufanAks.Word.Ticks

/-!
# A brown-out is detected while the contactors are closed

After a reset of the chip its pins are inputs, and only the power-up order makes them outputs again;
the driver runs through that order only after a failed verification, which latches the fault.  So
until the chip's state is noticed it is `Unnoticed`: the pins of port A are inputs, or the fault is
latched.  A `run` that verifies in such a state, or finds the fault, does not end in READY or DRIVE.

A `run` that does end there has therefore found no verification due (`unnoticedFor_run`).  The
period grows by one tick in each such call, and after six of them it is over: `brownOut_detected`.
-/

namespace TufanAks.RelayActuatorAdapter

open VcuLogic RelayManager

/-! ### The driver in front of a reset chip -/

/-- The pins of port A are inputs, or the fault is latched. -/
def Unnoticed (r : RelayManager) : Prop :=
  r.chip MCP23S17_IODIRA = 0xFF ∨ hasActuatorFault r = true

/-- A verification notices. -/
theorem Unnoticed.fault {r : RelayManager} (h : Unnoticed r) (hr : Started r) :
    hasActuatorFault (verifyOutputs r).2 = true := by
  have hrecords := records_verifyOutputs r
  have hverified := verified_verifyOutputs r
  rcases h with hinput | hfault
  · generalize (verifyOutputs r).1 = ok at hverified
    generalize (verifyOutputs r).2 = r' at hverified ⊢
    cases hverified with
    | idle hidle => exact absurd hr hidle
    | ok hmatch =>
      rw [hmatch.IODIRA] at hinput
      exact absurd hinput (by decide)
    | fault => rfl
  · rw [hrecords.fault, hfault, Bool.true_or]

/-- Writing the latches does not. -/
theorem Unnoticed.writeRegister {r : RelayManager} (h : Unnoticed r) {reg : UInt8}
    (hreg : MCP23S17_IODIRA ≠ reg) (value : UInt8) : Unnoticed (writeRegister reg value r) := by
  unfold RelayManager.writeRegister
  split_ifs
  · exact h
  · refine h.imp (fun hinput => ?_) id
    show (r.bus.write reg value).regs MCP23S17_IODIRA = 0xFF
    rw [Device.Bus.write_regs_of_ne hreg]
    exact hinput

theorem Unnoticed.writeOutputs {r : RelayManager} (h : Unnoticed r) :
    Unnoticed (writeOutputs r) := by
  apply Unnoticed.writeRegister
  · apply Unnoticed.writeRegister h
    decide
  · decide

theorem Unnoticed.allOn {r : RelayManager} (h : Unnoticed r) (hr : Started r) :
    Unnoticed (allOn r) := by
  -- whatever is written, it is verified
  have hdrive : ∀ cur : UInt16,
      Unnoticed (verifyOutputs (RelayManager.writeOutputs { r with s_relayState := cur })).2 := by
    intro cur
    have hcur : Unnoticed { r with s_relayState := cur } := h
    have hstarted : Started { r with s_relayState := cur } := ⟨hr.initialized, hr.spiDev⟩
    exact .inr (hcur.writeOutputs.fault hstarted.writeOutputs)
  unfold RelayManager.allOn
  rw [if_neg (by simp [hr.initialized])]
  exact hdrive _

/-- Closing the contactors does not touch the period. -/
theorem allOn_period (r : RelayManager) :
    (allOn r).s_lastVerifyMs = r.s_lastVerifyMs ∧
      (allOn r).s_verifyStarted = r.s_verifyStarted := by
  have hdrive : ∀ cur : UInt16,
      let r' := (verifyOutputs (writeOutputs { r with s_relayState := cur })).2
      r'.s_lastVerifyMs = r.s_lastVerifyMs ∧ r'.s_verifyStarted = r.s_verifyStarted := by
    intro cur
    have hwritten := writeOutputs_eq { r with s_relayState := cur }
    have hverified := verified_verifyOutputs (writeOutputs { r with s_relayState := cur })
    generalize (verifyOutputs (writeOutputs { r with s_relayState := cur })).1 = ok at hverified
    generalize (verifyOutputs (writeOutputs { r with s_relayState := cur })).2 = r' at hverified ⊢
    rw [hwritten] at hverified
    cases hverified with
    | idle | ok | fault => exact ⟨rfl, rfl⟩
  unfold RelayManager.allOn
  split_ifs
  · exact ⟨rfl, rfl⟩
  · exact hdrive _

/-! ### One `run` that ends with the contactors closed -/

/-- The states with the contactors closed. -/
def Live (v : Vcu RelayManager) : Prop := v.s_state = .READY ∨ v.s_state = .DRIVE

/-- A `run` that ends with the contactors closed has found no fault, and has done no more to the
driver than the periodic check and one `allOn`. -/
theorem live_run {v : Vcu RelayManager} (hw : Live (run relayActuator v)) :
    hasActuatorFault (checked relayActuator v).s_relays = false ∧
      (run relayActuator v).s_uptimeMs = v.s_uptimeMs + TASK_PERIOD_MS ∧
      ((run relayActuator v).s_relays = (checked relayActuator v).s_relays ∨
        (run relayActuator v).s_relays = allOn (checked relayActuator v).s_relays) := by
  have hready : ∀ u : Vcu RelayManager, (handleReady relayActuator u).s_relays = u.s_relays ∨
      (handleReady relayActuator u).s_relays = allOn u.s_relays := by
    intro u
    unfold handleReady
    split_ifs
    · exact .inr rfl
    · exact .inl rfl
  have hperiodic : ∀ u : Vcu RelayManager, Live u →
      (periodic relayActuator u).s_relays = u.s_relays ∨
        (periodic relayActuator u).s_relays = allOn u.s_relays := by
    rintro u (hu | hu)
    · rw [show periodic relayActuator u = handleReady relayActuator u by unfold periodic; rw [hu]]
      exact hready u
    · rw [periodic_eq_self relayActuator u (by simp [hu]) (by simp [hu, VcuState.safe])]
      exact .inl rfl
  have hran := ran_run relayActuator v
  unfold Live at hw
  generalize run relayActuator v = w at hran hw ⊢
  cases hran with
  | eStopFlag | faultFlag | actuatorFault | critical | queuedEStop | resetAccepted => simp at hw
  | queuedFault => split_ifs at hw <;> simp_all
  | resetRejected _ _ hs => rcases hs with hs | hs <;> simp [hs] at hw
  | startRejected _ _ hs => simp [hs] at hw
  | startAccepted hp hq hs hi hf => exact ⟨hf, by simp, hready _⟩
  | driveEnable hp hq hs => exact ⟨hp.actuator (.inl hs), by simp, by simp⟩
  | ignored hp | noEvent hp =>
    have hlive : v.s_state = .READY ∨ v.s_state = .DRIVE := by simpa using hw
    exact ⟨hp.actuator hlive, by simp, hperiodic (polled relayActuator v _) hlive⟩

/-! ### Six of them -/

/-- A started driver has not noticed anything at `n` consecutive checks, the last of them at `now`:
the period has grown by one tick with each check but the first, and is not over. -/
structure UnnoticedFor (n : ℕ) (now : UInt32) (r : RelayManager) : Prop where
  started : Started r
  unnoticed : Unnoticed r
  period : 0 < n → r.s_verifyStarted = true ∧
    20 * (n - 1) ≤ (now - r.s_lastVerifyMs).toNat ∧ (now - r.s_lastVerifyMs).toNat < 100

/-- A check after which the fault is clear was not due. -/
theorem UnnoticedFor.not_due {n : ℕ} {now next : UInt32} {r : RelayManager}
    (h : UnnoticedFor n now r) (hclear : hasActuatorFault (verifyIfDue next r) = false) :
    ¬Due next r := by
  intro hdue
  have hstamped : Unnoticed { r with s_lastVerifyMs := next } := h.unnoticed
  have hfault := hstamped.fault ⟨h.started.initialized, h.started.spiDev⟩
  rw [verifyIfDue_of_due h.started hdue, hfault] at hclear
  cases hclear

/-- **One more check** that is not due. -/
theorem UnnoticedFor.tick {n : ℕ} {now : UInt32} {r : RelayManager} (h : UnnoticedFor n now r)
    (hdue : ¬Due (now + TASK_PERIOD_MS) r) :
    UnnoticedFor (n + 1) (now + TASK_PERIOD_MS) (verifyIfDue (now + TASK_PERIOD_MS) r) := by
  have htick : TASK_PERIOD_MS.toNat = 20 := rfl
  rw [verifyIfDue_of_not_due h.started hdue]
  cases hfirst : r.s_verifyStarted with
  | false =>
    -- the first check ever starts the period
    have hn : n = 0 := by
      by_contra hn
      have hstarted := (h.period (Nat.pos_of_ne_zero hn)).1
      rw [hfirst] at hstarted
      cases hstarted
    subst hn
    refine ⟨⟨h.started.initialized, h.started.spiDev⟩, h.unnoticed, fun _ => ⟨rfl, ?_, ?_⟩⟩
    · show 0 ≤ _
      omega
    · show (now + TASK_PERIOD_MS - (now + TASK_PERIOD_MS)).toNat < 100
      rw [sub_self]
      decide
  | true =>
    have hlt : (now + TASK_PERIOD_MS - r.s_lastVerifyMs).toNat < 100 := by
      by_contra hno
      exact hdue ⟨hfirst, UInt32.le_iff_toNat_le.mpr (Nat.not_lt.mp hno)⟩
    refine ⟨h.started, h.unnoticed, fun _ => ⟨hfirst, ?_, hlt⟩⟩
    rcases Nat.eq_zero_or_pos n with rfl | hn
    · omega
    · obtain ⟨-, hlow, hhigh⟩ := h.period hn
      show 20 * (n + 1 - 1) ≤ (now + TASK_PERIOD_MS - r.s_lastVerifyMs).toNat
      rw [Word.toNat_add_sub (by omega), htick]
      omega

theorem UnnoticedFor.allOn {n : ℕ} {now : UInt32} {r : RelayManager} (h : UnnoticedFor n now r) :
    UnnoticedFor n now (allOn r) := by
  obtain ⟨hlast, hverify⟩ := allOn_period r
  obtain ⟨oks, hrecords⟩ := records_allOn r
  refine ⟨hrecords.started h.started, h.unnoticed.allOn h.started, ?_⟩
  rw [hlast, hverify]
  exact h.period

/-- **One more `run`** that ends with the contactors closed. -/
theorem unnoticedFor_run {n : ℕ} {v : Vcu RelayManager}
    (h : UnnoticedFor n v.s_uptimeMs v.s_relays) (hw : Live (run relayActuator v)) :
    UnnoticedFor (n + 1) (run relayActuator v).s_uptimeMs (run relayActuator v).s_relays := by
  obtain ⟨hclear, huptime, hrelays⟩ := live_run hw
  have hchecked := h.tick (h.not_due hclear)
  rw [huptime]
  rcases hrelays with hrelays | hrelays
  · rw [hrelays]
    exact hchecked
  · rw [hrelays]
    exact hchecked.allOn

/-! ### The result -/

/-- The action is a call of `run`. -/
def Action.isRun : Action → Bool
  | .run => true
  | _ => false

/-- The action is a change of the chip from outside. -/
def Action.isChip : Action → Bool
  | .chip _ => true
  | _ => false

/-- Every `run` among the actions `as` from `v` ends with the contactors closed. -/
def StaysLive (v : Vcu RelayManager) (as : List Action) : Prop :=
  ∀ pre post, as = pre ++ .run :: post → Live (after v (pre ++ [.run]))

/-- The other calls touch neither the driver nor the clock. -/
theorem step_frame (v : Vcu RelayManager) {a : Action} (hrun : a.isRun = false)
    (hchip : a.isChip = false) :
    (step v a).s_relays = v.s_relays ∧ (step v a).s_uptimeMs = v.s_uptimeMs := by
  cases a with
  | run => cases hrun
  | postEvent event => exact postEvent_frame v event
  | setTelemetryData d => exact setTelemetryData_frame v d
  | setTorqueSink bound => exact ⟨rfl, rfl⟩
  | chip change => cases hchip

/-- A run whose calls of `run` all end with the contactors closed has noticed nothing at any of
them. -/
theorem unnoticedFor_after {v : Vcu RelayManager} (h₀ : UnnoticedFor 0 v.s_uptimeMs v.s_relays)
    {as : List Action} (hchip : ∀ a ∈ as, a.isChip = false) (hlive : StaysLive v as) :
    UnnoticedFor (as.countP Action.isRun) (after v as).s_uptimeMs (after v as).s_relays := by
  induction as using List.reverseRecOn with
  | nil => exact h₀
  | append_singleton as a ih =>
    have hbefore := ih (fun b hb => hchip b (List.mem_append_left _ hb)) fun pre post hsplit =>
      hlive pre (post ++ [a]) (by rw [hsplit]; simp)
    have hafter : after v (as ++ [a]) = step (after v as) a := Machine.exec_concat _ _ _
    rw [List.countP_append, List.countP_singleton, hafter]
    cases hrun : a.isRun with
    | false =>
      obtain ⟨hrelays, huptime⟩ := step_frame (after v as) hrun (hchip a (by simp))
      rw [hrelays, huptime]
      exact hbefore
    | true =>
      have ha : a = .run := by
        cases a with
        | run => rfl
        | postEvent | setTelemetryData | setTorqueSink | chip => cases hrun
      subst ha
      refine unnoticedFor_run hbefore ?_
      have hlast := hlive as [] rfl
      rwa [show after v (as ++ [.run]) = run relayActuator (after v as) from hafter] at hlast

/-- **A brown-out is detected**: in every state that can be reached since power-up, for every
content of the chip before and every pattern of failed transfers, if the chip is reset and nothing
but the driver writes it any more, the next six calls of `run` do not all end with the contactors
closed. -/
theorem brownOut_detected (chip : Registers) (succeeds : ℕ → Bool) (q m : Bool)
    (as bs : List Action) (hchip : ∀ b ∈ bs, b.isChip = false)
    (hruns : bs.countP Action.isRun = 6) :
    ¬StaysLive
      (after (boot chip succeeds q m) (as ++ [.chip fun _ => powerOnRegisters])) bs := by
  intro hlive
  obtain ⟨hstarted, -⟩ :=
    started_after (started_boot chip succeeds q m) (as ++ [.chip fun _ => powerOnRegisters])
  have hreset : Unnoticed
      (after (boot chip succeeds q m) (as ++ [.chip fun _ => powerOnRegisters])).s_relays := by
    rw [show after (boot chip succeeds q m) (as ++ [.chip fun _ => powerOnRegisters]) = _ from
      Machine.exec_concat _ _ _]
    exact .inl rfl
  have hsix := unnoticedFor_after ⟨hstarted, hreset, fun h => absurd h (lt_irrefl 0)⟩ hchip hlive
  rw [hruns] at hsix
  obtain ⟨-, hlow, hhigh⟩ := hsix.period (by omega)
  omega

/-- The contactors are closed, the chip is reset, and six calls of `run` follow. -/
theorem brownOut_detected_in_ready :
    ¬StaysLive
      (after (boot powerOnRegisters (fun _ => true) true true)
        ([.setTelemetryData healthyData, .postEvent .START_REQUEST, .run] ++
          [.chip fun _ => powerOnRegisters]))
      (List.replicate 6 .run) :=
  brownOut_detected powerOnRegisters (fun _ => true) true true
    [.setTelemetryData healthyData, .postEvent .START_REQUEST, .run] (List.replicate 6 .run)
    (by simp [Action.isChip]) (by decide)

end TufanAks.RelayActuatorAdapter
