import TufanAks.RelayManager

/-!
# The outputs match or a fault is reported

`Verified` lists the three outcomes of `verifyOutputs`, and the two results are read off it: a
verification that succeeds has read the expected outputs (`outputsMatch_of_readings`), one that
fails latches the fault.  `matchOrFault_of_begin` is the result about the whole driver: after a
successful `begin`, every call that writes or verifies the outputs returns with the outputs as
commanded or with the fault reported, whichever transfers fail.
-/

namespace TufanAks.RelayManager

/-! ### What the register writes leave alone -/

section fields

variable (r : RelayManager) (reg value : UInt8)

/-- A register write touches only the bus and the record of writes. -/
theorem writeRegister_eq :
    writeRegister reg value r =
      { r with
        bus := (writeRegister reg value r).bus
        writes := (writeRegister reg value r).writes } := by
  unfold writeRegister
  split_ifs
  · rfl
  · rfl

theorem writeOutputs_eq :
    writeOutputs r =
      { r with bus := (writeOutputs r).bus, writes := (writeOutputs r).writes } := by
  have h : writeOutputs r =
      writeRegister MCP23S17_OLATB (expOlatB r.s_relayState)
        (writeRegister MCP23S17_OLATA (expOlatA r.s_relayState) r) := rfl
  rw [h, writeRegister_eq, writeRegister_eq r]

theorem initRegisters_eq :
    initRegisters r =
      { r with
        bus := (initRegisters r).bus
        writes := (initRegisters r).writes
        inits := (initRegisters r).inits } := by
  have h : initRegisters r =
      writeRegister MCP23S17_IODIRB 0x00
        (writeRegister MCP23S17_IODIRA 0x00
          (writeRegister MCP23S17_OLATB 0xFF
            (writeRegister MCP23S17_OLATA 0xFF
              { r with inits := r.inits ++ [⟨r.s_relayState, r.chip, r.bus.succeeds⟩] }))) := rfl
  rw [h, writeRegister_eq, writeRegister_eq (writeRegister MCP23S17_OLATB 0xFF _),
    writeRegister_eq (writeRegister MCP23S17_OLATA 0xFF _),
    writeRegister_eq { r with inits := r.inits ++ [⟨r.s_relayState, r.chip, r.bus.succeeds⟩] }]

theorem reinitAndReassert_eq :
    reinitAndReassert r =
      { r with
        bus := (reinitAndReassert r).bus
        writes := (reinitAndReassert r).writes
        inits := (reinitAndReassert r).inits } := by
  have h : reinitAndReassert r = writeOutputs (initRegisters r) := rfl
  rw [h, writeOutputs_eq, initRegisters_eq]

end fields

/-! ### One verification -/

/-- The chip holds the inverted shadow state in its latches, and all its pins are outputs. -/
structure OutputsMatch (r : RelayManager) : Prop where
  OLATA : r.chip MCP23S17_OLATA = expOlatA r.s_relayState
  OLATB : r.chip MCP23S17_OLATB = expOlatB r.s_relayState
  IODIRA : r.chip MCP23S17_IODIRA = 0x00
  IODIRB : r.chip MCP23S17_IODIRB = 0x00

/-- The driver has been started: `begin` has succeeded. -/
structure Started (r : RelayManager) : Prop where
  initialized : r.s_initialized = true
  spiDev : r.s_spiDev = true

/-- The outcomes of `verifyOutputs`, with the state after it. -/
inductive Verified (r : RelayManager) : Bool → RelayManager → Prop
  | idle (h : ¬Started r) : Verified r true { r with verified := r.verified ++ [true] }
  | ok (hmatch : OutputsMatch r) (bus : Device.Bus UInt8 UInt8) (hregs : bus.regs = r.chip) :
      Verified r true { r with bus := bus, verified := r.verified ++ [true] }
  | fault (bus : Device.Bus UInt8 UInt8) (writes : List RegisterWrite)
      (inits : List InitSequence) :
      Verified r false
        { r with
          s_actuatorFault := true
          bus := bus
          writes := writes
          inits := inits
          verified := r.verified ++ [false] }

/-- The expected readings are what the registers hold. -/
theorem outputsMatch_of_readings {r : RelayManager}
    (h : (r.bus.readAll outputRegisters).1 = some (expectedOutputs r.s_relayState)) :
    OutputsMatch r := by
  have hmap : expectedOutputs r.s_relayState = outputRegisters.map r.chip :=
    Device.Bus.readAll_eq_some h
  simp only [expectedOutputs, outputRegisters, List.map_cons, List.map_nil, List.cons.injEq,
    and_true] at hmap
  exact ⟨hmap.1.symm, hmap.2.1.symm, hmap.2.2.1.symm, hmap.2.2.2.symm⟩

/-- **`verifyOutputs`** has one of the outcomes of `Verified`. -/
theorem verified_verifyOutputs (r : RelayManager) :
    Verified r (verifyOutputs r).1 (verifyOutputs r).2 := by
  by_cases hstarted : Started r
  · obtain ⟨hinit, hdev⟩ := hstarted
    unfold verifyOutputs checkOutputs
    rw [if_neg (by simp [hinit, hdev])]
    rcases hread : r.bus.readAll outputRegisters with ⟨readings, bus⟩
    have hregs : bus.regs = r.chip := by
      have h := Device.Bus.readAll_regs outputRegisters r.bus
      rwa [hread] at h
    by_cases hmatch : readings = some (expectedOutputs r.s_relayState)
    · dsimp only
      rw [if_pos hmatch]
      refine .ok (outputsMatch_of_readings ?_) bus hregs
      rw [hread, hmatch]
    · dsimp only
      rw [if_neg hmatch, reinitAndReassert_eq]
      exact .fault _ _ _
  · have hguard : (!r.s_initialized || !r.s_spiDev) = true := by
      by_contra hno
      simp only [Bool.or_eq_true, Bool.not_eq_true', not_or, Bool.not_eq_false] at hno
      exact hstarted ⟨hno.1, hno.2⟩
    unfold verifyOutputs checkOutputs
    rw [if_pos hguard]
    exact .idle hstarted

/-- The outputs are as commanded, or the fault is reported. -/
def MatchOrFault (r : RelayManager) : Prop := OutputsMatch r ∨ hasActuatorFault r = true

theorem matchOrFault_verifyOutputs {r : RelayManager} (h : Started r) :
    MatchOrFault (verifyOutputs r).2 := by
  have hverified := verified_verifyOutputs r
  generalize (verifyOutputs r).1 = ok at hverified
  generalize (verifyOutputs r).2 = r' at hverified ⊢
  cases hverified with
  | idle hidle => exact absurd h hidle
  | ok hmatch bus hregs =>
    refine .inl ⟨?_, ?_, ?_, ?_⟩
    · exact (congrFun hregs _).trans hmatch.OLATA
    · exact (congrFun hregs _).trans hmatch.OLATB
    · exact (congrFun hregs _).trans hmatch.IODIRA
    · exact (congrFun hregs _).trans hmatch.IODIRB
  | fault => exact .inr rfl

/-- A verification stops nothing. -/
theorem Started.verifyOutputs {r : RelayManager} (h : Started r) : Started (verifyOutputs r).2 := by
  have hverified := verified_verifyOutputs r
  generalize (RelayManager.verifyOutputs r).1 = ok at hverified
  generalize (RelayManager.verifyOutputs r).2 = r' at hverified ⊢
  cases hverified with
  | idle | ok | fault => exact ⟨h.initialized, h.spiDev⟩

theorem Started.writeRegister {r : RelayManager} (h : Started r) (reg value : UInt8) :
    Started (writeRegister reg value r) := by
  rw [writeRegister_eq]
  exact ⟨h.initialized, h.spiDev⟩

theorem Started.writeOutputs {r : RelayManager} (h : Started r) : Started (writeOutputs r) := by
  rw [writeOutputs_eq]
  exact ⟨h.initialized, h.spiDev⟩

/-- A new shadow state is written and verified at once. -/
theorem Started.drive {r : RelayManager} (h : Started r) (cur : UInt16) :
    let r' := (RelayManager.verifyOutputs
      (RelayManager.writeOutputs { r with s_relayState := cur })).2
    Started r' ∧ MatchOrFault r' := by
  have hcur : Started { r with s_relayState := cur } := ⟨h.initialized, h.spiDev⟩
  have hwritten := hcur.writeOutputs
  exact ⟨hwritten.verifyOutputs, matchOrFault_verifyOutputs hwritten⟩

/-! ### The calls -/

/-- `begin` reports success exactly when it has started the driver. -/
theorem started_begin {busInitialized deviceAdded : Bool} {r : RelayManager}
    (h : (begin busInitialized deviceAdded r).1 = true) :
    Started (begin busInitialized deviceAdded r).2 := by
  unfold begin at h ⊢
  split_ifs at h ⊢
  dsimp only
  apply Started.verifyOutputs
  rw [initRegisters_eq]
  exact ⟨rfl, rfl⟩

/-- A call that writes or verifies the outputs. -/
def Action.Verifies : Action → Prop
  | .setRelay channel _ => channel.toNat < RELAY_TOTAL_CHANNELS
  | .allOn => True
  | .allOff _ => True
  | .verifyOutputs => True
  | _ => False

/-- **One call** keeps the driver started, and leaves a match or a fault if it writes or verifies
the outputs. -/
theorem Started.step {r : RelayManager} (h : Started r) (a : Action) :
    Started (step r a) ∧ (a.Verifies → MatchOrFault (step r a)) := by
  cases a with
  | begin busInitialized deviceAdded =>
    refine ⟨?_, False.elim⟩
    by_cases hok : (begin busInitialized deviceAdded r).1 = true
    · exact started_begin hok
    · simp only [RelayManager.step]
      unfold begin at hok ⊢
      split_ifs at hok ⊢
      · exact h
      · exact h
      · exact absurd rfl hok
  | setRelay channel state =>
    simp only [RelayManager.step, setRelay]
    split_ifs with hbad
    · refine ⟨h, fun hch => ?_⟩
      rcases hbad with hinit | hbad
      · rw [h.initialized] at hinit
        cases hinit
      · exact absurd hch (Nat.not_lt.mpr hbad)
    · exact (h.drive _).imp_right fun hmatch _ => hmatch
    · exact (h.drive _).imp_right fun hmatch _ => hmatch
  | allOn =>
    simp only [RelayManager.step, allOn]
    rw [if_neg (by simp [h.initialized])]
    exact (h.drive _).imp_right fun hmatch _ => hmatch
  | allOff silent =>
    have h0 : Started { r with s_relayState := 0 } := ⟨h.initialized, h.spiDev⟩
    have hw := (h0.writeRegister MCP23S17_OLATA 0xFF).writeRegister MCP23S17_OLATB 0xFF
    exact ⟨hw.verifyOutputs, fun _ => matchOrFault_verifyOutputs hw⟩
  | verifyOutputs => exact ⟨h.verifyOutputs, fun _ => matchOrFault_verifyOutputs h⟩
  | verifyIfDue nowMs =>
    refine ⟨?_, False.elim⟩
    simp only [RelayManager.step, verifyIfDue]
    split_ifs
    · exact h
    · exact ⟨h.initialized, h.spiDev⟩
    · exact h
    · exact Started.verifyOutputs ⟨h.initialized, h.spiDev⟩
  | clearActuatorFault => exact ⟨⟨h.initialized, h.spiDev⟩, False.elim⟩
  | chip change => exact ⟨⟨h.initialized, h.spiDev⟩, False.elim⟩

/-- **Match or fault**: after a successful `begin` and any calls, failed transfers and changes of
the chip, a call that writes or verifies the outputs returns with the outputs as commanded or with
the fault reported. -/
theorem matchOrFault_of_begin {busInitialized deviceAdded : Bool} {r : RelayManager}
    (hbegin : (begin busInitialized deviceAdded r).1 = true) (as : List Action) {a : Action}
    (ha : a.Verifies) :
    MatchOrFault (Machine.exec step (begin busInitialized deviceAdded r).2 (as ++ [a])) := by
  have hstarted : Started (Machine.exec step (begin busInitialized deviceAdded r).2 as) :=
    Machine.exec_invariant Started (fun _ b _ h => (h.step b).1) (started_begin hbegin)
  rw [Machine.exec_concat]
  exact (hstarted.step a).2 ha

/-- A fresh driver in front of a chip in its power-on state; the transfers succeed or fail as
`succeeds` says. -/
def fresh (succeeds : ℕ → Bool) : RelayManager where
  bus := ⟨powerOnRegisters, succeeds⟩

/-- `allOn` with every third transfer failing. -/
theorem matchOrFault_allOn :
    MatchOrFault (Machine.exec step (begin true true (fresh fun n => n % 3 != 2)).2 [.allOn]) :=
  matchOrFault_of_begin (by decide) [] trivial

end TufanAks.RelayManager
