import TufanAks.RelayManager.Equiv.Verify
import TufanAks.Word.Mask

/-!
# The outputs converge

With a bus that does not fail, a verification repairs the outputs whatever the chip holds
(`FaultFree.verifyOutputs`).  So after every call that drives or verifies the relays
the chip shows the shadow state, and the shadow state is what was commanded last
(`converged_of_begin`).
-/

namespace TufanAks.RelayManager

/-! ### Writes that go through -/

theorem reliable_writeRegister {r : RelayManager} (h : r.bus.Reliable) (reg value : UInt8) :
    (writeRegister reg value r).bus.Reliable := by
  unfold writeRegister
  split_ifs
  · exact h
  · exact h.write reg value

theorem reliable_initRegisters {r : RelayManager} (h : r.bus.Reliable) :
    (initRegisters r).bus.Reliable := by
  have hlatchA := reliable_writeRegister
    (r := { r with inits := r.inits ++ [⟨r.s_relayState, r.chip, r.bus.succeeds⟩] }) h
    MCP23S17_OLATA 0xFF
  have hlatchB := reliable_writeRegister hlatchA MCP23S17_OLATB 0xFF
  have hportA := reliable_writeRegister hlatchB MCP23S17_IODIRA 0x00
  exact reliable_writeRegister hportA MCP23S17_IODIRB 0x00

/-- The driver is started and its bus does not fail. -/
structure FaultFree (r : RelayManager) : Prop where
  started : Started r
  reliable : r.bus.Reliable

theorem OutputsMatch.of_eq {r r' : RelayManager} (h : OutputsMatch r) (hchip : r'.chip = r.chip)
    (hstate : r'.s_relayState = r.s_relayState) : OutputsMatch r' where
  OLATA := by rw [hchip, hstate, h.OLATA]
  OLATB := by rw [hchip, hstate, h.OLATB]
  IODIRA := by rw [hchip, h.IODIRA]
  IODIRB := by rw [hchip, h.IODIRB]

namespace FaultFree

variable {r : RelayManager}

theorem writeRegister (h : FaultFree r) (reg value : UInt8) :
    FaultFree (writeRegister reg value r) :=
  ⟨h.started.writeRegister reg value, reliable_writeRegister h.reliable reg value⟩

theorem chip_writeRegister (h : FaultFree r) (reg value : UInt8) :
    (RelayManager.writeRegister reg value r).chip = Function.update r.chip reg value := by
  unfold RelayManager.writeRegister
  rw [if_neg (by simp [h.started.spiDev])]
  exact h.reliable.write_regs reg value

theorem writeOutputs (h : FaultFree r) : FaultFree (writeOutputs r) :=
  (h.writeRegister _ _).writeRegister _ _

/-- The shadow state reaches the latches. -/
theorem chip_writeOutputs (h : FaultFree r) :
    (RelayManager.writeOutputs r).chip =
      Function.update (Function.update r.chip MCP23S17_OLATA (expOlatA r.s_relayState))
        MCP23S17_OLATB (expOlatB r.s_relayState) := by
  unfold RelayManager.writeOutputs
  rw [(h.writeRegister _ _).chip_writeRegister, h.chip_writeRegister]

theorem initRegisters (h : FaultFree r) : FaultFree (initRegisters r) := by
  have hrecord : FaultFree
      { r with inits := r.inits ++ [⟨r.s_relayState, r.chip, r.bus.succeeds⟩] } :=
    ⟨⟨h.started.initialized, h.started.spiDev⟩, h.reliable⟩
  exact (((hrecord.writeRegister _ _).writeRegister _ _).writeRegister _ _).writeRegister _ _

/-- All pins become outputs. -/
theorem chip_initRegisters (h : FaultFree r) :
    (RelayManager.initRegisters r).chip MCP23S17_IODIRA = 0x00 ∧
      (RelayManager.initRegisters r).chip MCP23S17_IODIRB = 0x00 := by
  have hrecord : FaultFree
      { r with inits := r.inits ++ [⟨r.s_relayState, r.chip, r.bus.succeeds⟩] } :=
    ⟨⟨h.started.initialized, h.started.spiDev⟩, h.reliable⟩
  have hlatches := (hrecord.writeRegister MCP23S17_OLATA 0xFF).writeRegister MCP23S17_OLATB 0xFF
  unfold RelayManager.initRegisters
  dsimp only
  rw [(hlatches.writeRegister _ _).chip_writeRegister, hlatches.chip_writeRegister]
  refine ⟨?_, Function.update_self _ _ _⟩
  rw [Function.update_of_ne (by decide), Function.update_self]

/-- **The repair** makes the outputs match, whatever the chip holds. -/
theorem reinitAndReassert (h : FaultFree r) :
    FaultFree (reinitAndReassert r) ∧ OutputsMatch (reinitAndReassert r) := by
  have hinit := h.initRegisters
  obtain ⟨hA, hB⟩ := h.chip_initRegisters
  refine ⟨hinit.writeOutputs, ?_⟩
  have hshadow : (RelayManager.reinitAndReassert r).s_relayState =
      (RelayManager.initRegisters r).s_relayState := by
    rw [reinitAndReassert_eq, initRegisters_eq]
  have hchip : (RelayManager.reinitAndReassert r).chip = _ := hinit.chip_writeOutputs
  constructor
  · rw [hchip, hshadow, Function.update_of_ne (by decide), Function.update_self]
  · rw [hchip, hshadow, Function.update_self]
  · rw [hchip, Function.update_of_ne (by decide), Function.update_of_ne (by decide), hA]
  · rw [hchip, Function.update_of_ne (by decide), Function.update_of_ne (by decide), hB]

/-- **One verification**: the outputs match afterwards, and the shadow state is the same. -/
theorem verifyOutputs (h : FaultFree r) :
    FaultFree (verifyOutputs r).2 ∧ OutputsMatch (verifyOutputs r).2 ∧
      (verifyOutputs r).2.s_relayState = r.s_relayState := by
  have hregs : (r.bus.readAll outputRegisters).2.regs = r.chip := Device.Bus.readAll_regs _ _
  have hbus := h.reliable.readAll_snd outputRegisters
  have hread : FaultFree { r with bus := (r.bus.readAll outputRegisters).2 } :=
    ⟨⟨h.started.initialized, h.started.spiDev⟩, hbus⟩
  unfold RelayManager.verifyOutputs checkOutputs
  rw [if_neg (by simp [h.started.initialized, h.started.spiDev])]
  dsimp only
  by_cases hmatch : (r.bus.readAll outputRegisters).1 = some (expectedOutputs r.s_relayState)
  · rw [if_pos hmatch]
    refine ⟨⟨⟨h.started.initialized, h.started.spiDev⟩, hbus⟩, ?_, rfl⟩
    exact (outputsMatch_of_readings hmatch).of_eq hregs rfl
  · rw [if_neg hmatch]
    obtain ⟨hfree, hrepaired⟩ := hread.reinitAndReassert
    have hshadow : (RelayManager.reinitAndReassert
        { r with bus := (r.bus.readAll outputRegisters).2 }).s_relayState = r.s_relayState := by
      rw [reinitAndReassert_eq]
    refine ⟨⟨⟨hfree.started.initialized, hfree.started.spiDev⟩, ?_⟩, ?_, hshadow⟩
    · exact hfree.reliable.readAll_snd outputRegisters
    · exact hrepaired.of_eq (Device.Bus.readAll_regs _ _) rfl

/-- A new shadow state that is written and verified. -/
theorem drive (h : FaultFree r) (cur : UInt16) :
    let r' := (RelayManager.verifyOutputs
      (RelayManager.writeOutputs { r with s_relayState := cur })).2
    FaultFree r' ∧ OutputsMatch r' ∧ r'.s_relayState = cur := by
  have hcur : FaultFree { r with s_relayState := cur } :=
    ⟨⟨h.started.initialized, h.started.spiDev⟩, h.reliable⟩
  obtain ⟨hfree, hmatch, hshadow⟩ := hcur.writeOutputs.verifyOutputs
  refine ⟨hfree, hmatch, hshadow.trans ?_⟩
  rw [writeOutputs_eq]

end FaultFree

/-- A successful `begin` on a bus that does not fail. -/
theorem faultFree_begin {busInitialized deviceAdded : Bool} {r : RelayManager}
    (hbus : r.bus.Reliable) (h : (begin busInitialized deviceAdded r).1 = true) :
    FaultFree (begin busInitialized deviceAdded r).2 ∧
      (begin busInitialized deviceAdded r).2.s_relayState = 0 := by
  unfold begin at h ⊢
  split_ifs at h ⊢
  dsimp only
  have hdev : (initRegisters { r with s_spiDev := true }).s_spiDev = true := by
    rw [initRegisters_eq]
  have hfree : FaultFree { initRegisters { r with s_spiDev := true } with
      s_relayState := 0, s_initialized := true } :=
    ⟨⟨rfl, hdev⟩, reliable_initRegisters (r := { r with s_spiDev := true }) hbus⟩
  exact ⟨hfree.verifyOutputs.1, hfree.verifyOutputs.2.2⟩

/-! ### The shadow state -/

/-- Whether a call is `begin`. -/
def Action.isBegin : Action → Bool
  | .begin _ _ => true
  | _ => false

/-- The shadow state that a call other than `begin` commands. -/
def Action.shadow (s_relayState : UInt16) : Action → UInt16
  | .setRelay channel state =>
    if channel.toNat ≥ RELAY_TOTAL_CHANNELS then s_relayState
    else Word.setBit channel.toUInt16 state s_relayState
  | .allOn => (1 <<< UInt16.ofNat RELAY_TOTAL_CHANNELS) - 1
  | .allOff _ => 0
  | _ => s_relayState

/-- The state that a call commands for a channel, if any. -/
def Action.commands (channel : UInt8) : Action → Option Bool
  | .setRelay ch state => if ch = channel then some state else none
  | .allOn => some true
  | .allOff _ => some false
  | _ => none

/-- The state that the calls `as` have commanded last, off before the first command. -/
def lastCommanded (channel : UInt8) (as : List Action) : Bool :=
  (as.filterMap (Action.commands channel)).getLastD false

theorem lastCommanded_concat (channel : UInt8) (as : List Action) (a : Action) :
    lastCommanded channel (as ++ [a]) = (a.commands channel).getD (lastCommanded channel as) := by
  unfold lastCommanded
  rw [List.filterMap_append]
  cases ha : a.commands channel <;> simp [ha]

theorem getRelayState_eq_testBit {channel : UInt8} (hch : channel.toNat < RELAY_TOTAL_CHANNELS)
    (r : RelayManager) :
    getRelayState channel r = r.s_relayState.toNat.testBit channel.toNat := by
  have hten : channel.toNat < 10 := hch
  have hbit : channel.toUInt16.toNat < 16 := by
    rw [UInt8.toNat_toUInt16]
    omega
  unfold getRelayState
  rw [if_neg (Nat.not_le.mpr hch), Bool.eq_iff_iff, decide_eq_true_iff,
    Word.shiftRight_and_one_eq_one_iff hbit, UInt8.toNat_toUInt16]

/-- The shadow state keeps within its ten bits. -/
theorem shadow_lt {s : UInt16} (hs : s.toNat < 2 ^ RELAY_TOTAL_CHANNELS) (a : Action) :
    (a.shadow s).toNat < 2 ^ RELAY_TOTAL_CHANNELS := by
  cases a with
  | setRelay channel state =>
    rw [Action.shadow]
    split_ifs with hch
    · exact hs
    · have hten : channel.toUInt16.toNat < 10 := by
        rw [UInt8.toNat_toUInt16]
        exact Nat.not_le.mp hch
      exact Word.toNat_setBit_lt (hten.trans (by decide)) hten state hs
  | allOn =>
    rw [Action.shadow]
    decide
  | allOff silent => exact Nat.two_pow_pos _
  | _ => exact hs

/-- **Each bit** of the shadow state is commanded by itself. -/
theorem testBit_shadow {channel : UInt8} (hch : channel.toNat < RELAY_TOTAL_CHANNELS) (s : UInt16)
    (a : Action) :
    (a.shadow s).toNat.testBit channel.toNat =
      (a.commands channel).getD (s.toNat.testBit channel.toNat) := by
  have hten : channel.toNat < 10 := hch
  cases a with
  | setRelay ch state =>
    rw [Action.shadow, Action.commands]
    by_cases hbad : ch.toNat ≥ RELAY_TOTAL_CHANNELS
    · have hne : ch ≠ channel := by
        rintro rfl
        exact absurd hch (Nat.not_lt.mpr hbad)
      rw [if_pos hbad, if_neg hne]
      rfl
    · have hbit : ch.toUInt16.toNat < 16 := by
        rw [UInt8.toNat_toUInt16]
        exact (Nat.not_le.mp hbad).trans (by decide)
      rw [if_neg hbad, Word.testBit_setBit hbit state s (by omega), UInt8.toNat_toUInt16]
      by_cases heq : ch = channel
      · rw [if_pos heq, if_pos (congrArg UInt8.toNat heq.symm)]
        rfl
      · rw [if_neg heq, if_neg fun h => heq (UInt8.toNat_inj.mp h.symm)]
        rfl
  | allOn =>
    have hall : ∀ k < 10,
        ((1 <<< UInt16.ofNat RELAY_TOTAL_CHANNELS) - 1 : UInt16).toNat.testBit k = true := by
      decide
    exact hall channel.toNat hten
  | allOff silent => exact Nat.zero_testBit _
  | _ => rfl

/-! ### The calls -/

/-- **One call** other than `begin` leaves the shadow state that it commands, and the outputs match
it if they are driven or verified. -/
theorem FaultFree.step {r : RelayManager} (h : FaultFree r) {a : Action}
    (ha : a.isBegin = false) :
    FaultFree (step r a) ∧ (step r a).s_relayState = a.shadow r.s_relayState ∧
      (a.Verifies → OutputsMatch (step r a)) := by
  have hinit : r.s_initialized = true := h.started.initialized
  cases a with
  | begin busInitialized deviceAdded => cases ha
  | setRelay channel state =>
    simp only [RelayManager.step, setRelay, Action.shadow]
    by_cases hch : channel.toNat ≥ RELAY_TOTAL_CHANNELS
    · rw [if_pos (.inr hch), if_pos hch]
      exact ⟨h, rfl, fun hlt => absurd hch (Nat.not_le.mpr hlt)⟩
    · rw [if_neg (by simp [hinit, hch]), if_neg hch]
      obtain ⟨hfree, hmatch, hshadow⟩ := h.drive (Word.setBit channel.toUInt16 state r.s_relayState)
      exact ⟨hfree, hshadow, fun _ => hmatch⟩
  | allOn =>
    simp only [RelayManager.step, allOn, Action.shadow]
    rw [if_neg (by simp [hinit])]
    obtain ⟨hfree, hmatch, hshadow⟩ :=
      h.drive ((1 <<< UInt16.ofNat RELAY_TOTAL_CHANNELS) - 1)
    exact ⟨hfree, hshadow, fun _ => hmatch⟩
  | allOff silent =>
    have hzero : FaultFree { r with s_relayState := 0 } :=
      ⟨⟨hinit, h.started.spiDev⟩, h.reliable⟩
    have hwritten := (hzero.writeRegister MCP23S17_OLATA 0xFF).writeRegister MCP23S17_OLATB 0xFF
    obtain ⟨hfree, hmatch, hshadow⟩ := hwritten.verifyOutputs
    refine ⟨hfree, hshadow.trans ?_, fun _ => hmatch⟩
    rw [writeRegister_eq, writeRegister_eq { r with s_relayState := 0 }]
    rfl
  | verifyOutputs =>
    obtain ⟨hfree, hmatch, hshadow⟩ := h.verifyOutputs
    exact ⟨hfree, hshadow, fun _ => hmatch⟩
  | verifyIfDue nowMs =>
    simp only [RelayManager.step, verifyIfDue, Action.shadow]
    rw [if_neg (by simp [hinit])]
    have hstamp : FaultFree { r with s_lastVerifyMs := nowMs } :=
      ⟨⟨hinit, h.started.spiDev⟩, h.reliable⟩
    split_ifs
    · exact ⟨⟨⟨hinit, h.started.spiDev⟩, h.reliable⟩, rfl, False.elim⟩
    · exact ⟨h, rfl, False.elim⟩
    · exact ⟨hstamp.verifyOutputs.1, hstamp.verifyOutputs.2.2, False.elim⟩
  | clearActuatorFault =>
    exact ⟨⟨⟨hinit, h.started.spiDev⟩, h.reliable⟩, rfl, False.elim⟩
  | chip change => exact ⟨⟨⟨hinit, h.started.spiDev⟩, h.reliable⟩, rfl, False.elim⟩

/-- A call changes the state of a channel only by a command for it. -/
theorem FaultFree.getRelayState_step {r : RelayManager} (h : FaultFree r) {a : Action}
    (ha : a.isBegin = false) {channel : UInt8} (hch : channel.toNat < RELAY_TOTAL_CHANNELS) :
    getRelayState channel (RelayManager.step r a) =
      (a.commands channel).getD (getRelayState channel r) := by
  rw [getRelayState_eq_testBit hch, getRelayState_eq_testBit hch, (h.step ha).2.1,
    testBit_shadow hch]

/-- The driver after the calls `as`: the bus has not failed and the shadow state is what was
commanded. -/
structure Commanded (as : List Action) (r : RelayManager) : Prop where
  faultFree : FaultFree r
  shadow_lt : r.s_relayState.toNat < 2 ^ RELAY_TOTAL_CHANNELS
  state : ∀ channel : UInt8, channel.toNat < RELAY_TOTAL_CHANNELS →
    getRelayState channel r = lastCommanded channel as

theorem Commanded.step {as : List Action} {r : RelayManager} (h : Commanded as r) {a : Action}
    (ha : a.isBegin = false) : Commanded (as ++ [a]) (step r a) where
  faultFree := (h.faultFree.step ha).1
  shadow_lt := by
    rw [(h.faultFree.step ha).2.1]
    exact RelayManager.shadow_lt h.shadow_lt a
  state channel hch := by
    rw [h.faultFree.getRelayState_step ha hch, h.state channel hch, lastCommanded_concat]

/-- **In every run** after a successful `begin` the shadow state is what was commanded. -/
theorem commanded_of_begin {busInitialized deviceAdded : Bool} {r : RelayManager}
    (hbus : r.bus.Reliable) (hbegin : (begin busInitialized deviceAdded r).1 = true)
    {as : List Action} (has : ∀ a ∈ as, a.isBegin = false) :
    Commanded as (Machine.exec step (begin busInitialized deviceAdded r).2 as) := by
  induction as using List.reverseRecOn with
  | nil =>
    obtain ⟨hfree, hzero⟩ := faultFree_begin hbus hbegin
    refine ⟨hfree, ?_, fun channel hch => ?_⟩
    · rw [Machine.exec_nil, hzero]
      decide
    · rw [Machine.exec_nil, getRelayState_eq_testBit hch, hzero]
      exact Nat.zero_testBit _
  | append_singleton as a ih =>
    rw [Machine.exec_concat]
    have hlast : a.isBegin = false := has a (by simp)
    exact (ih fun b hb => has b (List.mem_append_left _ hb)).step hlast

/-- **Convergence**: on a bus that does not fail, after a successful `begin`, any calls and any
changes of the chip, a call that drives or verifies the relays returns with the inverted shadow
state in the latches and all pins outputs, the shadow state being within ten bits and each channel
as it was commanded last.  `setRelay` changes no other channel, and for a channel that does not
exist it changes neither the shadow state nor the chip. -/
theorem converged_of_begin {busInitialized deviceAdded : Bool} {r : RelayManager}
    (hbus : r.bus.Reliable) (hbegin : (begin busInitialized deviceAdded r).1 = true)
    {as : List Action} (has : ∀ a ∈ as, a.isBegin = false) :
    let r₁ := Machine.exec step (begin busInitialized deviceAdded r).2 as
    (∀ a : Action, a.Verifies →
        OutputsMatch (step r₁ a) ∧
          (step r₁ a).s_relayState.toNat < 2 ^ RELAY_TOTAL_CHANNELS ∧
          ∀ channel : UInt8, channel.toNat < RELAY_TOTAL_CHANNELS →
            getRelayState channel (step r₁ a) = lastCommanded channel (as ++ [a])) ∧
      (∀ (channel : UInt8) (state : Bool) (other : UInt8), other ≠ channel →
        getRelayState other (setRelay channel state r₁) = getRelayState other r₁) ∧
      ∀ (channel : UInt8) (state : Bool), RELAY_TOTAL_CHANNELS ≤ channel.toNat →
        (setRelay channel state r₁).s_relayState = r₁.s_relayState ∧
          (setRelay channel state r₁).chip = r₁.chip := by
  intro r₁
  have hcommanded : Commanded as r₁ := commanded_of_begin hbus hbegin has
  refine ⟨fun a ha => ?_, fun channel state other hne => ?_, fun channel state hch => ?_⟩
  · have hcall : a.isBegin = false := by
      cases a with
      | begin => exact ha.elim
      | _ => rfl
    have hnext := hcommanded.step hcall
    exact ⟨(hcommanded.faultFree.step hcall).2.2 ha, hnext.shadow_lt, hnext.state⟩
  · by_cases hother : other.toNat < RELAY_TOTAL_CHANNELS
    · have hstep := hcommanded.faultFree.getRelayState_step
        (a := .setRelay channel state) rfl hother
      rw [Action.commands, if_neg hne.symm] at hstep
      exact hstep
    · unfold getRelayState
      rw [if_pos (Nat.not_lt.mp hother), if_pos (Nat.not_lt.mp hother)]
  · unfold setRelay
    rw [if_pos (.inr hch)]
    exact ⟨rfl, rfl⟩

/-- Every register is overwritten after a relay was switched on; the verification repairs them. -/
theorem converged_after_overwriting :
    let r := (verifyOutputs (Machine.exec step (begin true true (fresh fun _ => true)).2
      [.setRelay 9 true, .chip fun _ _ => 0x55])).2
    OutputsMatch r ∧ getRelayState 9 r = true := by
  have hcalls : ∀ a ∈ [Action.setRelay 9 true, .chip fun _ _ => 0x55], a.isBegin = false := by
    simp [Action.isBegin]
  obtain ⟨hmatch, -, hstate⟩ := (converged_of_begin (r := fresh fun _ => true) (fun _ => rfl)
    (by decide : (begin true true (fresh fun _ => true)).1 = true) hcalls).1 .verifyOutputs trivial
  exact ⟨hmatch, hstate 9 (by decide)⟩

end TufanAks.RelayManager
