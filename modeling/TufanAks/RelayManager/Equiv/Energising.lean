import TufanAks.RelayManager.Equiv.Verify
import TufanAks.Word.Mask

/-!
# When a register write energises a relay

A write that energises a relay whose shadow bit is off is `Spurious`.  A write to a latch never is
(`not_spurious_latch`): the latches only ever get high bits for such relays.  A write that makes the
pins of a port outputs is, when it goes through and a relay of the port is off while its latch is
low, which is what the power-up order is there to prevent.  It does, unless the write to the latch
is lost: `noSpuriousWrite_iff` says that a run is free of spurious writes exactly when every run
through the power-up order is `Safe`.
-/

namespace TufanAks.RelayManager

/-! ### Relays and registers -/

/-- The two ports of the chip. -/
inductive Port
  | A
  | B
  deriving DecidableEq, Repr

/-- The direction register of a port. -/
def Port.IODIR : Port → UInt8
  | .A => MCP23S17_IODIRA
  | .B => MCP23S17_IODIRB

/-- The output latch of a port. -/
def Port.OLAT : Port → UInt8
  | .A => MCP23S17_OLATA
  | .B => MCP23S17_OLATB

/-- The port of a relay channel; its pin there is `channel % 8`. -/
def portOf (channel : ℕ) : Port := if channel < 8 then .A else .B

/-- The pin of the channel is an output. -/
def IsOutput (chip : Registers) (channel : ℕ) : Prop :=
  (chip (portOf channel).IODIR).toNat.testBit (channel % 8) = false

/-- The latch of the channel is low. -/
def IsLow (chip : Registers) (channel : ℕ) : Prop :=
  (chip (portOf channel).OLAT).toNat.testBit (channel % 8) = false

/-- The relay of the channel is energised. -/
def Energised (chip : Registers) (channel : ℕ) : Prop := IsOutput chip channel ∧ IsLow chip channel

/-- The shadow bit of the channel is off. -/
def IsOff (s_relayState : UInt16) (channel : ℕ) : Prop :=
  s_relayState.toNat.testBit channel = false

instance (chip : Registers) (channel : ℕ) : Decidable (IsOutput chip channel) :=
  inferInstanceAs (Decidable (_ = _))

instance (chip : Registers) (channel : ℕ) : Decidable (IsLow chip channel) :=
  inferInstanceAs (Decidable (_ = _))

instance (chip : Registers) (channel : ℕ) : Decidable (Energised chip channel) :=
  inferInstanceAs (Decidable (_ ∧ _))

instance (s_relayState : UInt16) (channel : ℕ) : Decidable (IsOff s_relayState channel) :=
  inferInstanceAs (Decidable (_ = _))

/-- The write energises a relay that is off. -/
def Spurious (w : RegisterWrite) : Prop :=
  ∃ channel < RELAY_TOTAL_CHANNELS,
    ¬Energised w.before channel ∧ Energised w.after channel ∧ IsOff w.s_relayState channel

instance (w : RegisterWrite) : Decidable (Spurious w) :=
  inferInstanceAs (Decidable (∃ channel < RELAY_TOTAL_CHANNELS,
    ¬Energised w.before channel ∧ Energised w.after channel ∧ IsOff w.s_relayState channel))

/-- A relay of the port is off, but its latch is low behind a pin that is still an input. -/
def Exposed (s_relayState : UInt16) (chip : Registers) (p : Port) : Prop :=
  ∃ channel < RELAY_TOTAL_CHANNELS,
    portOf channel = p ∧ IsOff s_relayState channel ∧ ¬IsOutput chip channel ∧ IsLow chip channel

/-- The places of the two writes to a port in the power-up order. -/
def Port.latchWrite : Port → ℕ
  | .A => 0
  | .B => 1

def Port.directionWrite : Port → ℕ
  | .A => 2
  | .B => 3

/-- At an exposed port the latch is set high, or the pins stay inputs. -/
def Safe (i : InitSequence) : Prop :=
  ∀ p, Exposed i.s_relayState i.chip p →
    i.succeeds p.latchWrite = true ∨ i.succeeds p.directionWrite = false

/-! ### One write -/

theorem OLAT_ne_IODIR (p q : Port) : p.OLAT ≠ q.IODIR := by
  cases p <;> cases q <;> decide

theorem OLAT_injective {p q : Port} (h : p.OLAT = q.OLAT) : p = q := by
  cases p <;> cases q <;> first | rfl | exact absurd h (by decide)

theorem IODIR_injective {p q : Port} (h : p.IODIR = q.IODIR) : p = q := by
  cases p <;> cases q <;> first | rfl | exact absurd h (by decide)

/-- What a write to a latch does to the pins: nothing to their directions, and the latches of its
port take the bits of the value. -/
theorem isOutput_write_OLAT (bus : Device.Bus UInt8 UInt8) (p : Port) (value : UInt8)
    (channel : ℕ) : IsOutput (bus.write p.OLAT value).regs channel ↔ IsOutput bus.regs channel := by
  unfold IsOutput
  rw [Device.Bus.write_regs_of_ne (OLAT_ne_IODIR p _).symm]

theorem isLow_write_OLAT (bus : Device.Bus UInt8 UInt8) (p : Port) (value : UInt8)
    (channel : ℕ) :
    IsLow (bus.write p.OLAT value).regs channel ↔
      if portOf channel = p ∧ bus.succeeds 0 = true then
        value.toNat.testBit (channel % 8) = false
      else IsLow bus.regs channel := by
  unfold IsLow
  by_cases hport : portOf channel = p
  · rw [hport, Device.Bus.write_regs_self]
    by_cases hok : bus.succeeds 0 = true
    · rw [if_pos hok, if_pos ⟨rfl, hok⟩]
    · rw [if_neg hok, if_neg fun h => hok h.2]
  · have hne : (portOf channel).OLAT ≠ p.OLAT := fun h => hport (OLAT_injective h)
    rw [Device.Bus.write_regs_of_ne hne, if_neg fun h => hport h.1]

/-- A write to a latch is not spurious when its value is high for the relays that are off. -/
theorem not_spurious_latch (s_relayState : UInt16) (bus : Device.Bus UInt8 UInt8) (p : Port)
    (value : UInt8)
    (hvalue : ∀ channel < RELAY_TOTAL_CHANNELS, portOf channel = p →
      IsOff s_relayState channel → value.toNat.testBit (channel % 8) = true) :
    ¬Spurious ⟨s_relayState, bus.regs, (bus.write p.OLAT value).regs⟩ := by
  rintro ⟨channel, hlt, hbefore, ⟨hout, hlow⟩, hoff⟩
  rw [isOutput_write_OLAT] at hout
  rw [isLow_write_OLAT] at hlow
  split_ifs at hlow with hport
  · rw [hvalue channel hlt hport.1 hoff] at hlow
    cases hlow
  · exact hbefore ⟨hout, hlow⟩

/-- What making the pins of a port outputs does to them. -/
theorem isOutput_write_IODIR (bus : Device.Bus UInt8 UInt8) (p : Port) (channel : ℕ) :
    IsOutput (bus.write p.IODIR 0x00).regs channel ↔
      (portOf channel = p ∧ bus.succeeds 0 = true) ∨ IsOutput bus.regs channel := by
  unfold IsOutput
  by_cases hport : portOf channel = p
  · rw [hport, Device.Bus.write_regs_self]
    by_cases hok : bus.succeeds 0 = true
    · simp [hok]
    · simp [hok]
  · have hne : (portOf channel).IODIR ≠ p.IODIR := fun h => hport (IODIR_injective h)
    rw [Device.Bus.write_regs_of_ne hne]
    simp [hport]

theorem isLow_write_IODIR (bus : Device.Bus UInt8 UInt8) (p : Port) (value : UInt8)
    (channel : ℕ) : IsLow (bus.write p.IODIR value).regs channel ↔ IsLow bus.regs channel := by
  unfold IsLow
  rw [Device.Bus.write_regs_of_ne (OLAT_ne_IODIR _ p)]

/-- Making the pins of a port outputs is spurious exactly when it goes through at an exposed
port. -/
theorem spurious_direction_iff (s_relayState : UInt16) (bus : Device.Bus UInt8 UInt8) (p : Port) :
    Spurious ⟨s_relayState, bus.regs, (bus.write p.IODIR 0x00).regs⟩ ↔
      bus.succeeds 0 = true ∧ Exposed s_relayState bus.regs p := by
  constructor
  · rintro ⟨channel, hlt, hbefore, ⟨hout, hlow⟩, hoff⟩
    rw [isLow_write_IODIR] at hlow
    have hinput : ¬IsOutput bus.regs channel := fun h => hbefore ⟨h, hlow⟩
    obtain ⟨hport, hok⟩ := ((isOutput_write_IODIR bus p channel).mp hout).resolve_right hinput
    exact ⟨hok, channel, hlt, hport, hoff, hinput, hlow⟩
  · rintro ⟨hok, channel, hlt, hport, hoff, hinput, hlow⟩
    refine ⟨channel, hlt, fun h => hinput h.1, ⟨?_, ?_⟩, hoff⟩
    · exact (isOutput_write_IODIR bus p channel).mpr (.inl ⟨hport, hok⟩)
    · exact (isLow_write_IODIR bus p 0x00 channel).mpr hlow

theorem testBit_all_ones (channel : ℕ) : (0xFF : UInt8).toNat.testBit (channel % 8) = true := by
  have hall : ∀ k < 8, (0xFF : UInt8).toNat.testBit k = true := by decide
  exact hall _ (Nat.mod_lt _ (by decide))

/-- Setting the latches of a port high ends its exposure, if the write goes through. -/
theorem exposed_write_latch_iff (s_relayState : UInt16) (bus : Device.Bus UInt8 UInt8) (p : Port) :
    Exposed s_relayState (bus.write p.OLAT 0xFF).regs p ↔
      bus.succeeds 0 = false ∧ Exposed s_relayState bus.regs p := by
  unfold Exposed
  simp only [isOutput_write_OLAT, isLow_write_OLAT, testBit_all_ones]
  by_cases hok : bus.succeeds 0 = true
  · simp only [hok, and_true, Bool.true_eq_false, if_false_left, false_and, iff_false]
    rintro ⟨channel, -, hport, -, -, hne, -⟩
    exact hne hport
  · simp [hok]

/-- The registers of the other port do not matter. -/
theorem exposed_congr {s_relayState : UInt16} {chip chip' : Registers} {p : Port}
    (hIODIR : chip' p.IODIR = chip p.IODIR) (hOLAT : chip' p.OLAT = chip p.OLAT) :
    Exposed s_relayState chip' p ↔ Exposed s_relayState chip p := by
  refine exists_congr fun channel => and_congr_right fun _ => and_congr_right fun hport => ?_
  unfold IsOutput IsLow
  rw [hport, hIODIR, hOLAT]

/-- The bits of the expected latches are the inverted shadow bits. -/
theorem testBit_expOlat (s : UInt16) {channel : ℕ} (hlt : channel < RELAY_TOTAL_CHANNELS) :
    (if portOf channel = .A then expOlatA s else expOlatB s).toNat.testBit (channel % 8) =
      !s.toNat.testBit channel := by
  have hten : channel < 10 := hlt
  unfold portOf
  by_cases hA : channel < 8
  · have hmod : channel % 8 = channel := Nat.mod_eq_of_lt hA
    rw [if_pos hA, if_pos rfl, hmod, expOlatA, UInt16.toNat_toUInt8, Nat.testBit_mod_two_pow,
      Word.testBit_not s (by omega)]
    simp [hA]
  · have hmod : 8 + channel % 8 = channel := by omega
    have hbit : channel % 8 < 8 := Nat.mod_lt _ (by decide)
    rw [if_neg hA, if_neg (by decide), expOlatB, UInt16.toNat_toUInt8, Nat.testBit_mod_two_pow,
      UInt16.toNat_shiftRight, show (8 : UInt16).toNat % 16 = 8 from rfl, Nat.testBit_shiftRight,
      hmod, Word.testBit_not s (by omega)]
    simp [hbit]

/-! ### The calls -/

/-- From `r` to `r'` the manager has issued writes and run through the power-up order, and the
writes are free of spurious ones exactly when the runs through the order were safe. -/
def Issues (r r' : RelayManager) : Prop :=
  ∃ ws is, r'.writes = r.writes ++ ws ∧ r'.inits = r.inits ++ is ∧
    ((∀ w ∈ ws, ¬Spurious w) ↔ ∀ i ∈ is, Safe i)

theorem Issues.refl (r : RelayManager) : Issues r r := ⟨[], [], by simp, by simp, by simp⟩

theorem Issues.trans {r r' r'' : RelayManager} (h : Issues r r') (h' : Issues r' r'') :
    Issues r r'' := by
  obtain ⟨ws, is, hws, his, hiff⟩ := h
  obtain ⟨ws', is', hws', his', hiff'⟩ := h'
  refine ⟨ws ++ ws', is ++ is', ?_, ?_, ?_⟩
  · rw [hws', hws, List.append_assoc]
  · rw [his', his, List.append_assoc]
  · simp only [List.mem_append, or_imp, forall_and, hiff, hiff']

/-- Issuing nothing. -/
theorem Issues.of_eq {r r' : RelayManager} (hwrites : r'.writes = r.writes)
    (hinits : r'.inits = r.inits) : Issues r r' :=
  ⟨[], [], by simpa using hwrites, by simpa using hinits, by simp⟩

/-- A write to a latch whose value is high for the relays that are off. -/
theorem issues_writeRegister_OLAT (r : RelayManager) (p : Port) (value : UInt8)
    (hvalue : ∀ channel < RELAY_TOTAL_CHANNELS, portOf channel = p →
      IsOff r.s_relayState channel → value.toNat.testBit (channel % 8) = true) :
    Issues r (writeRegister p.OLAT value r) := by
  unfold writeRegister
  split_ifs
  · exact .refl r
  · refine ⟨[⟨r.s_relayState, r.chip, (r.bus.write p.OLAT value).regs⟩], [], rfl, by simp, ?_⟩
    have hquiet := not_spurious_latch r.s_relayState r.bus p value hvalue
    simp [hquiet]

theorem issues_writeRegister_high (r : RelayManager) (p : Port) :
    Issues r (writeRegister p.OLAT 0xFF r) :=
  issues_writeRegister_OLAT r p 0xFF fun channel _ _ _ => testBit_all_ones channel

/-- Writing the shadow state only energises relays that are on. -/
theorem issues_writeOutputs (r : RelayManager) : Issues r (writeOutputs r) := by
  have hA : Issues r (writeRegister MCP23S17_OLATA (expOlatA r.s_relayState) r) := by
    refine issues_writeRegister_OLAT r .A _ fun channel hlt hport hoff => ?_
    have hbit := testBit_expOlat r.s_relayState hlt
    rw [hoff, if_pos hport] at hbit
    exact hbit
  refine hA.trans (issues_writeRegister_OLAT _ .B _ fun channel hlt hport hoff => ?_)
  rw [writeRegister_eq] at hoff
  have hbit := testBit_expOlat r.s_relayState hlt
  rw [hoff, if_neg (by rw [hport]; decide)] at hbit
  exact hbit

/-- **The power-up order** issues no spurious write exactly when it is safe. -/
theorem issues_initRegisters {r : RelayManager} (hdev : r.s_spiDev = true) :
    Issues r (initRegisters r) := by
  let i : InitSequence := ⟨r.s_relayState, r.chip, r.bus.succeeds⟩
  -- the buses before the four writes, and after the last
  let b₁ := r.bus.write Port.A.OLAT 0xFF
  let b₂ := b₁.write Port.B.OLAT 0xFF
  let b₃ := b₂.write Port.A.IODIR 0x00
  let b₄ := b₃.write Port.B.IODIR 0x00
  have hwrites : (initRegisters r).writes = r.writes ++
      [⟨r.s_relayState, r.bus.regs, b₁.regs⟩, ⟨r.s_relayState, b₁.regs, b₂.regs⟩,
        ⟨r.s_relayState, b₂.regs, b₃.regs⟩, ⟨r.s_relayState, b₃.regs, b₄.regs⟩] := by
    simp [initRegisters, writeRegister, hdev, b₁, b₂, b₃, b₄, Port.OLAT, Port.IODIR]
  have hinits : (initRegisters r).inits = r.inits ++ [i] := by
    simp [initRegisters, writeRegister, hdev, i]
  refine ⟨_, [i], hwrites, hinits, ?_⟩
  have hquiet : ∀ (p : Port) (b : Device.Bus UInt8 UInt8),
      ¬Spurious ⟨r.s_relayState, b.regs, (b.write p.OLAT 0xFF).regs⟩ := fun p b =>
    not_spurious_latch _ b p 0xFF fun channel _ _ _ => testBit_all_ones channel
  have h₁ : ¬Spurious ⟨r.s_relayState, r.bus.regs, b₁.regs⟩ := hquiet .A r.bus
  have h₂ : ¬Spurious ⟨r.s_relayState, b₁.regs, b₂.regs⟩ := hquiet .B b₁
  -- at each direction write the port is exposed if it was at the start and its latch write failed
  have hA : Exposed r.s_relayState b₂.regs .A ↔
      r.bus.succeeds 0 = false ∧ Exposed r.s_relayState r.bus.regs .A := by
    rw [← exposed_write_latch_iff]
    refine exposed_congr ?_ ?_
    · exact Device.Bus.write_regs_of_ne (by decide) _ _
    · exact Device.Bus.write_regs_of_ne (by decide) _ _
  have hB : Exposed r.s_relayState b₃.regs .B ↔
      r.bus.succeeds 1 = false ∧ Exposed r.s_relayState r.bus.regs .B := by
    have hlatch := exposed_write_latch_iff r.s_relayState b₁ .B
    have hlater : Exposed r.s_relayState b₃.regs .B ↔ Exposed r.s_relayState b₂.regs .B := by
      refine exposed_congr ?_ ?_
      · exact Device.Bus.write_regs_of_ne (by decide) _ _
      · exact Device.Bus.write_regs_of_ne (by decide) _ _
    have hearlier : Exposed r.s_relayState b₁.regs .B ↔ Exposed r.s_relayState r.bus.regs .B := by
      refine exposed_congr ?_ ?_
      · exact Device.Bus.write_regs_of_ne (by decide) _ _
      · exact Device.Bus.write_regs_of_ne (by decide) _ _
    rw [hlater, hlatch, hearlier]
    rfl
  have h₃ := spurious_direction_iff r.s_relayState b₂ .A
  have h₄ := spurious_direction_iff r.s_relayState b₃ .B
  rw [hA, show b₂.succeeds 0 = r.bus.succeeds 2 from rfl] at h₃
  rw [hB, show b₃.succeeds 0 = r.bus.succeeds 3 from rfl] at h₄
  have hsafe : Safe i ↔
      (Exposed r.s_relayState r.bus.regs .A → r.bus.succeeds 0 = true ∨ r.bus.succeeds 2 = false) ∧
        (Exposed r.s_relayState r.bus.regs .B →
          r.bus.succeeds 1 = true ∨ r.bus.succeeds 3 = false) := by
    constructor
    · exact fun h => ⟨h .A, h .B⟩
    · rintro ⟨hA, hB⟩ p
      cases p with
      | A => exact hA
      | B => exact hB
  simp only [List.forall_mem_cons, List.not_mem_nil, false_implies, implies_true, and_true,
    h₁, h₂, not_false_eq_true, true_and]
  rw [hsafe]
  refine and_congr (not_congr h₃ |>.trans ?_) (not_congr h₄ |>.trans ?_)
  · cases r.bus.succeeds 0 <;> cases r.bus.succeeds 2 <;> simp
  · cases r.bus.succeeds 1 <;> cases r.bus.succeeds 3 <;> simp

theorem issues_reinitAndReassert {r : RelayManager} (hdev : r.s_spiDev = true) :
    Issues r (reinitAndReassert r) :=
  (issues_initRegisters hdev).trans (issues_writeOutputs _)

theorem issues_verifyOutputs (r : RelayManager) : Issues r (verifyOutputs r).2 := by
  unfold verifyOutputs checkOutputs
  split_ifs with hguard
  · exact .of_eq rfl rfl
  have hdev : r.s_spiDev = true := by
    by_contra hno
    exact hguard (by simp [hno])
  dsimp only
  split_ifs
  · exact .of_eq rfl rfl
  · have hread : Issues r { r with bus := (r.bus.readAll outputRegisters).2 } := .of_eq rfl rfl
    refine (hread.trans (issues_reinitAndReassert ?_)).trans (.of_eq rfl rfl)
    exact hdev

/-- **One call** issues no spurious write exactly when it runs through the power-up order safely. -/
theorem issues_step (r : RelayManager) (a : Action) : Issues r (step r a) := by
  cases a with
  | begin busInitialized deviceAdded =>
    simp only [step]
    unfold begin
    split_ifs
    · exact .refl r
    · exact .refl r
    · dsimp only
      have hdev : Issues r { r with s_spiDev := true } := .of_eq rfl rfl
      refine (hdev.trans (issues_initRegisters rfl)).trans (.trans ?_ (issues_verifyOutputs _))
      exact .of_eq rfl rfl
  | setRelay channel state =>
    simp only [step]
    unfold setRelay
    split_ifs
    · exact .refl r
    all_goals
      refine .trans ?_ (issues_verifyOutputs _)
      refine .trans ?_ (issues_writeOutputs _)
      exact .of_eq rfl rfl
  | allOn =>
    simp only [step]
    unfold allOn
    split_ifs
    · exact .refl r
    · refine .trans ?_ (issues_verifyOutputs _)
      refine .trans ?_ (issues_writeOutputs _)
      exact .of_eq rfl rfl
  | allOff silent =>
    have hstate : Issues r { r with s_relayState := 0 } := .of_eq rfl rfl
    have hA := hstate.trans (issues_writeRegister_high _ .A)
    exact (hA.trans (issues_writeRegister_high _ .B)).trans (issues_verifyOutputs _)
  | verifyOutputs => exact issues_verifyOutputs r
  | verifyIfDue nowMs =>
    simp only [step]
    unfold verifyIfDue
    split_ifs
    · exact .refl r
    · exact .of_eq rfl rfl
    · exact .refl r
    · refine .trans ?_ (issues_verifyOutputs _)
      exact .of_eq rfl rfl
  | clearActuatorFault => exact .of_eq rfl rfl
  | chip change => exact .of_eq rfl rfl

theorem issues_exec (r : RelayManager) (as : List Action) : Issues r (Machine.exec step r as) :=
  Machine.exec_invariant (Issues r) (fun r' a _ h => h.trans (issues_step r' a)) (.refl r)

/-- A driver that has not done anything yet, in front of a chip with any content. -/
def unused (chip : Registers) (succeeds : ℕ → Bool) : RelayManager where
  bus := ⟨chip, succeeds⟩

/-- **No spurious energising**: no register write energises a relay whose shadow bit is off. -/
def NoSpuriousWrite (r : RelayManager) : Prop := ∀ w ∈ r.writes, ¬Spurious w

instance (r : RelayManager) : Decidable (NoSpuriousWrite r) :=
  inferInstanceAs (Decidable (∀ w ∈ r.writes, ¬Spurious w))

/-- **When no relay is energised that is off**: for every content of the chip and every pattern of
failed transfers, exactly when every run through the power-up order was safe. -/
theorem noSpuriousWrite_iff (chip : Registers) (succeeds : ℕ → Bool) (as : List Action) :
    NoSpuriousWrite (Machine.exec step (unused chip succeeds) as) ↔
      ∀ i ∈ (Machine.exec step (unused chip succeeds) as).inits, Safe i := by
  obtain ⟨ws, is, hws, his, hiff⟩ := issues_exec (unused chip succeeds) as
  have hws' : (Machine.exec step (unused chip succeeds) as).writes = ws := hws
  have his' : (Machine.exec step (unused chip succeeds) as).inits = is := his
  rw [NoSpuriousWrite, hws', his']
  exact hiff

/-- `begin` in front of a chip in its power-on state, the first write being lost, energises the
eight relays of port A. -/
theorem not_noSpuriousWrite_of_lost_latch_write :
    ¬NoSpuriousWrite
      (Machine.exec step (unused powerOnRegisters fun n => n != 0) [.begin true true]) := by
  decide

end TufanAks.RelayManager
