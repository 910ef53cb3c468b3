import Mathlib.Data.Fin.VecNotation
import TufanAks.CanManager.Equiv.MotorStatus
import TufanAks.Contract.Equiv.Lines
import TufanAks.Telemetry

/-!
# Whether the ground station accepts what `sendStatus` writes

For every field `printedRange` gives the values that can be printed: the sanitizer, the types and
the clamped speed keep all of them in the range that the ground station accepts, except for the two
that come from the motor status frame (`inRange_of_printedRange`).  `accepted_iff` says what that
frame has to be like.
-/

namespace TufanAks.Telemetry

open Contract

/-! ### What is printed -/

/-- The values that can be printed for a field: most fields by the type of the argument, the system
state, the current and the charge because they are sanitized, the speed because it is clamped. -/
def printedRange : Field → ℤ × ℤ
  | .rpm => (-32768, 32767)
  | .torque => (0, 65535)
  | .ver => (2, 2)
  | f => FIELD_RANGES f

theorem sanitizeSystemState_range (raw : UInt8) :
    (1 : ℤ) ≤ (sanitizeSystemState raw).toNat ∧ ((sanitizeSystemState raw).toNat : ℤ) ≤ 4 := by
  unfold sanitizeSystemState
  split_ifs with h
  · have hlo := UInt8.le_iff_toNat_le.mp h.1
    have hhi := UInt8.le_iff_toNat_le.mp h.2
    exact ⟨by exact_mod_cast hlo, by exact_mod_cast hhi⟩
  · decide

theorem sanitizeSoc_range (raw : UInt16) :
    (0 : ℤ) ≤ (sanitizeSoc raw).toNat ∧ ((sanitizeSoc raw).toNat : ℤ) ≤ 10000 := by
  unfold sanitizeSoc
  split_ifs with h
  · decide
  · have hhi := UInt16.le_iff_toNat_le.mp (UInt16.not_lt.mp h)
    exact ⟨Int.natCast_nonneg _, by exact_mod_cast hhi⟩

theorem sanitizeCurrent_range (raw : Int32) :
    -2147483647 ≤ (sanitizeCurrent raw).toInt ∧ (sanitizeCurrent raw).toInt ≤ 2147483647 := by
  unfold sanitizeCurrent
  split_ifs with h
  · decide
  · have hlo := raw.le_toInt
    have hhi := raw.toInt_lt
    have hne : raw.toInt ≠ INT32_MIN.toInt := fun heq => h (Int32.toInt_inj.mp heq)
    have hmin : INT32_MIN.toInt = -2147483648 := rfl
    omega

theorem flag_range (b : Bool) :
    (0 : ℤ) ≤ (if b then 1 else 0) ∧ (if b then (1 : ℤ) else 0) ≤ 1 := by
  revert b
  decide

theorem uint8_range (x : UInt8) : (0 : ℤ) ≤ x.toNat ∧ (x.toNat : ℤ) ≤ 255 := by
  have := x.toNat_lt
  omega

theorem uint16_range (x : UInt16) : (0 : ℤ) ≤ x.toNat ∧ (x.toNat : ℤ) ≤ 65535 := by
  have := x.toNat_lt
  omega

theorem uint32_range (x : UInt32) : (0 : ℤ) ≤ x.toNat ∧ (x.toNat : ℤ) ≤ U32_MAX := by
  have := x.toNat_lt
  unfold U32_MAX
  omega

theorem int8_range (x : Int8) : -128 ≤ x.toInt ∧ x.toInt ≤ 127 := by
  have := x.le_toInt
  have := x.toInt_lt
  omega

theorem int16_range (x : Int16) : -32768 ≤ x.toInt ∧ x.toInt ≤ 32767 := by
  have := x.le_toInt
  have := x.toInt_lt
  omega

/-- Every value printed for a packet of the CAN task is in the range of what can be printed. -/
theorem arguments_range (seq : UInt32) (speed : SpeedKmhX10) (timestampMs : UInt32)
    (c : CanManager) :
    ∀ x ∈ FIELD_ORDER.zip (arguments seq (sanitizeForUplink (c.packet speed timestampMs))),
      (printedRange x.1).1 ≤ x.2 ∧ x.2 ≤ (printedRange x.1).2 := by
  have hspeed : speed.val.toNat ≤ 3000 := UInt16.le_iff_toNat_le.mp speed.property
  simp only [FIELD_ORDER, arguments, List.zip_cons_cons, List.zip_nil_right, List.forall_mem_cons]
  refine ⟨by decide, uint32_range _, int16_range _, uint16_range _, uint8_range _, flag_range _,
    flag_range _, uint16_range _, uint16_range _, int8_range _, int8_range _,
    sanitizeSystemState_range _, uint16_range _, sanitizeCurrent_range _, sanitizeSoc_range _,
    flag_range _, uint32_range _, ⟨Int.natCast_nonneg _, ?_⟩, by simp⟩
  show ((speed.val.toNat : ℕ) : ℤ) ≤ 3000
  omega

/-! ### What is written -/

/-- Digits that are enough for a field. -/
def width : Field → ℕ
  | .seq => 10
  | .current => 10
  | .ts_ms => 10
  | _ => 5

theorem natAbs_arguments_lt (seq : UInt32) (d : TelemetryData) :
    ∀ x ∈ FIELD_ORDER.zip (arguments seq d), x.2.natAbs < 10 ^ width x.1 := by
  have natAbs_lt : ∀ {lo hi v : ℤ} {k : ℕ}, lo ≤ v ∧ v ≤ hi → lo.natAbs < 10 ^ k →
      hi.natAbs < 10 ^ k → v.natAbs < 10 ^ k := by
    intro lo hi v k h
    generalize 10 ^ k = bound
    omega
  have u8 : ∀ x : UInt8, (x.toNat : ℤ).natAbs < 10 ^ 5 :=
    fun x => natAbs_lt (uint8_range x) (by decide) (by decide)
  have u16 : ∀ x : UInt16, (x.toNat : ℤ).natAbs < 10 ^ 5 :=
    fun x => natAbs_lt (uint16_range x) (by decide) (by decide)
  have u32 : ∀ x : UInt32, (x.toNat : ℤ).natAbs < 10 ^ 10 :=
    fun x => natAbs_lt (uint32_range x) (by decide) (by decide)
  have i8 : ∀ x : Int8, x.toInt.natAbs < 10 ^ 5 :=
    fun x => natAbs_lt (int8_range x) (by decide) (by decide)
  have i16 : ∀ x : Int16, x.toInt.natAbs < 10 ^ 5 :=
    fun x => natAbs_lt (int16_range x) (by decide) (by decide)
  have i32 : ∀ x : Int32, x.toInt.natAbs < 10 ^ 10 :=
    fun x => natAbs_lt ⟨x.le_toInt, x.toInt_lt.le⟩ (by decide) (by decide)
  have flag : ∀ b : Bool, (if b then (1 : ℤ) else 0).natAbs < 10 ^ 5 :=
    fun b => natAbs_lt (flag_range b) (by decide) (by decide)
  simp only [FIELD_ORDER, arguments, List.zip_cons_cons, List.zip_nil_right, List.forall_mem_cons]
  exact ⟨by decide, u32 _, i16 _, u16 _, u8 _, flag _, flag _, u16 _, u16 _, i8 _, i8 _, u8 _,
    u16 _, i32 _, u16 _, flag _, u32 _, u16 _, by simp⟩

/-- A bound on the printed fields bounds the line. -/
theorem length_line_le {args : List ℤ} {w : Field → ℕ} (hlength : args.length = FIELD_ORDER.length)
    (hargs : ∀ x ∈ FIELD_ORDER.zip args, (Text.decimal x.2).length ≤ w x.1) :
    (Contract.line args).length ≤ (FIELD_ORDER.map fun f => w f + 1).sum + 6 := by
  have hsnd : args = (FIELD_ORDER.zip args).map Prod.snd :=
    (List.map_snd_zip hlength.le).symm
  have hfst : FIELD_ORDER = (FIELD_ORDER.zip args).map Prod.fst :=
    (List.map_fst_zip hlength.ge).symm
  have htokens : ((args.map Text.decimal).map fun l => l.length + 1).sum ≤
      (FIELD_ORDER.map fun f => w f + 1).sum := by
    rw [hfst]
    conv_lhs => rw [hsnd]
    rw [List.map_map, List.map_map, List.map_map]
    exact List.sum_le_sum fun x hx => Nat.succ_le_succ (hargs x hx)
  have hjoined : ([','].intercalate ("TEL".toList :: args.map Text.decimal)).length ≤ _ :=
    Text.length_intercalate_le
  rw [List.map_cons, List.sum_cons] at hjoined
  have htag : "TEL".toList.length + 1 = 4 := rfl
  show ([','].intercalate ("TEL".toList :: args.map Text.decimal) ++ ['\r', '\n']).length ≤ _
  rw [List.length_append]
  show _ + 2 ≤ _
  omega

/-- The line fits into the buffer. -/
theorem length_line_lt {args : List ℤ} (hlength : args.length = FIELD_ORDER.length)
    (hargs : ∀ x ∈ FIELD_ORDER.zip args, x.2.natAbs < 10 ^ width x.1) :
    (Contract.line args).length < payloadSize := by
  have hline := length_line_le (w := fun f => width f + 1) hlength fun x hx => by
    have hpos : 0 < width x.1 := by
      cases x.1 <;> decide
    exact Text.length_decimal_le hpos (hargs x hx)
  exact Nat.lt_of_le_of_lt hline (by decide)

/-- **`sendStatus`** writes the whole line. -/
theorem sendStatus_eq (TEL_written : ℤ) (seq : UInt32) (d : TelemetryData) :
    (sendStatus TEL_written d ⟨true, seq⟩).1 = some (Contract.line (arguments seq d)) := by
  have hlt := length_line_lt rfl (natAbs_arguments_lt seq d)
  have hformat : format seq d = Contract.line (arguments seq d) := rfl
  have hpos : ∀ args, ¬(Contract.line args).length ≤ 0 := by
    intro args
    unfold Contract.line
    rw [List.length_append]
    exact Nat.not_le_of_lt (Nat.add_pos_right _ (by decide))
  unfold sendStatus
  dsimp only
  rw [hformat, if_neg (by decide), if_neg (hpos _), if_pos hlt, List.take_length]

/-- The frame counter counts the frames that were written. -/
theorem sendStatus_snd (TEL_written : ℤ) (seq : UInt32) (d : TelemetryData) :
    (sendStatus TEL_written d ⟨true, seq⟩).2 =
      ⟨true, if TEL_written < 0 then seq else seq + 1⟩ := by
  have hpos : ¬(format seq d).length ≤ 0 := by
    unfold format
    rw [List.length_append]
    exact Nat.not_le_of_lt (Nat.add_pos_right _ (by decide))
  unfold sendStatus
  dsimp only
  rw [if_neg (by decide), if_neg hpos]
  split_ifs <;> rfl

/-! ### What is accepted -/

/-- Apart from the motor data, whatever is printed is in range. -/
theorem inRange_of_printedRange {f : Field} {v : ℤ} (hrpm : f ≠ .rpm) (htorque : f ≠ .torque)
    (h : (printedRange f).1 ≤ v ∧ v ≤ (printedRange f).2) : InRange f v := by
  have hrange : (FIELD_RANGES f).1 ≤ (printedRange f).1 ∧
      (printedRange f).2 ≤ (FIELD_RANGES f).2 := by
    revert hrpm htorque
    cases f <;> decide
  exact ⟨hrange.1.trans h.1, h.2.trans hrange.2⟩

/-- The ground station accepts the line that is written. -/
def Accepted (written : Option (List Char)) : Prop := ∃ line, written = some line ∧ Accepts line

/-- What is printed for the motor data. -/
theorem mem_arguments_iff (seq : UInt32) (d : TelemetryData) (v : ℤ) :
    ((.rpm, v) ∈ FIELD_ORDER.zip (arguments seq d) ↔ v = d.TEL_motorRpm.toInt) ∧
      ((.torque, v) ∈ FIELD_ORDER.zip (arguments seq d) ↔ v = d.TEL_motorVoltageDeciV.toNat) := by
  simp [FIELD_ORDER, arguments]

/-- A packet of the CAN task is accepted when its line is. -/
theorem accepted_sendStatus_iff (TEL_written : ℤ) (seq : UInt32) (speed : SpeedKmhX10)
    (timestampMs : UInt32) (c : CanManager) :
    Accepted
        (sendStatus TEL_written (sanitizeForUplink (c.packet speed timestampMs)) ⟨true, seq⟩).1 ↔
      Accepts (Contract.line (arguments seq (sanitizeForUplink (c.packet speed timestampMs)))) := by
  unfold Accepted
  rw [sendStatus_eq]
  simp only [Option.some.injEq, exists_eq_left']

/-- Only the motor data of a packet of the CAN task can be out of range. -/
theorem inRange_arguments_iff (seq : UInt32) (speed : SpeedKmhX10) (timestampMs : UInt32)
    (c : CanManager) :
    (∀ x ∈ FIELD_ORDER.zip (arguments seq (sanitizeForUplink (c.packet speed timestampMs))),
        InRange x.1 x.2) ↔
      InRange .rpm c.s_telemetryData.TEL_motorRpm.toInt ∧
        InRange .torque c.s_telemetryData.TEL_motorVoltageDeciV.toNat := by
  constructor
  · intro h
    exact ⟨h _ ((mem_arguments_iff seq _ _).1.mpr rfl), h _ ((mem_arguments_iff seq _ _).2.mpr rfl)⟩
  · rintro ⟨hrpm, htorque⟩ ⟨f, v⟩ hx
    by_cases hf : f = .rpm
    · subst hf
      rw [(mem_arguments_iff seq _ v).1.mp hx]
      exact hrpm
    by_cases hf' : f = .torque
    · subst hf'
      rw [(mem_arguments_iff seq _ v).2.mp hx]
      exact htorque
    exact inRange_of_printedRange hf hf' (arguments_range seq speed timestampMs c _ hx)

/-- The line for a packet of the CAN task is accepted exactly when the motor data it shows are in
range: everything else is. -/
theorem accepted_packet_iff (TEL_written : ℤ) (seq : UInt32) (speed : SpeedKmhX10)
    (timestampMs : UInt32) (c : CanManager) :
    Accepted
        (sendStatus TEL_written (sanitizeForUplink (c.packet speed timestampMs)) ⟨true, seq⟩).1 ↔
      (0 ≤ c.s_telemetryData.TEL_motorRpm.toInt ∧
          c.s_telemetryData.TEL_motorRpm.toInt ≤ TEL_RPM_MAX) ∧
        c.s_telemetryData.TEL_motorVoltageDeciV.toNat ≤ 32767 := by
  let fields := FIELD_ORDER.zip (arguments seq (sanitizeForUplink (c.packet speed timestampMs)))
  have hver : fields.lookup .ver = some VER := rfl
  have hrpm : fields.lookup .rpm = some c.s_telemetryData.TEL_motorRpm.toInt := rfl
  have hrpmBounds := int16_range c.s_telemetryData.TEL_motorRpm
  rw [accepted_sendStatus_iff, accepts_line_iff rfl, inRange_arguments_iff, hver, hrpm,
    eq_self_iff_true, true_and]
  generalize c.s_telemetryData.TEL_motorRpm.toInt = rpm at hrpmBounds ⊢
  generalize c.s_telemetryData.TEL_motorVoltageDeciV.toNat = voltage
  show ((0 ≤ rpm ∧ rpm ≤ 65535) ∧ (-32768 ≤ (voltage : ℤ) ∧ (voltage : ℤ) ≤ 32767)) ∧
      decide (rpm > 20000) = false ↔ (0 ≤ rpm ∧ rpm ≤ 20000) ∧ voltage ≤ 32767
  rw [decide_eq_false_iff_not]
  omega

/-- **What the ground station accepts**: in every run, the line for the data of the manager is
accepted exactly when the motor status accepted last has a speed of at most `TEL_RPM_MAX` either way
and a voltage that fits the range of the field `torque`, in which it is sent. -/
theorem accepted_iff (as : List CanManager.Action) (TEL_written : ℤ) (seq : UInt32)
    (speed : SpeedKmhX10) (timestampMs : UInt32) :
    Accepted (sendStatus TEL_written
        (sanitizeForUplink ((CanManager.after as).packet speed timestampMs)) ⟨true, seq⟩).1 ↔
      |(CanManager.lastMotorStatus as).rpm.toInt| ≤ TEL_RPM_MAX ∧
        ((CanManager.lastMotorStatus as).motorVoltageDeciV.toNat : ℤ) ≤
          (FIELD_RANGES .torque).2 := by
  have hshows := CanManager.showsMotor_after as
  rw [accepted_packet_iff, hshows.rpm, hshows.voltage, CanManager.toInt_motorRpmMagnitude]
  generalize (CanManager.lastMotorStatus as).rpm.toInt = rpm
  have hmax : TEL_RPM_MAX = 20000 := rfl
  have htorque : (FIELD_RANGES .torque).2 = 32767 := rfl
  have habs := abs_nonneg rpm
  split_ifs with hmin
  · rw [hmin, show |(-32768 : ℤ)| = 32768 from rfl]
    omega
  · omega

/-- A motor status frame with a speed of 25000 rpm comes in. -/
def fastMotor : List CanManager.Action :=
  [.begin true true,
    .processRxMessages
      { receptions :=
          [⟨.message { identifier := CAN_ID_MOTOR_STATUS, data := ![0x61, 0xA8, 0, 0, 0, 0, 0, 1] },
            0⟩]
        motorTick := 0
        bmsTick := 0
        cellTick := 0
        chargerTick := 0 }]

/-- Nothing on the way to the ground station limits the speed. -/
theorem not_accepted_of_fast_motor :
    ¬Accepted (sendStatus 60 (sanitizeForUplink
      ((CanManager.after fastMotor).packet ⟨3000, by decide⟩ 1000)) ⟨true, 7⟩).1 := by
  rintro ⟨line, hline, haccepts⟩
  obtain rfl := Option.some.inj hline
  revert haccepts
  decide +kernel

end TufanAks.Telemetry
