import TufanAks.Telemetry.Equiv.Acceptance

/-!
# The length of a frame

Every field is printed from a fixed-width integer, so the type of the field bounds its characters
(`printedWidth`), and the bounds of all fields bound the frame (`length_format_le`).
-/

namespace TufanAks.Telemetry

open Contract

/-- Characters that are enough for a field, its sign included. -/
def printedWidth : Field → ℕ
  | .ver | .motor_valid | .motor_timeout | .bms_valid => 1
  | .motor_err | .sys_state => 3
  | .temp_h | .temp_l => 4
  | .torque | .cell_vmax | .cell_vmin | .pack_v | .soc | .spd_x10 => 5
  | .rpm => 6
  | .seq | .ts_ms => 10
  | .current => 11

/-- The type of a field bounds what is printed for it. -/
theorem length_decimal_arguments_le (seq : UInt32) (d : TelemetryData) :
    ∀ x ∈ FIELD_ORDER.zip (arguments seq d), (Text.decimal x.2).length ≤ printedWidth x.1 := by
  have u8 : ∀ x : UInt8, (Text.decimal x.toNat).length ≤ 3 :=
    fun x => Text.length_decimal_natCast_le (by decide) (x.toNat_lt.trans (by decide))
  have u16 : ∀ x : UInt16, (Text.decimal x.toNat).length ≤ 5 :=
    fun x => Text.length_decimal_natCast_le (by decide) (x.toNat_lt.trans (by decide))
  have u32 : ∀ x : UInt32, (Text.decimal x.toNat).length ≤ 10 :=
    fun x => Text.length_decimal_natCast_le (by decide) (x.toNat_lt.trans (by decide))
  have i8 : ∀ x : Int8, (Text.decimal x.toInt).length ≤ 4 :=
    fun x => Text.length_decimal_le (by decide) (by have := int8_range x; omega)
  have i16 : ∀ x : Int16, (Text.decimal x.toInt).length ≤ 6 :=
    fun x => Text.length_decimal_le (by decide) (by have := int16_range x; omega)
  have i32 : ∀ x : Int32, (Text.decimal x.toInt).length ≤ 11 := fun x =>
    Text.length_decimal_le (by decide) (by have := x.le_toInt; have := x.toInt_lt; omega)
  have flag : ∀ b : Bool, (Text.decimal (if b then 1 else 0)).length ≤ 1 := by decide
  simp only [FIELD_ORDER, arguments, List.zip_cons_cons, List.zip_nil_right, List.forall_mem_cons]
  exact ⟨by decide, u32 _, i16 _, u16 _, u8 _, flag _, flag _, u16 _, u16 _, i8 _, i8 _, u8 _,
    u16 _, i32 _, u16 _, flag _, u32 _, u16 _, by simp⟩

/-- **A frame is at most `LORA_TEL_FRAME_MAX_BYTES` long**, whatever is printed. -/
theorem length_format_le (seq : UInt32) (d : TelemetryData) :
    (format seq d).length ≤ LORA_TEL_FRAME_MAX_BYTES := by
  have h : (Contract.line (arguments seq d)).length ≤ _ :=
    length_line_le rfl (length_decimal_arguments_le seq d)
  exact h.trans (by decide)

/-- A frame ends with a line ending. -/
theorem ending_format (seq : UInt32) (d : TelemetryData) : ['\r', '\n'] <:+ format seq d :=
  List.suffix_append _ _

end TufanAks.Telemetry
