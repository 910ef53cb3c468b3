import TufanAks.Text.Decimal

/-!
# `contract.py`

The constants that the vehicle (AKS) and the ground station (UKS) share and the rules by which the
ground station accepts a telemetry line, as `tools/e2e/contract.py` states them.  A line is a list
of characters; the lines in question are ASCII, where `str.isdigit` is `Char.isDigit` and `int` is
`Text.intValue`.
-/

namespace TufanAks.Contract

def TOKEN_COUNT : ℕ := 19
def VER : ℤ := 2
def U32_MAX : ℤ := 4294967295
def TEL_RPM_MAX : ℤ := 20000

/-! ### What the vehicle guarantees -/

def INT32_MIN : ℤ := -2147483648

def sanitizeSystemState (raw : ℤ) : ℤ := if 1 ≤ raw ∧ raw ≤ 4 then raw else 4

def sanitizeSoc (raw : ℤ) : ℤ := if raw > 10000 then 10000 else raw

def sanitizeCurrent (raw : ℤ) : ℤ := if raw = INT32_MIN then INT32_MIN + 1 else raw

/-! ### The offline buffer and its replay -/

def LORA_TX_PERIOD_MS : ℕ := 500
def OFFLINE_SAMPLE_PERIOD_MS : ℕ := 1000
def OB_CAPACITY : ℕ := 75
def REPLAY_BURST_PER_TICK : ℕ := 1

/-! ### Fields -/

/-- The names of the fields, without the tag. -/
inductive Field
  | ver
  | seq
  | rpm
  | torque
  | motor_err
  | motor_valid
  | motor_timeout
  | cell_vmax
  | cell_vmin
  | temp_h
  | temp_l
  | sys_state
  | pack_v
  | current
  | soc
  | bms_valid
  | ts_ms
  | spd_x10
  deriving DecidableEq, Repr

def FIELD_ORDER : List Field :=
  [.ver, .seq, .rpm, .torque, .motor_err, .motor_valid, .motor_timeout, .cell_vmax, .cell_vmin,
    .temp_h, .temp_l, .sys_state, .pack_v, .current, .soc, .bms_valid, .ts_ms, .spd_x10]

/-- The least and the greatest value of a field. -/
def FIELD_RANGES : Field → ℤ × ℤ
  | .ver => (0, 255)
  | .seq => (0, U32_MAX)
  | .rpm => (0, 65535)
  | .torque => (-32768, 32767)
  | .motor_err => (0, 255)
  | .motor_valid => (0, 1)
  | .motor_timeout => (0, 1)
  | .cell_vmax => (0, 65535)
  | .cell_vmin => (0, 65535)
  | .temp_h => (-128, 127)
  | .temp_l => (-128, 127)
  | .sys_state => (1, 4)
  | .pack_v => (0, 65535)
  | .current => (-2147483647, 2147483647)
  | .soc => (0, 10000)
  | .bms_valid => (0, 1)
  | .ts_ms => (0, U32_MAX)
  | .spd_x10 => (0, 3000)

/-! ### Acceptance -/

/-- `class UksRejection`. -/
structure UksRejection where
  reason : String
  deriving DecidableEq, Repr

/-- `_is_strict_int_token`. -/
def isStrictIntToken (tok : List Char) (allowSign : Bool) : Bool :=
  match tok with
  | [] => false
  | c :: rest =>
    let body := if allowSign && (c = '-' || c = '+') then rest else tok
    if body = [] then false else body.all Char.isDigit

/-- The loop over the fields and their tokens: the values read, in order. -/
def parseFields : List (Field × List Char) → Except UksRejection (List (Field × ℤ))
  | [] => .ok []
  | (name, tok) :: rest =>
    let (lo, hi) := FIELD_RANGES name
    if !isStrictIntToken tok (lo < 0) then .error ⟨"parse_fail"⟩
    else
      let v := Text.intValue tok
      if v < lo ∨ v > hi then .error ⟨"parse_fail"⟩
      else (parseFields rest).map ((name, v) :: ·)

/-- `parse_uks_frame`. -/
def parseUksFrame (line : List Char) : Except UksRejection (List (Field × ℤ)) :=
  let raw := line.rdropWhile fun c => c = '\r' || c = '\n'
  let fields := raw.splitOn ','
  if fields.length ≠ TOKEN_COUNT then .error ⟨"parse_fail"⟩
  else if fields.head? ≠ some "TEL".toList then .error ⟨"bad_tag"⟩
  else
    match parseFields (FIELD_ORDER.zip fields.tail) with
    | .error rejection => .error rejection
    | .ok values =>
      if values.lookup .ver ≠ some VER then .error ⟨"bad_version"⟩
      else if (values.lookup .rpm).any (· > TEL_RPM_MAX) then .error ⟨"range_fail"⟩
      else .ok values

/-- The keys that `build_tel_line` looks up, in the order of its format. -/
def telLineKeys : List Field :=
  [.ver, .seq, .rpm, .torque, .motor_err, .motor_valid, .motor_timeout, .cell_vmax, .cell_vmin,
    .temp_h, .temp_l, .sys_state, .pack_v, .current, .soc, .bms_valid, .ts_ms, .spd_x10]

/-- `build_tel_line`, which raises a `KeyError` if a key is missing. -/
def buildTelLine (f : List (Field × ℤ)) : Option (List Char) :=
  (telLineKeys.mapM fun key => f.lookup key).map fun values =>
    [','].intercalate ("TEL".toList :: values.map Text.decimal) ++ ['\r', '\n']

end TufanAks.Contract
