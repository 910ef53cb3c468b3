import TufanAks.LoraLink

/-!
# What `configureE22` does to the module

Waiting ends, and whether in success depends on the answers of AUX alone (`waitAuxReady_spec`).
`configureE22` returns the module to its normal mode in any case, and what it writes is determined
by whether AUX got ready in the configuration mode and by the answer to the query for the registers
(`configureE22_spec`).
-/

namespace TufanAks.LoraLink

/-! ### Waiting -/

/-- AUX is ready at one of the next `n` polls. -/
def ReadyWithin (n : ℕ) (hal : LoraHal) : Prop := ∃ k < n, hal.aux k = true

instance (n : ℕ) (hal : LoraHal) : Decidable (ReadyWithin n hal) :=
  inferInstanceAs (Decidable (∃ k < n, hal.aux k = true))

theorem readyWithin_succ (n : ℕ) (hal : LoraHal) :
    ReadyWithin (n + 1) hal ↔ hal.aux 0 = true ∨ ReadyWithin n (hal.isAuxReady.2.delayMs 10) := by
  constructor
  · rintro ⟨k, hk, haux⟩
    cases k with
    | zero => exact .inl haux
    | succ k => exact .inr ⟨k, by omega, haux⟩
  · rintro (haux | ⟨k, hk, haux⟩)
    · exact ⟨0, by omega, haux⟩
    · exact ⟨k + 1, by omega, haux⟩

/-- What waiting leaves alone. -/
structure Waited (hal hal' : LoraHal) : Prop where
  calls : hal'.calls = hal.calls
  answers : hal'.answers = hal.answers

/-- One more poll takes 10 ms. -/
theorem elapsed_delayMs {t0 : UInt64} {hal : LoraHal} {timeoutMs : UInt32} {n : ℕ}
    (h : (hal.nowMs - t0).toNat + 10 * (n + 1) = timeoutMs.toNat) :
    ((hal.isAuxReady.2.delayMs 10).nowMs - t0).toNat + 10 * n = timeoutMs.toNat := by
  have hnext : (hal.isAuxReady.2.delayMs 10).nowMs - t0 = (hal.nowMs - t0) + 10 := by
    show hal.clock + 10 - t0 = hal.clock - t0 + 10
    exact add_sub_right_comm _ _ _
  have hlt := timeoutMs.toNat_lt
  rw [hnext, UInt64.toNat_add, Nat.mod_eq_of_lt]
  · show (hal.nowMs - t0).toNat + 10 + 10 * n = _
    omega
  · show (hal.nowMs - t0).toNat + 10 < _
    omega

/-- **The loop ends** after the polls that the rest of the time allows, with any more fuel than
that. -/
theorem waitAuxLoop_spec (t0 : UInt64) (timeoutMs : UInt32) (n : ℕ) (hal : LoraHal)
    (h : (hal.nowMs - t0).toNat + 10 * n = timeoutMs.toNat) :
    ∃ hal', Waited hal hal' ∧ ∀ fuel, n < fuel →
      waitAuxLoop t0 timeoutMs fuel hal = some (decide (ReadyWithin n hal), hal') := by
  induction n generalizing hal with
  | zero =>
    refine ⟨hal, ⟨rfl, rfl⟩, fun fuel hfuel => ?_⟩
    obtain ⟨fuel, rfl⟩ := Nat.exists_eq_add_of_lt hfuel
    have hover : ¬(hal.nowMs - t0 < timeoutMs.toUInt64) := by
      rw [UInt64.lt_iff_toNat_lt, UInt32.toNat_toUInt64]
      omega
    have hnever : ¬ReadyWithin 0 hal := fun ⟨k, hk, _⟩ => Nat.not_lt_zero k hk
    rw [waitAuxLoop, if_neg hover, decide_eq_false hnever]
  | succ n ih =>
    obtain ⟨hal', hwaited, hrest⟩ := ih (hal.isAuxReady.2.delayMs 10) (elapsed_delayMs h)
    have htime : hal.nowMs - t0 < timeoutMs.toUInt64 := by
      rw [UInt64.lt_iff_toNat_lt, UInt32.toNat_toUInt64]
      omega
    cases haux : hal.aux 0 with
    | true =>
      refine ⟨hal.isAuxReady.2, ⟨rfl, rfl⟩, fun fuel hfuel => ?_⟩
      obtain ⟨fuel, rfl⟩ := Nat.exists_eq_add_of_lt hfuel
      have hready : ReadyWithin (n + 1) hal := (readyWithin_succ n hal).mpr (.inl haux)
      rw [waitAuxLoop, if_pos htime, decide_eq_true hready]
      show (if hal.aux 0 = true then _ else _) = _
      rw [if_pos haux]
      rfl
    | false =>
      refine ⟨hal', ⟨hwaited.calls, hwaited.answers⟩, fun fuel hfuel => ?_⟩
      obtain ⟨fuel, rfl⟩ := Nat.exists_eq_add_of_lt hfuel
      have hready : ReadyWithin (n + 1) hal ↔ ReadyWithin n (hal.isAuxReady.2.delayMs 10) := by
        rw [readyWithin_succ, haux]
        simp
      rw [waitAuxLoop, if_pos htime, decide_eq_decide.mpr hready]
      show (if hal.aux 0 = true then _ else _) = _
      rw [haux, if_neg Bool.false_ne_true]
      exact hrest _ (by omega)

/-- **Waiting ends**, and whether in success is a matter of the polls that the timeout allows. -/
theorem waitAuxReady_spec {timeoutMs : UInt32} {n : ℕ} (h : timeoutMs.toNat = 10 * n)
    (hal : LoraHal) :
    ∃ hal', Waited hal hal' ∧ ∀ fuel, n < fuel →
      waitAuxReady fuel timeoutMs hal = some (decide (ReadyWithin n hal), hal') := by
  refine waitAuxLoop_spec hal.nowMs timeoutMs n hal ?_
  rw [sub_self, h]
  exact Nat.zero_add _

/-! ### The registers -/

/-- The answer is a complete frame whose first seven registers are those of the contract. -/
def MatchesContract (answer : UartAnswer) : Prop :=
  12 ≤ answer.len.toInt ∧
    (List.range 10).map answer.bytes =
      [E22_CMD_READ, E22_REG_BLOCK_START, E22_REG_BLOCK_LEN, E22_CFG_ADDH, E22_CFG_ADDL,
        E22_CFG_NETID, E22_CFG_REG0, E22_CFG_REG1, E22_CFG_REG2, E22_CFG_REG3]

instance (answer : UartAnswer) : Decidable (MatchesContract answer) :=
  inferInstanceAs (Decidable (_ ∧ _))

/-- The parser and the comparison accept a buffer exactly when it starts with the frame. -/
theorem parsed_equal_iff (resp : ℕ → UInt8) (respLen : ℕ) :
    (e22_parseRegResponse resp respLen).any (e22_regsEqual · E22_CONTRACT_REGS) = true ↔
      12 ≤ respLen ∧ (List.range 10).map resp =
        [E22_CMD_READ, E22_REG_BLOCK_START, E22_REG_BLOCK_LEN, E22_CFG_ADDH, E22_CFG_ADDL,
          E22_CFG_NETID, E22_CFG_REG0, E22_CFG_REG1, E22_CFG_REG2, E22_CFG_REG3] := by
  have hten : (List.range 10).map resp =
      [resp 0, resp 1, resp 2, resp 3, resp 4, resp 5, resp 6, resp 7, resp 8, resp 9] := rfl
  have hlen : E22_RESPONSE_LEN = 12 := rfl
  rw [hten]
  unfold e22_parseRegResponse
  split_ifs with hshort hcmd hstart hblock
  · simp only [Option.any_none, Bool.false_eq_true, false_iff]
    omega
  · simp [hcmd]
  · simp [hstart]
  · simp [hblock]
  · have hcontract : E22_CONTRACT_REGS = ⟨E22_CFG_ADDH, E22_CFG_ADDL, E22_CFG_NETID,
      E22_CFG_REG0, E22_CFG_REG1, E22_CFG_REG2, E22_CFG_REG3⟩ := rfl
    have hfull : 12 ≤ respLen := by omega
    rw [not_not] at hcmd hstart hblock
    simp only [Option.any_some, e22_regsEqual, hcontract, decide_eq_true_eq, List.cons.injEq,
      hcmd, hstart, hblock, hfull, true_and, and_true]

theorem sizeT_of_pos {len : Int32} (h : 0 < len.toInt) : (sizeT len : ℤ) = len.toInt := by
  have hnonneg : 0 ≤ len := Int32.le_iff_toInt_le.mpr h.le
  unfold sizeT
  rw [Int32.toNat_toUInt32_of_le hnonneg]
  exact Int.toNat_of_nonneg h.le

/-- A length that is converted without being checked does no harm: the untouched buffer is not
parsed. -/
theorem parsed_equal_buffer_iff (answer : UartAnswer) :
    (e22_parseRegResponse answer.buffer (sizeT answer.len)).any
        (e22_regsEqual · E22_CONTRACT_REGS) = true ↔ MatchesContract answer := by
  rw [parsed_equal_iff]
  unfold MatchesContract
  by_cases hpos : 0 < answer.len.toInt
  · have hsize := sizeT_of_pos hpos
    have hiff : 12 ≤ sizeT answer.len ↔ 12 ≤ answer.len.toInt := by omega
    rw [hiff]
    refine and_congr_right fun hfull => ?_
    have hmap : (List.range 10).map answer.buffer = (List.range 10).map answer.bytes := by
      refine List.map_congr_left fun i hi => ?_
      have hlt := List.mem_range.mp hi
      exact if_pos (by omega)
    rw [hmap]
  · constructor
    · rintro ⟨-, hframe⟩
      -- the first byte is still zero
      have hzero : answer.buffer 0 = 0 := if_neg (by simpa using hpos)
      have hfirst : answer.buffer 0 = E22_CMD_READ := (List.cons.inj hframe).1
      exact absurd (hzero.symm.trans hfirst) (by decide)
    · rintro ⟨hfull, -⟩
      omega

/-- An answer that reports an error is not parsed either. -/
theorem parsed_of_error {resp : ℕ → UInt8} {respLen : ℕ} (h : e22_isErrorResponse resp respLen) :
    e22_parseRegResponse resp respLen = none := by
  unfold e22_isErrorResponse at h
  split_ifs at h
  rw [decide_eq_true_eq] at h
  have hfirst : resp 0 ≠ E22_CMD_READ := by
    rw [h.1]
    decide
  unfold e22_parseRegResponse
  rw [if_pos hfirst, ite_self]

/-- **When the registers are written**: unless the answer to the query matches the contract.  If it
does, the key is refreshed. -/
theorem readRegisters_spec (hal : LoraHal) :
    (readRegisters hal).1 = decide (¬MatchesContract (hal.answers 0)) ∧
      (readRegisters hal).2.calls = hal.calls ++
        ([.uartFlush, .uartWrite e22_buildReadAllCommand,
          .uartRead E22_RESPONSE_LEN LORA_CFG_READ_TIMEOUT_MS] ++
        if MatchesContract (hal.answers 0) then
          [.uartFlush, .uartWrite e22_buildWriteCryptTempCommand,
            .uartRead 5 LORA_CFG_READ_TIMEOUT_MS]
        else []) := by
  have hparsed := parsed_equal_buffer_iff (hal.answers 0)
  unfold readRegisters
  dsimp only [LoraHal.uartRead, LoraHal.uartWrite, LoraHal.uartFlush]
  generalize (hal.answers 0).buffer = resp at hparsed ⊢
  by_cases herror : (hal.answers 0).len > 0 ∧ e22_isErrorResponse resp (sizeT (hal.answers 0).len)
  · rw [parsed_of_error herror.2] at hparsed
    have hno : ¬MatchesContract (hal.answers 0) := fun h => by simpa using hparsed.mpr h
    rw [if_pos herror, if_neg hno, decide_eq_true hno]
    simp
  · rw [if_neg herror]
    cases hparse : e22_parseRegResponse resp (sizeT (hal.answers 0).len) with
    | none =>
      rw [hparse] at hparsed
      have hno : ¬MatchesContract (hal.answers 0) := fun h => by simpa using hparsed.mpr h
      rw [if_neg hno, decide_eq_true hno]
      simp
    | some current =>
      rw [hparse, Option.any_some] at hparsed
      dsimp only
      by_cases hequal : e22_regsEqual current E22_CONTRACT_REGS = true
      · have hyes := hparsed.mp hequal
        rw [if_pos hequal, if_pos hyes, decide_eq_false (not_not_intro hyes)]
        simp [refreshCrypt, LoraHal.uartRead, LoraHal.uartWrite, LoraHal.uartFlush]
      · have hno : ¬MatchesContract (hal.answers 0) := fun h => hequal (hparsed.mpr h)
        rw [if_neg hequal, if_neg hno, decide_eq_true hno]
        simp

/-! ### The protocol -/

/-- What a list of calls writes to the module. -/
def writes (calls : List HalCall) : List (List UInt8) :=
  calls.filterMap fun
    | .uartWrite data => some data
    | _ => none

/-- The modes that a list of calls puts the module into. -/
def modes (calls : List HalCall) : List (ℕ × ℕ) :=
  calls.filterMap fun
    | .setModePins m0Level m1Level => some (m0Level, m1Level)
    | _ => none

/-- The permanent write ends. -/
theorem writeRegisters_spec (hal : LoraHal) :
    ∃ hal' calls, (∀ fuel, 200 < fuel → writeRegisters fuel hal = some hal') ∧
      hal'.calls = hal.calls ++ calls ∧ modes calls = [] ∧
      writes calls = [e22_buildWriteCommand E22_CONTRACT_REGS] := by
  have htime : LORA_AUX_CFG_TIMEOUT_MS.toNat = 10 * 200 := rfl
  let sent := (hal.uartFlush.uartWrite (e22_buildWriteCommand E22_CONTRACT_REGS)).delayMs 50
  obtain ⟨waited, hwaited, hwait⟩ := waitAuxReady_spec htime sent
  have hcalls : waited.calls = hal.calls ++
      [.uartFlush, .uartWrite (e22_buildWriteCommand E22_CONTRACT_REGS)] := by
    rw [hwaited.calls]
    exact List.append_assoc _ _ _
  have hrun : ∀ fuel, 200 < fuel → writeRegisters fuel hal =
      if !decide (ReadyWithin 200 sent) then some waited
      else some (waited.uartRead E22_RESPONSE_LEN LORA_CFG_READ_TIMEOUT_MS).2 := by
    intro fuel hfuel
    unfold writeRegisters
    dsimp only
    rw [hwait fuel hfuel]
    generalize decide (ReadyWithin 200 sent) = done
    rfl
  cases hdone : decide (ReadyWithin 200 sent) with
  | false =>
    rw [hdone] at hrun
    exact ⟨waited, [.uartFlush, .uartWrite (e22_buildWriteCommand E22_CONTRACT_REGS)], hrun, hcalls,
      rfl, rfl⟩
  | true =>
    rw [hdone] at hrun
    refine ⟨(waited.uartRead E22_RESPONSE_LEN LORA_CFG_READ_TIMEOUT_MS).2,
      [.uartFlush, .uartWrite (e22_buildWriteCommand E22_CONTRACT_REGS),
        .uartRead E22_RESPONSE_LEN LORA_CFG_READ_TIMEOUT_MS], hrun, ?_, rfl, rfl⟩
    show waited.calls ++ [.uartRead E22_RESPONSE_LEN LORA_CFG_READ_TIMEOUT_MS] = _
    rw [hcalls]
    exact List.append_assoc _ _ _

/-- What is written in the configuration mode is determined by the answer to the query. -/
theorem configureRegisters_spec (hal : LoraHal) :
    ∃ hal' calls, (∀ fuel, 200 < fuel → configureRegisters fuel hal = some hal') ∧
      hal'.calls = hal.calls ++ calls ∧ modes calls = [] ∧
      writes calls = e22_buildReadAllCommand ::
        if MatchesContract (hal.answers 0) then [e22_buildWriteCryptTempCommand]
        else [e22_buildWriteCommand E22_CONTRACT_REGS] := by
  obtain ⟨hneeds, hcalls⟩ := readRegisters_spec hal
  have hrun : ∀ fuel, configureRegisters fuel hal =
      if (readRegisters hal).1 then writeRegisters fuel (readRegisters hal).2
      else some (readRegisters hal).2 := fun fuel => rfl
  by_cases hmatch : MatchesContract (hal.answers 0)
  · rw [if_pos hmatch] at hcalls ⊢
    rw [hneeds, decide_eq_false (not_not_intro hmatch)] at hrun
    exact ⟨(readRegisters hal).2, _, fun fuel _ => hrun fuel, hcalls, by rfl, by rfl⟩
  · rw [if_neg hmatch] at hcalls ⊢
    rw [hneeds, decide_eq_true hmatch] at hrun
    obtain ⟨hal', calls, hwrite, hcalls', hmodes, hwrites⟩ :=
      writeRegisters_spec (readRegisters hal).2
    refine ⟨hal', [.uartFlush, .uartWrite e22_buildReadAllCommand,
      .uartRead E22_RESPONSE_LEN LORA_CFG_READ_TIMEOUT_MS] ++ calls,
      fun fuel hfuel => (hrun fuel).trans (hwrite fuel hfuel), ?_, ?_, ?_⟩
    · rw [hcalls', hcalls, List.append_nil, List.append_assoc]
    · unfold modes at hmodes ⊢
      rw [List.filterMap_append, hmodes]
      rfl
    · unfold writes at hwrites ⊢
      rw [List.filterMap_append, hwrites]
      rfl

/-- The return to the normal mode ends. -/
theorem leaveConfigMode_spec (hal : LoraHal) :
    ∃ hal', (∀ fuel, 200 < fuel → leaveConfigMode fuel hal = some hal') ∧
      hal'.calls = hal.calls ++
        [.setModePins LORA_MODE_NORMAL_M0_LEVEL LORA_MODE_NORMAL_M1_LEVEL] := by
  have htime : LORA_AUX_MODE_TIMEOUT_MS.toNat = 10 * 50 := rfl
  obtain ⟨hal', hwaited, hwait⟩ := waitAuxReady_spec htime
    (hal.setModePins LORA_MODE_NORMAL_M0_LEVEL LORA_MODE_NORMAL_M1_LEVEL)
  refine ⟨hal', fun fuel hfuel => ?_, hwaited.calls⟩
  unfold leaveConfigMode
  dsimp only
  rw [hwait fuel (by omega), Option.map_some]

/-- **The protocol**: `configureE22` ends, having put the module into the configuration mode and
back into the normal mode.  It writes nothing if AUX does not get ready in between; if it does, it
writes what the answer to the query for the registers calls for. -/
theorem configureE22_spec (hal : LoraHal) :
    ∃ hal' calls, (∀ fuel, 200 < fuel → configureE22 fuel hal = some hal') ∧
      hal'.calls = hal.calls ++ calls ∧
      modes calls = [(LORA_MODE_CONFIG_M0_LEVEL, LORA_MODE_CONFIG_M1_LEVEL),
        (LORA_MODE_NORMAL_M0_LEVEL, LORA_MODE_NORMAL_M1_LEVEL)] ∧
      writes calls =
        if ReadyWithin 50 hal then
          e22_buildReadAllCommand ::
            if MatchesContract (hal.answers 0) then [e22_buildWriteCryptTempCommand]
            else [e22_buildWriteCommand E22_CONTRACT_REGS]
        else [] := by
  have htime : LORA_AUX_MODE_TIMEOUT_MS.toNat = 10 * 50 := rfl
  let start := hal.setModePins LORA_MODE_CONFIG_M0_LEVEL LORA_MODE_CONFIG_M1_LEVEL
  obtain ⟨waited, hwaited, hwait⟩ := waitAuxReady_spec htime start
  have hready : ReadyWithin 50 start ↔ ReadyWithin 50 hal := Iff.rfl
  have hrun : ∀ fuel, 200 < fuel → configureE22 fuel hal =
      (if !decide (ReadyWithin 50 hal) then some waited else configureRegisters fuel waited).bind
        (leaveConfigMode fuel) := by
    intro fuel hfuel
    unfold configureE22
    dsimp only
    rw [hwait fuel (by omega), decide_eq_decide.mpr hready]
    cases decide (ReadyWithin 50 hal) with
    | false => rfl
    | true => rfl
  have hbegin : waited.calls = hal.calls ++
      [.setModePins LORA_MODE_CONFIG_M0_LEVEL LORA_MODE_CONFIG_M1_LEVEL] := hwaited.calls
  by_cases hal50 : ReadyWithin 50 hal
  · rw [decide_eq_true hal50] at hrun
    rw [if_pos hal50]
    obtain ⟨configured, calls, hconfigure, hcalls, hmodes, hwrites⟩ :=
      configureRegisters_spec waited
    obtain ⟨hal', hleave, hend⟩ := leaveConfigMode_spec configured
    refine ⟨hal', [.setModePins LORA_MODE_CONFIG_M0_LEVEL LORA_MODE_CONFIG_M1_LEVEL] ++ calls ++
      [.setModePins LORA_MODE_NORMAL_M0_LEVEL LORA_MODE_NORMAL_M1_LEVEL], ?_, ?_, ?_, ?_⟩
    · intro fuel hfuel
      rw [hrun fuel hfuel]
      show (configureRegisters fuel waited).bind (leaveConfigMode fuel) = some hal'
      rw [hconfigure fuel hfuel]
      exact hleave fuel hfuel
    · rw [hend, hcalls, hbegin]
      simp only [List.append_assoc]
    · unfold modes at hmodes ⊢
      rw [List.filterMap_append, List.filterMap_append, hmodes]
      rfl
    · rw [hwaited.answers] at hwrites
      unfold writes at hwrites ⊢
      rw [List.filterMap_append, List.filterMap_append, hwrites]
      exact List.append_nil _
  · rw [decide_eq_false hal50] at hrun
    rw [if_neg hal50]
    obtain ⟨hal', hleave, hend⟩ := leaveConfigMode_spec waited
    refine ⟨hal', [.setModePins LORA_MODE_CONFIG_M0_LEVEL LORA_MODE_CONFIG_M1_LEVEL,
      .setModePins LORA_MODE_NORMAL_M0_LEVEL LORA_MODE_NORMAL_M1_LEVEL],
      fun fuel hfuel => (hrun fuel hfuel).trans (hleave fuel hfuel), ?_, rfl, rfl⟩
    rw [hend, hbegin, List.append_assoc]
    rfl

/-- The writes to the module that start with a command byte. -/
def writesOf (command : UInt8) (calls : List HalCall) : List (List UInt8) :=
  (writes calls).filter fun data => data.head? = some command

/-- **Every boot ends in the normal mode**, whatever the hardware does.  The registers are written
at most once, and if AUX gets ready in the configuration mode, exactly when they have to be; if not,
the key is refreshed, once.  If AUX does not get ready, nothing is written. -/
theorem configureE22_protocol (hal : LoraHal) :
    ∃ hal' calls, (∀ fuel, 200 < fuel → configureE22 fuel hal = some hal') ∧
      hal'.calls = hal.calls ++ calls ∧
      (modes calls).getLast? = some (LORA_MODE_NORMAL_M0_LEVEL, LORA_MODE_NORMAL_M1_LEVEL) ∧
      (writesOf E22_CMD_WRITE calls).length ≤ 1 ∧
      (ReadyWithin 50 hal →
        (¬MatchesContract (hal.answers 0) →
          writesOf E22_CMD_WRITE calls = [e22_buildWriteCommand E22_CONTRACT_REGS]) ∧
        (MatchesContract (hal.answers 0) →
          writesOf E22_CMD_WRITE calls = [] ∧
            writesOf E22_CMD_WRITE_TEMP calls = [e22_buildWriteCryptTempCommand])) ∧
      (¬ReadyWithin 50 hal → writes calls = []) := by
  obtain ⟨hal', calls, hrun, hcalls, hmodes, hwrites⟩ := configureE22_spec hal
  have hlast : (modes calls).getLast? =
      some (LORA_MODE_NORMAL_M0_LEVEL, LORA_MODE_NORMAL_M1_LEVEL) := by
    rw [hmodes]
    rfl
  refine ⟨hal', calls, hrun, hcalls, hlast, ?_⟩
  unfold writesOf
  rw [hwrites]
  refine ⟨?_, ?_, fun hnot => if_neg hnot⟩
  · split_ifs <;> decide
  · intro hready
    rw [if_pos hready]
    constructor
    · intro hno
      rw [if_neg hno]
      decide
    · intro hyes
      rw [if_pos hyes]
      decide

end TufanAks.LoraLink
