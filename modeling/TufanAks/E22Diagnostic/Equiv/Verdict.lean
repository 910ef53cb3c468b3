import Mathlib.Tactic.IntervalCases
import TufanAks.E22Diagnostic
import TufanAks.LoraLink.Equiv.Boots

/-!
# What the diagnostic does and says

The diagnostic ends in front of any hardware; it leaves the registers of the module as they are and
the module in its normal mode (`reads_only`).  If the module answers the query, the printed lines
show its flash, and the verdict foretells what the next boot of the firmware writes
(`verdict_foretells_boot`).
-/

namespace TufanAks.E22Diagnostic

open LoraLink Machine

/-! ### Waiting -/

/-- **The loop ends** after the polls that the rest of the time allows, and the module notices
nothing of it. -/
theorem waitAux_spec (t0 : UInt32) (n : ℕ) (b : Bench) (h : (b.tick - t0).toNat + n = 50) :
    ∃ ready b', b'.hal.calls = b.hal.calls ∧ b'.hal.answers = b.hal.answers ∧
      ∀ fuel, n < fuel → waitAux t0 fuel b = some (ready, b') := by
  have htimeout : (pdMS_TO_TICKS DIAG_AUX_WAIT_MS).toNat = 50 := by decide
  induction n generalizing b with
  | zero =>
    refine ⟨false, b, rfl, rfl, fun fuel hfuel => ?_⟩
    obtain ⟨fuel, rfl⟩ := Nat.exists_eq_add_of_lt hfuel
    have hover : ¬(b.tick - t0 < pdMS_TO_TICKS DIAG_AUX_WAIT_MS) := by
      rw [UInt32.lt_iff_toNat_lt]
      omega
    rw [waitAux, if_neg hover]
  | succ n ih =>
    have htime : b.tick - t0 < pdMS_TO_TICKS DIAG_AUX_WAIT_MS := by
      rw [UInt32.lt_iff_toNat_lt]
      omega
    -- the next round starts one tick later
    let next := vTaskDelay (pdMS_TO_TICKS 10) { b with hal := b.hal.isAuxReady.2 }
    have hnext : (next.tick - t0).toNat + n = 50 := by
      have hstep : next.tick - t0 = (b.tick - t0) + 1 := add_sub_right_comm _ _ _
      have hone : (1 : UInt32).toNat = 1 := rfl
      rw [hstep, UInt32.toNat_add, hone, Nat.mod_eq_of_lt (by omega)]
      omega
    obtain ⟨ready, b', hcalls, hanswers, hrun⟩ := ih next hnext
    cases haux : b.hal.aux 0 with
    | true =>
      refine ⟨true, { b with hal := b.hal.isAuxReady.2 }, rfl, rfl, fun fuel hfuel => ?_⟩
      obtain ⟨fuel, rfl⟩ := Nat.exists_eq_add_of_lt hfuel
      rw [waitAux, if_pos htime]
      show (if b.hal.aux 0 = true then _ else _) = _
      rw [if_pos haux]
      rfl
    | false =>
      refine ⟨ready, b', hcalls, hanswers, fun fuel hfuel => ?_⟩
      obtain ⟨fuel, rfl⟩ := Nat.exists_eq_add_of_lt hfuel
      rw [waitAux, if_pos htime]
      show (if b.hal.aux 0 = true then _ else _) = _
      rw [haux, if_neg Bool.false_ne_true]
      exact hrun _ (by omega)

theorem waitAux_start (b : Bench) :
    ∃ ready b', b'.hal.calls = b.hal.calls ∧ b'.hal.answers = b.hal.answers ∧
      ∀ fuel, 50 < fuel → waitAux b.tick fuel b = some (ready, b') := by
  apply waitAux_spec
  rw [sub_self]
  rfl

/-! ### The run -/

/-- **The diagnostic ends** with the diagnosis of the first answer; it has written the query and,
in the normal mode, its line. -/
theorem app_main_spec (b : Bench) :
    ∃ b' calls, (∀ fuel, 50 < fuel → app_main fuel b =
        some (diagnose (b.hal.answers 0).len (b.hal.answers 0).buffer, b')) ∧
      b'.hal.calls = b.hal.calls ++ calls ∧
      modes calls = [(LORA_MODE_CONFIG_M0_LEVEL, LORA_MODE_CONFIG_M1_LEVEL),
        (LORA_MODE_NORMAL_M0_LEVEL, LORA_MODE_NORMAL_M1_LEVEL)] ∧
      writes calls = [e22_buildReadAllCommand, DIAG_pingMsg] := by
  let start : Bench := { b with
    hal := b.hal.setModePins LORA_MODE_CONFIG_M0_LEVEL LORA_MODE_CONFIG_M1_LEVEL }
  obtain ⟨ready, waited, hcalls, hanswers, hwait⟩ := waitAux_start start
  -- the query, and the way back to the normal mode
  let asked := (waited.hal.uartFlush.uartWrite e22_buildReadAllCommand).uartRead E22_RESPONSE_LEN
    DIAG_RX_WAIT_MS
  let left : Bench :=
    { tick := waited.tick + pdMS_TO_TICKS 50 + pdMS_TO_TICKS 50
      hal := asked.2.setModePins LORA_MODE_NORMAL_M0_LEVEL LORA_MODE_NORMAL_M1_LEVEL }
  obtain ⟨ready', back, hcalls', hanswers', hwait'⟩ := waitAux_start left
  let pinged := ((back.hal.uartFlush.uartWrite DIAG_pingMsg).uartRead 31 DIAG_RX_WAIT_MS).2
  refine ⟨{ back with hal := pinged },
    [.setModePins LORA_MODE_CONFIG_M0_LEVEL LORA_MODE_CONFIG_M1_LEVEL, .uartFlush,
      .uartWrite e22_buildReadAllCommand, .uartRead E22_RESPONSE_LEN DIAG_RX_WAIT_MS,
      .setModePins LORA_MODE_NORMAL_M0_LEVEL LORA_MODE_NORMAL_M1_LEVEL, .uartFlush,
      .uartWrite DIAG_pingMsg, .uartRead 31 DIAG_RX_WAIT_MS], ?_, ?_, rfl, rfl⟩
  · intro fuel hfuel
    have hfirst : b.hal.answers 0 = waited.hal.answers 0 := by rw [hanswers]; rfl
    have hstart : waitAux b.tick fuel start = some (ready, waited) := hwait fuel hfuel
    have hleft : waitAux left.tick fuel left = some (ready', back) := hwait' fuel hfuel
    show (waitAux b.tick fuel start).bind _ = _
    rw [hstart, hfirst]
    show (waitAux left.tick fuel left).bind _ = _
    rw [hleft]
    rfl
  · show back.hal.calls ++ _ ++ _ ++ _ = _
    rw [hcalls']
    show waited.hal.calls ++ _ ++ _ ++ _ ++ _ ++ _ ++ _ ++ _ = _
    rw [hcalls]
    show b.hal.calls ++ _ ++ _ ++ _ ++ _ ++ _ ++ _ ++ _ ++ _ = _
    simp only [List.append_assoc, List.cons_append, List.nil_append]

/-- **The diagnostic only reads**: in front of any hardware it ends with the module back in the
normal mode, and neither the flash of the module nor the registers that it works with have changed,
even if the module takes the line for a command. -/
theorem reads_only (m : E22Module) (b : Bench) :
    ∃ report b' calls, (∀ fuel, 50 < fuel → app_main fuel b = some (report, b')) ∧
      b'.hal.calls = b.hal.calls ++ calls ∧
      (modes calls).getLast? = some (LORA_MODE_NORMAL_M0_LEVEL, LORA_MODE_NORMAL_M1_LEVEL) ∧
      exec E22Module.receive m (writes calls) = m := by
  obtain ⟨b', calls, hrun, hcalls, hmodes, hwrites⟩ := app_main_spec b
  refine ⟨_, b', calls, hrun, hcalls, ?_, ?_⟩
  · rw [hmodes]
    rfl
  · rw [hwrites]
    rfl

/-! ### The diagnosis -/

/-- The verdict on any answer: it is compatible exactly if the firmware would not write. -/
theorem verdict_compatible_iff (answer : UartAnswer) :
    (diagnose answer.len answer.buffer).verdict = .compatible ↔ MatchesContract answer := by
  have hparsed := parsed_equal_buffer_iff answer
  unfold diagnose
  generalize answer.buffer = resp at hparsed ⊢
  dsimp only
  by_cases herror : answer.len > 0 ∧ e22_isErrorResponse resp (sizeT answer.len)
  · rw [parsed_of_error herror.2] at hparsed
    rw [if_pos herror, ← hparsed]
    simp
  · rw [if_neg herror, ← hparsed]
    cases e22_parseRegResponse resp (sizeT answer.len) with
    | none => simp
    | some regs =>
      rw [Option.any_some]
      dsimp only
      split_ifs with hequal <;> simp [hequal]

section response

variable {m : E22Module} {hal : LoraHal} (h : Responsive m.powerUp hal)

include h

/-- The buffer holds the answer of the module. -/
theorem buffer_eq (i : ℕ) (hi : i < 12) :
    (hal.answers 0).buffer i = m.powerUp.response.getD i 0 := by
  have hlen : (hal.answers 0).len.toInt = 12 := by
    rw [h.len]
    decide
  have hbuffer : (hal.answers 0).buffer i = (hal.answers 0).bytes i := if_pos (by omega)
  rw [hbuffer, ← h.bytes, List.getD_eq_getElem?_getD, List.getElem?_map, List.getElem?_range hi]
  rfl

/-- An answer of the module is never rejected. -/
theorem verdict_of_response :
    (diagnose (hal.answers 0).len (hal.answers 0).buffer).verdict =
      if FlashMatches m then .compatible else .different := by
  have hiff := (verdict_compatible_iff (hal.answers 0)).trans (matchesContract_iff h)
  by_cases hmatch : FlashMatches m
  · rw [if_pos hmatch]
    exact hiff.mpr hmatch
  · rw [if_neg hmatch]
    have hne := mt hiff.mp hmatch
    -- the head of the answer is right, so it is parsed
    have hcmd : (hal.answers 0).buffer 0 = E22_CMD_READ := buffer_eq h 0 (by decide)
    have hstart : (hal.answers 0).buffer 1 = E22_REG_BLOCK_START := buffer_eq h 1 (by decide)
    have hblock : (hal.answers 0).buffer 2 = E22_REG_BLOCK_LEN := buffer_eq h 2 (by decide)
    have hsize : ¬sizeT (hal.answers 0).len < E22_RESPONSE_LEN := by
      rw [h.len]
      decide
    have hparse : ∃ regs, e22_parseRegResponse (hal.answers 0).buffer (sizeT (hal.answers 0).len) =
        some regs := by
      unfold e22_parseRegResponse
      rw [if_neg hsize, if_neg (not_not_intro hcmd), if_neg (not_not_intro hstart),
        if_neg (not_not_intro hblock)]
      exact ⟨_, rfl⟩
    obtain ⟨regs, hregs⟩ := hparse
    have herror : ¬((hal.answers 0).len > 0 ∧
        e22_isErrorResponse (hal.answers 0).buffer (sizeT (hal.answers 0).len) = true) := by
      rintro ⟨-, herror⟩
      rw [parsed_of_error herror] at hregs
      cases hregs
    unfold diagnose at hne ⊢
    dsimp only at hne ⊢
    rw [if_neg herror, hregs] at hne ⊢
    dsimp only at hne ⊢
    split_ifs at hne ⊢ with hequal
    · exact absurd rfl hne
    · rfl

/-- The printed lines show the flash, and zeros for the key. -/
theorem lines_of_response :
    (diagnose (hal.answers 0).len (hal.answers 0).buffer).lines =
      (List.range 9).map fun i => regLine i (if i < 7 then m.flash i else 0) := by
  have hlen : (hal.answers 0).len.toInt ≥ E22_RESPONSE_LEN := by
    rw [h.len]
    decide
  unfold diagnose
  dsimp only
  rw [if_pos hlen]
  apply List.map_congr_left
  intro i hi
  have hlt : i < 9 := List.mem_range.mp hi
  rw [buffer_eq h (3 + i) (by omega)]
  interval_cases i <;> rfl

end response

/-- **The verdict foretells the next boot.**  If the module answers the query, the printed lines
show its flash, and the verdict is that it is compatible or that it is different; then every boot of
the firmware in front of the same module in which it answers makes no permanent write, or it writes
the contract, once. -/
theorem verdict_foretells_boot {m : E22Module} {b : Bench} (h : Responsive m.powerUp b.hal) :
    ∃ report b', (∀ fuel, 50 < fuel → app_main fuel b = some (report, b')) ∧
      report.lines = (List.range 9).map (fun i => regLine i (if i < 7 then m.flash i else 0)) ∧
      (report.verdict = .compatible ∨ report.verdict = .different) ∧
      ∀ hal, Responsive m.powerUp hal → permanent (bootWrites hal) =
        if report.verdict = .compatible then [] else [e22_buildWriteCommand E22_CONTRACT_REGS] := by
  obtain ⟨b', calls, hrun, -⟩ := app_main_spec b
  have hverdict := verdict_of_response h
  refine ⟨_, b', hrun, lines_of_response h, ?_, ?_⟩
  · rw [hverdict]
    split_ifs
    · exact .inl rfl
    · exact .inr rfl
  · intro hal hboot
    rw [bootWrites_eq hboot, hverdict]
    by_cases hmatch : FlashMatches m
    · rw [if_pos hmatch, if_pos hmatch]
      rfl
    · rw [if_neg hmatch, if_neg hmatch]
      rfl

/-- In front of a module whose flash is empty. -/
theorem verdict_foretells_boot_on_bench :
    ∃ report b', (∀ fuel, 50 < fuel →
        app_main fuel ⟨0, benchHal benchModule⟩ = some (report, b')) ∧
      report.lines =
        (List.range 9).map (fun i => regLine i (if i < 7 then benchModule.flash i else 0)) ∧
      (report.verdict = .compatible ∨ report.verdict = .different) ∧
      ∀ hal, Responsive benchModule.powerUp hal → permanent (bootWrites hal) =
        if report.verdict = .compatible then [] else [e22_buildWriteCommand E22_CONTRACT_REGS] :=
  verdict_foretells_boot ⟨⟨0, by decide, rfl⟩, rfl, rfl⟩

end TufanAks.E22Diagnostic
