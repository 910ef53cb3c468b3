import TufanAks.LoraLink.Equiv.Configure
import TufanAks.Machine.Parts

/-!
# Booting in front of a module

`configureE22` is there to have the radio module work with the registers and the key of the contract
after every boot, and to write its flash no more often than it has to.  `E22Module` is the module as
`E22Regs.h` describes it: registers in flash, which are loaded at power-up, a permanent and a
temporary write command, and a query that shows zeros for the key.

In every sequence of boots in which the module answers the query (`Responsive`), the module works
with the contract after each of them (`configured_boot`), and the flash is written once if it did
not hold the contract at the start, and otherwise never (`boots_write_once`).
-/

namespace TufanAks.LoraLink

open Machine

/-! ### The module -/

/-- The registers by address, in flash and as the module uses them. -/
structure E22Module where
  flash : ℕ → UInt8
  ram : ℕ → UInt8

namespace E22Module

/-- At power-up the module loads its registers. -/
def powerUp (m : E22Module) : E22Module := { m with ram := m.flash }

/-- The registers after `values` were written from the address `start` on. -/
def store (start : ℕ) (values : List UInt8) (block : ℕ → UInt8) : ℕ → UInt8 := fun addr =>
  if start ≤ addr then values.getD (addr - start) (block addr) else block addr

/-- The module receives a command in the configuration mode. -/
def receive (m : E22Module) : List UInt8 → E22Module
  | command :: start :: len :: values =>
    let stored := store start.toNat (values.take len.toNat)
    if command = E22_CMD_WRITE then { flash := stored m.flash, ram := stored m.ram }
    else if command = E22_CMD_WRITE_TEMP then { m with ram := stored m.ram }
    else m
  | _ => m

/-- The answer to the query for the whole block; the key cannot be read back. -/
def response (m : E22Module) : List UInt8 :=
  [E22_CMD_READ, E22_REG_BLOCK_START, E22_REG_BLOCK_LEN] ++ (List.range 7).map m.ram ++ [0, 0]

end E22Module

/-- The registers of the contract, without the key. -/
def contractRegs : List UInt8 :=
  [E22_CFG_ADDH, E22_CFG_ADDL, E22_CFG_NETID, E22_CFG_REG0, E22_CFG_REG1, E22_CFG_REG2,
    E22_CFG_REG3]

/-- The module works with the registers and the key of the contract. -/
def Configured (m : E22Module) : Prop :=
  (List.range 9).map m.ram = contractRegs ++ [E22_CFG_CRYPT_H, E22_CFG_CRYPT_L]

/-- The flash holds the registers of the contract. -/
def FlashMatches (m : E22Module) : Prop := (List.range 7).map m.flash = contractRegs

instance (m : E22Module) : Decidable (FlashMatches m) := inferInstanceAs (Decidable (_ = _))

/-- The module gets ready in the configuration mode and answers the query. -/
structure Responsive (m : E22Module) (hal : LoraHal) : Prop where
  ready : ReadyWithin 50 hal
  len : (hal.answers 0).len = 12
  bytes : (List.range 12).map (hal.answers 0).bytes = m.response

/-! ### One boot -/

/-- Fuel for every loop of `configureE22`. -/
def BOOT_FUEL : ℕ := 201

/-- What `configureE22` writes to the module. -/
def bootWrites (hal : LoraHal) : List (List UInt8) :=
  match configureE22 BOOT_FUEL hal with
  | some hal' => writes (hal'.calls.drop hal.calls.length)
  | none => []

/-- The module after power-up and `configureE22`. -/
def boot (m : E22Module) (hal : LoraHal) : E22Module :=
  exec E22Module.receive m.powerUp (bootWrites hal)

/-- The answer of a module matches the contract when its registers do. -/
theorem matchesContract_iff {m : E22Module} {hal : LoraHal} (h : Responsive m.powerUp hal) :
    MatchesContract (hal.answers 0) ↔ FlashMatches m := by
  have hlen : 12 ≤ (hal.answers 0).len.toInt := by
    rw [h.len]
    decide
  have hbytes : (List.range 10).map (hal.answers 0).bytes = m.powerUp.response.take 10 := by
    rw [← h.bytes, ← List.map_take, List.take_range]
    rfl
  have hresponse : m.powerUp.response.take 10 =
      [E22_CMD_READ, E22_REG_BLOCK_START, E22_REG_BLOCK_LEN] ++ (List.range 7).map m.flash := rfl
  unfold MatchesContract FlashMatches contractRegs
  rw [and_iff_right hlen, hbytes, hresponse]
  simp only [List.cons_append, List.nil_append, List.cons.injEq, true_and]

/-- **What one boot writes**: the query, and then the key alone if the flash matches, or else the
whole block. -/
theorem bootWrites_eq {m : E22Module} {hal : LoraHal} (h : Responsive m.powerUp hal) :
    bootWrites hal = e22_buildReadAllCommand ::
      if FlashMatches m then [e22_buildWriteCryptTempCommand]
      else [e22_buildWriteCommand E22_CONTRACT_REGS] := by
  obtain ⟨hal', calls, hrun, hcalls, -, hwrites⟩ := configureE22_spec hal
  rw [if_pos h.ready, if_congr (matchesContract_iff h) rfl rfl] at hwrites
  unfold bootWrites
  rw [hrun BOOT_FUEL (by decide)]
  dsimp only
  rw [hcalls, List.drop_left, hwrites]

/-- The module after the refresh of the key. -/
theorem boot_of_match {m : E22Module} {hal : LoraHal} (h : Responsive m.powerUp hal)
    (hmatch : FlashMatches m) : Configured (boot m hal) ∧ FlashMatches (boot m hal) := by
  unfold boot
  rw [bootWrites_eq h, if_pos hmatch]
  refine ⟨?_, hmatch⟩
  have hregs : (List.range 7).map m.flash = contractRegs := hmatch
  have hram : (List.range 9).map (exec E22Module.receive m.powerUp
      [e22_buildReadAllCommand, e22_buildWriteCryptTempCommand]).ram =
      (List.range 7).map m.flash ++ [E22_CFG_CRYPT_H, E22_CFG_CRYPT_L] := rfl
  rw [Configured, hram, hregs]

/-- The module after the write of the whole block. -/
theorem boot_of_mismatch {m : E22Module} {hal : LoraHal} (h : Responsive m.powerUp hal)
    (hmatch : ¬FlashMatches m) : Configured (boot m hal) ∧ FlashMatches (boot m hal) := by
  unfold boot
  rw [bootWrites_eq h, if_neg hmatch]
  exact ⟨rfl, rfl⟩

/-- **After every boot** in which the module answers it works with the contract, whatever its flash
held. -/
theorem configured_boot {m : E22Module} {hal : LoraHal} (h : Responsive m.powerUp hal) :
    Configured (boot m hal) ∧ FlashMatches (boot m hal) := by
  by_cases hmatch : FlashMatches m
  · exact boot_of_match h hmatch
  · exact boot_of_mismatch h hmatch

/-! ### Many boots -/

/-- The permanent writes among what is written. -/
def permanent (data : List (List UInt8)) : List (List UInt8) :=
  data.filter fun d => d.head? = some E22_CMD_WRITE

theorem permanent_bootWrites {m : E22Module} {hal : LoraHal} (h : Responsive m.powerUp hal) :
    (permanent (bootWrites hal)).length = if FlashMatches m then 0 else 1 := by
  rw [bootWrites_eq h]
  split_ifs <;> decide

/-- What a sequence of boots writes. -/
def allWrites (m : E22Module) (hals : List LoraHal) : List (List UInt8) :=
  trace boot (fun _ hal => bootWrites hal) m hals

/-- **The flash is written at most once.**  In every sequence of boots in which the module answers,
the module works with the registers and the key of the contract after the last boot, and there has
been one permanent write in all if its flash did not hold the contract at the start, and otherwise
none. -/
theorem boots_write_once (m : E22Module) (hals : List LoraHal)
    (h : Along boot (fun m hal => Responsive m.powerUp hal) m hals) :
    (hals ≠ [] → Configured (exec boot m hals)) ∧
      (permanent (allWrites m hals)).length = if hals = [] ∨ FlashMatches m then 0 else 1 := by
  induction hals generalizing m with
  | nil => exact ⟨fun hne => absurd rfl hne, by simp [allWrites, trace, permanent]⟩
  | cons hal hals ih =>
    obtain ⟨hresponsive, hrest⟩ := h
    obtain ⟨hconfigured, hflash⟩ := configured_boot hresponsive
    obtain ⟨hlater, hwrites⟩ := ih (boot m hal) hrest
    refine ⟨fun _ => ?_, ?_⟩
    · rw [exec_cons]
      by_cases hlast : hals = []
      · rw [hlast]
        exact hconfigured
      · exact hlater hlast
    · -- from the second boot on the flash matches
      have hall : permanent (allWrites m (hal :: hals)) =
          permanent (bootWrites hal) ++ permanent (allWrites (boot m hal) hals) := by
        unfold permanent allWrites
        rw [trace, List.filter_append]
      have hnone : (permanent (allWrites (boot m hal) hals)).length = 0 := by
        rw [hwrites, if_pos (.inr hflash)]
      rw [hall, List.length_append, hnone, permanent_bootWrites hresponsive]
      simp

/-! ### A module on the bench -/

/-- A module whose flash is empty, and hardware that answers for it. -/
def benchModule : E22Module := ⟨fun _ => 0, fun _ => 0⟩

def benchHal (m : E22Module) : LoraHal where
  clock := 0
  aux := fun _ => true
  answers := fun _ => ⟨12, fun i => m.powerUp.response.getD i 0⟩

/-- Two boots write the flash once. -/
theorem boots_write_once_on_bench :
    (permanent (allWrites benchModule
      [benchHal benchModule, benchHal (boot benchModule (benchHal benchModule))])).length = 1 := by
  have hresponsive : ∀ m, Responsive m.powerUp (benchHal m) := fun m =>
    ⟨⟨0, by decide, rfl⟩, rfl, rfl⟩
  have hwrites := (boots_write_once benchModule
    [benchHal benchModule, benchHal (boot benchModule (benchHal benchModule))]
    ⟨hresponsive _, hresponsive _, trivial⟩).2
  rw [hwrites, if_neg]
  decide

end TufanAks.LoraLink
