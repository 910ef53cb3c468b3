import Mathlib.Data.UInt

/-!
# `E22Regs.h` and `E22Config.cpp`

The commands that configure the E22 radio module and the reading of its answers.  A buffer for an
answer is a function of the index; every buffer for a command is large enough, so a command is the
list of its bytes.
-/

namespace TufanAks

/-! ### `E22Regs.h` -/

def E22_CMD_WRITE : UInt8 := 0xC0
def E22_CMD_READ : UInt8 := 0xC1
/-- A write that the module forgets when it is switched off. -/
def E22_CMD_WRITE_TEMP : UInt8 := 0xC2

def E22_REG_ADDR_ADDH : UInt8 := 0x00
def E22_REG_ADDR_CRYPT_H : UInt8 := 0x07

def E22_REG_BLOCK_START : UInt8 := E22_REG_ADDR_ADDH
def E22_REG_BLOCK_LEN : UInt8 := 0x09

def E22_CFG_ADDH : UInt8 := 0x00
def E22_CFG_ADDL : UInt8 := 0x00
def E22_CFG_NETID : UInt8 := 0x00
def E22_CFG_REG0 : UInt8 := 0x64
def E22_CFG_REG1 : UInt8 := 0x00
def E22_CFG_REG2 : UInt8 := 0x17
def E22_CFG_REG3 : UInt8 := 0x00
def E22_CFG_CRYPT_H : UInt8 := 0x5A
def E22_CFG_CRYPT_L : UInt8 := 0x3C

/-! ### `E22Config.cpp` -/

/-- `struct E22RegValues`, without the key, which cannot be read back. -/
structure E22RegValues where
  addh : UInt8
  addl : UInt8
  netid : UInt8
  reg0 : UInt8
  reg1 : UInt8
  reg2 : UInt8
  reg3 : UInt8
  deriving DecidableEq

def E22_CONTRACT_REGS : E22RegValues where
  addh := E22_CFG_ADDH
  addl := E22_CFG_ADDL
  netid := E22_CFG_NETID
  reg0 := E22_CFG_REG0
  reg1 := E22_CFG_REG1
  reg2 := E22_CFG_REG2
  reg3 := E22_CFG_REG3

def e22_buildReadAllCommand : List UInt8 :=
  [E22_CMD_READ, E22_REG_BLOCK_START, E22_REG_BLOCK_LEN]

def e22_buildWriteCommand (regs : E22RegValues) : List UInt8 :=
  [E22_CMD_WRITE, E22_REG_BLOCK_START, E22_REG_BLOCK_LEN, regs.addh, regs.addl, regs.netid,
    regs.reg0, regs.reg1, regs.reg2, regs.reg3, E22_CFG_CRYPT_H, E22_CFG_CRYPT_L]

def e22_buildWriteCryptTempCommand : List UInt8 :=
  [E22_CMD_WRITE_TEMP, E22_REG_ADDR_CRYPT_H, 0x02, E22_CFG_CRYPT_H, E22_CFG_CRYPT_L]

/-- The length of the whole block with its head. -/
def E22_RESPONSE_LEN : ℕ := 3 + E22_REG_BLOCK_LEN.toNat

def e22_isErrorResponse (resp : ℕ → UInt8) (respLen : ℕ) : Bool :=
  if respLen < 3 then false else resp 0 = 0xFF ∧ resp 1 = 0xFF ∧ resp 2 = 0xFF

def e22_parseRegResponse (resp : ℕ → UInt8) (respLen : ℕ) : Option E22RegValues :=
  if respLen < E22_RESPONSE_LEN then none
  else if resp 0 ≠ E22_CMD_READ then none
  else if resp 1 ≠ E22_REG_BLOCK_START then none
  else if resp 2 ≠ E22_REG_BLOCK_LEN then none
  else some
    { addh := resp 3
      addl := resp 4
      netid := resp 5
      reg0 := resp 6
      reg1 := resp 7
      reg2 := resp 8
      reg3 := resp 9 }

def e22_regsEqual (a b : E22RegValues) : Bool :=
  a.addh = b.addh ∧ a.addl = b.addl ∧ a.netid = b.netid ∧ a.reg0 = b.reg0 ∧ a.reg1 = b.reg1 ∧
    a.reg2 = b.reg2 ∧ a.reg3 = b.reg3

end TufanAks
