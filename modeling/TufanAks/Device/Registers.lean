import Mathlib.Logic.Function.Basic
import Mathlib.Tactic.Common

/-!
# Registers behind an unreliable bus

`Bus α β` is a device with registers of type `β` at addresses in `α`, together with the outcomes of
the transfers to come.  A transfer that succeeds writes its register or returns the register's
content; a transfer that fails writes nothing and returns nothing.  Nothing is assumed about the
outcomes, so a statement about every bus is a statement about every pattern of failures.
-/

namespace Device

/-- The registers, and the outcome of each transfer from the next one on. -/
structure Bus (α β : Type*) where
  regs : α → β
  succeeds : ℕ → Bool

namespace Bus

variable {α β : Type*}

/-- The bus after a transfer that writes nothing. -/
def skip (b : Bus α β) : Bus α β := { b with succeeds := fun n => b.succeeds (n + 1) }

/-- Write `v` to the register at `a`. -/
def write [DecidableEq α] (a : α) (v : β) (b : Bus α β) : Bus α β :=
  { b.skip with regs := if b.succeeds 0 then Function.update b.regs a v else b.regs }

/-- Read the register at `a`. -/
def read (a : α) (b : Bus α β) : Option β × Bus α β :=
  (if b.succeeds 0 then some (b.regs a) else none, b.skip)

/-- Read registers in order, up to the first transfer that fails. -/
def readAll : List α → Bus α β → Option (List β) × Bus α β
  | [], b => (some [], b)
  | a :: as, b =>
    match b.read a with
    | (none, b) => (none, b)
    | (some v, b) => ((b.readAll as).1.map (v :: ·), (b.readAll as).2)

theorem write_regs_of_ne [DecidableEq α] {a a' : α} (h : a' ≠ a) (v : β) (b : Bus α β) :
    (b.write a v).regs a' = b.regs a' := by
  unfold write
  dsimp only
  split_ifs
  · exact Function.update_of_ne h _ _
  · rfl

theorem write_regs_self [DecidableEq α] (a : α) (v : β) (b : Bus α β) :
    (b.write a v).regs a = if b.succeeds 0 then v else b.regs a := by
  unfold write
  dsimp only
  split_ifs
  · exact Function.update_self _ _ _
  · rfl

/-- Reading changes no register. -/
@[simp] theorem readAll_regs (as : List α) (b : Bus α β) : (b.readAll as).2.regs = b.regs := by
  induction as generalizing b with
  | nil => rfl
  | cons a as ih =>
    rw [readAll]
    rcases hread : b.read a with ⟨_ | v, b'⟩
    · exact congrArg (fun r => r.2.regs) hread.symm
    · have hregs : b'.regs = b.regs := congrArg (fun r => r.2.regs) hread.symm
      exact (ih b').trans hregs

/-- **Readings are true**: what is read is what the registers hold. -/
theorem readAll_eq_some {as : List α} {b : Bus α β} {vs : List β} (h : (b.readAll as).1 = some vs) :
    vs = as.map b.regs := by
  induction as generalizing b vs with
  | nil => exact (Option.some.inj h).symm
  | cons a as ih =>
    rw [readAll] at h
    rcases hread : b.read a with ⟨_ | v, b'⟩
    · rw [hread] at h
      cases h
    · rw [hread] at h
      obtain ⟨ws, hws, rfl⟩ := Option.map_eq_some_iff.mp h
      have hregs : b'.regs = b.regs := congrArg (fun r => r.2.regs) hread.symm
      have hv : v = b.regs a := by
        have hsome : (if b.succeeds 0 then some (b.regs a) else none) = some v :=
          congrArg Prod.fst hread
        split_ifs at hsome
        exact (Option.some.inj hsome).symm
      rw [List.map_cons, ← hv, ih hws, hregs]

/-! ### Buses that do not fail -/

/-- All transfers to come succeed. -/
def Reliable (b : Bus α β) : Prop := ∀ n, b.succeeds n = true

namespace Reliable

variable {b : Bus α β}

theorem skip (h : b.Reliable) : b.skip.Reliable := fun n => h (n + 1)

theorem write [DecidableEq α] (h : b.Reliable) (a : α) (v : β) : (b.write a v).Reliable :=
  fun n => h (n + 1)

theorem write_regs [DecidableEq α] (h : b.Reliable) (a : α) (v : β) :
    (b.write a v).regs = Function.update b.regs a v := if_pos (h 0)

theorem read_eq (h : b.Reliable) (a : α) : b.read a = (some (b.regs a), b.skip) := by
  rw [Bus.read, if_pos (h 0)]

theorem readAll_snd (h : b.Reliable) (as : List α) : (b.readAll as).2.Reliable := by
  induction as generalizing b with
  | nil => exact h
  | cons a as ih =>
    simp only [readAll, h.read_eq]
    exact ih h.skip

end Reliable

end Bus

end Device
