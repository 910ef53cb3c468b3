import Mathlib.Data.List.Basic

/-!
# Echoes of a list

`Echoes P l` says that `l` repeats elements of `P`, each any number of times, in the order in which
they stand in `P`.  This is what a reader sees who looks at a register now and then, while someone
else writes the elements of `P` to it: it may see an element twice and miss another, but it never
sees an old element after a new one (`Echoes.append_last`, `Echoes.pairwise`).
-/

namespace Timeline

variable {α : Type*}

/-- `l` repeats elements of `P` in their order. -/
inductive Echoes : List α → List α → Prop
  | nil (P : List α) : Echoes P []
  | skip (a : α) {P l : List α} (h : Echoes P l) : Echoes (a :: P) l
  | again (a : α) {P l : List α} (h : Echoes (a :: P) l) : Echoes (a :: P) (a :: l)

namespace Echoes

variable {P Q l l' : List α}

theorem mem (h : Echoes P l) {x : α} (hx : x ∈ l) : x ∈ P := by
  induction h with
  | nil P => cases hx
  | skip a _ ih => exact List.mem_cons_of_mem a (ih hx)
  | again a _ ih =>
    rcases List.mem_cons.mp hx with rfl | hx
    · exact List.mem_cons_self
    · exact ih hx

/-- What comes later does no harm. -/
theorem append (h : Echoes P l) (Q : List α) : Echoes (P ++ Q) l := by
  induction h with
  | nil P => exact nil (P ++ Q)
  | skip a _ ih => exact skip a ih
  | again a _ ih => exact again a ih

theorem sublist (h : Echoes P l) (hl : l'.Sublist l) : Echoes P l' := by
  induction h generalizing l' with
  | nil P =>
    rw [List.sublist_nil.mp hl]
    exact nil P
  | skip a _ ih => exact skip a (ih hl)
  | again a _ ih =>
    cases hl with
    | cons _ hl => exact ih hl
    | cons_cons _ hl => exact again a (ih hl)

theorem of_getLast {d : α} (hd : P.getLast? = some d) : Echoes P [d] := by
  induction P with
  | nil => cases hd
  | cons a P ih =>
    rcases P with _ | ⟨b, P⟩
    · obtain rfl : a = d := Option.some.inj hd
      exact again a (nil [a])
    · exact skip a (ih hd)

/-- **The newest element** can always come next. -/
theorem append_last (h : Echoes P l) {d : α} (hd : P.getLast? = some d) :
    Echoes P (l ++ [d]) := by
  induction h with
  | nil P => exact of_getLast hd
  | @skip a P l h ih =>
    rcases P with _ | ⟨b, P⟩
    · -- nothing has been repeated yet
      have hl : l = [] := List.eq_nil_iff_forall_not_mem.mpr fun x hx => by
        cases h.mem hx
      rw [hl]
      exact of_getLast hd
    · exact skip a (ih hd)
  | again a _ ih => exact again a (ih hd)

/-- **Echoes keep the order** of what they repeat. -/
theorem pairwise {R : α → α → Prop} (hR : ∀ a, R a a) (h : Echoes P l) (hP : P.Pairwise R) :
    l.Pairwise R := by
  induction h with
  | nil P => exact .nil
  | skip a _ ih => exact ih (List.pairwise_cons.mp hP).2
  | @again a P l h ih =>
    refine List.pairwise_cons.mpr ⟨fun x hx => ?_, ih hP⟩
    rcases List.mem_cons.mp (h.mem hx) with rfl | hx
    · exact hR x
    · exact (List.pairwise_cons.mp hP).1 x hx

end Echoes

end Timeline
