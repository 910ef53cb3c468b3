import TufanAks.Machine.Run

/-!
# Steps that have parts

A machine whose step is a run of a finer machine, `part`: the step `a` from `s` performs the parts
`parts s a`.  `trace` lists the parts of a whole run.  An invariant that relates the state to the
parts performed so far (`exec_history_of_along`) then needs a proof for one part only, and what
holds of the parts of every step holds along the trace (`along_trace`).
-/

namespace Machine

variable {σ α β : Type*} {step : σ → α → σ} {part : σ → β → σ} {parts : σ → α → List β}

/-- The parts that the steps of the run `as` from `s` perform. -/
def trace (step : σ → α → σ) (parts : σ → α → List β) : σ → List α → List β
  | _, [] => []
  | s, a :: as => parts s a ++ trace step parts (step s a) as

/-- **A run is the run of its parts.** -/
theorem exec_trace (hparts : ∀ s a, exec part s (parts s a) = step s a) (s : σ) (as : List α) :
    exec part s (trace step parts s as) = exec step s as := by
  induction as generalizing s with
  | nil => rfl
  | cons a as ih => rw [trace, exec_append, hparts, exec_cons, ih]

/-- What every step promises about its parts, from a state with the invariant, holds along the
trace. -/
theorem along_trace (hparts : ∀ s a, exec part s (parts s a) = step s a) {C : σ → β → Prop}
    (Inv : σ → Prop) (hstep : ∀ s a, Inv s → Inv (step s a))
    (hC : ∀ s a, Inv s → Along part C s (parts s a)) {s : σ} (h0 : Inv s) (as : List α) :
    Along part C s (trace step parts s as) := by
  induction as generalizing s with
  | nil => trivial
  | cons a as ih =>
    rw [trace, along_append, hparts]
    exact ⟨hC s a h0, ih (hstep s a h0)⟩

/-- **History rule**: a relation between the parts performed and the state that every part meeting
`C` keeps. -/
theorem exec_history_of_along {C : σ → β → Prop} (P : List β → σ → Prop) {s : σ} (h0 : P [] s)
    (hpart : ∀ bs t b, P bs t → C t b → P (bs ++ [b]) (part t b)) {bs : List β}
    (h : Along part C s bs) : P bs (exec part s bs) := by
  induction bs using List.reverseRecOn with
  | nil => exact h0
  | append_singleton bs b ih =>
    obtain ⟨hbs, hb, -⟩ := (along_append s bs [b]).mp h
    rw [exec_concat]
    exact hpart bs _ b (ih hbs) hb

end Machine
