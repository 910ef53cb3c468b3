import TufanAks.Machine.Parts

/-!
# Components of a machine

A `Component` is a part of a larger machine that is a machine itself: seen through `view`, each step
of the whole is a run of the component, the actions `acts s a`.  What holds along every run of the
component then holds along every run of the whole, however its steps are interleaved with those of
other components (`Component.view_exec`, `Component.invariant`).

`exec_cut` carries the runs of a machine over to one that takes smaller steps.
-/

namespace Machine

variable {σ τ α β : Type*}

/-! ### Components -/

/-- Seen through `view`, the machine `step` performs actions of the machine `part`. -/
structure Component (step : σ → α → σ) (view : σ → τ) (part : τ → β → τ) where
  acts : σ → α → List β
  view_step : ∀ s a, view (step s a) = exec part (view s) (acts s a)

namespace Component

variable {step : σ → α → σ} {view : σ → τ} {part : τ → β → τ} (C : Component step view part)

/-- The actions of the component during the run `as` from `s`. -/
def trace (s : σ) (as : List α) : List β := Machine.trace step C.acts s as

theorem trace_cons (s : σ) (a : α) (as : List α) :
    C.trace s (a :: as) = C.acts s a ++ C.trace (step s a) as := rfl

/-- **A run of the whole is a run of the component.** -/
theorem view_exec (s : σ) (as : List α) :
    view (exec step s as) = exec part (view s) (C.trace s as) := by
  induction as generalizing s with
  | nil => rfl
  | cons a as ih =>
    rw [exec_cons, ih, C.view_step, trace_cons, exec_append]

/-- A longer run has a longer trace. -/
theorem trace_append (s : σ) (as bs : List α) :
    C.trace s (as ++ bs) = C.trace s as ++ C.trace (exec step s as) bs := by
  induction as generalizing s with
  | nil => rfl
  | cons a as ih => rw [List.cons_append, trace_cons, ih, trace_cons, List.append_assoc, exec_cons]

theorem trace_concat (s : σ) (as : List α) (a : α) :
    C.trace s (as ++ [a]) = C.trace s as ++ C.acts (exec step s as) a := by
  rw [trace_append]
  exact congrArg _ (List.append_nil _)

/-- **An invariant of the component** is an invariant of the whole. -/
theorem invariant (C : Component step view part) (Inv : τ → Prop)
    (hpart : ∀ t b, Inv t → Inv (part t b)) {s : σ} (h0 : Inv (view s)) (as : List α) :
    Inv (view (exec step s as)) := by
  rw [C.view_exec]
  exact exec_invariant Inv (fun t b _ h => hpart t b h) h0

end Component

/-! ### Finer machines -/

/-- The run `as` with each action taken again as often as `ns` says. -/
def repeated (ns : List ℕ) (as : List α) : List α :=
  (List.zipWith (fun n a => List.replicate (n + 1) a) ns as).flatten

/-- **Cutting rule**: if the machine `fine` performs each step of `coarse` by taking the same action
one or more times, every run of `coarse` is one of `fine` with the actions repeated. -/
theorem exec_cut {coarse : σ → α → σ} {fine : τ → α → τ} (emb : σ → τ)
    (hstep : ∀ s a, ∃ n, exec fine (emb s) (List.replicate (n + 1) a) = emb (coarse s a)) (s : σ)
    (as : List α) :
    ∃ ns : List ℕ, ns.length = as.length ∧
      exec fine (emb s) (repeated ns as) = emb (exec coarse s as) := by
  induction as generalizing s with
  | nil => exact ⟨[], rfl, rfl⟩
  | cons a as ih =>
    obtain ⟨n, hn⟩ := hstep s a
    obtain ⟨ns, hlength, hrest⟩ := ih (coarse s a)
    refine ⟨n :: ns, by rw [List.length_cons, List.length_cons, hlength], ?_⟩
    have hsplit : repeated (n :: ns) (a :: as) = List.replicate (n + 1) a ++ repeated ns as := rfl
    rw [hsplit, exec_append, hn, hrest, exec_cons]

end Machine
