import TufanAks.Machine.Ghost

/-!
# What is taken was offered

A machine with a queue to which its actions offer elements and from which its steps take some.  If
one step takes and keeps no more than was queued and offered, in the same order (`Takes`), the same
holds of a whole run (`taken_append_sublist`): nothing is taken that was not offered before, nothing
is taken twice, and nothing overtakes.
-/

namespace Machine

variable {σ α β ε : Type*} {step : σ → α → σ}

/-- Records whose steps show at most as much show at most as much in a run. -/
theorem observe_sublist {obs obs' : σ → α → Option β}
    (h : ∀ s a, (obs s a).toList.Sublist (obs' s a).toList) (s : σ) (as : List α) :
    (observe step obs s as).Sublist (observe step obs' s as) := by
  induction as generalizing s with
  | nil => exact List.Sublist.refl []
  | cons a as ih =>
    rw [observe_cons, observe_cons]
    exact (h s a).append (ih (step s a))

/-- A step takes `taken s a` from the queue at most, and adds what its action offers at most. -/
def Takes (step : σ → α → σ) (queue : σ → List ε) (offers : α → Option ε)
    (taken : σ → α → Option ε) : Prop :=
  ∀ s a, ((taken s a).toList ++ queue (step s a)).Sublist (queue s ++ (offers a).toList)

variable {queue : σ → List ε} {offers : α → Option ε} {taken : σ → α → Option ε}

/-- **What a run takes**, followed by what is still queued, is a sublist of what was queued at its
start, followed by what it was offered. -/
theorem taken_append_sublist (h : Takes step queue offers taken) (s : σ) (as : List α) :
    (observe step taken s as ++ queue (exec step s as)).Sublist
      (queue s ++ as.filterMap offers) := by
  induction as generalizing s with
  | nil => simp [observe, ghost]
  | cons a as ih =>
    have hfilter : (a :: as).filterMap offers = (offers a).toList ++ as.filterMap offers := by
      cases ha : offers a <;> simp [ha]
    have hrest := (List.Sublist.refl (taken s a).toList).append (ih (step s a))
    have hone := (h s a).append (List.Sublist.refl (as.filterMap offers))
    rw [List.append_assoc, List.append_assoc] at hone
    rw [observe_cons, hfilter, exec_cons, List.append_assoc]
    exact hrest.trans hone

end Machine
