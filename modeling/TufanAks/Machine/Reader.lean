import Mathlib.Tactic.Common

/-!
# Polled readers

A reader takes items one at a time; `item s b` is its state after the item `b` and what the item
completes, if anything.  `feed` hands it a whole list and collects what is completed.  `readOne` is
one call of a program that polls its input: it reads until something is completed, and leaves the
rest unread.  `feed_readOne` says that a call is the reader on the items it reads, so however the
input is cut into calls, what they return is what `feed` collects.
-/

namespace Machine

variable {σ β γ : Type*} (item : σ → β → σ × Option γ)

/-- The state after a list of items, and what they complete. -/
def feed : σ → List β → σ × List γ
  | s, [] => (s, [])
  | s, b :: bs =>
    let r := item s b
    let t := feed r.1 bs
    (t.1, r.2.toList ++ t.2)

/-- One call: the first thing completed, the state after it and the items left unread. -/
def readOne : σ → List β → Option γ × σ × List β
  | s, [] => (none, s, [])
  | s, b :: bs =>
    match item s b with
    | (s', some out) => (some out, s', bs)
    | (s', none) => readOne s' bs

@[simp] theorem feed_nil (s : σ) : feed item s [] = (s, []) := rfl

theorem feed_cons (s : σ) (b : β) (bs : List β) :
    feed item s (b :: bs) =
      ((feed item (item s b).1 bs).1, (item s b).2.toList ++ (feed item (item s b).1 bs).2) := rfl

theorem feed_append (s : σ) (as bs : List β) :
    feed item s (as ++ bs) =
      ((feed item (feed item s as).1 bs).1,
        (feed item s as).2 ++ (feed item (feed item s as).1 bs).2) := by
  induction as generalizing s with
  | nil => rfl
  | cons a as ih => simp only [List.cons_append, feed_cons, ih, List.append_assoc]

/-- **A call is the reader on the items it reads**: what it returns and what the unread items would
complete is what all of them complete. -/
theorem feed_readOne (s : σ) (bs : List β) :
    feed item s bs =
      ((feed item (readOne item s bs).2.1 (readOne item s bs).2.2).1,
        (readOne item s bs).1.toList ++
          (feed item (readOne item s bs).2.1 (readOne item s bs).2.2).2) := by
  induction bs generalizing s with
  | nil => rfl
  | cons b bs ih =>
    rw [feed_cons, readOne]
    rcases item s b with ⟨s', _ | out⟩
    · exact ih s'
    · rfl

/-- The items that a call reads, and what they complete. -/
theorem readOne_spec (s : σ) (bs : List β) :
    ∃ read, bs = read ++ (readOne item s bs).2.2 ∧
      feed item s read = ((readOne item s bs).2.1, (readOne item s bs).1.toList) := by
  induction bs generalizing s with
  | nil => exact ⟨[], rfl, rfl⟩
  | cons b bs ih =>
    rw [readOne]
    rcases hitem : item s b with ⟨t, _ | out⟩
    · obtain ⟨read, hread, hfeed⟩ := ih t
      refine ⟨b :: read, congrArg (b :: ·) hread, ?_⟩
      rw [feed_cons, hitem]
      exact hfeed
    · refine ⟨[b], rfl, ?_⟩
      rw [feed_cons, hitem]
      rfl

/-- A call that returns something returned it for the last item it read. -/
theorem readOne_eq_some {s s' : σ} {bs rest : List β} {out : γ}
    (h : readOne item s bs = (some out, s', rest)) :
    ∃ pre b, bs = pre ++ b :: rest ∧ (feed item s pre).2 = [] ∧
      item (feed item s pre).1 b = (s', some out) := by
  induction bs generalizing s with
  | nil => cases h
  | cons b bs ih =>
    rw [readOne] at h
    rcases hitem : item s b with ⟨t, _ | out'⟩
    · rw [hitem] at h
      obtain ⟨pre, b', rfl, hnone, hlast⟩ := ih h
      have hfeed : feed item s (b :: pre) = feed item t pre := by
        rw [feed_cons, hitem]
        rfl
      exact ⟨b :: pre, b', rfl, by rw [hfeed, hnone], by rw [hfeed, hlast]⟩
    · rw [hitem] at h
      cases h
      exact ⟨[], b, rfl, rfl, hitem⟩

/-- What every item keeps, a call keeps. -/
theorem readOne_invariant (P : σ → Prop) (hitem : ∀ s b, P s → P (item s b).1) {s : σ} (h : P s)
    (bs : List β) : P (readOne item s bs).2.1 := by
  induction bs generalizing s with
  | nil => exact h
  | cons b bs ih =>
    have hs := hitem s b h
    rw [readOne]
    rcases hout : item s b with ⟨s', _ | out⟩
    · rw [hout] at hs
      exact ih hs
    · rw [hout] at hs
      exact hs

end Machine
