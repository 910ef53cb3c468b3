import Mathlib.Data.List.Basic
import TufanAks.Machine.Reader

/-!
# The backlog of a polled reader

A polled reader whose input arrives between its calls: `backlog` is what the items that have arrived
and have not been read would complete.  `Advances n p q` says what `n` calls achieve on the way from
`p` to `q`, whatever arrives in between; it holds of one arrival and of one call, and ways can be
put together.  As many calls as the backlog is long return all of it (`Advances.delivered`).
-/

namespace Machine

variable {σ β γ : Type*} (item : σ → β → σ × Option γ)

/-- A call that returns nothing has read everything. -/
theorem readOne_eq_none {s : σ} {bs : List β} (h : (readOne item s bs).1 = none) :
    (readOne item s bs).2.2 = [] := by
  induction bs generalizing s with
  | nil => rfl
  | cons b bs ih =>
    rw [readOne] at h ⊢
    rcases hitem : item s b with ⟨s', _ | out⟩
    · rw [hitem] at h
      exact ih h
    · rw [hitem] at h
      cases h

/-- A reader, the items that it has not read and what it has returned. -/
structure Polled (σ β γ : Type*) where
  state : σ
  unread : List β
  out : List γ

namespace Polled

/-- What the unread items would complete. -/
def backlog (p : Polled σ β γ) : List γ := (feed item p.state p.unread).2

def arrive (bs : List β) (p : Polled σ β γ) : Polled σ β γ := { p with unread := p.unread ++ bs }

/-- One call. -/
def read (p : Polled σ β γ) : Polled σ β γ where
  state := (readOne item p.state p.unread).2.1
  unread := (readOne item p.state p.unread).2.2
  out := p.out ++ (readOne item p.state p.unread).1.toList

/-- On the way from `p` to `q` with `n` calls, nothing of the backlog is lost, and every call
returns something as long as there is something. -/
structure Advances (n : ℕ) (p q : Polled σ β γ) : Prop where
  promised : p.out ++ p.backlog item <+: q.out ++ q.backlog item
  progress : min (p.out.length + n) (p.out ++ p.backlog item).length ≤ q.out.length

variable {item}

theorem Advances.refl (p : Polled σ β γ) : Advances item 0 p p :=
  ⟨List.prefix_rfl, Nat.min_le_left _ _⟩

theorem Advances.trans {p q r : Polled σ β γ} {n m : ℕ} (h : Advances item n p q)
    (h' : Advances item m q r) : Advances item (n + m) p r := by
  refine ⟨h.promised.trans h'.promised, ?_⟩
  -- the backlog of `p` is part of what `q` promises
  have hle := h.promised.length_le
  have hpq := h.progress
  have hqr := h'.progress
  omega

/-- What arrives comes after the backlog. -/
theorem advances_arrive (bs : List β) (p : Polled σ β γ) : Advances item 0 p (p.arrive bs) := by
  refine ⟨?_, Nat.min_le_left _ _⟩
  show p.out ++ (feed item p.state p.unread).2 <+:
    p.out ++ (feed item p.state (p.unread ++ bs)).2
  rw [feed_append, ← List.append_assoc]
  exact List.prefix_append _ _

/-- A call returns the front of the backlog. -/
theorem advances_read (p : Polled σ β γ) : Advances item 1 p (p.read item) := by
  have hcall : p.out ++ p.backlog item = (p.read item).out ++ (p.read item).backlog item := by
    unfold backlog read
    rw [feed_readOne item p.state p.unread, List.append_assoc]
  refine ⟨hcall ▸ List.prefix_rfl, ?_⟩
  cases hout : (readOne item p.state p.unread).1 with
  | none =>
    -- nothing is left
    have hrest := readOne_eq_none item hout
    have hempty : (p.read item).backlog item = [] := by
      unfold backlog read
      dsimp only
      rw [hrest]
      rfl
    rw [hcall, hempty, List.append_nil]
    exact Nat.min_le_right _ _
  | some out =>
    have hlength : (p.read item).out.length = p.out.length + 1 := by
      unfold read
      dsimp only
      rw [hout, Option.toList_some, List.length_append, List.length_singleton]
    rw [hlength]
    exact Nat.min_le_left _ _

/-- **Delivery**: as many calls as the backlog is long return all of it, in order. -/
theorem Advances.delivered {p q : Polled σ β γ} {n : ℕ} (h : Advances item n p q)
    (hn : (p.backlog item).length ≤ n) : p.out ++ p.backlog item <+: q.out := by
  have hprogress := h.progress
  rw [List.length_append] at hprogress
  refine List.prefix_of_prefix_length_le h.promised (List.prefix_append _ _) ?_
  rw [List.length_append]
  omega

end Polled

end Machine
