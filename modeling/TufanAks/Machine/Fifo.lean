import TufanAks.Machine.Ghost

/-!
# First-in first-out queues with an urgent bypass

A machine with a queue whose every step leaves the queue as it is, appends one element or removes
the head (`FifoStep`), while some `urgent` actions are not queued at all.  The ghost value `Stamps`
names, for each queued element, the position in the run of the action that appended it, and counts
how many queued elements the latest urgent action has overtaken.  `stampsSpec` says that these mean
what their names say, and `overtaken_not` bounds what can be overtaken.
-/

namespace Machine

variable {σ α ε : Type*}

/-- A step leaves the queue, appends one element, or removes the head. -/
def FifoStep (before after : List ε) : Prop :=
  after = before ∨ (∃ e, after = before ++ [e]) ∨ ∃ e, before = e :: after

/-- Where the queued elements come from. -/
structure Stamps where
  /-- The number of actions so far. -/
  now : ℕ := 0
  /-- For each queued element the position of the action that appended it. -/
  times : List ℕ := []
  /-- How many queued elements were already queued at the latest urgent action. -/
  overtaken : ℕ := 0

/-- The stamps after one more action. -/
def stamp (queue : σ → List ε) (step : σ → α → σ) (urgent : α → Bool) (g : Stamps) (s : σ)
    (a : α) : Stamps where
  now := g.now + 1
  times :=
    if (queue s).length < (queue (step s a)).length then g.times ++ [g.now]
    else if (queue (step s a)).length < (queue s).length then g.times.tail
    else g.times
  overtaken :=
    if urgent a then (queue s).length
    else if (queue (step s a)).length < (queue s).length then g.overtaken - 1
    else g.overtaken

/-- The stamps at the end of the run `as` from `s`, where the queue is empty. -/
def stamps (queue : σ → List ε) (step : σ → α → σ) (urgent : α → Bool) (s : σ)
    (as : List α) : Stamps :=
  ghost step (stamp queue step urgent) {} s as

variable {queue : σ → List ε} {step : σ → α → σ} {urgent : α → Bool}

/-- What the stamps of a run mean. -/
structure StampsSpec (queue : σ → List ε) (step : σ → α → σ) (urgent : α → Bool) (s : σ)
    (as : List α) (g : Stamps) : Prop where
  now_eq : g.now = as.length
  length_eq : g.times.length = (queue (exec step s as)).length
  overtaken_le : g.overtaken ≤ g.times.length
  /-- The action at the stamp of an element has appended that element. -/
  appended : ∀ k j : ℕ, g.times[k]? = some j → ∃ a e, as[j]? = some a ∧
    (queue (exec step s as))[k]? = some e ∧
    queue (step (exec step s (as.take j)) a) = queue (exec step s (as.take j)) ++ [e]
  /-- The overtaken elements are those with a later urgent action. -/
  overtaken_iff : ∀ k j : ℕ, g.times[k]? = some j →
    ((∃ i a, j < i ∧ as[i]? = some a ∧ urgent a = true) ↔ k < g.overtaken)

theorem stampsSpec_nil {s : σ} (h : queue s = []) : StampsSpec queue step urgent s [] {} where
  now_eq := rfl
  length_eq := by simp [h]
  overtaken_le := Nat.le_refl 0
  appended := by simp
  overtaken_iff := by simp

/-- An action at a position of a run is still there when the run goes on. -/
theorem getElem?_concat_of_eq_some {as : List α} {a b : α} {j : ℕ} (h : as[j]? = some b) :
    (as ++ [a])[j]? = some b ∧ (as ++ [a]).take j = as.take j := by
  have hj : j < as.length := (List.getElem?_eq_some_iff.mp h).1
  exact ⟨by rw [List.getElem?_append_left hj, h], List.take_append_of_le_length (Nat.le_of_lt hj)⟩

/-- A later urgent action of a longer run is one of the run or the last action. -/
theorem exists_urgent_concat_iff {as : List α} {a : α} {j : ℕ} (hj : j < as.length) :
    (∃ i b, j < i ∧ (as ++ [a])[i]? = some b ∧ urgent b = true) ↔
      (∃ i b, j < i ∧ as[i]? = some b ∧ urgent b = true) ∨ urgent a = true := by
  constructor
  · rintro ⟨i, b, hi, hget, hb⟩
    by_cases hlt : i < as.length
    · rw [List.getElem?_append_left hlt] at hget
      exact .inl ⟨i, b, hi, hget, hb⟩
    · have hlen := (List.getElem?_eq_some_iff.mp hget).1
      rw [List.length_append, List.length_singleton] at hlen
      obtain rfl : i = as.length := by omega
      rw [List.getElem?_concat_length] at hget
      obtain rfl := Option.some.inj hget
      exact .inr hb
  · rintro (⟨i, b, hi, hget, hb⟩ | ha)
    · exact ⟨i, b, hi, (getElem?_concat_of_eq_some hget).1, hb⟩
    · exact ⟨as.length, a, hj, List.getElem?_concat_length, ha⟩

/-- An action that leaves the queue as it is. -/
theorem StampsSpec.unchanged {s : σ} {as : List α} {a : α} {g : Stamps}
    (h : StampsSpec queue step urgent s as g)
    (hq : queue (step (exec step s as) a) = queue (exec step s as)) :
    StampsSpec queue step urgent s (as ++ [a]) (stamp queue step urgent g (exec step s as) a) := by
  have htimes : (stamp queue step urgent g (exec step s as) a).times = g.times := by
    simp [stamp, hq]
  have hover : (stamp queue step urgent g (exec step s as) a).overtaken
      = if urgent a then (queue (exec step s as)).length else g.overtaken := by
    simp [stamp, hq]
  refine ⟨by simp [stamp, h.now_eq], ?_, ?_, ?_, ?_⟩
  · rw [htimes, exec_concat, hq, h.length_eq]
  · rw [htimes, hover]
    split_ifs
    · exact Nat.le_of_eq h.length_eq.symm
    · exact h.overtaken_le
  · intro k j hk
    rw [htimes] at hk
    obtain ⟨b, e, hb, he, happ⟩ := h.appended k j hk
    obtain ⟨hget, htake⟩ := getElem?_concat_of_eq_some (a := a) hb
    exact ⟨b, e, hget, by rw [exec_concat, hq, he], by rw [htake, happ]⟩
  · intro k j hk
    rw [htimes] at hk
    obtain ⟨b, e, hb, -, -⟩ := h.appended k j hk
    have hj : j < as.length := (List.getElem?_eq_some_iff.mp hb).1
    have hklt : k < g.times.length := (List.getElem?_eq_some_iff.mp hk).1
    rw [exists_urgent_concat_iff hj, h.overtaken_iff k j hk, hover]
    by_cases hurgent : urgent a = true
    · rw [if_pos hurgent, ← h.length_eq]
      exact iff_of_true (.inr hurgent) hklt
    · rw [if_neg hurgent]
      simp [hurgent]

/-- An action that appends an element. -/
theorem StampsSpec.append {s : σ} {as : List α} {a : α} {g : Stamps}
    (h : StampsSpec queue step urgent s as g) (hurgent : urgent a = false) {e : ε}
    (hq : queue (step (exec step s as) a) = queue (exec step s as) ++ [e]) :
    StampsSpec queue step urgent s (as ++ [a]) (stamp queue step urgent g (exec step s as) a) := by
  have htimes : (stamp queue step urgent g (exec step s as) a).times
      = g.times ++ [as.length] := by
    simp [stamp, hq, h.now_eq]
  have hover : (stamp queue step urgent g (exec step s as) a).overtaken = g.overtaken := by
    simp only [stamp, hq, hurgent, List.length_append, List.length_singleton]
    rw [if_neg (by simp), if_neg (by omega)]
  -- a stamp is an old one, or the new one at the end
  have hcases : ∀ k j : ℕ, (g.times ++ [as.length])[k]? = some j →
      g.times[k]? = some j ∨ k = g.times.length ∧ j = as.length := by
    intro k j hk
    by_cases hlt : k < g.times.length
    · rw [List.getElem?_append_left hlt] at hk
      exact .inl hk
    · have hlen := (List.getElem?_eq_some_iff.mp hk).1
      rw [List.length_append, List.length_singleton] at hlen
      obtain rfl : k = g.times.length := by omega
      rw [List.getElem?_concat_length] at hk
      exact .inr ⟨rfl, (Option.some.inj hk).symm⟩
  refine ⟨by simp [stamp, h.now_eq], ?_, ?_, ?_, ?_⟩
  · rw [htimes, exec_concat, hq, List.length_append, List.length_append, h.length_eq]
    rfl
  · rw [htimes, hover, List.length_append]
    exact Nat.le_add_right_of_le h.overtaken_le
  · intro k j hk
    rw [htimes] at hk
    rw [exec_concat, hq]
    rcases hcases k j hk with hk | ⟨rfl, rfl⟩
    · obtain ⟨b, e', hb, he, happ⟩ := h.appended k j hk
      obtain ⟨hget, htake⟩ := getElem?_concat_of_eq_some (a := a) hb
      have hklt : k < (queue (exec step s as)).length := (List.getElem?_eq_some_iff.mp he).1
      exact ⟨b, e', hget, by rw [List.getElem?_append_left hklt, he], by rw [htake, happ]⟩
    · refine ⟨a, e, List.getElem?_concat_length, ?_, ?_⟩
      · rw [h.length_eq, List.getElem?_concat_length]
      · rw [List.take_left, hq]
  · intro k j hk
    rw [htimes] at hk
    rw [hover]
    rcases hcases k j hk with hk | ⟨rfl, rfl⟩
    · obtain ⟨b, e', hb, -, -⟩ := h.appended k j hk
      have hj : j < as.length := (List.getElem?_eq_some_iff.mp hb).1
      rw [exists_urgent_concat_iff hj, h.overtaken_iff k j hk]
      simp [hurgent]
    · refine iff_of_false ?_ (Nat.not_lt.mpr h.overtaken_le)
      rintro ⟨i, b, hi, hget, -⟩
      have hlen := (List.getElem?_eq_some_iff.mp hget).1
      rw [List.length_append, List.length_singleton] at hlen
      omega

/-- An action that removes the head. -/
theorem StampsSpec.remove {s : σ} {as : List α} {a : α} {g : Stamps}
    (h : StampsSpec queue step urgent s as g) (hurgent : urgent a = false) {e : ε}
    (hq : queue (exec step s as) = e :: queue (step (exec step s as) a)) :
    StampsSpec queue step urgent s (as ++ [a]) (stamp queue step urgent g (exec step s as) a) := by
  have htimes : (stamp queue step urgent g (exec step s as) a).times = g.times.tail := by
    simp only [stamp, hq, List.length_cons]
    rw [if_neg (by omega), if_pos (by omega)]
  have hover : (stamp queue step urgent g (exec step s as) a).overtaken = g.overtaken - 1 := by
    simp [stamp, hq, hurgent]
  have hlen : g.times.length = (queue (step (exec step s as) a)).length + 1 := by
    rw [h.length_eq, hq, List.length_cons]
  refine ⟨by simp [stamp, h.now_eq], ?_, ?_, ?_, ?_⟩
  · rw [htimes, exec_concat, List.length_tail, hlen, Nat.add_sub_cancel]
  · rw [htimes, hover, List.length_tail]
    exact Nat.sub_le_sub_right h.overtaken_le 1
  · intro k j hk
    rw [htimes, List.getElem?_tail] at hk
    obtain ⟨b, e', hb, he, happ⟩ := h.appended (k + 1) j hk
    obtain ⟨hget, htake⟩ := getElem?_concat_of_eq_some (a := a) hb
    rw [hq, List.getElem?_cons_succ] at he
    exact ⟨b, e', hget, by rw [exec_concat, he], by rw [htake, happ]⟩
  · intro k j hk
    rw [htimes, List.getElem?_tail] at hk
    obtain ⟨b, e', hb, -, -⟩ := h.appended (k + 1) j hk
    have hj : j < as.length := (List.getElem?_eq_some_iff.mp hb).1
    rw [exists_urgent_concat_iff hj, h.overtaken_iff (k + 1) j hk, hover]
    simp only [hurgent, Bool.false_eq_true, or_false]
    omega

/-- **The stamps mean what they say**, for a machine that starts with an empty queue, changes it
in first-in first-out steps only, and leaves it alone in urgent actions. -/
theorem stampsSpec {s : σ} (h0 : queue s = [])
    (hfifo : ∀ t a, FifoStep (queue t) (queue (step t a)))
    (hurgent : ∀ t a, urgent a = true → queue (step t a) = queue t) (as : List α) :
    StampsSpec queue step urgent s as (stamps queue step urgent s as) := by
  induction as using List.reverseRecOn with
  | nil => exact stampsSpec_nil h0
  | append_singleton as a ih =>
    rw [stamps, ghost_concat]
    by_cases ha : urgent a = true
    · exact ih.unchanged (hurgent _ a ha)
    · rw [Bool.not_eq_true] at ha
      rcases hfifo (exec step s as) a with hq | ⟨e, hq⟩ | ⟨e, hq⟩
      · exact ih.unchanged hq
      · exact ih.append ha hq
      · exact ih.remove ha hq

/-- If no urgent action finds an element with `p` in the queue, none of the overtaken elements has
`p`. -/
theorem overtaken_not {p : ε → Prop} {s : σ} {as : List α} (h0 : queue s = [])
    (hfifo : ∀ t a, FifoStep (queue t) (queue (step t a)))
    (hurgent : ∀ t a, urgent a = true → queue (step t a) = queue t)
    (h : Along step (fun t a => urgent a = true → ∀ e ∈ queue t, ¬p e) s as) :
    ∀ e ∈ (queue (exec step s as)).take (stamps queue step urgent s as).overtaken, ¬p e := by
  induction as using List.reverseRecOn with
  | nil => simp [h0]
  | append_singleton as a ih =>
    obtain ⟨has, ha, -⟩ := (along_append s as [a]).mp h
    have hspec := stampsSpec h0 hfifo hurgent as
    have ih := ih has
    have hconcat : stamps queue step urgent s (as ++ [a])
        = stamp queue step urgent (stamps queue step urgent s as) (exec step s as) a :=
      ghost_concat _ _ _ _
    have hle := hspec.overtaken_le
    rw [hspec.length_eq] at hle
    rw [hconcat, exec_concat]
    generalize stamps queue step urgent s as = g at ih hle
    intro e he
    by_cases hu : urgent a = true
    · refine ha hu e ?_
      rw [hurgent _ a hu] at he
      exact List.mem_of_mem_take he
    · simp only [stamp, hu, Bool.false_eq_true, if_false] at he
      rcases hfifo (exec step s as) a with hq | ⟨e', hq⟩ | ⟨e', hq⟩
      · rw [hq, if_neg (Nat.lt_irrefl _)] at he
        exact ih e he
      · rw [hq, List.length_append, List.length_singleton, if_neg (by omega),
          List.take_append_of_le_length hle] at he
        exact ih e he
      · rw [hq, List.length_cons, if_pos (by omega)] at he
        refine ih e ?_
        rw [hq]
        rcases hover : g.overtaken with _ | n
        · simp [hover] at he
        · rw [hover, Nat.add_sub_cancel] at he
          exact List.mem_cons_of_mem _ he

end Machine
