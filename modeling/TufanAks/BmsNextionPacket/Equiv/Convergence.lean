import TufanAks.BmsNextionPacket.Equiv.Coherence

/-!
# Whether the whole screen is refreshed

The first call is forced and sends the components that fit into its budget.  The later calls send
what differs from the cache, at least one component each, so that nothing is pending after 75 calls
(`known`).  A component that the first call does not reach and whose value is the one that a fresh
cache holds is never pending, and never sent (`converges_iff`).
-/

namespace TufanAks

open Budget

/-! ### The size of a command -/

namespace BmsComponent

theorem length_components : components.length = 75 := by
  simp [components, cells, summary]

theorem length_name_le (c : BmsComponent) : c.name.toList.length ≤ 7 := by
  have hcell : ∀ i : Fin 24, (BmsComponent.cell i).name.toList.length ≤ 7 := by decide
  have hj : ∀ i : Fin 24, (BmsComponent.j i).name.toList.length ≤ 7 := by decide
  have hbal : ∀ i : Fin 24, (BmsComponent.bal i).name.toList.length ≤ 7 := by decide
  cases c with
  | cell i => exact hcell i
  | j i => exact hj i
  | bal i => exact hbal i
  | _ => decide

theorem value_lt (comp : BmsComputed) (raw : BmsPackData) (c : BmsComponent) :
    c.value comp raw < 65536 := by
  cases c with
  | cell i => exact UInt16.toNat_lt _
  | j i => exact (UInt8.toNat_lt _).trans (by decide)
  | bal i =>
    simp only [value]
    split_ifs <;> decide
  | cellmax => exact UInt16.toNat_lt _
  | cellmin => exact UInt16.toNat_lt _
  | warn => exact (UInt8.toNat_lt _).trans (by decide)

/-- Twenty bytes are enough for any component. -/
theorem size_le (comp : BmsComputed) (raw : BmsPackData) (c : BmsComponent) :
    c.size comp raw ≤ 20 := by
  have hname := c.length_name_le
  have hdigits : (Text.decimal (c.value comp raw)).length ≤ 5 :=
    Text.length_decimal_natCast_le (by decide) ((c.value_lt comp raw).trans (by decide))
  have hmid : ".val=".toList.length = 5 := rfl
  unfold size command NextionCommand.body
  rw [List.length_append, List.length_append, hmid]
  omega

/-- The bytes of the commands up to that of `c`, if all components are sent. -/
def bytesThrough (comp : BmsComputed) (raw : BmsPackData) (c : BmsComponent) : ℕ :=
  ((components.take (components.idxOf c + 1)).map (size comp raw)).sum

/-- A component is among the first ones that fit when the commands up to its own do. -/
theorem mem_fitting_components_iff {comp : BmsComputed} {raw : BmsPackData} {maxBytes : ℕ}
    (c : BmsComponent) :
    c ∈ fitting (size comp raw) maxBytes components ↔ bytesThrough comp raw c ≤ maxBytes := by
  have hlt : components.idxOf c < components.length := List.idxOf_lt_length_of_mem c.mem_components
  have hget : components[components.idxOf c] = c := List.getElem_idxOf hlt
  have hsplit : components = components.take (components.idxOf c) ++
      c :: components.drop (components.idxOf c + 1) := by
    conv_lhs => rw [← List.take_append_drop (components.idxOf c) components,
      List.drop_eq_getElem_cons hlt, hget]
  have hnodup := nodup_components
  rw [hsplit] at hnodup
  have hmem : c ∈ fitting (size comp raw) maxBytes (_ ++ c :: _) ↔ _ := mem_fitting_iff hnodup
  rw [← hsplit] at hmem
  rw [hmem, bytesThrough, List.take_succ_eq_append_getElem hlt, hget]

end BmsComponent

/-! ### The calls of a refresh -/

namespace BmsNextionCall

open BmsNextionPass BmsComponent

/-- The calls of a refresh of constant data: the first is forced. -/
def refreshCall (comp : BmsComputed) (raw : BmsPackData) (maxBytes k : ℕ) : BmsNextionCall where
  comp := comp
  raw := raw
  forceFullRefresh := k == 0
  updateCells := true
  maxBytes := maxBytes

/-- The first `n` calls of a refresh. -/
def refreshCalls (comp : BmsComputed) (raw : BmsPackData) (maxBytes n : ℕ) :
    List BmsNextionCall :=
  (List.range n).map (refreshCall comp raw maxBytes)

theorem refreshCalls_succ (comp : BmsComputed) (raw : BmsPackData) (maxBytes n : ℕ) :
    refreshCalls comp raw maxBytes (n + 1) =
      refreshCalls comp raw maxBytes n ++ [refreshCall comp raw maxBytes n] := by
  unfold refreshCalls
  rw [List.range_succ, List.map_append, List.map_singleton]

variable (comp : BmsComputed) (raw : BmsPackData) (maxBytes : ℕ)

/-- The forced call sends what fits of all components. -/
theorem sent_refreshCall_zero (cache : BmsNextionCache) :
    (refreshCall comp raw maxBytes 0).sent cache =
      fitting (size comp raw) maxBytes components := by
  have hall : due comp raw true cache components = components :=
    List.filter_eq_self.mpr fun _ _ => rfl
  show fitting (size comp raw) maxBytes (due comp raw true cache components) = _
  rw [hall]

/-- A later call sends what fits of the pending ones. -/
theorem sent_refreshCall_succ (k : ℕ) (cache : BmsNextionCache) :
    (refreshCall comp raw maxBytes (k + 1)).sent cache =
      fitting (size comp raw) maxBytes (pending (value comp raw) (cached cache) components) := by
  have hdue : due comp raw false cache components =
      pending (value comp raw) (cached cache) components := by
    refine List.filter_congr fun c _ => ?_
    by_cases h : c.value comp raw = c.cached cache <;> simp [h]
  show fitting (size comp raw) maxBytes (due comp raw false cache components) = _
  rw [hdue]

/-- After `n + 1` calls the components `cs` have been sent. -/
structure Known (n : ℕ) (cs : List BmsComponent) : Prop where
  emitted : emitted {} (refreshCalls comp raw maxBytes (n + 1)) =
    cs.map fun c => (c, c.value comp raw)
  cached : cached (Machine.exec step {} (refreshCalls comp raw maxBytes (n + 1))) =
    store cs (value comp raw) (cached {})
  /-- They were within reach of the first call, or the fresh cache holds another value. -/
  source : ∀ c ∈ cs, bytesThrough comp raw c ≤ maxBytes ∨ c.value comp raw ≠ c.cached {}
  first : ∀ c, bytesThrough comp raw c ≤ maxBytes → c ∈ cs
  /-- Each call has sent a component, as long as there was one. -/
  left : (pending (value comp raw) (store cs (value comp raw) (BmsComponent.cached {}))
    components).length ≤ 74 - n

variable {comp raw maxBytes}

theorem known_zero (hbytes : 20 ≤ maxBytes) : ∃ cs, Known comp raw maxBytes 0 cs := by
  obtain ⟨hsent, hcached⟩ := (refreshCall comp raw maxBytes 0).run_spec {}
  rw [sent_refreshCall_zero] at hsent hcached
  refine ⟨fitting (size comp raw) maxBytes components, ?_, ?_, ?_, ?_, ?_⟩
  · rw [refreshCalls_succ, BmsNextionCall.emitted, Machine.ghost_concat]
    show [] ++ ((refreshCall comp raw maxBytes 0).run {}).1 = _
    rw [List.nil_append, hsent]
    rfl
  · rw [refreshCalls_succ, Machine.exec_concat]
    exact hcached
  · exact fun c hc => .inl ((mem_fitting_components_iff c).mp hc)
  · exact fun c hc => (mem_fitting_components_iff c).mpr hc
  · -- the very first component has been sent
    have hfirst : BmsComponent.cell 0 ∈ fitting (size comp raw) maxBytes components := by
      obtain ⟨rest, hcons⟩ : ∃ rest, components = .cell 0 :: rest := ⟨_, rfl⟩
      rw [hcons, fitting_cons_of_le ((size_le comp raw _).trans hbytes)]
      exact List.mem_cons_self
    have hlt : (pending (value comp raw) (store (fitting (size comp raw) maxBytes components)
        (value comp raw) (BmsComponent.cached {})) components).length < components.length :=
      List.length_filter_lt_length_iff_exists.mpr
        ⟨.cell 0, mem_components _, by simp [store_of_mem hfirst]⟩
    rw [length_components] at hlt
    exact Nat.le_of_lt_succ hlt

/-- **One more call** sends at least one of the pending components. -/
theorem Known.succ {n : ℕ} {cs : List BmsComponent} (h : Known comp raw maxBytes n cs)
    (hbytes : 20 ≤ maxBytes) : ∃ cs', Known comp raw maxBytes (n + 1) cs' := by
  let cache := Machine.exec step {} (refreshCalls comp raw maxBytes (n + 1))
  let more := fitting (size comp raw) maxBytes
    (pending (value comp raw) (BmsComponent.cached cache) components)
  have hmore : ∀ c ∈ more, c.value comp raw ≠ c.cached cache := fun c hc =>
    (mem_pending.mp ((isPrefix_fitting _ _ _).subset hc)).2
  obtain ⟨hsent, hcached⟩ := (refreshCall comp raw maxBytes (n + 1)).run_spec cache
  rw [sent_refreshCall_succ] at hsent hcached
  refine ⟨cs ++ more, ?_, ?_, ?_, ?_, ?_⟩
  · rw [refreshCalls_succ, BmsNextionCall.emitted, Machine.ghost_concat, List.map_append]
    exact congrArg₂ (· ++ ·) h.emitted hsent
  · rw [refreshCalls_succ, Machine.exec_concat, store_append, ← h.cached]
    exact hcached
  · intro c hc
    rcases List.mem_append.mp hc with hc | hc
    · exact h.source c hc
    · by_cases hold : c ∈ cs
      · exact h.source c hold
      · refine .inr fun heq => hmore c hc ?_
        rw [show BmsComponent.cached cache = _ from h.cached, store_of_not_mem hold, heq]
  · exact fun c hc => List.mem_append_left _ (h.first c hc)
  · have hleft :
        (pending (value comp raw) (BmsComponent.cached cache) components).length ≤ 74 - n :=
      h.cached ▸ h.left
    rw [store_append, ← h.cached]
    show (pending (value comp raw) (store more (value comp raw) (BmsComponent.cached cache))
      components).length ≤ _
    by_cases hnone : pending (value comp raw) (BmsComponent.cached cache) components = []
    · rw [pending_store, hnone]
      exact Nat.zero_le _
    · have hlt : (pending (value comp raw) (store more (value comp raw) (BmsComponent.cached cache))
          components).length < _ :=
        length_pending_store_lt (fun c _ => (c.size_le comp raw).trans hbytes) hnone
      omega

theorem known (hbytes : 20 ≤ maxBytes) (n : ℕ) : ∃ cs, Known comp raw maxBytes n cs := by
  induction n with
  | zero => exact known_zero hbytes
  | succ n ih =>
    obtain ⟨cs, h⟩ := ih
    exact h.succ hbytes

/-! ### Convergence -/

/-- Within 75 calls every component has been sent, with its current value last. -/
def Converges (comp : BmsComputed) (raw : BmsPackData) (maxBytes : ℕ) : Prop :=
  ∃ n ≤ 75, ∀ c, lastEmitted c (BmsNextionCall.emitted {} (refreshCalls comp raw maxBytes n)) =
    some (c.value comp raw)

/-- A component that the first call does not reach is only sent if it differs from the fresh
cache. -/
theorem reaches_of_converges {comp : BmsComputed} {raw : BmsPackData} {maxBytes : ℕ}
    (hbytes : 20 ≤ maxBytes) (h : Converges comp raw maxBytes) {c : BmsComponent}
    (hsame : c.value comp raw = c.cached {}) : bytesThrough comp raw c ≤ maxBytes := by
  obtain ⟨n, -, hall⟩ := h
  have hlast := hall c
  cases n with
  | zero => cases hlast
  | succ n =>
    obtain ⟨cs, h⟩ := known hbytes n
    rw [h.emitted, lastEmitted_map] at hlast
    split_ifs at hlast with hmem
    exact (h.source c hmem).resolve_right (not_not_intro hsame)

/-- **Convergence**: the whole screen is refreshed exactly when the first call reaches every
component whose value is the one that a fresh cache holds, which no later call sends. -/
theorem converges_iff (comp : BmsComputed) (raw : BmsPackData) (maxBytes : ℕ)
    (hbytes : 20 ≤ maxBytes) :
    Converges comp raw maxBytes ↔
      ∀ c, c.value comp raw = c.cached {} → bytesThrough comp raw c ≤ maxBytes := by
  refine ⟨fun h c hsame => reaches_of_converges hbytes h hsame, fun hreach => ?_⟩
  obtain ⟨cs, h⟩ := known hbytes 74
  refine ⟨75, Nat.le_refl 75, fun c => ?_⟩
  have hmem : c ∈ cs := by
    by_cases hsame : c.value comp raw = c.cached {}
    · exact h.first c (hreach c hsame)
    · -- nothing is pending any more
      by_contra hout
      have hpending : c ∈ pending (value comp raw)
          (store cs (value comp raw) (BmsComponent.cached {})) components :=
        mem_pending.mpr ⟨mem_components c, by rwa [store_of_not_mem hout]⟩
      have hnone := List.length_eq_zero_iff.mp (Nat.le_zero.mp h.left)
      rw [hnone] at hpending
      exact List.not_mem_nil hpending
  rw [h.emitted, lastEmitted_map, if_pos hmem]

/-- The pack data without cell voltages, as the display task has it before the first of them. -/
def noCellData : BmsPackData where
  cellVoltageMv := fun _ => HMI_CELL_VOLTAGE_NO_DATA
  isValid := true
  cellDataValid := false

theorem converges_noCellData_iff :
    Converges (computePack noCellData) noCellData 90 ↔
      ∀ c, c.value (computePack noCellData) noCellData = c.cached {} →
        bytesThrough (computePack noCellData) noCellData c ≤ 90 :=
  converges_iff _ _ 90 (by decide)

/-- Then the largest cell voltage, which is to be shown as 0, is not sent with the default
budget. -/
theorem not_converges_noCellData : ¬Converges (computePack noCellData) noCellData 90 := by
  intro h
  have hmax := reaches_of_converges (by decide) h (c := .cellmax) (by decide)
  exact absurd hmax (by decide +kernel)

end BmsNextionCall

end TufanAks
