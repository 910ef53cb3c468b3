import TufanAks.BmsNextionPacket
import TufanAks.Budget.Refresh
import TufanAks.Machine.Ghost

/-!
# The cache of `buildBmsNextionCommands`

A call is a refresh under a budget (`refreshed_foldl`): of the components that are due it sends the
ones that fit, and it caches what it has sent and nothing else.  So the cache shows of every
component what was sent of it last (`coherent`).
-/

namespace TufanAks

open Budget

/-! ### Components -/

namespace BmsComponent

/-- All components, in the order in which they are processed. -/
def components : List BmsComponent := cells ++ summary

/-- The bytes that showing a component takes, with the end of the command. -/
def size (comp : BmsComputed) (raw : BmsPackData) (c : BmsComponent) : ℕ :=
  (c.command (c.value comp raw)).body.length + 3

theorem mem_components (c : BmsComponent) : c ∈ components := by
  cases c <;> simp [components, cells, summary]

theorem nodup_components : components.Nodup := by decide +kernel

/-- Storing a component sets its entry to the value shown. -/
theorem cached_store_self (comp : BmsComputed) (raw : BmsPackData) (cache : BmsNextionCache)
    (c : BmsComponent) : c.cached (c.store comp raw cache) = c.value comp raw := by
  cases c with
  | bal i =>
    simp only [cached, store, value, Function.update_self]
    split_ifs <;> rfl
  | _ => simp [cached, store, value]

/-- And no other entry. -/
theorem cached_store_of_ne (comp : BmsComputed) (raw : BmsPackData) (cache : BmsNextionCache)
    {c d : BmsComponent} (h : d ≠ c) : d.cached (c.store comp raw cache) = d.cached cache := by
  cases c with
  | cell i =>
    cases d with
    | cell i' => exact congrArg UInt16.toNat (Function.update_of_ne (by simpa using h) _ _)
    | _ => rfl
  | j i =>
    cases d with
    | j i' => exact congrArg UInt8.toNat (Function.update_of_ne (by simpa using h) _ _)
    | _ => rfl
  | bal i =>
    cases d with
    | bal i' => exact congrArg UInt8.toNat (Function.update_of_ne (by simpa using h) _ _)
    | _ => rfl
  | cellmax =>
    cases d with
    | cellmax => exact absurd rfl h
    | _ => rfl
  | cellmin =>
    cases d with
    | cellmin => exact absurd rfl h
    | _ => rfl
  | warn =>
    cases d with
    | warn => exact absurd rfl h
    | _ => rfl

end BmsComponent

namespace BmsNextionPass

variable (comp : BmsComputed) (raw : BmsPackData) (force : Bool) (maxBytes : ℕ)

/-! ### One component -/

/-- What a call sends if it can. -/
def due (cache : BmsNextionCache) (cs : List BmsComponent) : List BmsComponent :=
  cs.filter fun c => force || c.value comp raw != c.cached cache

/-- What processing a component can do. -/
inductive Processed (p : BmsNextionPass) (c : BmsComponent) : BmsNextionPass → Prop
  | idle (h : (force || c.value comp raw != c.cached p.cache) = false) : Processed p c p
  | failed (h : (force || c.value comp raw != c.cached p.cache) = true)
      (hfull : p.budgetExhausted = true ∨ maxBytes < p.currentBytes + c.size comp raw) :
      Processed p c { p with budgetExhausted := true, allProcessed := false }
  | sent (h : (force || c.value comp raw != c.cached p.cache) = true)
      (hopen : p.budgetExhausted = false) (hfits : p.currentBytes + c.size comp raw ≤ maxBytes) :
      Processed p c
        { p with
          sent := p.sent ++ [(c, c.value comp raw)]
          currentBytes := p.currentBytes + c.size comp raw
          cache := c.store comp raw p.cache }

theorem processed (p : BmsNextionPass) (c : BmsComponent) :
    Processed comp raw force maxBytes p c (process comp raw force maxBytes p c) := by
  have hpos : ¬(c.command (c.value comp raw)).body.length ≤ 0 := by
    simp [BmsComponent.command, NextionCommand.body]
  unfold process
  by_cases h : force = true ∨ c.value comp raw ≠ c.cached p.cache
  · have hdue : (force || c.value comp raw != c.cached p.cache) = true := by simpa using h
    rw [if_pos h]
    unfold emitAndCheck
    by_cases hopen : p.budgetExhausted = true
    · have hsame : { p with allProcessed := false } =
          { p with budgetExhausted := true, allProcessed := false } := by rw [← hopen]
      rw [if_pos hopen]
      show Processed comp raw force maxBytes p c { p with allProcessed := false }
      rw [hsame]
      exact .failed hdue (.inl hopen)
    · rw [if_neg hopen]
      dsimp only
      rw [if_neg hpos]
      by_cases hfull : p.currentBytes + (c.command (c.value comp raw)).body.length + 3 > maxBytes
      · rw [if_pos hfull]
        exact .failed hdue (.inr hfull)
      · rw [if_neg hfull]
        exact .sent hdue (Bool.eq_false_of_not_eq_true hopen) (Nat.not_lt.mp hfull)
  · have hidle : (force || c.value comp raw != c.cached p.cache) = false := by simpa using h
    rw [if_neg h]
    exact .idle hidle

/-! ### One call -/

variable {comp raw force maxBytes}

theorem due_cons_of_true {cache : BmsNextionCache} {c : BmsComponent} {cs : List BmsComponent}
    (h : (force || c.value comp raw != c.cached cache) = true) :
    due comp raw force cache (c :: cs) = c :: due comp raw force cache cs :=
  List.filter_cons_of_pos h

theorem due_cons_of_false {cache : BmsNextionCache} {c : BmsComponent} {cs : List BmsComponent}
    (h : (force || c.value comp raw != c.cached cache) = false) :
    due comp raw force cache (c :: cs) = due comp raw force cache cs :=
  List.filter_cons_of_neg (by simp [h])

/-- Another component's entry does not decide whether a component is due. -/
theorem due_store {cache : BmsNextionCache} {c : BmsComponent} {cs : List BmsComponent}
    (h : c ∉ cs) :
    due comp raw force (c.store comp raw cache) cs = due comp raw force cache cs := by
  refine List.filter_congr fun d hd => ?_
  have hne : d ≠ c := by
    rintro rfl
    exact h hd
  rw [BmsComponent.cached_store_of_ne comp raw cache hne]

/-- From `p` to `q` the components `cs` were sent and cached. -/
structure Refreshed (comp : BmsComputed) (raw : BmsPackData) (p q : BmsNextionPass)
    (cs : List BmsComponent) : Prop where
  sent : q.sent = p.sent ++ cs.map fun c => (c, c.value comp raw)
  cached : BmsComponent.cached q.cache =
    store cs (BmsComponent.value comp raw) (BmsComponent.cached p.cache)

theorem Refreshed.refl (p : BmsNextionPass) : Refreshed comp raw p p [] :=
  ⟨(List.append_nil _).symm, rfl⟩

/-- One component more, sent before the others. -/
theorem Refreshed.cons {p q : BmsNextionPass} {c : BmsComponent} {cs : List BmsComponent}
    {bytes : ℕ}
    (h : Refreshed comp raw
      { p with
        sent := p.sent ++ [(c, c.value comp raw)]
        currentBytes := bytes
        cache := c.store comp raw p.cache } q cs) : Refreshed comp raw p q (c :: cs) := by
  refine ⟨?_, ?_⟩
  · rw [h.sent, List.append_assoc]
    rfl
  · rw [h.cached]
    funext d
    by_cases hd : d = c
    · subst hd
      rw [store_of_mem List.mem_cons_self]
      by_cases hmem : d ∈ cs
      · rw [store_of_mem hmem]
      · rw [store_of_not_mem hmem]
        exact BmsComponent.cached_store_self comp raw p.cache d
    · have hother := BmsComponent.cached_store_of_ne comp raw p.cache hd
      by_cases hmem : d ∈ cs
      · rw [store_of_mem hmem, store_of_mem (List.mem_cons_of_mem c hmem)]
      · rw [store_of_not_mem hmem, store_of_not_mem (by simp [hd, hmem])]
        exact hother

/-- What a pass sends of the components `cs` that are still to come. -/
def sends (comp : BmsComputed) (raw : BmsPackData) (force : Bool) (maxBytes : ℕ)
    (p : BmsNextionPass) (cs : List BmsComponent) : List BmsComponent :=
  if p.budgetExhausted then []
  else fitting (BmsComponent.size comp raw) (maxBytes - p.currentBytes)
    (due comp raw force p.cache cs)

/-- **A pass** over different components sends those that are due and fit. -/
theorem refreshed_foldl {cs : List BmsComponent} (hnodup : cs.Nodup) {p : BmsNextionPass}
    (hbytes : p.currentBytes ≤ maxBytes) :
    Refreshed comp raw p (cs.foldl (process comp raw force maxBytes) p)
      (sends comp raw force maxBytes p cs) := by
  induction cs generalizing p with
  | nil =>
    have hnone : sends comp raw force maxBytes p [] = [] := by simp [sends, due]
    rw [hnone]
    exact .refl p
  | cons c cs ih =>
    rw [List.nodup_cons] at hnodup
    rw [List.foldl_cons]
    have hone := processed comp raw force maxBytes p c
    generalize process comp raw force maxBytes p c = q at hone ⊢
    cases hone with
    | idle h =>
      have hskip : sends comp raw force maxBytes p (c :: cs) =
          sends comp raw force maxBytes p cs := by simp only [sends, due_cons_of_false h]
      rw [hskip]
      exact ih hnodup.2 hbytes
    | failed h hfull =>
      -- nothing is sent from here on
      have hnone : sends comp raw force maxBytes p (c :: cs) = [] := by
        unfold sends
        rcases hfull with hfull | hfull
        · rw [if_pos hfull]
        · rw [due_cons_of_true h, fitting_cons_of_lt (by omega)]
          split_ifs <;> rfl
      have hrest := ih hnodup.2 (p := { p with budgetExhausted := true, allProcessed := false })
        hbytes
      rw [hnone]
      exact ⟨hrest.sent, hrest.cached⟩
    | sent h hopen hfits =>
      have hmore : sends comp raw force maxBytes p (c :: cs) =
          c :: sends comp raw force maxBytes
            { p with
              sent := p.sent ++ [(c, c.value comp raw)]
              currentBytes := p.currentBytes + c.size comp raw
              cache := c.store comp raw p.cache } cs := by
        unfold sends
        simp only [hopen]
        rw [if_neg Bool.false_ne_true, if_neg Bool.false_ne_true, due_cons_of_true h,
          fitting_cons_of_le (by omega), due_store hnodup.1, Nat.sub_add_eq]
      have hrest := ih hnodup.2 (p :=
        { p with
          sent := p.sent ++ [(c, c.value comp raw)]
          currentBytes := p.currentBytes + c.size comp raw
          cache := c.store comp raw p.cache }) hfits
      rw [hmore]
      exact hrest.cons

end BmsNextionPass

/-- The arguments of a call. -/
structure BmsNextionCall where
  comp : BmsComputed
  raw : BmsPackData
  forceFullRefresh : Bool
  updateCells : Bool
  maxBytes : ℕ

namespace BmsNextionCall

open BmsNextionPass BmsComponent

/-- The call: the components sent with their values, and the cache after it. -/
def run (call : BmsNextionCall) (cache : BmsNextionCache) :
    List (BmsComponent × ℕ) × BmsNextionCache :=
  buildBmsNextionCommands call.comp call.raw cache call.forceFullRefresh call.updateCells
    call.maxBytes

/-- The components that the call looks at. -/
def covered (call : BmsNextionCall) (cache : BmsNextionCache) : List BmsComponent :=
  if call.updateCells || call.forceFullRefresh || !cache.isWarm then components else summary

/-- The components that the call sends. -/
def sent (call : BmsNextionCall) (cache : BmsNextionCache) : List BmsComponent :=
  fitting (size call.comp call.raw) call.maxBytes
    (due call.comp call.raw call.forceFullRefresh cache (call.covered cache))

theorem nodup_covered (call : BmsNextionCall) (cache : BmsNextionCache) :
    (call.covered cache).Nodup := by
  unfold covered
  split_ifs
  · exact nodup_components
  · decide

/-- The flag `isWarm` is no entry. -/
theorem cached_warm (cache : BmsNextionCache) (isWarm : Bool) :
    cached { cache with isWarm := isWarm } = cached cache := by
  funext c
  cases c <;> rfl

/-- **A call** sends of the components that it looks at those that are due and fit, with their
current values, and caches them. -/
theorem run_spec (call : BmsNextionCall) (cache : BmsNextionCache) :
    (call.run cache).1 =
        (call.sent cache).map (fun c => (c, c.value call.comp call.raw)) ∧
      cached (call.run cache).2 =
        store (call.sent cache) (value call.comp call.raw) (cached cache) := by
  let pass := (call.covered cache).foldl
    (process call.comp call.raw call.forceFullRefresh call.maxBytes) { cache }
  have hpass : Refreshed call.comp call.raw { cache } pass (call.sent cache) :=
    refreshed_foldl (call.nodup_covered cache) (Nat.zero_le _)
  have hrun : call.run cache = (pass.sent,
      if pass.allProcessed then { pass.cache with isWarm := true } else pass.cache) := by
    show buildBmsNextionCommands _ _ _ _ _ _ = _
    unfold pass buildBmsNextionCommands covered
    dsimp only
    by_cases hall : (call.updateCells || call.forceFullRefresh || !cache.isWarm) = true
    · rw [if_pos hall, if_pos hall, components, List.foldl_append]
    · rw [if_neg hall, if_neg hall]
  have hcached : cached (call.run cache).2 = cached pass.cache := by
    rw [hrun]
    dsimp only
    split_ifs
    · exact cached_warm pass.cache true
    · rfl
  refine ⟨?_, hcached.trans hpass.cached⟩
  rw [hrun]
  exact hpass.sent

/-! ### Every sequence of calls -/

/-- The cache after a call. -/
def step (cache : BmsNextionCache) (call : BmsNextionCall) : BmsNextionCache := (call.run cache).2

/-- What the calls send, starting with `cache`. -/
def emitted (cache : BmsNextionCache) (calls : List BmsNextionCall) : List (BmsComponent × ℕ) :=
  Machine.ghost step (fun es cache call => es ++ (run call cache).1) [] cache calls

/-- The value of the component that was sent last. -/
def lastEmitted (c : BmsComponent) (es : List (BmsComponent × ℕ)) : Option ℕ :=
  ((es.filter fun e => e.1 = c).getLast?).map Prod.snd

theorem lastEmitted_append (c : BmsComponent) (es new : List (BmsComponent × ℕ)) :
    lastEmitted c (es ++ new) = (lastEmitted c new).or (lastEmitted c es) := by
  unfold lastEmitted
  rw [List.filter_append, List.getLast?_append]
  cases (new.filter fun e => e.1 = c).getLast? <;> rfl

/-- Every component sent has its current value. -/
theorem lastEmitted_map {f : BmsComponent → ℕ} {c : BmsComponent} {cs : List BmsComponent} :
    lastEmitted c (cs.map fun d => (d, f d)) = if c ∈ cs then some (f c) else none := by
  induction cs using List.reverseRecOn with
  | nil => rfl
  | append_singleton cs d ih =>
    rw [List.map_append, lastEmitted_append, ih]
    by_cases hd : d = c
    · subst hd
      simp [lastEmitted]
    · have hne : c ≠ d := fun h => hd h.symm
      simp [lastEmitted, hd, hne]

/-- The promises about one call. -/
structure CallRight (cache : BmsNextionCache) (call : BmsNextionCall) : Prop where
  /-- The commands with their ends take no more than `maxBytes`. -/
  budget : ((call.run cache).1.map fun e => (e.1.command e.2).body.length + 3).sum ≤ call.maxBytes
  current : ∀ e ∈ (call.run cache).1, e.2 = e.1.value call.comp call.raw
  /-- Only a component that is sent changes its entry in the cache. -/
  untouched : ∀ c, (∀ e ∈ (call.run cache).1, e.1 ≠ c) →
    c.cached (step cache call) = c.cached cache

theorem callRight (cache : BmsNextionCache) (call : BmsNextionCall) : CallRight cache call := by
  obtain ⟨hsent, hcached⟩ := call.run_spec cache
  refine ⟨?_, ?_, ?_⟩
  · rw [hsent, List.map_map]
    exact sum_fitting_le (size call.comp call.raw) call.maxBytes _
  · rw [hsent]
    intro e he
    obtain ⟨c, -, rfl⟩ := List.mem_map.mp he
    rfl
  · intro c hnone
    have hout : c ∉ call.sent cache := by
      intro hmem
      refine hnone (c, c.value call.comp call.raw) ?_ rfl
      rw [hsent]
      exact List.mem_map_of_mem hmem
    rw [step, hcached, store_of_not_mem hout]

/-- The promises about the calls on one cache. -/
structure Coherent (cache : BmsNextionCache) (calls : List BmsNextionCall) : Prop where
  right : Machine.Along step CallRight cache calls
  /-- The cache shows what was sent last of every component. -/
  cached : ∀ c v, lastEmitted c (emitted cache calls) = some v →
    c.cached (Machine.exec step cache calls) = v

/-- **Budget and coherence**: every call keeps its budget and sends current values, and the cache
shows what was sent last, for every sequence of calls on any cache. -/
theorem coherent (cache : BmsNextionCache) (calls : List BmsNextionCall) :
    Coherent cache calls := by
  refine ⟨?_, ?_⟩
  · rw [Machine.along_iff_forall]
    exact fun pre call _ _ => callRight (Machine.exec step cache pre) call
  · intro c
    induction calls using List.reverseRecOn with
    | nil => exact fun v h => by cases h
    | append_singleton calls call ih =>
      obtain ⟨hsent, hcached⟩ := call.run_spec (Machine.exec step cache calls)
      intro v h
      rw [emitted, Machine.ghost_concat, lastEmitted_append, hsent, lastEmitted_map] at h
      rw [Machine.exec_concat, step, hcached]
      by_cases hmem : c ∈ call.sent (Machine.exec step cache calls)
      · rw [if_pos hmem, Option.some_or, Option.some.injEq] at h
        rw [store_of_mem hmem, h]
      · rw [if_neg hmem, Option.none_or] at h
        rw [store_of_not_mem hmem]
        exact ih v h

end BmsNextionCall

end TufanAks
