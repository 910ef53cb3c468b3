import Mathlib.Data.List.DropRight
import TufanAks.Machine.Ghost
import TufanAks.VcuLogic.Equiv.Invariants

/-!
# The order of a safe shutdown

The handlers of the safe states are meant to request zero torque on entry, wait
`VCU_CONTACTOR_OPEN_DELAY_MS` and open the contactors.  A run is recorded tick by tick (`ticks`); a
visit of a safe state is a maximal block of ticks that end in it.  Both steps of the sequence
compare the same timer, which is one period old when the handler first runs, so that the request and
the opening fall into one tick; `shutdownInOrder_iff` states the only exception.
-/

namespace TufanAks.VcuLogic

open Machine

variable {σ : Type*} (act : IRelayActuator σ)

/-! ### Ticks and visits -/

/-- One call of `run`: the state it ends in and the commands it issues. -/
structure Tick where
  state : VcuState
  issued : List Command

/-- The commands that lead from the log of `v` to that of `w`. -/
def issuedBetween (v w : Vcu σ) : List Command := w.commands.drop v.commands.length

/-- The tick of a call. -/
def tick (v : Vcu σ) : Action σ → Option Tick
  | .run => some ⟨(run act v).s_state, issuedBetween v (run act v)⟩
  | _ => none

/-- The ticks of the run `as`, in order. -/
def ticks (q m : Bool) (relays : σ) (as : List (Action σ)) : List Tick :=
  observe (step act) (tick act) (init act q m relays) as

/-- The ticks of the visit of `s` that is going on after the ticks `ts`. -/
def visit (s : VcuState) (ts : List Tick) : List Tick := ts.rtakeWhile fun t => t.state = s

/-- The tick issues an `allOff`. -/
def Tick.opens (t : Tick) : Prop := ∃ c ∈ t.issued, c.isAllOff = true

/-- If the tick `t` issues the first `allOff` of its visit, which `before` ends with, zero torque
was requested in an earlier tick of the visit, at least `VCU_CONTACTOR_OPEN_DELAY_MS` before. -/
def OpensInOrder (before : List Tick) (t : Tick) : Prop :=
  t.state.safe → (∀ u ∈ visit t.state before, ¬u.opens) → t.opens →
    ∃ w₁ request w₂, visit t.state before = w₁ ++ request :: w₂ ∧ .torque 0 ∈ request.issued ∧
      VCU_CONTACTOR_OPEN_DELAY_MS.toNat ≤ TASK_PERIOD_MS.toNat * (w₂.length + 1)

/-- In every visit of a safe state the first `allOff` keeps the order of the shutdown. -/
def ShutdownInOrder (q m : Bool) (relays : σ) (as : List (Action σ)) : Prop :=
  ∀ before t rest, ticks act q m relays as = before ++ t :: rest → OpensInOrder before t

/-! ### The conditions -/

/-- The next `run` reaches the handler of a safe state whose visit has opened nothing yet. -/
def Pending (v : Vcu σ) : Prop :=
  v.s_state.safe ∧ FlagsStay v ∧ nextEvent v ≠ some .RESET ∧ relaysOpened v = false

/-- A torque sink is bound whenever the contactors are about to be opened. -/
def TorqueSinkBound (v : Vcu σ) : Prop := Pending v → v.s_torqueSink = true

/-- The handler has not run in this visit (its log timer is as on entry), and the state timer has
wrapped around to less than the delay. -/
def WaitsFirst (v : Vcu σ) : Prop :=
  Pending v → lastLogMs v = -1000 →
    v.s_stateTimer + TASK_PERIOD_MS < VCU_CONTACTOR_OPEN_DELAY_MS

/-! ### What the visit has done so far -/

variable {act}

/-- The visit after one more tick. -/
theorem visit_concat (s : VcuState) (ts : List Tick) (t : Tick) :
    visit s (ts ++ [t]) = if t.state = s then visit s ts ++ [t] else [] := by
  unfold visit
  rw [List.rtakeWhile_concat]
  simp

/-- What the latch and the log timer of the current safe state say about its visit. -/
structure VisitInv (v : Vcu σ) (ts : List Tick) : Prop where
  last : ∀ t ∈ ts.getLast?, t.state = v.s_state
  opened : relaysOpened v = true → ∃ t ∈ visit v.s_state ts, t.opens
  requested : v.s_state.safe → relaysOpened v = false → lastLogMs v ≠ -1000 →
    ∃ t ∈ visit v.s_state ts, .torque 0 ∈ t.issued
  waiting : v.s_state.safe → relaysOpened v = false → lastLogMs v = -1000 →
    ∀ t ∈ visit v.s_state ts, t.issued = []

/-- A visit of a state other than the current one is not going on. -/
theorem VisitInv.visit_eq_nil {v : Vcu σ} {ts : List Tick} (h : VisitInv v ts) {s : VcuState}
    (hs : s ≠ v.s_state) : visit s ts = [] := by
  rcases ts.eq_nil_or_concat with rfl | ⟨ts, t, rfl⟩
  · rfl
  · rw [List.concat_eq_append] at h ⊢
    have hlast := h.last t (by simp)
    rw [visit_concat, if_neg]
    exact fun ht => hs (ht.symm.trans hlast)

theorem issuedBetween_eq {v w : Vcu σ} (issued : List Command)
    (h : w.commands = v.commands ++ issued) : issuedBetween v w = issued := by
  rw [issuedBetween, h, List.drop_left]

/-- What a tick of the handler issues. -/
theorem issuedBetween_tick (act : IRelayActuator σ) {v : Vcu σ} (hs : v.s_state.safe)
    (queue : Option (List VcuEvent)) :
    issuedBetween v (periodic act (polled act v queue))
      = (shutdownTick v.s_torqueSink (v.s_stateTimer + TASK_PERIOD_MS) (relaysOpened v)
          (lastLogMs v)).commands :=
  issuedBetween_eq _ (periodic_of_safe act (polled act v queue) hs).1

/-- A tick of the handler before the delay has passed requests zero torque and moves the log timer
away from its value on entry. -/
theorem shutdownTick_of_lt (sink : Bool) {timer : UInt32} (log : UInt32)
    (h : timer < VCU_CONTACTOR_OPEN_DELAY_MS) :
    (shutdownTick sink timer false log).relaysOpened = false ∧
      (sink = true → .torque 0 ∈ (shutdownTick sink timer false log).commands) ∧
      (shutdownTick sink timer false log).lastLogMs ≠ -1000 := by
  have hdelay : ¬timer ≥ VCU_CONTACTOR_OPEN_DELAY_MS := by
    rw [ge_iff_le, UInt32.not_le]
    exact h
  rw [UInt32.lt_iff_toNat_lt] at h
  have hlt : timer.toNat < 20 := h
  refine ⟨by simp [shutdownTick, hdelay], ?_, ?_⟩
  · rintro rfl
    have hperiod : timer ≤ TASK_PERIOD_MS := by
      rw [UInt32.le_iff_toNat_le]
      exact Nat.le_of_lt h
    simp [shutdownTick, hperiod]
  · simp only [shutdownTick]
    split_ifs with hlog
    · rintro rfl
      exact absurd hlt (by decide)
    · -- one second before the entry is always long enough ago
      rintro rfl
      refine hlog ?_
      have hadd : (timer - -1000).toNat = (timer.toNat + 1000) % 2 ^ 32 := by
        rw [UInt32.sub_neg]
        exact UInt32.toNat_add _ _
      have hlit : (1000 : UInt32).toNat = 1000 := rfl
      rw [ge_iff_le, UInt32.le_iff_toNat_le, hadd, Nat.mod_eq_of_lt (by omega)]
      omega

/-- The first late enough tick of the handler issues an `allOff`. -/
theorem shutdownTick_of_ge (sink : Bool) {timer : UInt32} (log : UInt32)
    (h : VCU_CONTACTOR_OPEN_DELAY_MS ≤ timer) :
    (shutdownTick sink timer false log).relaysOpened = true ∧
      .allOff false ∈ (shutdownTick sink timer false log).commands := by
  refine ⟨by simp [shutdownTick, h], by simp [shutdownTick, h]⟩

/-- Before the delay has passed the handler opens nothing. -/
theorem not_isAllOff_of_lt {sink opened : Bool} {timer log : UInt32}
    (h : timer < VCU_CONTACTOR_OPEN_DELAY_MS) :
    ¬∃ c ∈ (shutdownTick sink timer opened log).commands, c.isAllOff = true := by
  have hdelay : ¬timer ≥ VCU_CONTACTOR_OPEN_DELAY_MS := by
    rw [ge_iff_le, UInt32.not_le]
    exact h
  rintro ⟨c, hc, hoff⟩
  simp only [shutdownTick, if_neg hdelay, List.append_nil] at hc
  split_ifs at hc
  · rw [List.mem_singleton] at hc
    subst hc
    cases hoff
  · cases hc

/-- A transition starts a new visit. -/
theorem VisitInv.transition {v : Vcu σ} {ts : List Tick} (h : VisitInv v ts) {next : VcuState}
    (hne : next ≠ v.s_state) (u : Vcu σ) :
    VisitInv (transitionTo next u) (ts ++ [⟨next, []⟩]) := by
  refine ⟨by simp, by simp, ?_, ?_⟩
  · intro hs _ hlog
    rw [transitionTo_s_state] at hs
    exact absurd (lastLogMs_transitionTo u next hs) hlog
  · intro _ _ _ t ht
    rw [transitionTo_s_state, visit_concat, if_pos rfl, h.visit_eq_nil hne] at ht
    rw [List.mem_singleton.mp ht]

/-- Outside the safe states there is no visit to speak of. -/
theorem VisitInv.of_not_safe {v : Vcu σ} (hs : ¬v.s_state.safe) (ts : List Tick)
    (issued : List Command) : VisitInv v (ts ++ [⟨v.s_state, issued⟩]) := by
  refine ⟨by simp, fun h => ?_, fun h => absurd h hs, fun h => absurd h hs⟩
  rw [relaysOpened_of_not_safe hs] at h
  cases h

/-- A tick without a command that leaves the latch and the log timer alone. -/
theorem VisitInv.silent {v w : Vcu σ} {ts : List Tick} (h : VisitInv v ts)
    (hstate : w.s_state = v.s_state) (hopened : relaysOpened w = relaysOpened v)
    (hlog : lastLogMs w = lastLogMs v) : VisitInv w (ts ++ [⟨v.s_state, []⟩]) := by
  have hvisit : visit w.s_state (ts ++ [⟨v.s_state, []⟩])
      = visit v.s_state ts ++ [⟨v.s_state, []⟩] := by
    rw [hstate, visit_concat, if_pos rfl]
  refine ⟨by simp [hstate], ?_, ?_, ?_⟩
  · rw [hopened, hvisit]
    intro ho
    obtain ⟨t, ht, hopens⟩ := h.opened ho
    exact ⟨t, List.mem_append_left _ ht, hopens⟩
  · rw [hopened, hlog, hvisit, hstate]
    intro hs ho hl
    obtain ⟨t, ht, htorque⟩ := h.requested hs ho hl
    exact ⟨t, List.mem_append_left _ ht, htorque⟩
  · rw [hopened, hlog, hvisit, hstate]
    intro hs ho hl t ht
    rcases List.mem_append.mp ht with ht | ht
    · exact h.waiting hs ho hl t ht
    · rw [List.mem_singleton.mp ht]

/-- A tick of the handler. -/
theorem VisitInv.ticked {v : Vcu σ} {ts : List Tick} (h : VisitInv v ts) (hs : v.s_state.safe)
    (hsink : relaysOpened v = false → v.s_torqueSink = true)
    (queue : Option (List VcuEvent)) :
    VisitInv (periodic act (polled act v queue))
      (ts ++ [⟨v.s_state, (shutdownTick v.s_torqueSink (v.s_stateTimer + TASK_PERIOD_MS)
        (relaysOpened v) (lastLogMs v)).commands⟩]) := by
  obtain ⟨-, hopened, hlog⟩ := periodic_of_safe act (polled act v queue) hs
  simp only [polled_s_torqueSink, polled_s_stateTimer, relaysOpened_polled, lastLogMs_polled]
    at hopened hlog
  generalize v.s_stateTimer + TASK_PERIOD_MS = timer at hopened hlog ⊢
  have hvisit : ∀ t : Tick, t.state = v.s_state →
      visit (periodic act (polled act v queue)).s_state (ts ++ [t])
        = visit v.s_state ts ++ [t] := by
    intro t ht
    rw [periodic_s_state, polled_s_state, visit_concat, if_pos ht]
  rcases hlatch : relaysOpened v with _ | _
  · -- nothing opened so far: the tick either opens, or requests zero torque and waits
    rw [hlatch] at hopened hlog
    by_cases hdelay : VCU_CONTACTOR_OPEN_DELAY_MS ≤ timer
    · obtain ⟨hset, hoff⟩ := shutdownTick_of_ge v.s_torqueSink (lastLogMs v) hdelay
      rw [hset] at hopened
      refine ⟨by simp, fun _ => ?_, ?_, ?_⟩
      · rw [hvisit _ rfl]
        exact ⟨_, List.mem_append_right _ (List.mem_singleton_self _), _, hoff, rfl⟩
      · intro _ ho
        rw [hopened] at ho
        cases ho
      · intro _ ho
        rw [hopened] at ho
        cases ho
    · rw [UInt32.not_le] at hdelay
      obtain ⟨hset, htorque, hmoved⟩ :=
        shutdownTick_of_lt v.s_torqueSink (lastLogMs v) hdelay
      rw [hset] at hopened
      refine ⟨by simp, ?_, ?_, ?_⟩
      · intro ho
        rw [hopened] at ho
        cases ho
      · intro _ _ _
        rw [hvisit _ rfl]
        exact ⟨_, List.mem_append_right _ (List.mem_singleton_self _), htorque (hsink hlatch)⟩
      · intro _ _ hentry
        exact absurd (hlog.symm.trans hentry) hmoved
  · -- an earlier tick of the visit has opened the contactors, and the latch stays
    rw [hlatch] at hopened
    have hset : relaysOpened (periodic act (polled act v queue)) = true := by
      rw [hopened]
      simp [shutdownTick]
    refine ⟨by simp, fun _ => ?_, ?_, ?_⟩
    · rw [hvisit _ rfl]
      obtain ⟨t, ht, hopens⟩ := h.opened hlatch
      exact ⟨t, List.mem_append_left _ ht, hopens⟩
    · intro _ ho
      rw [hset] at ho
      cases ho
    · intro _ ho
      rw [hset] at ho
      cases ho

/-- The tick of `run` in the state `v`. -/
def runTick (act : IRelayActuator σ) (v : Vcu σ) : Tick :=
  ⟨(run act v).s_state, issuedBetween v (run act v)⟩

/-- `run` keeps the invariant. -/
theorem visitInv_run {v : Vcu σ} {ts : List Tick} (hv : Reachable v) (h : VisitInv v ts)
    (hsink : TorqueSinkBound v) : VisitInv (run act v) (ts ++ [runTick act v]) := by
  by_cases hw : (run act v).s_state.safe
  swap
  · exact .of_not_safe hw ts _
  unfold runTick
  by_cases hs : v.s_state.safe
  · have hran := ranSafe_run act hv hs
    generalize run act v = w at hran hw ⊢
    cases hran with
    | switched _ _ hne hcommands =>
      rw [issuedBetween_eq [] (by simpa using hcommands), transitionTo_s_state]
      exact h.transition hne _
    | left => simp [VcuState.safe] at hw
    | refused =>
      rw [issuedBetween_eq [] (by simp)]
      exact h.silent rfl rfl rfl
    | ticked hflags hnext =>
      rw [issuedBetween_tick act hs, periodic_s_state]
      exact h.ticked hs (fun ho => hsink ⟨hs, hflags, hnext, ho⟩) _
  · obtain ⟨next, u, hnext, hrun, hcommands⟩ := (ran_run act v).entered hs hw
    rw [hrun, issuedBetween_eq [] (by simpa using hcommands), transitionTo_s_state]
    exact h.transition (fun he => hs (he ▸ hnext)) u

/-- A tick without a command opens nothing. -/
theorem opensInOrder_of_issued_eq_nil {ts : List Tick} {t : Tick} (h : t.issued = []) :
    OpensInOrder ts t := by
  rintro - - ⟨c, hc, -⟩
  rw [h] at hc
  cases hc

/-- A tick of the handler keeps the order of the shutdown exactly when the first one of the visit
waits. -/
theorem opensInOrder_tick_iff {v : Vcu σ} {ts : List Tick} (h : VisitInv v ts)
    (hs : v.s_state.safe) (hflags : FlagsStay v) (hnext : nextEvent v ≠ some .RESET) :
    OpensInOrder ts ⟨v.s_state, (shutdownTick v.s_torqueSink (v.s_stateTimer + TASK_PERIOD_MS)
        (relaysOpened v) (lastLogMs v)).commands⟩ ↔ WaitsFirst v := by
  rcases hlatch : relaysOpened v with _ | _
  swap
  · -- an earlier tick of the visit has opened the contactors
    refine iff_of_true (fun _ hnone _ => ?_) fun hp => ?_
    · obtain ⟨t, ht, hopens⟩ := h.opened hlatch
      exact absurd hopens (hnone t ht)
    · have hnot := hp.2.2.2
      rw [hlatch] at hnot
      cases hnot
  have hpending : Pending v := ⟨hs, hflags, hnext, hlatch⟩
  by_cases hdelay : VCU_CONTACTOR_OPEN_DELAY_MS ≤ v.s_stateTimer + TASK_PERIOD_MS
  · have hopens := (shutdownTick_of_ge v.s_torqueSink (lastLogMs v) hdelay).2
    by_cases hlog : lastLogMs v = -1000
    · -- the first tick of the handler: the earlier ticks of the visit have issued nothing
      refine iff_of_false (fun horder => ?_) fun hwait => ?_
      · have hwaiting := h.waiting hs hlatch hlog
        obtain ⟨w₁, request, w₂, hsplit, htorque, -⟩ := horder hs
          (fun t ht => by rintro ⟨c, hc, -⟩; rw [hwaiting t ht] at hc; cases hc)
          ⟨_, hopens, rfl⟩
        have hmem : request ∈ visit v.s_state ts := by
          have hsplit' : visit v.s_state ts = w₁ ++ request :: w₂ := hsplit
          simp [hsplit']
        rw [hwaiting request hmem] at htorque
        cases htorque
      · exact absurd (hwait hpending hlog) (UInt32.not_lt.mpr hdelay)
    · -- the handler has run before in this visit, and requested zero torque then
      refine iff_of_true (fun _ _ _ => ?_) fun _ hentry => absurd hentry hlog
      obtain ⟨t, ht, htorque⟩ := h.requested hs hlatch hlog
      obtain ⟨w₁, w₂, hsplit⟩ := List.append_of_mem ht
      refine ⟨w₁, t, w₂, hsplit, htorque, ?_⟩
      -- any earlier tick is at least one period away, which is as long as the delay
      have hdelay : VCU_CONTACTOR_OPEN_DELAY_MS.toNat = TASK_PERIOD_MS.toNat := rfl
      rw [hdelay]
      exact Nat.le_mul_of_pos_right _ (Nat.succ_pos _)
  · rw [UInt32.not_le] at hdelay
    exact iff_of_true (fun _ _ hopens => absurd hopens (not_isAllOff_of_lt hdelay))
      fun _ _ => hdelay

variable (act)

/-- A `run` keeps the order of the shutdown exactly when it does not open the contactors in the
first tick of the handler. -/
theorem opensInOrder_run_iff {v : Vcu σ} {ts : List Tick} (hv : Reachable v)
    (h : VisitInv v ts) : OpensInOrder ts (runTick act v) ↔ WaitsFirst v := by
  unfold runTick
  by_cases hs : v.s_state.safe
  · have hran := ranSafe_run act hv hs
    generalize run act v = w at hran ⊢
    cases hran with
    | switched hflags _ _ hcommands =>
      rw [issuedBetween_eq [] (by simpa using hcommands)]
      exact iff_of_true (opensInOrder_of_issued_eq_nil rfl) fun hp => absurd hp.2.1 hflags
    | left hreset hcommands =>
      rw [issuedBetween_eq [] (by simpa using hcommands)]
      exact iff_of_true (opensInOrder_of_issued_eq_nil rfl)
        fun hp => absurd hreset.2.2.1 hp.2.2.1
    | refused hreset =>
      rw [issuedBetween_eq [] (by simp)]
      exact iff_of_true (opensInOrder_of_issued_eq_nil rfl)
        fun hp => absurd hreset.2.2.1 hp.2.2.1
    | ticked hflags hnext =>
      rw [issuedBetween_tick act hs, periodic_s_state]
      exact opensInOrder_tick_iff h hs hflags hnext
  · refine iff_of_true ?_ fun hp => absurd hp.1 hs
    by_cases hw : (run act v).s_state.safe
    · obtain ⟨next, u, -, hrun, hcommands⟩ := (ran_run act v).entered hs hw
      rw [hrun, issuedBetween_eq [] (by simpa using hcommands)]
      exact opensInOrder_of_issued_eq_nil rfl
    · exact fun hsafe => absurd hsafe hw

/-- At `init` no visit is going on. -/
theorem visitInv_init (q m : Bool) (relays : σ) : VisitInv (init act q m relays) [] := by
  have hs := init_not_safe act q m relays
  refine ⟨by simp, fun ho => ?_, fun h => absurd h hs, fun h => absurd h hs⟩
  rw [relaysOpened_of_not_safe hs] at ho
  cases ho

/-- Only `run` is a tick. -/
theorem tick_of_ne_run (v : Vcu σ) {a : Action σ} (h : a ≠ .run) : tick act v a = none := by
  cases a with
  | run => exact absurd rfl h
  | _ => rfl

/-- Every action keeps the invariant, as long as a torque sink is bound when it is needed. -/
theorem visitInv_step {v : Vcu σ} {ts : List Tick} (hv : Reachable v) (h : VisitInv v ts)
    (a : Action σ) (hsink : OnRun TorqueSinkBound v a) :
    VisitInv (step act v a) (recording (tick act) ts v a) := by
  by_cases ha : a = .run
  · subst ha
    exact visitInv_run hv h (hsink rfl)
  · obtain ⟨_, _, _, _, _, _, hframe⟩ := step_eq_of_ne_run act v ha
    rw [recording, tick_of_ne_run act v ha, Option.toList_none, List.append_nil, hframe]
    exact ⟨h.last, h.opened, h.requested, h.waiting⟩

/-- An action keeps the order of the shutdown exactly when it is not a `run` that opens the
contactors in the first tick of the handler. -/
theorem opensInOrder_step_iff {v : Vcu σ} {ts : List Tick} (hv : Reachable v) (h : VisitInv v ts)
    (a : Action σ) : OnRun WaitsFirst v a ↔ ∀ t ∈ tick act v a, OpensInOrder ts t := by
  by_cases ha : a = .run
  · subst ha
    have hrun := opensInOrder_run_iff act hv h
    constructor
    · rintro hwait t ⟨⟩
      exact hrun.mpr (hwait rfl)
    · exact fun horder _ => hrun.mp (horder _ rfl)
  · rw [tick_of_ne_run act v ha]
    exact iff_of_true (fun h => absurd h ha) fun t ht => nomatch ht

/-- The two conditions on a run are conditions on each of its calls. -/
theorem along_onRun_and {C P : Vcu σ → Prop} (v : Vcu σ) (as : List (Action σ)) :
    Along (step act) (OnRun fun v => C v ∧ P v) v as ↔
      Along (step act) (OnRun C) v as ∧ Along (step act) (OnRun P) v as := by
  rw [← along_and]
  simp only [along_iff_forall, OnRun, imp_and]

/-- **The order of the shutdown.**  If a torque sink is bound whenever the contactors are about to
be opened, the first `allOff` of every visit comes after the zero-torque request and the delay in
exactly those runs in which the first tick of the handler of each visit finds the state timer
wrapped around. -/
theorem shutdownInOrder_iff (q m : Bool) (relays : σ) (as : List (Action σ)) :
    (Along (step act) (OnRun fun v => TorqueSinkBound v ∧ WaitsFirst v)
        (init act q m relays) as → ShutdownInOrder act q m relays as) ∧
      (ShutdownInOrder act q m relays as →
        Along (step act) (OnRun TorqueSinkBound) (init act q m relays) as →
        Along (step act) (OnRun WaitsFirst) (init act q m relays) as) := by
  let Inv : Vcu σ × List Tick → Prop := fun p => Reachable p.1 ∧ VisitInv p.1 p.2
  have hinit : Inv (init act q m relays, []) :=
    ⟨reachable_init act q m relays, visitInv_init act q m relays⟩
  have hiff : ∀ p a, Inv p →
      ((OnRun TorqueSinkBound p.1 a ∧ OnRun WaitsFirst p.1 a) ↔
        (OnRun TorqueSinkBound p.1 a ∧ ∀ t ∈ tick act p.1 a, OpensInOrder p.2 t)) :=
    fun p a hp => and_congr_right fun _ => opensInOrder_step_iff act hp.1 hp.2 a
  have hstep : ∀ p a, Inv p → (OnRun TorqueSinkBound p.1 a ∧ OnRun WaitsFirst p.1 a) →
      Inv (withGhost (step act) (recording (tick act)) p a) :=
    fun p a hp h => ⟨reachable_step hp.1 a, visitInv_step act hp.1 hp.2 a h.1⟩
  have hmain := along_iff_of_invariant Inv hiff hstep hinit as
  rw [along_and, along_and, along_withGhost, along_withGhost] at hmain
  rw [ShutdownInOrder, ticks, forall_observe_iff_along, along_onRun_and]
  constructor
  · exact fun h => (hmain.mp h).2
  · exact fun horder hsink => (hmain.mpr ⟨hsink, horder⟩).2

/-- With a torque sink bound, the first tick of the handler of `FAULT` requests zero torque and
opens the contactors in the same call, after no wait at all. -/
theorem not_shutdownInOrder_of_first_tick :
    ¬ShutdownInOrder faultFreeRelays true true ()
      [.setTorqueSink true, .postEvent .FAULT_DETECTED, .run, .run] := by
  intro h
  obtain ⟨w₁, request, w₂, hsplit, htorque, -⟩ := h [⟨.FAULT, []⟩]
    ⟨.FAULT, [.torque 0, .allOff false]⟩ [] rfl (.inr rfl)
    (by rintro u hu ⟨c, hc, -⟩; rw [List.mem_singleton.mp hu] at hc; cases hc)
    ⟨.allOff false, by simp, rfl⟩
  have hmem : request ∈ [(⟨.FAULT, []⟩ : Tick)] := by
    have hvisit : [(⟨.FAULT, []⟩ : Tick)] = w₁ ++ request :: w₂ := hsplit
    rw [hvisit]
    simp
  rw [List.mem_singleton.mp hmem] at htorque
  cases htorque

end TufanAks.VcuLogic
