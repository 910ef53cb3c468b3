import TufanAks.CanManager.BitRate
import TufanAks.Machine.Run

/-!
# The driver after `begin`

However the tries go, each leaves the driver started, at the bit rate at which it has heard a frame,
or not installed (`tryRate_spec`), so that the next one can install it.  So after every sequence of
calls of `begin`, in front of any driver that keeps what its documentation promises, the driver is
installed exactly when the manager is initialised (`driver_after_begin`).

`TwaiDriver.logged` is the driver with a record of the calls made to it, each with the state that
the driver was in.
-/

namespace TufanAks

open Machine

/-! ### The calls to the driver -/

inductive TwaiCall
  | twai_driver_install
  | twai_start
  | twai_receive
  | twai_stop
  | twai_driver_uninstall
  deriving DecidableEq, Repr

/-- The states in which the driver accepts a call; `none` is a driver that is not installed. -/
def TwaiCall.accepted : TwaiCall → Option TwaiState → Bool
  | .twai_driver_install, state => state = none
  | .twai_start, state => state = some .STOPPED
  | .twai_receive, state => state ≠ none
  | .twai_stop, state => state = some .RUNNING
  | .twai_driver_uninstall, state => state = some .STOPPED || state = some .BUS_OFF

/-- The calls made, each with the state that the driver was in. -/
abbrev TwaiLog := List (TwaiCall × Option TwaiState)

variable {σ : Type*}

/-- The record after the call `c` to the driver in the state `s`. -/
def TwaiDriver.record (drv : TwaiDriver σ) (c : TwaiCall) (s : σ × TwaiLog) : TwaiLog :=
  s.2 ++ [(c, (drv.status s.1).map Prod.fst)]

/-- The driver with the record of the calls to it. -/
def TwaiDriver.logged (drv : TwaiDriver σ) : TwaiDriver (σ × TwaiLog) where
  status s := drv.status s.1
  twai_driver_install timing s :=
    ((drv.twai_driver_install timing s.1).1, (drv.twai_driver_install timing s.1).2,
      drv.record .twai_driver_install s)
  twai_start s :=
    ((drv.twai_start s.1).1, (drv.twai_start s.1).2, drv.record .twai_start s)
  twai_receive s :=
    ((drv.twai_receive s.1).1, (drv.twai_receive s.1).2, drv.record .twai_receive s)
  twai_stop s := (drv.twai_stop s.1, drv.record .twai_stop s)
  twai_driver_uninstall s :=
    (drv.twai_driver_uninstall s.1, drv.record .twai_driver_uninstall s)

/-- A call that was accepted, or the stop of a controller that has left the bus by itself. -/
def Expected (c : TwaiCall × Option TwaiState) : Prop :=
  c.1.accepted c.2 = true ∨ c = (.twai_stop, some .BUS_OFF)

namespace CanManager

variable {drv : TwaiDriver σ}

/-! ### One try -/

/-- The driver is started at the bit rate `result`, or not installed. -/
def StartedAt (drv : TwaiDriver σ) (s : σ) : Option TwaiTiming → Prop
  | none => drv.status s = none
  | some timing =>
    drv.status s = some (.RUNNING, timing) ∨ drv.status s = some (.BUS_OFF, timing)

/-- From `s` to `s'` the driver was started at the bit rate `result`, or was taken down again, with
expected calls only. -/
structure Settles (drv : TwaiDriver σ) (s : σ × TwaiLog) (result : Option TwaiTiming)
    (s' : σ × TwaiLog) : Prop where
  started : StartedAt drv s'.1 result
  calls : ∃ made, s'.2 = s.2 ++ made ∧ ∀ c ∈ made, Expected c

theorem Settles.trans {s s' s'' : σ × TwaiLog} {result : Option TwaiTiming}
    (h : Settles drv s none s') (h' : Settles drv s' result s'') : Settles drv s result s'' := by
  obtain ⟨made, hmade, hexpected⟩ := h.calls
  obtain ⟨made', hmade', hexpected'⟩ := h'.calls
  refine ⟨h'.started, made ++ made', by rw [hmade', hmade, List.append_assoc], fun c hc => ?_⟩
  exact (List.mem_append.mp hc).elim (hexpected c) (hexpected' c)

/-! Every try begins with installing and starting the driver; if it does not run after that, it is
taken down again. -/

theorem install_refused (h : drv.Documented) {s s₁ : σ × TwaiLog} (hs : drv.status s.1 = none)
    {timing : TwaiTiming} (hinstalled : drv.logged.twai_driver_install timing s = (false, s₁)) :
    Settles drv s none s₁ := by
  obtain ⟨hno, rfl⟩ := Prod.mk.inj hinstalled
  have hinstall := h.twai_driver_install s.1 timing hs
  rw [hno] at hinstall
  refine ⟨hinstall, [(.twai_driver_install, none)], ?_, fun c hc => ?_⟩
  · simp [TwaiDriver.record, hs]
  · rw [List.mem_singleton.mp hc]
    exact .inl rfl

theorem install_accepted (h : drv.Documented) {s s₁ : σ × TwaiLog} (hs : drv.status s.1 = none)
    {timing : TwaiTiming} (hinstalled : drv.logged.twai_driver_install timing s = (true, s₁)) :
    drv.status s₁.1 = some (.STOPPED, timing) ∧ s₁.2 = s.2 ++ [(.twai_driver_install, none)] := by
  obtain ⟨hyes, rfl⟩ := Prod.mk.inj hinstalled
  have hinstall := h.twai_driver_install s.1 timing hs
  rw [hyes] at hinstall
  refine ⟨hinstall, ?_⟩
  simp [TwaiDriver.record, hs]

theorem start_refused (h : drv.Documented) {s s₁ s₂ : σ × TwaiLog} (hs : drv.status s.1 = none)
    {timing : TwaiTiming} (hinstalled : drv.logged.twai_driver_install timing s = (true, s₁))
    (hstarted : drv.logged.twai_start s₁ = (false, s₂)) :
    Settles drv s none (drv.logged.twai_driver_uninstall s₂) := by
  obtain ⟨hstopped, hrecord⟩ := install_accepted h hs hinstalled
  obtain ⟨hno, rfl⟩ := Prod.mk.inj hstarted
  have hstart := h.twai_start _ timing hstopped
  rw [hno] at hstart
  refine ⟨h.twai_driver_uninstall _ _ timing hstart (.inl rfl),
    [(.twai_driver_install, none), (.twai_start, some .STOPPED),
      (.twai_driver_uninstall, some .STOPPED)], ?_, ?_⟩
  · simp [TwaiDriver.logged, TwaiDriver.record, hrecord, hstopped, hstart]
  · simp [Expected, TwaiCall.accepted]

theorem start_accepted (h : drv.Documented) {s s₁ s₂ : σ × TwaiLog} (hs : drv.status s.1 = none)
    {timing : TwaiTiming} (hinstalled : drv.logged.twai_driver_install timing s = (true, s₁))
    (hstarted : drv.logged.twai_start s₁ = (true, s₂)) :
    drv.status s₂.1 = some (.RUNNING, timing) ∧
      ∃ made, s₂.2 = s.2 ++ made ∧ ∀ c ∈ made, Expected c := by
  obtain ⟨hstopped, hrecord⟩ := install_accepted h hs hinstalled
  obtain ⟨hyes, rfl⟩ := Prod.mk.inj hstarted
  have hstart := h.twai_start _ timing hstopped
  rw [hyes] at hstart
  refine ⟨hstart, [(.twai_driver_install, none), (.twai_start, some .STOPPED)], ?_, ?_⟩
  · simp [TwaiDriver.record, hrecord, hstopped]
  · simp [Expected, TwaiCall.accepted]

/-- **One try** leaves the driver started or not installed. -/
theorem tryRate_spec (h : drv.Documented) {s : σ × TwaiLog} (hs : drv.status s.1 = none)
    (timing : TwaiTiming) :
    Settles drv s (if (tryRate drv.logged timing s).1 then some timing else none)
      (tryRate drv.logged timing s).2 := by
  rcases hinstalled : drv.logged.twai_driver_install timing s with ⟨_ | _, s₁⟩
  · have htry : tryRate drv.logged timing s = (false, s₁) := by simp [tryRate, hinstalled]
    rw [htry]
    exact install_refused h hs hinstalled
  rcases hstarted : drv.logged.twai_start s₁ with ⟨_ | _, s₂⟩
  · have htry : tryRate drv.logged timing s = (false, drv.logged.twai_driver_uninstall s₂) := by
      simp [tryRate, hinstalled, hstarted]
    rw [htry]
    exact start_refused h hs hinstalled hstarted
  obtain ⟨hrunning, made, hmade, hexpected⟩ := start_accepted h hs hinstalled hstarted
  have htry : tryRate drv.logged timing s =
      if (drv.logged.twai_receive s₂).1 then (true, (drv.logged.twai_receive s₂).2)
      else
        (false,
          drv.logged.twai_driver_uninstall
            (drv.logged.twai_stop (drv.logged.twai_receive s₂).2)) := by
    simp [tryRate, hinstalled, hstarted]
  rw [htry]
  have hreceive := h.twai_receive s₂.1 timing hrunning
  have hcalls : ∀ more : TwaiLog, (∀ c ∈ more, Expected c) → ∀ c ∈ made ++ more, Expected c :=
    fun more hmore c hc => (List.mem_append.mp hc).elim (hexpected c) (hmore c)
  cases hreceived : (drv.logged.twai_receive s₂).1 with
  | true =>
    refine ⟨hreceive, made ++ [(.twai_receive, some .RUNNING)], ?_, hcalls _ ?_⟩
    · simp [TwaiDriver.logged, TwaiDriver.record, hmade, hrunning]
    · simp [Expected, TwaiCall.accepted]
  | false =>
    rcases hreceive with hstill | hleft
    · have hstop := h.twai_stop _ timing hstill
      refine ⟨h.twai_driver_uninstall _ _ timing hstop (.inl rfl),
        made ++ [(.twai_receive, some .RUNNING), (.twai_stop, some .RUNNING),
          (.twai_driver_uninstall, some .STOPPED)], ?_, hcalls _ ?_⟩
      · simp [TwaiDriver.logged, TwaiDriver.record, hmade, hrunning, hstill, hstop]
      · simp [Expected, TwaiCall.accepted]
    · -- the stop is refused, and the driver can be uninstalled all the same
      have hstop := h.twai_stop_of_bus_off _ timing hleft
      refine ⟨h.twai_driver_uninstall _ _ timing hstop (.inr rfl),
        made ++ [(.twai_receive, some .RUNNING), (.twai_stop, some .BUS_OFF),
          (.twai_driver_uninstall, some .BUS_OFF)], ?_, hcalls _ ?_⟩
      · simp [TwaiDriver.logged, TwaiDriver.record, hmade, hrunning, hleft, hstop]
      · simp [Expected, TwaiCall.accepted]

/-! ### The whole start -/

/-- The driver after a try. -/
def tried (drv : TwaiDriver σ) (s : σ) (timing : TwaiTiming) : σ := (tryRate drv timing s).2

/-- The tries at the bit rates `ts`, one after the other, hear nothing. -/
def Silent (drv : TwaiDriver σ) (s : σ) (ts : List TwaiTiming) : Prop :=
  Along (tried drv) (fun s timing => (tryRate drv timing s).1 = false) s ts

/-- `timing` is the first of the bit rates `ts` at which a frame is heard. -/
def FirstHeard (drv : TwaiDriver σ) (s : σ) (ts : List TwaiTiming) (timing : TwaiTiming) : Prop :=
  ∃ before behind, ts = before ++ timing :: behind ∧ Silent drv s before ∧
    (tryRate drv timing (exec (tried drv) s before)).1 = true

/-- **The loop** keeps the first bit rate at which a frame is heard. -/
theorem detectRate_spec (h : drv.Documented) (ts : List TwaiTiming) {s : σ × TwaiLog}
    (hs : drv.status s.1 = none) :
    Settles drv s (detectRate drv.logged ts s).1 (detectRate drv.logged ts s).2 ∧
      (∀ timing, (detectRate drv.logged ts s).1 = some timing →
        FirstHeard drv.logged s ts timing) ∧
      ((detectRate drv.logged ts s).1 = none → Silent drv.logged s ts) := by
  induction ts generalizing s with
  | nil =>
    have hstays : Settles drv s none s := ⟨hs, [], (List.append_nil _).symm, by simp⟩
    exact ⟨hstays, fun _ hnone => (by cases hnone), fun _ => trivial⟩
  | cons timing ts ih =>
    have htry := tryRate_spec h hs timing
    rw [detectRate]
    rcases hresult : tryRate drv.logged timing s with ⟨_ | _, s'⟩
    · rw [hresult] at htry
      obtain ⟨hsettles, hfound, hsilent⟩ := ih htry.started
      have hfirst : (tryRate drv.logged timing s).1 = false := congrArg Prod.fst hresult
      have hnext : tried drv.logged s timing = s' := congrArg Prod.snd hresult
      refine ⟨htry.trans hsettles, fun found hsome => ?_, fun hnone => ⟨hfirst, ?_⟩⟩
      · obtain ⟨before, behind, rfl, hbefore, hheard⟩ := hfound found hsome
        refine ⟨timing :: before, behind, rfl, ⟨hfirst, ?_⟩, ?_⟩
        · rw [hnext]
          exact hbefore
        · rw [exec_cons, hnext]
          exact hheard
      · rw [hnext]
        exact hsilent hnone
    · rw [hresult] at htry
      refine ⟨htry, fun found hsome => ?_, fun hnone => by cases hnone⟩
      obtain rfl := Option.some.inj hsome
      exact ⟨[], ts, rfl, trivial, congrArg Prod.fst hresult⟩

/-- The bit rate that `begin` is to start the driver with: the first at which it hears a frame, or
500 kbit/s. -/
def ChosenRate (drv : TwaiDriver σ) (s : σ) (timing : TwaiTiming) : Prop :=
  FirstHeard drv s t_configs timing ∨ Silent drv s t_configs ∧ timing = .CONFIG_500KBITS

theorem startDriver_spec (h : drv.Documented) {s : σ × TwaiLog} (hs : drv.status s.1 = none) :
    Settles drv s (startDriver drv.logged s).1 (startDriver drv.logged s).2 ∧
      ∀ timing, (startDriver drv.logged s).1 = some timing → ChosenRate drv.logged s timing := by
  obtain ⟨hsettles, hfound, hsilent⟩ := detectRate_spec h t_configs hs
  rcases hdetect : detectRate drv.logged t_configs s with ⟨_ | timing, s'⟩
  · rw [hdetect] at hsettles hsilent
    -- nothing was heard: the driver is started at 500 kbit/s
    rcases hinstalled : drv.logged.twai_driver_install .CONFIG_500KBITS s' with ⟨_ | _, s₁⟩
    · have hstart : startDriver drv.logged s = (none, s₁) := by
        simp [startDriver, hdetect, hinstalled]
      rw [hstart]
      have hrefused := install_refused h hsettles.started hinstalled
      exact ⟨hsettles.trans hrefused, fun _ hnone => by cases hnone⟩
    rcases hstarted : drv.logged.twai_start s₁ with ⟨_ | _, s₂⟩
    · have hstart : startDriver drv.logged s = (none, drv.logged.twai_driver_uninstall s₂) := by
        simp [startDriver, hdetect, hinstalled, hstarted]
      rw [hstart]
      have hrefused := start_refused h hsettles.started hinstalled hstarted
      exact ⟨hsettles.trans hrefused, fun _ hnone => by cases hnone⟩
    · have hstart : startDriver drv.logged s = (some .CONFIG_500KBITS, s₂) := by
        simp [startDriver, hdetect, hinstalled, hstarted]
      rw [hstart]
      obtain ⟨hrunning, hcalls⟩ := start_accepted h hsettles.started hinstalled hstarted
      refine ⟨hsettles.trans ⟨.inl hrunning, hcalls⟩, fun timing hsome => ?_⟩
      exact .inr ⟨hsilent rfl, (Option.some.inj hsome).symm⟩
  · rw [hdetect] at hsettles hfound
    have hstart : startDriver drv.logged s = (some timing, s') := by simp [startDriver, hdetect]
    rw [hstart]
    exact ⟨hsettles, fun found hsome => .inl (hfound found hsome)⟩

/-! ### Calls of `begin` -/

/-- With the driver, `begin` does what it does with the outcome of the start. -/
theorem beginWithDriver_fst (drv : TwaiDriver σ) (mutexCreated : Bool) (c : CanManager) (s : σ) :
    (beginWithDriver drv mutexCreated c s).1 =
      c.begin mutexCreated (startDriver drv s).1.isSome := by
  unfold beginWithDriver begin
  rcases startDriver drv s with ⟨_ | timing, s'⟩
  · simp only [Option.isSome_none, Bool.not_false, if_true]
    split_ifs <;> rfl
  · simp only [Option.isSome_some, Bool.not_true, Bool.false_eq_true, if_false]
    split_ifs <;> rfl

/-- The manager, the driver and the record of its calls after a call of `begin`. -/
def beginStep (drv : TwaiDriver σ) (p : CanManager × σ × TwaiLog) (mutexCreated : Bool) :
    CanManager × σ × TwaiLog :=
  beginWithDriver drv.logged mutexCreated p.1 p.2

/-- Calls of `begin` on a fresh manager in front of a driver in the state `s`, with the outcomes of
the creation of the mutex. -/
abbrev afterBegins (drv : TwaiDriver σ) (s : σ) (calls : List Bool) : CanManager × σ × TwaiLog :=
  exec (beginStep drv) ({}, s, []) calls

/-- The driver is started, and there is a mutex, if the manager is initialised; otherwise neither is
there. -/
structure DriverMatches (drv : TwaiDriver σ) (p : CanManager × σ × TwaiLog) : Prop where
  started : p.1.isInitialized = true → p.1.s_mutex = true ∧
    ∃ timing, StartedAt drv p.2.1 (some timing)
  gone : p.1.isInitialized = false → p.1.s_mutex = false ∧ drv.status p.2.1 = none
  calls : ∀ c ∈ p.2.2, Expected c

/-- **One call** of `begin`. -/
theorem driverMatches_step (h : drv.Documented) {p : CanManager × σ × TwaiLog}
    (hp : DriverMatches drv p) (mutexCreated : Bool) :
    DriverMatches drv (beginStep drv p mutexCreated) := by
  obtain ⟨c, s⟩ := p
  unfold beginStep beginWithDriver
  dsimp only
  split_ifs with hinit hmutex
  · exact hp
  · have hno : c.isInitialized = false := Bool.eq_false_iff.mpr hinit
    exact ⟨fun hyes => absurd hyes hinit, fun _ => ⟨rfl, (hp.gone hno).2⟩, hp.calls⟩
  · have hno : c.isInitialized = false := Bool.eq_false_iff.mpr hinit
    obtain ⟨hsettles, -⟩ := startDriver_spec h (hp.gone hno).2
    rcases hstart : startDriver drv.logged s with ⟨result, s'⟩
    rw [hstart] at hsettles
    obtain ⟨made, hmade, hexpected⟩ := hsettles.calls
    have hcalls : ∀ call ∈ s'.2, Expected call := by
      intro call hcall
      rw [hmade, List.mem_append] at hcall
      exact hcall.elim (hp.calls call) (hexpected call)
    cases result with
    | none => exact ⟨fun hyes => absurd hyes hinit, fun _ => ⟨rfl, hsettles.started⟩, hcalls⟩
    | some timing =>
      exact ⟨fun _ => ⟨rfl, timing, hsettles.started⟩, fun hcontra => (by cases hcontra), hcalls⟩

/-- **The driver after `begin`.**  In front of every driver that keeps what is documented and is not
installed, after every sequence of calls of `begin`: the driver is started if the manager is
initialised and is not installed otherwise; and no call was made in a state in which the driver does
not accept it, except to stop a controller that had left the bus.  The call that initialises the
manager has started the driver at the first of the three bit rates at which it hears a frame, or at
500 kbit/s; to the rest of the firmware it is `CanManager.begin` with the outcome of that. -/
theorem driver_after_begin (h : drv.Documented) {s : σ} (hs : drv.status s = none)
    (calls : List Bool) (mutexCreated : Bool) :
    DriverMatches drv (afterBegins drv s calls) ∧
      ((afterBegins drv s calls).1.isInitialized = false →
        (afterBegins drv s (calls ++ [mutexCreated])).1.isInitialized = true →
        ∃ timing, ChosenRate drv.logged (afterBegins drv s calls).2 timing ∧
          StartedAt drv (afterBegins drv s (calls ++ [mutexCreated])).2.1 (some timing)) ∧
      (afterBegins drv s (calls ++ [mutexCreated])).1 =
        (afterBegins drv s calls).1.begin mutexCreated
          (startDriver drv.logged (afterBegins drv s calls).2).1.isSome := by
  have hmatches : DriverMatches drv (afterBegins drv s calls) := by
    refine exec_invariant (DriverMatches drv) (fun p m _ hp => driverMatches_step h hp m)
      ⟨?_, ?_, ?_⟩
    · exact fun hyes => by cases hyes
    · exact fun _ => ⟨rfl, hs⟩
    · exact fun call hcall => by cases hcall
  have hlast : afterBegins drv s (calls ++ [mutexCreated]) =
      beginStep drv (afterBegins drv s calls) mutexCreated := exec_concat _ _ _
  rw [hlast]
  generalize afterBegins drv s calls = p at hmatches
  refine ⟨hmatches, fun hno hyes => ?_, beginWithDriver_fst drv.logged mutexCreated p.1 p.2⟩
  obtain ⟨hsettles, hchosen⟩ := startDriver_spec h (hmatches.gone hno).2
  unfold beginStep beginWithDriver at hyes ⊢
  rw [if_neg (by simp [hno])] at hyes ⊢
  cases mutexCreated with
  | false =>
    rw [if_pos (by rfl)] at hyes
    exact absurd (hno.symm.trans hyes) (by simp)
  | true =>
    rw [if_neg (by simp)] at hyes ⊢
    rcases hstart : startDriver drv.logged p.2 with ⟨_ | timing, s'⟩
    · rw [hstart] at hyes
      exact absurd (hno.symm.trans hyes) (by simp)
    · rw [hstart] at hsettles hchosen
      exact ⟨timing, hchosen timing rfl, hsettles.started⟩

/-- A driver that hears a frame at 250 kbit/s only, and whose controller leaves the bus while it
listens at a wrong bit rate. -/
def benchTwai : TwaiDriver (Option (TwaiState × TwaiTiming)) where
  status s := s
  twai_driver_install timing s := (s.isNone, s.or (some (.STOPPED, timing)))
  twai_start s := (s.isSome, s.map fun p => (.RUNNING, p.2))
  twai_receive s :=
    (decide (s = some (.RUNNING, .CONFIG_250KBITS)),
      s.map fun p => (if p.2 = .CONFIG_250KBITS then .RUNNING else .BUS_OFF, p.2))
  twai_stop s := s.map fun p => (if p.1 = .RUNNING then .STOPPED else p.1, p.2)
  twai_driver_uninstall _ := none

theorem documented_benchTwai : benchTwai.Documented where
  twai_driver_install s timing hs := by
    obtain rfl : s = none := hs
    rfl
  twai_start s timing hs := by
    obtain rfl : s = some (.STOPPED, timing) := hs
    rfl
  twai_receive s timing hs := by
    obtain rfl : s = some (.RUNNING, timing) := hs
    cases timing <;> decide
  twai_stop s timing hs := by
    obtain rfl : s = some (.RUNNING, timing) := hs
    rfl
  twai_stop_of_bus_off s timing hs := by
    obtain rfl : s = some (.BUS_OFF, timing) := hs
    rfl
  twai_driver_uninstall _ _ _ _ _ := rfl

/-- On the bench the second call of `begin`, which gets its mutex, starts the driver. -/
theorem driver_after_begin_on_bench :
    ∃ timing, StartedAt benchTwai (afterBegins benchTwai none [false, true]).2.1 (some timing) := by
  obtain ⟨-, hstarted, -⟩ := driver_after_begin documented_benchTwai rfl [false] true
  obtain ⟨timing, -, h⟩ := hstarted rfl rfl
  exact ⟨timing, h⟩

end CanManager

end TufanAks
