import TufanAks.LoraLink.UartInit
import Mathlib.Data.List.Basic
import Mathlib.Logic.Function.Iterate

/-!
# The setup of the LoRa UART ends

In front of any driver that keeps what its documentation promises, the loop of `EspLoraHal::begin`
returns after a bounded number of rounds, with the result of the first round that succeeds or of the
last (`begin_returns`).  No round installs the driver while it is installed, however the rounds
before it have ended; that is what the deletion in front of a round is for.
-/

namespace TufanAks.EspLoraHal

variable {σ : Type*} (drv : UartDriver σ)

/-- The driver when round `k` begins, if the rounds before it have failed. -/
def roundStart (s : σ) (k : ℕ) : σ := (fun s => (attempt drv s).2)^[k] s

/-- The driver when the round that begins in `s` installs it. -/
def beforeInstall (s : σ) : σ :=
  (drv.uart_set_pin (drv.uart_param_config (deleteInstalled drv s)).2).2

variable {drv}

theorem roundStart_succ (s : σ) (k : ℕ) :
    roundStart drv s (k + 1) = roundStart drv (attempt drv s).2 k :=
  Function.iterate_succ_apply _ k s

/-- **One round** installs a driver that is not installed. -/
theorem installed_beforeInstall (h : drv.Documented) (s : σ) :
    drv.uart_is_driver_installed (beforeInstall drv s) = false := by
  unfold beforeInstall
  rw [h.uart_set_pin, h.uart_param_config]
  unfold deleteInstalled
  split_ifs with hinstalled
  · exact h.uart_driver_delete s
  · exact Bool.eq_false_iff.mpr hinstalled

/-- A round that succeeds leaves the driver installed. -/
theorem installed_of_attempt (h : drv.Documented) {s : σ} (hok : (attempt drv s).1 = true) :
    drv.uart_is_driver_installed (attempt drv s).2 = true := by
  have hinstall : (drv.uart_driver_install (beforeInstall drv s)).1 = true :=
    (Bool.and_eq_true_iff.mp hok).2
  exact h.uart_driver_install _ hinstall

/-- The loop gives up after the last round, and not before. -/
theorem decision_eq (n m : ℕ) (h : n + (m + 1) = LORA_UART_MAX_INIT_ATTEMPTS.toNat) :
    uart_init_retry_decision (n + 1) LORA_UART_MAX_INIT_ATTEMPTS =
      if m = 0 then .GIVE_UP_DISABLED else .RETRY := by
  have hmax : LORA_UART_MAX_INIT_ATTEMPTS = 5 := rfl
  rw [hmax] at h ⊢
  unfold uart_init_retry_decision
  have hiff : ((n : ℤ) + 1 ≥ 5) ↔ m = 0 := by
    have h5 : n + (m + 1) = 5 := h
    omega
  simp only [hiff]

/-- **The loop**, by the number of rounds that are left. -/
theorem beginLoop_returns (m n extra : ℕ) (s : σ)
    (h : n + (m + 1) = LORA_UART_MAX_INIT_ATTEMPTS.toNat) :
    ∃ k ≤ m, (∀ j < k, (attempt drv (roundStart drv s j)).1 = false) ∧
      beginLoop drv (m + 1 + extra) n s = some (attempt drv (roundStart drv s k)) ∧
      ((attempt drv (roundStart drv s k)).1 = false → k = m) := by
  induction m generalizing n s with
  | zero =>
    have hfuel : 0 + 1 + extra = extra + 1 := by omega
    refine ⟨0, le_rfl, fun j hj => absurd hj (Nat.not_lt_zero j), ?_, fun _ => rfl⟩
    rw [hfuel, beginLoop]
    show _ = some (attempt drv s)
    rcases attempt drv s with ⟨_ | _, s'⟩
    · exact if_pos (by rw [decision_eq n 0 h, if_pos rfl])
    · rfl
  | succ m ih =>
    have hfuel : m + 1 + 1 + extra = m + 1 + extra + 1 := by omega
    rcases hattempt : attempt drv s with ⟨_ | _, s'⟩
    · -- the other rounds decide
      obtain ⟨k, hk, hfailed, hloop, hlast⟩ := ih (n + 1) s' (by omega)
      have hnext : ∀ j, roundStart drv s (j + 1) = roundStart drv s' j := fun j => by
        rw [roundStart_succ, hattempt]
      refine ⟨k + 1, by omega, fun j hj => ?_, ?_, fun hno => ?_⟩
      · cases j with
        | zero => exact congrArg Prod.fst hattempt
        | succ j =>
          rw [hnext]
          exact hfailed j (by omega)
      · rw [hfuel, beginLoop, hattempt, hnext, ← hloop]
        exact if_neg (by rw [decision_eq n (m + 1) h]; simp)
      · rw [hnext] at hno
        rw [hlast hno]
    · refine ⟨0, Nat.zero_le _, fun j hj => absurd hj (Nat.not_lt_zero j), ?_, fun hno => ?_⟩
      · rw [hfuel, beginLoop, hattempt]
        exact congrArg some hattempt.symm
      · have hok : (attempt drv s).1 = false := hno
        rw [hattempt] at hok
        cases hok

/-- **The setup of the UART returns**, for every driver that keeps what is documented and in
whatever state it is found: with the result of round `n`, the first of the five rounds that
succeeds, or the last.  If it succeeds the driver is installed, and no round has installed a driver
that was installed. -/
theorem begin_returns (h : drv.Documented) (s : σ) (extra : ℕ) :
    ∃ n < LORA_UART_MAX_INIT_ATTEMPTS.toNat,
      (∀ k < n, (attempt drv (roundStart drv s k)).1 = false) ∧
      begin drv (LORA_UART_MAX_INIT_ATTEMPTS.toNat + extra) s =
        some (attempt drv (roundStart drv s n)) ∧
      ((attempt drv (roundStart drv s n)).1 = true →
        drv.uart_is_driver_installed (attempt drv (roundStart drv s n)).2 = true) ∧
      ((attempt drv (roundStart drv s n)).1 = false →
        n + 1 = LORA_UART_MAX_INIT_ATTEMPTS.toNat) ∧
      ∀ k, drv.uart_is_driver_installed (beforeInstall drv (roundStart drv s k)) = false := by
  have hmax : LORA_UART_MAX_INIT_ATTEMPTS.toNat = 4 + 1 := rfl
  obtain ⟨n, hn, hfailed, hloop, hlast⟩ := @beginLoop_returns _ drv 4 0 extra s rfl
  rw [hmax]
  exact ⟨n, Nat.lt_succ_of_le hn, hfailed, hloop, installed_of_attempt h,
    fun hno => by rw [hlast hno], fun k => installed_beforeInstall h _⟩

/-- A driver that counts the calls of `uart_set_pin`, of which the first fails, and that refuses to
be installed twice. -/
def benchUart : UartDriver (Bool × ℕ) where
  uart_is_driver_installed s := s.1
  uart_driver_delete s := (false, s.2)
  uart_param_config s := (true, s)
  uart_set_pin s := (decide (0 < s.2), (s.1, s.2 + 1))
  uart_driver_install s := (!s.1, (true, s.2))

theorem documented_benchUart : benchUart.Documented where
  uart_driver_delete _ := rfl
  uart_param_config _ := rfl
  uart_set_pin _ := rfl
  uart_driver_install _ _ := rfl

/-- The first round fails with the driver installed, and the second one succeeds. -/
theorem begin_returns_on_bench :
    ∃ n < 5, begin benchUart 5 (false, 0) =
      some (attempt benchUart (roundStart benchUart (false, 0) n)) := by
  obtain ⟨n, hn, -, hbegin, -⟩ := begin_returns documented_benchUart (false, 0) 0
  exact ⟨n, hn, hbegin⟩

end TufanAks.EspLoraHal
