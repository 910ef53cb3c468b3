import TufanAks.DisplayHMI.Equiv.TouchCommand
import TufanAks.Machine.Backlog

/-!
# When `readTouchCommand` returns a command

A call returns one command, so a command waits for those that were completed before it, and for
nothing else: whatever arrives meanwhile, as many calls as there are commands in the unread bytes
return them all (`commands_of_backlog`).
-/

namespace TufanAks.DisplayHMI

open Machine

/-- The display as a polled reader. -/
def polled (h : DisplayHMI) : Polled TouchParser UInt8 UInt8 := ⟨h.touch, h.rx, h.commands⟩

/-- The commands that the unread bytes complete. -/
def backlog (h : DisplayHMI) : List UInt8 := (polled h).backlog touchByte

def Action.isRead : Action → Bool
  | .readTouchCommand => true
  | _ => false

/-- The calls of `readTouchCommand` in a run. -/
def reads (as : List Action) : ℕ := as.countP Action.isRead

theorem reads_append (as bs : List Action) : reads (as ++ bs) = reads as + reads bs :=
  List.countP_append

/-- **One action** of an initialized display is an arrival, a call or neither. -/
theorem advances_step {h : DisplayHMI} (hinit : h.HMI_isInitialized = true) (a : Action) :
    Polled.Advances touchByte (reads [a]) (polled h) (polled (step h a)) := by
  cases a with
  | begin driverInstalled =>
    have hstep : step h (.begin driverInstalled) = h := if_pos hinit
    rw [hstep]
    exact .refl _
  | receive bytes =>
    have hstep : step h (.receive bytes) = { h with rx := h.rx ++ bytes } := if_pos hinit
    rw [hstep]
    exact Polled.advances_arrive bytes (polled h)
  | readTouchCommand =>
    have hread : polled (step h .readTouchCommand) = (polled h).read touchByte := by
      simp only [polled, step, readTouchCommand, hinit, Polled.read, Bool.not_true,
        Bool.false_eq_true, if_false]
    rw [hread]
    exact Polled.advances_read (polled h)

/-- **Every run**, with its calls. -/
theorem advances_exec {h : DisplayHMI} (hinit : h.HMI_isInitialized = true) (as : List Action) :
    Polled.Advances touchByte (reads as) (polled h) (polled (exec step h as)) := by
  induction as generalizing h with
  | nil => exact .refl _
  | cons a as ih =>
    have hreads : reads (a :: as) = reads [a] + reads as := by
      rw [← reads_append, List.singleton_append]
    rw [hreads]
    exact (advances_step hinit a).trans (ih (step_spec hinit a).1)

/-- **The backlog is returned** by as many calls as it is long. -/
theorem commands_of_backlog {h : DisplayHMI} (hinit : h.HMI_isInitialized = true)
    {as : List Action} (hreads : (backlog h).length ≤ reads as) :
    h.commands ++ backlog h <+: (exec step h as).commands :=
  (advances_exec hinit as).delivered hreads

/-- A defined command is in the backlog once its frame has arrived where the parser will wait for a
header, or has arrived twice. -/
theorem mem_backlog_of_frame {h : DisplayHMI} (hinit : h.HMI_isInitialized = true)
    (hle : h.touch.rxState ≤ 2) {c : UInt8} (hc : c ∈ hmiCommands) {bytes : List UInt8}
    (hbytes : bytes = frame c ++ frame c ∨
      bytes = frame c ∧ (feed touchByte h.touch h.rx).1.rxState = 0) :
    c ∈ backlog (step h (.receive bytes)) := by
  have hstep : step h (.receive bytes) = { h with rx := h.rx ++ bytes } := if_pos hinit
  have hfeed : backlog (step h (.receive bytes)) = (feed touchByte h.touch (h.rx ++ bytes)).2 := by
    rw [hstep]
    rfl
  have hbehind : (feed touchByte h.touch h.rx).1.rxState ≤ 2 := by
    generalize h.rx = bs
    generalize h.touch = s at hle
    induction bs generalizing s with
    | nil => exact hle
    | cons b bs ih => exact ih _ (rxState_touchByte_le hle b)
  rw [hfeed, feed_append]
  apply List.mem_append_right
  rcases hbytes with rfl | ⟨rfl, hwaiting⟩
  · exact recognised_twice hbehind hc
  · rw [(feed_frame_of_waiting hwaiting hc).2]
    exact List.mem_singleton_self c

end TufanAks.DisplayHMI
