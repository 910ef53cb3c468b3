import TufanAks.DisplayHMI

/-!
# Which command frames `readTouchCommand` recognises

However the received bytes are spread over calls, the commands returned are those that the byte
parser completes (`fed_run`).  So a frame is recognised or not by the state in which the bytes
before it leave the parser: `recognised_iff` says that it is exactly when they do not end inside a
frame.  A frame that is sent twice is recognised whatever came before (`recognised_twice`).
-/

namespace TufanAks.DisplayHMI

/-! ### Calls and bytes -/

/-- The bytes that arrive during the actions `as`. -/
def received (as : List Action) : List UInt8 :=
  as.flatMap fun
    | .receive bytes => bytes
    | _ => []

/-- The commands returned so far and those that the unread bytes would complete, with the parser
behind them. -/
def outlook (h : DisplayHMI) : TouchParser × List UInt8 :=
  ((Machine.feed touchByte h.touch h.rx).1,
    h.commands ++ (Machine.feed touchByte h.touch h.rx).2)

theorem received_cons (a : Action) (as : List Action) :
    received (a :: as) = received [a] ++ received as := by simp [received]

/-- An action of an initialized display keeps it initialized, and only bytes that arrive change its
outlook. -/
theorem step_spec {h : DisplayHMI} (hinit : h.HMI_isInitialized = true) (a : Action) :
    (step h a).HMI_isInitialized = true ∧
      outlook (step h a) =
        ((Machine.feed touchByte (outlook h).1 (received [a])).1,
          (outlook h).2 ++ (Machine.feed touchByte (outlook h).1 (received [a])).2) := by
  cases a with
  | begin driverInstalled => simp [step, begin, hinit, outlook, received]
  | receive bytes =>
    simp only [step, hinit, if_true, outlook, received, List.flatMap_singleton, true_and]
    rw [Machine.feed_append, List.append_assoc]
  | readTouchCommand =>
    have hcall := Machine.feed_readOne touchByte h.touch h.rx
    simp only [step, readTouchCommand, hinit, outlook, received, List.flatMap_singleton,
      Machine.feed_nil, List.append_nil, Bool.not_true, Bool.false_eq_true, if_false]
    refine ⟨trivial, ?_⟩
    rw [hcall]
    simp only [List.append_assoc]

/-- **Calls and bytes**: once everything has been read, the commands returned are those that the
parser completes on the bytes received. -/
theorem fed_run {h : DisplayHMI} (hinit : h.HMI_isInitialized = true) (as : List Action) :
    (Machine.exec step h as).HMI_isInitialized = true ∧
      outlook (Machine.exec step h as) =
        ((Machine.feed touchByte (outlook h).1 (received as)).1,
          (outlook h).2 ++ (Machine.feed touchByte (outlook h).1 (received as)).2) := by
  induction as generalizing h with
  | nil => simp [received, hinit]
  | cons a as ih =>
    obtain ⟨hinit', hstep⟩ := step_spec hinit a
    obtain ⟨hinit'', hrest⟩ := ih hinit'
    refine ⟨hinit'', ?_⟩
    rw [Machine.exec_cons, hrest, hstep, received_cons a as, Machine.feed_append]
    simp only [List.append_assoc]

/-- The same from a state in which everything has been read to another. -/
theorem commands_run {h : DisplayHMI} (hinit : h.HMI_isInitialized = true) (hrx : h.rx = [])
    {as : List Action} (hread : (Machine.exec step h as).rx = []) :
    (Machine.exec step h as).touch = (Machine.feed touchByte h.touch (received as)).1 ∧
      (Machine.exec step h as).commands =
        h.commands ++ (Machine.feed touchByte h.touch (received as)).2 := by
  have hrun := (fed_run hinit as).2
  simp only [outlook, hrx, hread, Machine.feed_nil, List.append_nil, Prod.mk.injEq] at hrun
  exact hrun

/-! ### The parser -/

/-- The parser is in one of its three states. -/
theorem rxState_touchByte_le {s : TouchParser} (h : s.rxState ≤ 2) (b : UInt8) :
    (touchByte s b).1.rxState ≤ 2 := by
  unfold touchByte
  split_ifs
  · exact Nat.zero_le 2
  · show 1 ≤ 2
    omega
  · exact h
  · exact le_rfl
  · exact Nat.zero_le 2
  · exact h

/-- The commands that `SystemConfig.h` defines. -/
def hmiCommands : List UInt8 :=
  [HMI_CMD_START, HMI_CMD_RESET, HMI_CMD_EMERGENCY_STOP, HMI_CMD_DRIVE_ENABLE]

/-- The frame of a command: header, command, checksum. -/
def frame (c : UInt8) : List UInt8 := [HMI_FRAME_HEADER, c, ~~~c]

/-- The bytes of the frame of a defined command are no reset bytes, and only its first is a header
or the checksum of one. -/
theorem frame_bytes {c : UInt8} (hc : c ∈ hmiCommands) :
    ¬(c = 0xFF ∨ c = 0x00) ∧ ¬(~~~c = 0xFF ∨ ~~~c = 0x00) ∧ c ≠ HMI_FRAME_HEADER ∧
      ~~~c ≠ HMI_FRAME_HEADER ∧ c ≠ ~~~HMI_FRAME_HEADER := by
  simp only [hmiCommands, List.mem_cons, List.not_mem_nil, or_false] at hc
  rcases hc with rfl | rfl | rfl | rfl
  all_goals decide

theorem header_not_reset : ¬(HMI_FRAME_HEADER = 0xFF ∨ HMI_FRAME_HEADER = 0x00) := by decide

/-- A parser that waits for a header takes the first two bytes of a frame without completing
anything, and completes the command on the third. -/
theorem feed_frame_of_waiting {s : TouchParser} (hs : s.rxState = 0) {c : UInt8}
    (hc : c ∈ hmiCommands) :
    Machine.feed touchByte s [HMI_FRAME_HEADER, c] = ({ rxState := 2, pendingCmd := c }, []) ∧
      Machine.feed touchByte s (frame c) = ({ rxState := 0, pendingCmd := c }, [c]) := by
  obtain ⟨hreset, hreset', -, -, -⟩ := frame_bytes hc
  have hheader : touchByte s HMI_FRAME_HEADER = ({ s with rxState := 1 }, none) := by
    unfold touchByte
    rw [if_neg header_not_reset, if_pos hs, if_pos rfl]
  have hcommand : touchByte { s with rxState := 1 } c =
      ({ rxState := 2, pendingCmd := c }, none) := by
    unfold touchByte
    rw [if_neg hreset]
    rfl
  have hchecksum : touchByte { rxState := 2, pendingCmd := c } (~~~c) =
      ({ rxState := 0, pendingCmd := c }, some c) := by
    unfold touchByte
    rw [if_neg hreset']
    simp
  constructor
  · simp [Machine.feed_cons, hheader, hcommand]
  · simp [frame, Machine.feed_cons, hheader, hcommand, hchecksum]

/-- A parser inside a frame spends the header on that frame: it does not complete the command, and
waits for a header again after the three bytes. -/
theorem feed_frame_of_inside {s : TouchParser} (hs : s.rxState = 1 ∨ s.rxState = 2) {c : UInt8}
    (hc : c ∈ hmiCommands) :
    (Machine.feed touchByte s (frame c)).1.rxState = 0 ∧
      c ∉ (Machine.feed touchByte s (frame c)).2 := by
  obtain ⟨hreset, hreset', hheader, hheader', hne⟩ := frame_bytes hc
  rcases hs with hs | hs
  · -- the header is taken for a command, and the command for its checksum
    have h₁ : touchByte s HMI_FRAME_HEADER =
        ({ rxState := 2, pendingCmd := HMI_FRAME_HEADER }, none) := by
      unfold touchByte
      rw [if_neg header_not_reset, if_neg (by omega), if_pos hs]
    have h₂ : touchByte { rxState := 2, pendingCmd := HMI_FRAME_HEADER } c =
        ({ rxState := 0, pendingCmd := HMI_FRAME_HEADER }, none) := by
      unfold touchByte
      rw [if_neg hreset]
      simp [hne]
    have h₃ : touchByte { rxState := 0, pendingCmd := HMI_FRAME_HEADER } (~~~c) =
        ({ rxState := 0, pendingCmd := HMI_FRAME_HEADER }, none) := by
      unfold touchByte
      rw [if_neg hreset']
      simp [hheader']
    simp [frame, Machine.feed_cons, h₁, h₂, h₃]
  · -- the header is taken for a checksum, and the rest is skipped
    have h₁ : touchByte s HMI_FRAME_HEADER =
        ({ s with rxState := 0 },
          if HMI_FRAME_HEADER = ~~~s.pendingCmd then some s.pendingCmd else none) := by
      unfold touchByte
      rw [if_neg header_not_reset, if_neg (by omega), if_neg (by omega), if_pos hs]
    have h₂ : touchByte { s with rxState := 0 } c = ({ s with rxState := 0 }, none) := by
      unfold touchByte
      rw [if_neg hreset]
      simp [hheader]
    have h₃ : touchByte { s with rxState := 0 } (~~~c) = ({ s with rxState := 0 }, none) := by
      unfold touchByte
      rw [if_neg hreset']
      simp [hheader']
    have hfeed : Machine.feed touchByte s (frame c) =
        ({ s with rxState := 0 },
          (if HMI_FRAME_HEADER = ~~~s.pendingCmd then some s.pendingCmd else none).toList) := by
      simp [frame, Machine.feed_cons, h₁, h₂, h₃]
    rw [hfeed]
    refine ⟨rfl, ?_⟩
    split_ifs with hpending
    · -- what it may complete is the command whose checksum is the header
      have hother : c ≠ s.pendingCmd := by
        rintro rfl
        exact hne (by rw [hpending, UInt8.not_not])
      simpa using hother
    · simp

/-! ### Recognition -/

/-- From here on the frame of the command `c` is recognised: however its bytes arrive and are read,
the first two make `readTouchCommand` return nothing, and the third makes it return `c`. -/
def Recognised (c : UInt8) (h : DisplayHMI) : Prop :=
  ∀ as, (Machine.exec step h as).rx = [] →
    (received as = [HMI_FRAME_HEADER, c] → (Machine.exec step h as).commands = h.commands) ∧
      (received as = frame c → (Machine.exec step h as).commands = h.commands ++ [c])

/-- What every run establishes: the parser is in one of its three states. -/
theorem rxState_after_le (as : List Action) : (after as).touch.rxState ≤ 2 := by
  refine Machine.exec_invariant (fun h : DisplayHMI => h.touch.rxState ≤ 2) ?_ (Nat.zero_le 2)
  intro h a _ hle
  cases a with
  | begin driverInstalled =>
    show (begin driverInstalled h).touch.rxState ≤ 2
    unfold begin
    split_ifs <;> exact hle
  | receive bytes =>
    simp only [step]
    split_ifs <;> exact hle
  | readTouchCommand =>
    show (readTouchCommand h).2.touch.rxState ≤ 2
    unfold readTouchCommand
    split_ifs
    · exact hle
    · exact Machine.readOne_invariant touchByte (fun s => s.rxState ≤ 2)
        (fun _ b hs => rxState_touchByte_le hs b) hle h.rx

/-- A call with one unread byte reads it. -/
theorem rx_readTouchCommand_of_singleton {h : DisplayHMI} (hinit : h.HMI_isInitialized = true)
    {b : UInt8} (hrx : h.rx = [b]) : (step h .readTouchCommand).rx = [] := by
  simp only [step, readTouchCommand, hinit, hrx, Bool.not_true, Bool.false_eq_true, if_false]
  rw [Machine.readOne]
  rcases touchByte h.touch b with ⟨s', _ | out⟩
  · rfl
  · rfl

/-- Bytes that arrive and are read one at a time. -/
def oneByOne (bs : List UInt8) : List Action :=
  bs.flatMap fun b => [.receive [b], .readTouchCommand]

theorem received_oneByOne (bs : List UInt8) : received (oneByOne bs) = bs := by
  induction bs with
  | nil => rfl
  | cons b bs ih => exact congrArg (b :: ·) ih

/-- Bytes that arrive one at a time are all read. -/
theorem rx_oneByOne {h : DisplayHMI} (hinit : h.HMI_isInitialized = true) (hrx : h.rx = [])
    (bs : List UInt8) : (Machine.exec step h (oneByOne bs)).rx = [] := by
  induction bs generalizing h with
  | nil => exact hrx
  | cons b bs ih =>
    have hreceived : (step h (.receive [b])).HMI_isInitialized = true ∧
        (step h (.receive [b])).rx = [b] := by
      simp [step, hinit, hrx]
    exact ih (step_spec hreceived.1 .readTouchCommand).1
      (rx_readTouchCommand_of_singleton hreceived.1 hreceived.2)

/-- **When a frame is recognised**: after any run whose bytes have all been read, the frame of a
defined command is recognised exactly when the parser waits for a header. -/
theorem recognised_iff (as : List Action) (hinit : (after as).HMI_isInitialized = true)
    (hrx : (after as).rx = []) {c : UInt8} (hc : c ∈ hmiCommands) :
    Recognised c (after as) ↔ (after as).touch.rxState = 0 := by
  constructor
  · intro h
    by_contra hne
    have hle := rxState_after_le as
    have hinside : (after as).touch.rxState = 1 ∨ (after as).touch.rxState = 2 := by omega
    have hread := rx_oneByOne hinit hrx (frame c)
    have hcommands := (h _ hread).2 (received_oneByOne _)
    rw [(commands_run hinit hrx hread).2, received_oneByOne] at hcommands
    have hfeed : (Machine.feed touchByte (after as).touch (frame c)).2 = [c] :=
      List.append_cancel_left hcommands
    refine (feed_frame_of_inside hinside hc).2 ?_
    rw [hfeed]
    exact List.mem_singleton_self c
  · intro hs more hread
    obtain ⟨htwo, hthree⟩ := feed_frame_of_waiting hs hc
    rw [(commands_run hinit hrx hread).2]
    constructor
    · intro hreceived
      rw [hreceived, htwo, List.append_nil]
    · intro hreceived
      rw [hreceived, hthree]

/-- The display has been started and has read noise without a header and a `START` frame. -/
def afterStartFrame : List Action :=
  [.begin true, .receive [0x12, 0x34], .readTouchCommand, .receive (frame HMI_CMD_START),
    .readTouchCommand]

/-- Noise without a header and a whole frame leave the parser waiting for a header. -/
theorem recognised_emergencyStop_after_frame :
    Recognised HMI_CMD_EMERGENCY_STOP (after afterStartFrame) :=
  (recognised_iff afterStartFrame (by decide) (by decide) (by decide)).mpr (by decide)

/-- A single stray header has been read. -/
def afterStrayHeader : List Action :=
  [.begin true, .receive [HMI_FRAME_HEADER], .readTouchCommand]

/-- **A lost emergency stop**: a stray header makes the parser lose the frame that follows. -/
theorem not_recognised_of_stray_header :
    (after afterStrayHeader).HMI_isInitialized = true ∧ (after afterStrayHeader).rx = [] ∧
      ¬Recognised HMI_CMD_EMERGENCY_STOP (after afterStrayHeader) := by
  refine ⟨by decide, by decide, fun h => ?_⟩
  have hlost := (h [.receive (frame HMI_CMD_EMERGENCY_STOP), .readTouchCommand] (by decide)).2
    (by decide)
  exact absurd hlost (by decide)

/-! ### A frame that is sent twice -/

/-- **A frame that is sent twice is recognised**, whatever came before: at the latest, the second
frame completes the command. -/
theorem recognised_twice {s : TouchParser} (hs : s.rxState ≤ 2) {c : UInt8} (hc : c ∈ hmiCommands) :
    c ∈ (Machine.feed touchByte s (frame c ++ frame c)).2 := by
  rw [Machine.feed_append]
  apply List.mem_append_right
  have hwaiting : (Machine.feed touchByte s (frame c)).1.rxState = 0 := by
    by_cases h0 : s.rxState = 0
    · rw [(feed_frame_of_waiting h0 hc).2]
    · exact (feed_frame_of_inside (by omega) hc).1
  rw [(feed_frame_of_waiting hwaiting hc).2]
  exact List.mem_singleton_self c

end TufanAks.DisplayHMI
