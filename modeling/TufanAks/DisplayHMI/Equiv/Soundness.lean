import TufanAks.DisplayHMI.Equiv.TouchCommand

/-!
# What `readTouchCommand` returns

The commands returned are those that the parser completes on the bytes consumed, however these
arrive and are spread over calls (`afterBegin_spec`).  A command is completed only at the last byte
of its frame, by a parser that took the first two bytes of the frame for that
(`completed_at_frame`), so the frames of the commands lie in the stream one after the other
(`framed_completed`).
-/

namespace TufanAks.DisplayHMI

/-! ### The parser on a stream -/

/-- The parser after a stream from its start. -/
def parser (bs : List UInt8) : TouchParser := (Machine.feed touchByte {} bs).1

/-- The commands that a stream completes. -/
def completed (bs : List UInt8) : List UInt8 := (Machine.feed touchByte {} bs).2

theorem parser_concat (bs : List UInt8) (b : UInt8) :
    parser (bs ++ [b]) = (touchByte (parser bs) b).1 := by
  unfold parser
  rw [Machine.feed_append]
  rfl

theorem completed_concat (bs : List UInt8) (b : UInt8) :
    completed (bs ++ [b]) = completed bs ++ (touchByte (parser bs) b).2.toList := by
  unfold completed parser
  rw [Machine.feed_append, Machine.feed_cons, Machine.feed_nil, List.append_nil]

/-- Inside a frame the parser has just consumed the beginning of one, and completed nothing
since. -/
structure InsideFrame (bs : List UInt8) (s : TouchParser) : Prop where
  le_two : s.rxState ≤ 2
  header : s.rxState = 1 → ∃ pre, bs = pre ++ [HMI_FRAME_HEADER] ∧ completed pre = completed bs
  command : s.rxState = 2 → ¬(s.pendingCmd = 0xFF ∨ s.pendingCmd = 0x00) ∧
    ∃ pre, bs = pre ++ [HMI_FRAME_HEADER, s.pendingCmd] ∧ completed pre = completed bs

/-- What one byte does: it starts a frame, is taken for its command, completes it, ends it or
changes nothing. -/
theorem touchByte_cases (s : TouchParser) (b : UInt8) :
    (s.rxState = 0 ∧ b = HMI_FRAME_HEADER ∧ touchByte s b = ({ s with rxState := 1 }, none)) ∨
    (s.rxState = 1 ∧ ¬(b = 0xFF ∨ b = 0x00) ∧
      touchByte s b = ({ rxState := 2, pendingCmd := b }, none)) ∨
    (s.rxState = 2 ∧ b = ~~~s.pendingCmd ∧
      touchByte s b = ({ s with rxState := 0 }, some s.pendingCmd)) ∨
    touchByte s b = ({ s with rxState := 0 }, none) ∨
    (s.rxState ≠ 1 ∧ s.rxState ≠ 2 ∧ touchByte s b = (s, none)) := by
  unfold touchByte
  by_cases hreset : b = 0xFF ∨ b = 0x00
  · exact .inr (.inr (.inr (.inl (if_pos hreset))))
  rw [if_neg hreset]
  by_cases h0 : s.rxState = 0
  · rw [if_pos h0]
    by_cases hheader : b = HMI_FRAME_HEADER
    · exact .inl ⟨h0, hheader, by rw [if_pos hheader]⟩
    · exact .inr (.inr (.inr (.inr ⟨by omega, by omega, by rw [if_neg hheader]⟩)))
  rw [if_neg h0]
  by_cases h1 : s.rxState = 1
  · exact .inr (.inl ⟨h1, hreset, if_pos h1⟩)
  rw [if_neg h1]
  by_cases h2 : s.rxState = 2
  · rw [if_pos h2]
    dsimp only
    by_cases hsum : b = ~~~s.pendingCmd
    · exact .inr (.inr (.inl ⟨h2, hsum, by rw [if_pos hsum]⟩))
    · exact .inr (.inr (.inr (.inl (by rw [if_neg hsum]))))
  · exact .inr (.inr (.inr (.inr ⟨h1, h2, if_neg h2⟩)))

theorem parser_insideFrame (bs : List UInt8) : InsideFrame bs (parser bs) := by
  induction bs using List.reverseRecOn with
  | nil => exact ⟨Nat.zero_le 2, fun h => absurd h (by decide), fun h => absurd h (by decide)⟩
  | append_singleton bs b ih =>
    have hle := rxState_touchByte_le ih.le_two b
    rw [parser_concat]
    obtain ⟨-, hb, hstep⟩ | ⟨h1, hreset, hstep⟩ | ⟨-, -, hstep⟩ | hstep | ⟨h1, h2, hstep⟩ :=
      touchByte_cases (parser bs) b
    all_goals have hcompleted := completed_concat bs b
    all_goals rw [hstep] at hle hcompleted ⊢
    · rw [Option.toList_none, List.append_nil] at hcompleted
      exact ⟨hle, fun _ => ⟨bs, by rw [hb], hcompleted.symm⟩, fun h => absurd h (by simp)⟩
    · -- the byte before it was the header
      rw [Option.toList_none, List.append_nil] at hcompleted
      refine ⟨hle, fun h => absurd h (by simp), fun _ => ⟨hreset, ?_⟩⟩
      obtain ⟨pre, hpre, hquiet⟩ := ih.header h1
      refine ⟨pre, ?_, hquiet.trans hcompleted.symm⟩
      rw [hpre, List.append_assoc]
      rfl
    · exact ⟨hle, fun h => absurd h (by simp), fun h => absurd h (by simp)⟩
    · exact ⟨hle, fun h => absurd h (by simp), fun h => absurd h (by simp)⟩
    · exact ⟨hle, fun h => absurd h h1, fun h => absurd h h2⟩

/-- **A command is completed at the end of its frame** only, and the bytes of the frame have not
completed another. -/
theorem completed_at_frame {bs : List UInt8} {b c : UInt8}
    (h : (touchByte (parser bs) b).2 = some c) :
    ¬(c = 0xFF ∨ c = 0x00) ∧ ∃ pre, bs ++ [b] = pre ++ frame c ∧ completed pre = completed bs := by
  obtain ⟨-, -, hstep⟩ | ⟨-, -, hstep⟩ | ⟨h2, hsum, hstep⟩ | hstep | ⟨-, -, hstep⟩ :=
    touchByte_cases (parser bs) b
  all_goals rw [hstep] at h
  · cases h
  · cases h
  · obtain ⟨hpending, pre, hpre, hquiet⟩ := (parser_insideFrame bs).command h2
    obtain rfl := Option.some.inj h
    refine ⟨hpending, pre, ?_, hquiet⟩
    calc bs ++ [b]
        = (pre ++ [HMI_FRAME_HEADER, (parser bs).pendingCmd]) ++ [~~~(parser bs).pendingCmd] := by
          rw [← hpre, hsum]
      _ = pre ++ frame (parser bs).pendingCmd := by
          rw [List.append_assoc]
          rfl
  · cases h
  · cases h

/-! ### Frames in a stream -/

/-- The bytes hold the frames of the commands, one after the other, with any other bytes before,
between and behind them. -/
def Framed : List UInt8 → List UInt8 → Prop
  | _, [] => True
  | bytes, c :: cs => ∃ gap rest, bytes = gap ++ frame c ++ rest ∧ Framed rest cs

/-- A frame behind the others. -/
theorem framed_append_frame {bytes cs : List UInt8} (h : Framed bytes cs) (c : UInt8)
    (more : List UInt8) : Framed (bytes ++ frame c ++ more) (cs ++ [c]) := by
  induction cs generalizing bytes with
  | nil => exact ⟨bytes, more, rfl, trivial⟩
  | cons d cs ih =>
    obtain ⟨gap, rest, rfl, hrest⟩ := h
    refine ⟨gap, rest ++ frame c ++ more, ?_, ih hrest⟩
    simp only [List.append_assoc]

theorem framed_append {bytes cs : List UInt8} (h : Framed bytes cs) (more : List UInt8) :
    Framed (bytes ++ more) cs := by
  induction cs generalizing bytes with
  | nil => trivial
  | cons d cs ih =>
    obtain ⟨gap, rest, rfl, hrest⟩ := h
    exact ⟨gap, rest ++ more, by rw [List.append_assoc], ih hrest⟩

/-- **The frames of the completed commands** lie in the stream one after the other. -/
theorem framed_completed (bs : List UInt8) : Framed bs (completed bs) := by
  induction hlength : bs.length using Nat.strongRecOn generalizing bs with
  | _ n ih =>
    rcases List.eq_nil_or_concat bs with rfl | ⟨init, b, rfl⟩
    · trivial
    rw [List.concat_eq_append] at hlength ⊢
    rw [List.length_append, List.length_singleton] at hlength
    rw [completed_concat]
    cases hb : (touchByte (parser init) b).2 with
    | none =>
      rw [Option.toList_none, List.append_nil]
      exact framed_append (ih init.length (by omega) init rfl) [b]
    | some c =>
      -- what was completed before was completed before the frame of `c`
      obtain ⟨-, pre, hframe, hpre⟩ := completed_at_frame hb
      have hlt : pre.length < n := by
        have hcount := congrArg List.length hframe
        rw [List.length_append, List.length_append, List.length_singleton] at hcount
        have hthree : (frame c).length = 3 := rfl
        omega
      rw [hframe, ← hpre, Option.toList_some]
      have hframed := framed_append_frame (ih pre.length hlt pre rfl) c []
      rwa [List.append_nil] at hframed

/-! ### Calls -/

/-- The display after a successful `begin` and the actions `as`. -/
def afterBegin (as : List Action) : DisplayHMI := after (.begin true :: as)

/-- The bytes consumed, and what they determine. -/
theorem afterBegin_spec (as : List Action) :
    (afterBegin as).HMI_isInitialized = true ∧ ∃ bs, received as = bs ++ (afterBegin as).rx ∧
      (afterBegin as).touch = parser bs ∧ (afterBegin as).commands = completed bs := by
  induction as using List.reverseRecOn with
  | nil => exact ⟨rfl, [], rfl, rfl, rfl⟩
  | append_singleton as a ih =>
    obtain ⟨hinit, bs, hreceived, htouch, hcommands⟩ := ih
    have hstep : afterBegin (as ++ [a]) = step (afterBegin as) a := Machine.exec_concat _ _ _
    have hmore : received (as ++ [a]) = received as ++ received [a] := by simp [received]
    refine ⟨hstep ▸ (step_spec hinit a).1, ?_⟩
    rw [hstep, hmore]
    cases a with
    | begin driverInstalled =>
      have hsame : step (afterBegin as) (.begin driverInstalled) = afterBegin as := by
        simp [step, begin, hinit]
      rw [hsame]
      exact ⟨bs, by rw [hreceived]; simp [received], htouch, hcommands⟩
    | receive bytes =>
      have hrx : step (afterBegin as) (.receive bytes) =
          { afterBegin as with rx := (afterBegin as).rx ++ bytes } := by
        simp [step, hinit]
      rw [hrx]
      exact ⟨bs, by rw [hreceived]; simp [received], htouch, hcommands⟩
    | readTouchCommand =>
      obtain ⟨read, hread, hfeed⟩ :=
        Machine.readOne_spec touchByte (afterBegin as).touch (afterBegin as).rx
      have hrest : received [Action.readTouchCommand] = [] := rfl
      have hall : Machine.feed touchByte {} (bs ++ read) =
          ((Machine.readOne touchByte (afterBegin as).touch (afterBegin as).rx).2.1,
            completed bs ++
              (Machine.readOne touchByte (afterBegin as).touch (afterBegin as).rx).1.toList) := by
        rw [Machine.feed_append]
        show ((Machine.feed touchByte (parser bs) read).1,
          completed bs ++ (Machine.feed touchByte (parser bs) read).2) = _
        rw [← htouch, hfeed]
      simp only [step, readTouchCommand, hinit, Bool.not_true, Bool.false_eq_true, if_false]
      refine ⟨bs ++ read, ?_, (congrArg Prod.fst hall).symm, ?_⟩
      · rw [hrest, List.append_nil, hreceived, List.append_assoc, ← hread]
      · rw [hcommands]
        exact (congrArg Prod.snd hall).symm

/-- A call returns a command at the last byte of its frame. -/
theorem frame_of_readTouchCommand {as : List Action} {c : UInt8}
    (h : (readTouchCommand (afterBegin as)).1 = some c) :
    ¬(c = 0xFF ∨ c = 0x00) ∧
      ∃ pre, received as = pre ++ frame c ++ (readTouchCommand (afterBegin as)).2.rx ∧
        completed pre = (afterBegin as).commands := by
  obtain ⟨hinit, bs, hreceived, htouch, hcommands⟩ := afterBegin_spec as
  simp only [readTouchCommand, hinit, Bool.not_true, Bool.false_eq_true, if_false] at h ⊢
  rcases hcall : Machine.readOne touchByte (afterBegin as).touch (afterBegin as).rx
    with ⟨out, touch, rest⟩
  rw [hcall] at h
  obtain rfl : out = some c := h
  obtain ⟨pre, b, hrx, hquiet, hlast⟩ := Machine.readOne_eq_some touchByte hcall
  rw [htouch] at hquiet hlast
  have hfeed : Machine.feed touchByte {} (bs ++ pre) =
      ((Machine.feed touchByte (parser bs) pre).1, completed bs) := by
    rw [Machine.feed_append]
    show ((Machine.feed touchByte (parser bs) pre).1,
      completed bs ++ (Machine.feed touchByte (parser bs) pre).2) = _
    rw [hquiet, List.append_nil]
  have hcompleted : completed (bs ++ pre) = completed bs := by
    show (Machine.feed touchByte {} (bs ++ pre)).2 = _
    rw [hfeed]
  have hend : (touchByte (parser (bs ++ pre)) b).2 = some c := by
    show (touchByte (Machine.feed touchByte {} (bs ++ pre)).1 b).2 = some c
    rw [hfeed, hlast]
  obtain ⟨hreset, start, hframe, hstart⟩ := completed_at_frame hend
  refine ⟨hreset, start, ?_, by rw [hstart, hcompleted, hcommands]⟩
  rw [hreceived, hrx, ← hframe]
  simp only [List.append_assoc, List.cons_append, List.nil_append]

/-- **What is returned**: the commands depend on the bytes consumed alone, however they arrived and
were spread over calls; a call returns a command at the last byte of its frame; and the frames of
all commands lie in the bytes consumed one after the other. -/
theorem commands_sound :
    (∀ as as' bs, received as = bs ++ (afterBegin as).rx →
      received as' = bs ++ (afterBegin as').rx →
      (afterBegin as).commands = (afterBegin as').commands) ∧
    (∀ as c, (readTouchCommand (afterBegin as)).1 = some c → c ≠ 0x00 ∧ c ≠ 0xFF ∧
      ∃ bs, received as =
        bs ++ [HMI_FRAME_HEADER, c, ~~~c] ++ (readTouchCommand (afterBegin as)).2.rx) ∧
    (∀ as, ∃ bs, received as = bs ++ (afterBegin as).rx ∧ Framed bs (afterBegin as).commands) := by
  have hcommands : ∀ as bs, received as = bs ++ (afterBegin as).rx →
      (afterBegin as).commands = completed bs := by
    intro as bs h
    obtain ⟨-, bs', hreceived, -, hcommands⟩ := afterBegin_spec as
    rw [hcommands, List.append_cancel_right (hreceived.symm.trans h)]
  refine ⟨?_, ?_, ?_⟩
  · intro as as' bs h h'
    rw [hcommands as bs h, hcommands as' bs h']
  · intro as c h
    obtain ⟨hreset, pre, hreceived, -⟩ := frame_of_readTouchCommand h
    exact ⟨fun hc => hreset (.inr hc), fun hc => hreset (.inl hc), pre, hreceived⟩
  · intro as
    obtain ⟨-, bs, hreceived, -, hbs⟩ := afterBegin_spec as
    exact ⟨bs, hreceived, hbs ▸ framed_completed bs⟩

end TufanAks.DisplayHMI
