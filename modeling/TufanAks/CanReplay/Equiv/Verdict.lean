import TufanAks.CanReplay.Equiv.Lines

/-!
# The verdict on a log

The tool passes a log exactly when each of its lines is skipped or shows a frame that meets the
demands (`verdict_exact`).  Its report counts the frames by format and identifier, lists the
identifiers that are not known, each once, and names the lines at fault, as far as there is room.
-/

namespace TufanAks.CanReplay

open Text

/-! ### What the tool looks for -/

/-- Whether a line is empty or a comment. -/
def Skipped (line : List Char) : Prop :=
  trim isBlank line = [] ∨ (trim isBlank line).head? = some '#'

instance (line : List Char) : Decidable (Skipped line) := inferInstanceAs (Decidable (_ ∨ _))

/-- The frame that a line shows, if it shows one; its line number is left open. -/
def lineFrame (line : List Char) : Option Frame :=
  if Skipped line then none else (parseLine (trim isBlank line) 0).toOption

/-- The frames of a log. -/
def frames (log : List Char) : List Frame := (getlines '\n' log).filterMap lineFrame

/-- The demands on a frame: an extended one must be long enough, and in the idle session it must
show 79.0 V at a raw current of -1 or -2, or ask for 88.0 V and 100.0 A. -/
structure Expected (sessionAsserts : Bool) (f : Frame) : Prop where
  pack : f.isExt = true → f.id = 0x0000E000 → 8 ≤ f.msg.data_length_code ∧
    (sessionAsserts = true → f.msg.word 1 = kExpectedPackVDeciV ∧
      ((f.msg.word 0).toInt16 = -1 ∨ (f.msg.word 0).toInt16 = -2))
  charger : f.isExt = true → f.id = 0x1806E5F4 → 4 ≤ f.msg.data_length_code ∧
    (sessionAsserts = true → f.msg.word 0 = kExpectedChargerVsetDeciV ∧
      f.msg.word 1 = kExpectedChargerIsetDeciA)

/-- A line that is not at fault. -/
def Good (sessionAsserts : Bool) (line : List Char) : Prop :=
  Skipped line ∨ ∃ f, lineFrame line = some f ∧ Expected sessionAsserts f

/-- The identifiers that are known in each format. -/
def knownIds (isExt : Bool) : List UInt32 := if isExt then kKnownExtIds else kKnownStdIds

/-! ### Violations -/

/-- The text of a violation in a line. -/
def violationText (v : ℕ × String) : String := "satir " ++ toString v.1 ++ v.2

/-- The violations `whats` of line `n`, one after the other. -/
abbrev addAll (n : ℕ) (whats : List String) (st : Stats) : Stats :=
  Machine.exec (fun st what => st.addViolation (violationText (n, what))) st whats

/-- One demand: the violation is added if it is not met. -/
theorem addAll_ite (n : ℕ) (p : Prop) [Decidable p] (what : String) (st : Stats) :
    (if p then st.addViolation (violationText (n, what)) else st) =
      addAll n (if p then [what] else []) st := by
  split_ifs <;> rfl

theorem whats_eq_nil_iff {p : Prop} [Decidable p] {what : String} :
    (if p then [what] else []) = [] ↔ ¬p := by
  split_ifs with h <;> simp [h]

/-- The statistics hold the violations `vs`. -/
structure Reported (vs : List (ℕ × String)) (st : Stats) : Prop where
  count : st.violationCount = vs.length
  texts : st.violations = (vs.map violationText).take 20

theorem Reported.addViolation {vs : List (ℕ × String)} {st : Stats} (h : Reported vs st)
    (v : ℕ × String) : Reported (vs ++ [v]) (st.addViolation (violationText v)) where
  count := by
    show st.violationCount + 1 = _
    rw [h.count, List.length_append, List.length_singleton]
  texts := by
    have hlength : st.violations.length = min 20 vs.length := by
      rw [h.texts, List.length_take, List.length_map]
    show (if st.violations.length < 20 then st.violations ++ [violationText v]
      else st.violations) = _
    rw [List.map_append, List.map_singleton]
    by_cases hroom : vs.length < 20
    · rw [if_pos (by omega), h.texts, List.take_of_length_le (by simp; omega),
        List.take_of_length_le (by simp; omega)]
    · rw [if_neg (by omega), h.texts, List.take_append_of_le_length (by simp; omega)]

theorem Reported.addAll {vs : List (ℕ × String)} {st : Stats} (h : Reported vs st) (n : ℕ)
    (whats : List String) :
    Reported (vs ++ whats.map fun what => (n, what)) (addAll n whats st) := by
  induction whats generalizing vs st with
  | nil => simpa using h
  | cons what whats ih =>
    have hnext := ih (h.addViolation (n, what))
    rw [List.append_assoc, List.singleton_append] at hnext
    exact hnext

/-- Violations change nothing else. -/
theorem addAll_frame (n : ℕ) (whats : List String) (st : Stats) :
    (addAll n whats st).total = st.total ∧ (addAll n whats st).countsById = st.countsById ∧
      (addAll n whats st).unknownIds = st.unknownIds := by
  induction whats generalizing st with
  | nil => exact ⟨rfl, rfl, rfl⟩
  | cons what whats ih => exact ih _

/-! ### One frame -/

/-- Ten times a current is one of the two values only for the two raw currents. -/
theorem current_iff (raw : Int16) :
    (raw.toInt32 * 10 ≠ -10 ∧ raw.toInt32 * 10 ≠ -20) ↔ ¬(raw = -1 ∨ raw = -2) := by
  have hlow := raw.le_toInt
  have hhigh := raw.toInt_lt
  -- the product of a 16-bit number does not leave the 32 bits
  have hmul : (raw.toInt32 * 10).toInt = raw.toInt * 10 := by
    rw [Int32.toInt_mul, Int16.toInt_toInt32]
    show (raw.toInt * 10).bmod (2 ^ 32) = _
    exact Int.bmod_eq_of_le (by omega) (by omega)
  have hvalues : ((-10 : Int32).toInt = -10 ∧ (-20 : Int32).toInt = -20) ∧
      (-1 : Int16).toInt = -1 ∧ (-2 : Int16).toInt = -2 := by decide
  obtain ⟨⟨hten, htwenty⟩, hone, htwo⟩ := hvalues
  rw [ne_eq, ne_eq, ← Int32.toInt_inj, ← Int32.toInt_inj, ← Int16.toInt_inj, ← Int16.toInt_inj,
    hmul, hten, htwenty, hone, htwo]
  omega

/-- The two bytes say the same as the pack voltage. -/
theorem bytes_iff (msg : twai_message_t) :
    (byteAt msg 2 ≠ 0x03 ∨ byteAt msg 3 ≠ 0x16) ↔ msg.word 1 ≠ kExpectedPackVDeciV := by
  show (msg.data 2 ≠ 0x03 ∨ msg.data 3 ≠ 0x16) ↔ _
  have hword : (msg.word 1).toNat = 256 * (msg.data 2).toNat + (msg.data 3).toNat :=
    Word.toNat_be16 (msg.data 2) (msg.data 3)
  have hlow : (msg.data 3).toNat < 2 ^ 8 := (msg.data 3).toNat_lt
  have hconst : kExpectedPackVDeciV.toNat = 790 ∧ (0x03 : UInt8).toNat = 3 ∧
      (0x16 : UInt8).toNat = 22 := by decide
  obtain ⟨hpack, hthree, htwentyTwo⟩ := hconst
  rw [ne_eq, ne_eq, ne_eq, ← UInt8.toNat_inj, ← UInt8.toNat_inj, ← UInt16.toNat_inj, hword, hpack,
    hthree, htwentyTwo]
  omega

/-- The demands on an `0xE000` frame. -/
theorem expected_E000 {f : Frame} (hext : f.isExt = true) (hid : f.id = 0x0000E000)
    (sessionAsserts : Bool) :
    Expected sessionAsserts f ↔ 8 ≤ f.msg.data_length_code ∧
      (sessionAsserts = true → f.msg.word 1 = kExpectedPackVDeciV ∧
        ((f.msg.word 0).toInt16 = -1 ∨ (f.msg.word 0).toInt16 = -2)) := by
  have hne : f.id ≠ 0x1806E5F4 := by
    rw [hid]
    decide
  exact ⟨fun h => h.pack hext hid, fun h => ⟨fun _ _ => h, fun _ hid' => absurd hid' hne⟩⟩

/-- The demands on a frame of the charger. -/
theorem expected_charger {f : Frame} (hext : f.isExt = true) (hid : f.id = 0x1806E5F4)
    (sessionAsserts : Bool) :
    Expected sessionAsserts f ↔ 4 ≤ f.msg.data_length_code ∧
      (sessionAsserts = true → f.msg.word 0 = kExpectedChargerVsetDeciV ∧
        f.msg.word 1 = kExpectedChargerIsetDeciA) := by
  have hne : f.id ≠ 0x0000E000 := by
    rw [hid]
    decide
  exact ⟨fun h => h.charger hext hid, fun h => ⟨fun _ hid' => absurd hid' hne, fun _ _ => h⟩⟩

/-- A text of several pieces. -/
theorem violationText_append (n : ℕ) (a b : String) :
    violationText (n, a) ++ b = violationText (n, a ++ b) := String.append_assoc

/-- **An `0xE000` frame** adds violations, none exactly if it meets the demands. -/
theorem processExtFrame_E000 {f : Frame} (hext : f.isExt = true) (hid : f.id = 0x0000E000)
    (sessionAsserts : Bool) (st : Stats) :
    ∃ whats, (whats = [] ↔ Expected sessionAsserts f) ∧
      processExtFrame f sessionAsserts st = addAll f.lineNo whats st := by
  have htext : ∀ a, "satir " ++ toString f.lineNo ++ a = violationText (f.lineNo, a) :=
    fun _ => rfl
  unfold processExtFrame CanParse.parseLbBmsE000
  rw [expected_E000 hext hid, ← UInt8.not_lt]
  dsimp only
  rw [if_pos hid]
  by_cases hdlc : f.msg.data_length_code < 8
  · rw [if_pos hdlc]
    exact ⟨[": parseLbBmsE000 false dondu (DLC<8)"], by simp [hdlc], rfl⟩
  rw [if_neg hdlc]
  dsimp only
  cases sessionAsserts with
  | false => exact ⟨[], by simp [hdlc], rfl⟩
  | true =>
    simp only [htext, violationText_append, addAll_ite, bytes_iff, current_iff, Bool.not_true,
      Bool.false_eq_true, if_false, ← Machine.exec_append]
    refine ⟨_, ?_, rfl⟩
    rw [List.append_eq_nil_iff, List.append_eq_nil_iff, whats_eq_nil_iff, whats_eq_nil_iff,
      whats_eq_nil_iff]
    tauto

/-- **A frame of the charger** does the same. -/
theorem processExtFrame_charger {f : Frame} (hext : f.isExt = true) (hid : f.id = 0x1806E5F4)
    (sessionAsserts : Bool) (st : Stats) :
    ∃ whats, (whats = [] ↔ Expected sessionAsserts f) ∧
      processExtFrame f sessionAsserts st = addAll f.lineNo whats st := by
  have htext : ∀ a, "satir " ++ toString f.lineNo ++ a = violationText (f.lineNo, a) :=
    fun _ => rfl
  have hne : ¬f.id = 0x0000E000 := by
    rw [hid]
    decide
  unfold processExtFrame CanParse.parseCharger1806E5F4
  rw [expected_charger hext hid, ← UInt8.not_lt]
  dsimp only
  rw [if_neg hne, if_pos hid]
  by_cases hdlc : f.msg.data_length_code < 4
  · rw [if_pos hdlc]
    exact ⟨[": parseCharger1806E5F4 false dondu (DLC<4)"], by simp [hdlc], rfl⟩
  rw [if_neg hdlc]
  dsimp only
  cases sessionAsserts with
  | false => exact ⟨[], by simp [hdlc], rfl⟩
  | true =>
    simp only [htext, violationText_append, addAll_ite, Bool.not_true, Bool.false_eq_true, if_false]
    refine ⟨_, ?_, rfl⟩
    rw [whats_eq_nil_iff]
    tauto

/-- The statistics after the identifier of a frame is noted, if it is not known. -/
def Stats.noteId (f : Frame) (st : Stats) : Stats :=
  if f.id ∈ knownIds f.isExt then st
  else { st with unknownIds := st.unknownIds.insert (idKey f.isExt f.id) }

/-- **What an extended frame adds to the statistics**: its identifier, and violations, none exactly
if it meets the demands. -/
theorem processExtFrame_spec {f : Frame} (hext : f.isExt = true) (sessionAsserts : Bool)
    (st : Stats) :
    ∃ whats, (whats = [] ↔ Expected sessionAsserts f) ∧
      processExtFrame f sessionAsserts st = addAll f.lineNo whats (st.noteId f) := by
  have hids : knownIds f.isExt = kKnownExtIds := by rw [hext]; rfl
  unfold Stats.noteId
  rw [hids, hext]
  by_cases hchecked : f.id = 0x0000E000 ∨ f.id = 0x1806E5F4
  · have hknown : f.id ∈ kKnownExtIds := by
      rcases hchecked with hid | hid
      · rw [hid]
        decide
      · rw [hid]
        decide
    rw [if_pos hknown]
    exact hchecked.elim (processExtFrame_E000 hext · sessionAsserts st)
      (processExtFrame_charger hext · sessionAsserts st)
  · obtain ⟨hE000, hcharger⟩ := not_or.mp hchecked
    have hknown : f.id ∈ kKnownExtIds ↔ f.id = 0x0000E001 ∨ f.id = 0x0000E002 ∨
        f.id = 0x0000E003 ∨ f.id = 0x0000E004 ∨ f.id = 0x0000E005 ∨ f.id = 0x0000E032 ∨
        f.id = 0x0000E033 := by
      simp [kKnownExtIds, hE000, hcharger]
    have hmet : Expected sessionAsserts f :=
      ⟨fun _ hid => absurd hid hE000, fun _ hid => absurd hid hcharger⟩
    refine ⟨[], iff_of_true rfl hmet, ?_⟩
    unfold processExtFrame
    dsimp only
    rw [if_neg hE000, if_neg hcharger]
    by_cases hid : f.id ∈ kKnownExtIds
    · rw [if_pos (hknown.mp hid), if_pos hid]
      rfl
    · rw [if_neg (mt hknown.mpr hid), if_neg hid]
      rfl

/-! ### One line -/

/-- The line number is only stored. -/
theorem parseLine_lineNo (line : List Char) (n : ℕ) :
    parseLine line n = (parseLine line 0).map fun f => { f with lineNo := n } := by
  unfold parseLine
  dsimp only
  split
  next =>
    split_ifs
    · rfl
    · rfl
    · cases readBytes 0 (fun _ => 0) (words _) with
      | error err => rfl
      | ok read =>
        dsimp only
        split_ifs
        · rfl
        · rfl
  next => rfl

/-- The statistics after a frame is counted. -/
def Stats.count (f : Frame) (st : Stats) : Stats :=
  let key := idKey f.isExt f.id
  Stats.noteId f
    { st with
      total := st.total + 1
      countsById := Function.update st.countsById key (st.countsById key + 1) }

/-- Whether a line shows neither a frame nor nothing. -/
def Broken (line : List Char) : Prop := ¬Skipped line ∧ lineFrame line = none

instance (line : List Char) : Decidable (Broken line) := inferInstanceAs (Decidable (_ ∧ _))

/-- **One round of the loop** counts the frame of the line, and adds violations, none exactly if the
line is not at fault. -/
theorem replayLine_spec (sessionAsserts : Bool) (r : Replay) (line : List Char) :
    ∃ whats, (whats = [] ↔ Good sessionAsserts line) ∧
      replayLine sessionAsserts r line =
        { lineNo := r.lineNo + 1
          badLines := if Broken line then r.badLines + 1 else r.badLines
          st :=
            addAll (r.lineNo + 1) whats ((lineFrame line).elim r.st (Stats.count · r.st)) } := by
  unfold replayLine
  dsimp only
  by_cases hskip : trim isBlank line = [] ∨ (trim isBlank line).head? = some '#'
  · have hnone : lineFrame line = none := if_pos hskip
    have hbroken : ¬Broken line := fun h => h.1 hskip
    rw [if_pos hskip, if_neg hbroken, hnone]
    exact ⟨[], iff_of_true rfl (.inl hskip), rfl⟩
  have hframe : lineFrame line = (parseLine (trim isBlank line) 0).toOption := if_neg hskip
  rw [if_neg hskip, parseLine_lineNo]
  cases hparse : parseLine (trim isBlank line) 0 with
  | error err =>
    rw [hparse] at hframe
    have hbroken : Broken line := ⟨hskip, hframe⟩
    have hgood : ¬Good sessionAsserts line := by
      rintro (h | ⟨f, hf, -⟩)
      · exact hskip h
      · exact nomatch hframe.symm.trans hf
    rw [if_pos hbroken, hframe]
    refine ⟨[": log satiri bozuk — " ++ err], iff_of_false (List.cons_ne_nil _ _) hgood, ?_⟩
    show Replay.mk _ _ _ = Replay.mk _ _ _
    rw [String.append_assoc]
    rfl
  | ok f =>
    rw [hparse] at hframe
    have hbroken : ¬Broken line := fun h => nomatch hframe.symm.trans h.2
    have hgood : Good sessionAsserts line ↔ Expected sessionAsserts f := by
      constructor
      · rintro (h | ⟨f', hf', hexpected⟩)
        · exact absurd h hskip
        · obtain rfl : f = f' := Option.some.inj (hframe.symm.trans hf')
          exact hexpected
      · intro hexpected
        exact .inr ⟨f, hframe, hexpected⟩
    rw [if_neg hbroken, hframe, hgood]
    show ∃ whats, _ ∧ Replay.mk (if f.isExt then _ else _) _ _ = Replay.mk _ _ _
    by_cases hext : f.isExt = true
    · rw [if_pos hext]
      obtain ⟨whats, hiff, hst⟩ := processExtFrame_spec
        (f := { f with lineNo := r.lineNo + 1 }) hext sessionAsserts _
      have hnumber : Expected sessionAsserts { f with lineNo := r.lineNo + 1 } ↔
          Expected sessionAsserts f :=
        ⟨fun h => ⟨h.pack, h.charger⟩, fun h => ⟨h.pack, h.charger⟩⟩
      exact ⟨whats, hiff.trans hnumber, congrArg (Replay.mk · _ _) hst⟩
    · -- a standard frame is counted, and there are no demands on it
      have hids : knownIds f.isExt = kKnownStdIds := if_neg hext
      have hkey : idKey f.isExt f.id = idKey false f.id := by rw [Bool.eq_false_of_not_eq_true hext]
      have hmet : Expected sessionAsserts f :=
        ⟨fun h => absurd h hext, fun h => absurd h hext⟩
      refine ⟨[], iff_of_true rfl hmet, congrArg (Replay.mk · _ _) ?_⟩
      show _ = Stats.noteId f _
      rw [if_neg hext, Stats.noteId, hids, hkey, ite_not]

/-! ### A log -/

/-- The frames of some lines. -/
abbrev framesOf (ls : List (List Char)) : List Frame := ls.filterMap lineFrame

/-- Whether line `n` is at fault; the lines are counted from 1. -/
def AtFault (sessionAsserts : Bool) (ls : List (List Char)) (n : ℕ) : Prop :=
  ∃ i line, n = i + 1 ∧ ls[i]? = some line ∧ ¬Good sessionAsserts line

/-- What the tool knows after the lines `ls`: how many of them show a frame and how many are broken,
how often each frame occurs, which identifiers are not known, and which lines are at fault, if not
always how. -/
structure Report (sessionAsserts : Bool) (ls : List (List Char)) (r : Replay) : Prop where
  lineNo : r.lineNo = ls.length
  badLines : r.badLines = ls.countP fun line => Broken line
  total : r.st.total = (framesOf ls).length
  countsById : ∀ key, r.st.countsById key =
    (framesOf ls).countP fun f => idKey f.isExt f.id = key
  nodup : r.st.unknownIds.Nodup
  unknownIds : ∀ key, key ∈ r.st.unknownIds ↔
    ∃ f ∈ framesOf ls, f.id ∉ knownIds f.isExt ∧ idKey f.isExt f.id = key
  violations : ∃ vs, Reported vs r.st ∧
    ∀ n, (∃ what, (n, what) ∈ vs) ↔ AtFault sessionAsserts ls n

theorem noteId_frame (f : Frame) (st : Stats) :
    (st.noteId f).total = st.total ∧ (st.noteId f).countsById = st.countsById ∧
      (st.noteId f).violationCount = st.violationCount ∧
      (st.noteId f).violations = st.violations := by
  unfold Stats.noteId
  split_ifs <;> exact ⟨rfl, rfl, rfl, rfl⟩

/-- The unknown identifiers after a frame. -/
theorem unknownIds_count {f : Frame} {st : Stats} (hnodup : st.unknownIds.Nodup) :
    (st.count f).unknownIds.Nodup ∧ ∀ key, key ∈ (st.count f).unknownIds ↔
      key ∈ st.unknownIds ∨ f.id ∉ knownIds f.isExt ∧ idKey f.isExt f.id = key := by
  unfold Stats.count Stats.noteId
  dsimp only
  split_ifs with hknown
  · exact ⟨hnodup, fun key => by simp [hknown]⟩
  · refine ⟨hnodup.insert, fun key => ?_⟩
    rw [List.mem_insert_iff, or_comm, eq_comm]
    simp [hknown]

/-- The last line of a log, or one before it. -/
theorem getElem?_concat_iff {α : Type*} {ls : List α} {l x : α} {i : ℕ} :
    (ls ++ [l])[i]? = some x ↔ ls[i]? = some x ∨ i = ls.length ∧ x = l := by
  rcases Nat.lt_trichotomy i ls.length with hi | rfl | hi
  · rw [List.getElem?_append_left hi]
    simp [hi.ne]
  · simp [eq_comm]
  · rw [List.getElem?_eq_none (by simp; omega), List.getElem?_eq_none (by omega)]
    simp [hi.ne']

theorem atFault_concat {sessionAsserts : Bool} {ls : List (List Char)} {line : List Char} {n : ℕ} :
    AtFault sessionAsserts (ls ++ [line]) n ↔
      AtFault sessionAsserts ls n ∨ n = ls.length + 1 ∧ ¬Good sessionAsserts line := by
  constructor
  · rintro ⟨i, l, rfl, hl, hbad⟩
    rcases getElem?_concat_iff.mp hl with hl | ⟨rfl, rfl⟩
    · exact .inl ⟨i, l, rfl, hl, hbad⟩
    · exact .inr ⟨rfl, hbad⟩
  · rintro (⟨i, l, rfl, hl, hbad⟩ | ⟨rfl, hbad⟩)
    · exact ⟨i, l, rfl, getElem?_concat_iff.mpr (.inl hl), hbad⟩
    · exact ⟨ls.length, line, rfl, getElem?_concat_iff.mpr (.inr ⟨rfl, rfl⟩), hbad⟩

/-- The violations of a line carry its number. -/
theorem exists_mem_append_map {vs : List (ℕ × String)} {m n : ℕ} {whats : List String} :
    (∃ what, (n, what) ∈ vs ++ whats.map fun what => (m, what)) ↔
      (∃ what, (n, what) ∈ vs) ∨ n = m ∧ whats ≠ [] := by
  constructor
  · rintro ⟨what, hwhat⟩
    rcases List.mem_append.mp hwhat with hwhat | hwhat
    · exact .inl ⟨what, hwhat⟩
    · obtain ⟨w, hw, heq⟩ := List.mem_map.mp hwhat
      exact .inr ⟨(Prod.mk.inj heq).1.symm, List.ne_nil_of_mem hw⟩
  · rintro (⟨what, hwhat⟩ | ⟨rfl, hne⟩)
    · exact ⟨what, List.mem_append_left _ hwhat⟩
    · obtain ⟨what, rest, rfl⟩ := List.exists_cons_of_ne_nil hne
      exact ⟨what, List.mem_append_right _ (by simp)⟩

/-- **One line** keeps the report true. -/
theorem Report.line {sessionAsserts : Bool} {ls : List (List Char)} {r : Replay}
    (h : Report sessionAsserts ls r) (line : List Char) :
    Report sessionAsserts (ls ++ [line]) (replayLine sessionAsserts r line) := by
  obtain ⟨whats, hgood, hline⟩ := replayLine_spec sessionAsserts r line
  have hframes : framesOf (ls ++ [line]) = framesOf ls ++ (lineFrame line).toList := by
    rw [framesOf, List.filterMap_append]
    cases hframe : lineFrame line <;> simp [hframe]
  obtain ⟨vs, hreported, hnumbers⟩ := h.violations
  rw [hline]
  obtain ⟨htotal, hcounts, hunknown⟩ := addAll_frame (r.lineNo + 1) whats
    ((lineFrame line).elim r.st (Stats.count · r.st))
  constructor
  · show r.lineNo + 1 = _
    rw [h.lineNo, List.length_append, List.length_singleton]
  · show (if Broken line then r.badLines + 1 else r.badLines) = _
    rw [h.badLines, List.countP_append, List.countP_singleton]
    by_cases hbroken : Broken line <;> simp [hbroken]
  · show Stats.total (addAll _ _ _) = _
    rw [htotal, hframes, List.length_append, ← h.total]
    cases lineFrame line with
    | none => rfl
    | some f => exact (noteId_frame f _).1
  · intro key
    show Stats.countsById (addAll _ _ _) key = _
    rw [hcounts, hframes, List.countP_append, ← h.countsById]
    cases lineFrame line with
    | none => rfl
    | some f =>
      show (Stats.count f r.st).countsById key = _
      rw [Stats.count, (noteId_frame f _).2.1]
      dsimp only
      by_cases hkey : key = idKey f.isExt f.id
      · rw [hkey, Function.update_self]
        simp
      · rw [Function.update_of_ne hkey]
        simp [Ne.symm hkey]
  · show (Stats.unknownIds (addAll _ _ _)).Nodup
    rw [hunknown]
    cases lineFrame line with
    | none => exact h.nodup
    | some f => exact (unknownIds_count h.nodup).1
  · intro key
    show key ∈ Stats.unknownIds (addAll _ _ _) ↔ _
    rw [hunknown, hframes]
    cases lineFrame line with
    | none => simpa using h.unknownIds key
    | some f =>
      show key ∈ (Stats.count f r.st).unknownIds ↔ _
      rw [(unknownIds_count h.nodup).2, h.unknownIds]
      simp only [Option.toList_some, List.mem_append, List.mem_singleton, or_and_right, exists_or,
        exists_eq_left]
  · have hbase : Reported vs ((lineFrame line).elim r.st (Stats.count · r.st)) := by
      cases lineFrame line with
      | none => exact hreported
      | some f =>
        obtain ⟨-, -, hcount, htexts⟩ := noteId_frame f
          { r.st with
            total := r.st.total + 1
            countsById := Function.update r.st.countsById (idKey f.isExt f.id)
              (r.st.countsById (idKey f.isExt f.id) + 1) }
        exact ⟨hcount.trans hreported.count, htexts.trans hreported.texts⟩
    refine ⟨_, hbase.addAll (r.lineNo + 1) whats, fun n => ?_⟩
    rw [exists_mem_append_map, hnumbers, atFault_concat, h.lineNo, ne_eq, hgood]

/-- **The report on a log** is true. -/
theorem report_replay (sessionAsserts : Bool) (log : List Char) :
    Report sessionAsserts (getlines '\n' log) (replay sessionAsserts log) := by
  unfold replay
  induction getlines '\n' log using List.reverseRecOn with
  | nil =>
    exact ⟨rfl, rfl, rfl, fun _ => rfl, List.nodup_nil, by simp, [], ⟨rfl, rfl⟩, by simp [AtFault]⟩
  | append_singleton ls line ih =>
    rw [Machine.exec_concat]
    exact ih.line line

/-- The keys tell the formats and the identifiers apart. -/
theorem idKey_inj {isExt isExt' : Bool} {id id' : UInt32} :
    idKey isExt id = idKey isExt' id' ↔ isExt = isExt' ∧ id = id' := by
  have hdigits : fixedDigits 16 8 id.toNat = fixedDigits 16 8 id'.toNat ↔ id = id' := by
    rw [fixedDigits_inj (by decide) (le_refl 16) id.toNat_lt id'.toNat_lt, UInt32.toNat_inj]
  rw [← hdigits]
  cases isExt <;> cases isExt' <;> simp [idKey]

/-- There is a violation exactly if a line is at fault. -/
theorem exitCode_eq_zero_iff (sessionAsserts : Bool) (log : List Char) :
    exitCode sessionAsserts log = 0 ↔ ∀ line ∈ getlines '\n' log, Good sessionAsserts line := by
  obtain ⟨vs, hreported, hnumbers⟩ := (report_replay sessionAsserts log).violations
  unfold exitCode
  rw [hreported.count]
  constructor
  · intro hexit line hline
    by_contra hbad
    obtain ⟨i, hi⟩ := List.mem_iff_getElem?.mp hline
    obtain ⟨what, hmem⟩ := (hnumbers (i + 1)).mpr ⟨i, line, rfl, hi, hbad⟩
    have hpos := List.length_pos_of_mem hmem
    rw [if_pos hpos] at hexit
    cases hexit
  · intro hgood
    apply if_neg
    intro hpos
    obtain ⟨⟨n, what⟩, hmem⟩ := List.exists_mem_of_length_pos hpos
    obtain ⟨i, line, -, hi, hbad⟩ := (hnumbers n).mp ⟨what, hmem⟩
    exact hbad (hgood line (List.mem_of_getElem? hi))

/-- The unknown identifiers are listed. -/
theorem mem_unknownIds_iff (sessionAsserts : Bool) (log : List Char) (isExt : Bool) (id : UInt32) :
    idKey isExt id ∈ (replay sessionAsserts log).st.unknownIds ↔
      id ∉ knownIds isExt ∧ ∃ f ∈ frames log, f.isExt = isExt ∧ f.id = id := by
  rw [(report_replay sessionAsserts log).unknownIds]
  simp only [idKey_inj]
  constructor
  · rintro ⟨f, hf, hid, rfl, rfl⟩
    exact ⟨hid, f, hf, rfl, rfl⟩
  · rintro ⟨hid, f, hf, rfl, rfl⟩
    exact ⟨f, hf, hid, rfl, rfl⟩

/-- **The verdict**: a log passes exactly when none of its lines is at fault.  The report counts
its frames, in all and by format and identifier, and its broken lines; it lists the identifiers that
are not known, each once; and its violations, of which the first twenty are shown, name exactly the
lines at fault. -/
theorem verdict_exact (sessionAsserts : Bool) (log : List Char) :
    (exitCode sessionAsserts log = 0 ↔ ∀ line ∈ getlines '\n' log, Good sessionAsserts line) ∧
      (let r := replay sessionAsserts log
       r.st.total = (frames log).length ∧
         r.badLines = (getlines '\n' log).countP (fun line => Broken line) ∧
         (∀ isExt id, r.st.countsById (idKey isExt id) =
           (frames log).countP fun f => f.isExt = isExt ∧ f.id = id) ∧
         r.st.unknownIds.Nodup ∧
         (∀ isExt id, idKey isExt id ∈ r.st.unknownIds ↔
           id ∉ knownIds isExt ∧ ∃ f ∈ frames log, f.isExt = isExt ∧ f.id = id) ∧
         ∃ vs, Reported vs r.st ∧
           ∀ n, (∃ what, (n, what) ∈ vs) ↔ AtFault sessionAsserts (getlines '\n' log) n) := by
  have h := report_replay sessionAsserts log
  refine ⟨exitCode_eq_zero_iff sessionAsserts log, h.total, h.badLines, ?_, h.nodup,
    mem_unknownIds_iff sessionAsserts log, h.violations⟩
  intro isExt id
  rw [h.countsById]
  simp only [idKey_inj]
  rfl

end TufanAks.CanReplay
