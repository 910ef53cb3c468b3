import Mathlib.Data.Fin.VecNotation
import Mathlib.Tactic.FinCases
import TufanAks.CanParse
import TufanAks.SystemConfig

/-!
# The frames of a pack

The battery management system sends the 24 cell words in the six frames `0xE015` to `0xE020` and a
summary in `0xE001`: the smallest, the largest and the average word, and two temperatures.
`packTelemetry` is what the parsers make of these seven frames; `packTelemetry_eq` says that they
recover every word.
-/

namespace TufanAks.CanParse

open Word

/-- A full extended data frame whose payload is four big-endian words. -/
def wordsMessage (identifier : UInt32) (w : Fin 4 → UInt16) : twai_message_t where
  identifier := identifier
  extd := true
  data i :=
    if i.val % 2 = 0 then highByte (w ⟨i / 2, by omega⟩) else lowByte (w ⟨i / 2, by omega⟩)

@[simp] theorem wordsMessage_data_length_code (identifier : UInt32) (w : Fin 4 → UInt16) :
    (wordsMessage identifier w).data_length_code = 8 := rfl

/-- The parsers read the words that were sent. -/
@[simp] theorem word_wordsMessage (identifier : UInt32) (w : Fin 4 → UInt16) (j : Fin 4) :
    (wordsMessage identifier w).word j = w j := by
  have heven : 2 * j.val / 2 = j := by omega
  have hodd : (2 * j.val + 1) / 2 = j := by omega
  simp [twai_message_t.word, wordsMessage, heven, hodd]

/-- The four words of the cell frame that starts with cell `first`. -/
def cellWords (words : Fin 24 → UInt16) (first : Fin 21) (j : Fin 4) : UInt16 :=
  words ⟨first + j, by omega⟩

/-- A cell frame fills the cells that it was made of. -/
theorem writeCells_cellWords (words cells : Fin 24 → UInt16) {n : ℕ} (first : Fin 21)
    (hn : n = first) (i : Fin 24) :
    writeCells n (cellWords words first) cells i =
      if n ≤ i ∧ i < n + 4 then words i / 10 else cells i := by
  subst hn
  unfold writeCells cellWords
  split_ifs with h
  · have hi : first.val + (i - first) = i := by omega
    simp [hi]
  · rfl

/-- The telemetry after the parsers have filled `base` from the frames of a pack. -/
def packTelemetry (words : Fin 24 → UInt16) (least greatest average temps : UInt16)
    (base : TelemetryData) : Option TelemetryData := do
  let d ← parseLbBmsE015 (wordsMessage CAN_ID_LB_BMS_E015 (cellWords words 0)) base
  let d ← parseLbBmsE016 (wordsMessage CAN_ID_LB_BMS_E016 (cellWords words 4)) d
  let d ← parseLbBmsE017 (wordsMessage CAN_ID_LB_BMS_E017 (cellWords words 8)) d
  let d ← parseLbBmsE018 (wordsMessage CAN_ID_LB_BMS_E018 (cellWords words 12)) d
  let d ← parseLbBmsE019 (wordsMessage CAN_ID_LB_BMS_E019 (cellWords words 16)) d
  let d ← parseLbBmsE020 (wordsMessage CAN_ID_LB_BMS_E020 (cellWords words 20)) d
  parseLbBmsE001 (wordsMessage CAN_ID_LB_BMS_E001 ![least, greatest, average, temps]) d

/-- The smallest and the largest word, as the summary frame reports them. -/
structure Extremes (words : Fin 24 → UInt16) (least greatest : UInt16) : Prop where
  least_mem : ∃ i, words i = least
  least_le : ∀ i, least ≤ words i
  greatest_mem : ∃ i, words i = greatest
  le_greatest : ∀ i, words i ≤ greatest

theorem parseCellGroup_wordsMessage (first : ℕ) (identifier : UInt32) (w : Fin 4 → UInt16)
    (out : TelemetryData) :
    parseCellGroup first (wordsMessage identifier w) out = some
      { out with TEL_bmsCellVoltages := writeCells first w out.TEL_bmsCellVoltages } := by
  have hword : (wordsMessage identifier w).word = w := funext (word_wordsMessage identifier w)
  simp [parseCellGroup, hword]

/-- The hottest of the two temperatures in a word. -/
def hottest (temps : UInt16) : Int8 :=
  if (highByte temps).toInt8 ≥ (lowByte temps).toInt8 then (highByte temps).toInt8
  else (lowByte temps).toInt8

/-- The coldest of the two temperatures in a word. -/
def coldest (temps : UInt16) : Int8 :=
  if (highByte temps).toInt8 ≤ (lowByte temps).toInt8 then (highByte temps).toInt8
  else (lowByte temps).toInt8

theorem parseLbBmsE001_wordsMessage (identifier : UInt32) (w : Fin 4 → UInt16)
    (out : TelemetryData) :
    parseLbBmsE001 (wordsMessage identifier w) out = some
      { out with
        TEL_bmsCellVoltageMinDeciMv := w 0
        TEL_bmsCellVoltageMaxDeciMv := w 1
        TEL_bmsCellVoltageAvgDeciMv := w 2
        TEL_bmsTempHighestC := hottest (w 3)
        TEL_bmsTempLowestC := coldest (w 3) } := by
  simp only [parseLbBmsE001, wordsMessage_data_length_code, word_wordsMessage]
  rfl

/-- **The parsers recover the pack**: every cell in mV, and the summary words as they were sent. -/
theorem packTelemetry_eq (words : Fin 24 → UInt16) (least greatest average temps : UInt16)
    (base : TelemetryData) :
    packTelemetry words least greatest average temps base = some
      { base with
        TEL_bmsCellVoltages := fun i => words i / 10
        TEL_bmsCellVoltageMinDeciMv := least
        TEL_bmsCellVoltageMaxDeciMv := greatest
        TEL_bmsCellVoltageAvgDeciMv := average
        TEL_bmsTempHighestC := hottest temps
        TEL_bmsTempLowestC := coldest temps } := by
  simp only [packTelemetry, parseLbBmsE015, parseLbBmsE016, parseLbBmsE017, parseLbBmsE018,
    parseLbBmsE019, parseLbBmsE020, parseCellGroup_wordsMessage, parseLbBmsE001_wordsMessage,
    Option.bind_eq_bind, Option.bind_some]
  congr 2
  funext i
  -- each cell is written by the one frame whose group it is in
  rw [writeCells_cellWords words _ (n := 20) 20 rfl, writeCells_cellWords words _ (n := 16) 16 rfl,
    writeCells_cellWords words _ (n := 12) 12 rfl, writeCells_cellWords words _ (n := 8) 8 rfl,
    writeCells_cellWords words _ (n := 4) 4 rfl, writeCells_cellWords words _ (n := 0) 0 rfl]
  split_ifs
  all_goals first
    | rfl
    | omega

end TufanAks.CanParse
