import Mathlib.Data.List.DropRight
import Mathlib.Data.UInt
import Mathlib.Tactic.Common

/-!
# Reading text as the C library does

`strtoul` and `strtol` skip blanks, take a sign and read digits up to the first character that is
none, so they never fail; `words` are the tokens of `operator>>`, and `getlines` the items of
`std::getline`, which does not deliver an empty item at the end.

`fixedDigits` prints with a given number of upper-case digits, as the format `%0*X` does.  Numbers
printed in this way are read back (`strtoul_fixedDigits`), and so are words joined by blanks
(`words_intercalate`) and items joined by a separator (`getlines_intercalate`).
-/

namespace Text

/-! ### Integers -/

/-- `isspace` in the C locale. -/
def isSpace (c : Char) : Bool := c = ' ' || (9 ≤ c.toNat && c.toNat ≤ 13)

/-- The value of a digit, and 36 for everything else. -/
def charValue (c : Char) : ℕ :=
  if '0' ≤ c ∧ c ≤ '9' then c.toNat - 48
  else if 'A' ≤ c ∧ c ≤ 'Z' then c.toNat - 55
  else if 'a' ≤ c ∧ c ≤ 'z' then c.toNat - 87
  else 36

/-- The value of a digit, in a base that has it. -/
def digitValue (base : ℕ) (c : Char) : Option ℕ :=
  if charValue c < base then some (charValue c) else none

/-- The number in front of the first character that is no digit. -/
def scanDigits (base : ℕ) : ℕ → List Char → ℕ
  | n, [] => n
  | n, c :: s =>
    match digitValue base c with
    | some d => scanDigits base (base * n + d) s
    | none => n

/-- What follows the marker `0x`, if there is a digit. -/
def dropMarker : List Char → List Char
  | '0' :: x :: c :: s =>
    if (x = 'x' ∨ x = 'X') ∧ (digitValue 16 c).isSome then c :: s else '0' :: x :: c :: s
  | s => s

/-- What the two functions read: whether there is a minus sign, and the digits. -/
def scanInteger (base : ℕ) (s : List Char) : Bool × ℕ :=
  let (minus, s) := match s.dropWhile isSpace with
    | '-' :: s => (true, s)
    | '+' :: s => (false, s)
    | s => (false, s)
  (minus, scanDigits base 0 (if base = 16 then dropMarker s else s))

/-- `strtoul`, with an `unsigned long` of 64 bits. -/
def strtoul (base : ℕ) (s : List Char) : UInt64 :=
  let (minus, n) := scanInteger base s
  if 2 ^ 64 ≤ n then -1 else if minus then -UInt64.ofNat n else UInt64.ofNat n

/-- `strtol`, with a `long` of 64 bits. -/
def strtol (base : ℕ) (s : List Char) : ℤ :=
  let (minus, n) := scanInteger base s
  if minus then max (-2 ^ 63) (-n) else min (2 ^ 63 - 1) n

/-! ### Printing -/

/-- The upper-case digit of a value below 36. -/
def digitChar (d : ℕ) : Char := Char.ofNat (if d < 10 then 48 + d else 55 + d)

/-- The last `width` digits of a number. -/
def fixedDigits (base : ℕ) : ℕ → ℕ → List Char
  | 0, _ => []
  | width + 1, n => fixedDigits base width (n / base) ++ [digitChar (n % base)]

@[simp] theorem length_fixedDigits (base width n : ℕ) :
    (fixedDigits base width n).length = width := by
  induction width generalizing n with
  | zero => rfl
  | succ width ih => rw [fixedDigits, List.length_append, ih, List.length_singleton]

/-- A digit is read as its value, and is neither a blank nor a sign nor the marker. -/
theorem digitChar_spec {base d : ℕ} (hd : d < base) (hbase : base ≤ 16) :
    digitValue base (digitChar d) = some d ∧ isSpace (digitChar d) = false ∧
      digitChar d ≠ '-' ∧ digitChar d ≠ '+' ∧ digitChar d ≠ 'x' ∧ digitChar d ≠ 'X' := by
  have hall : ∀ d < 16, charValue (digitChar d) = d ∧ isSpace (digitChar d) = false ∧
      digitChar d ≠ '-' ∧ digitChar d ≠ '+' ∧ digitChar d ≠ 'x' ∧ digitChar d ≠ 'X' := by
    decide
  obtain ⟨hvalue, hother⟩ := hall d (by omega)
  refine ⟨?_, hother⟩
  rw [digitValue, hvalue, if_pos hd]

/-- The characters of a printed number are digits. -/
theorem exists_of_mem_fixedDigits {base width n : ℕ} {c : Char} (hpos : 0 < base)
    (hc : c ∈ fixedDigits base width n) : ∃ d < base, c = digitChar d := by
  induction width generalizing n with
  | zero => cases hc
  | succ width ih =>
    rcases List.mem_append.mp hc with hc | hc
    · exact ih hc
    · exact ⟨n % base, Nat.mod_lt n hpos, List.mem_singleton.mp hc⟩

/-- **Digits are read back**, behind others that were read before. -/
theorem scanDigits_fixedDigits {base : ℕ} (hpos : 0 < base) (hbase : base ≤ 16) (width m n : ℕ)
    (s : List Char) :
    scanDigits base m (fixedDigits base width n ++ s) =
      scanDigits base (m * base ^ width + n % base ^ width) s := by
  induction width generalizing m n s with
  | zero => simp [fixedDigits, Nat.mod_one]
  | succ width ih =>
    have hdigit := (digitChar_spec (Nat.mod_lt n hpos) hbase).1
    rw [fixedDigits, List.append_assoc, List.singleton_append, ih, scanDigits, hdigit]
    -- the last digit is worth its value, the others are worth `base` times theirs
    have hmod : n % base ^ (width + 1) = base * (n / base % base ^ width) + n % base := by
      rw [pow_succ', Nat.mod_mul, Nat.add_comm]
    have hpow : m * base ^ (width + 1) = base * (m * base ^ width) := by
      rw [pow_succ', Nat.mul_left_comm]
    show scanDigits base (base * (m * base ^ width + n / base % base ^ width) + n % base) s = _
    rw [hmod, hpow, Nat.mul_add, Nat.add_assoc]

/-- Numbers that fit the width are told apart. -/
theorem fixedDigits_inj {base width m n : ℕ} (hpos : 0 < base) (hbase : base ≤ 16)
    (hm : m < base ^ width) (hn : n < base ^ width) :
    fixedDigits base width m = fixedDigits base width n ↔ m = n := by
  constructor
  · intro h
    have hm' := scanDigits_fixedDigits hpos hbase width 0 m []
    have hn' := scanDigits_fixedDigits hpos hbase width 0 n []
    rw [h, hn', Nat.mod_eq_of_lt hm, Nat.mod_eq_of_lt hn] at hm'
    simpa [scanDigits] using hm'.symm
  · rintro rfl
    rfl

/-- What starts with a digit has neither blanks nor a sign in front. -/
theorem scanInteger_of_digit {base d : ℕ} (hd : d < base) (hbase : base ≤ 16) (s : List Char) :
    scanInteger base (digitChar d :: s) =
      (false, scanDigits base 0
        (if base = 16 then dropMarker (digitChar d :: s) else digitChar d :: s)) := by
  obtain ⟨-, hspace, hminus, hplus, -⟩ := digitChar_spec hd hbase
  unfold scanInteger
  rw [List.dropWhile_cons_of_neg (by simp [hspace])]
  split
  next heq =>
    split at heq
    next h => exact absurd (List.cons.inj h).1 hminus
    next h => exact absurd (List.cons.inj h).1 hplus
    next =>
      obtain ⟨rfl, rfl⟩ := Prod.mk.inj heq
      rfl

theorem dropMarker_fixedDigits (width n : ℕ) :
    dropMarker (fixedDigits 16 width n) = fixedDigits 16 width n := by
  have hmem : ∀ x ∈ fixedDigits 16 width n, x ≠ 'x' ∧ x ≠ 'X' := by
    intro x hx
    obtain ⟨d, hd, rfl⟩ := exists_of_mem_fixedDigits (by decide) hx
    exact (digitChar_spec hd (le_refl 16)).2.2.2.2
  generalize fixedDigits 16 width n = s at hmem
  unfold dropMarker
  split
  next x c rest =>
    obtain ⟨hlow, hup⟩ := hmem x (by simp)
    rw [if_neg]
    rintro ⟨hx | hx, -⟩
    · exact hlow hx
    · exact hup hx
  next => rfl

/-- **Hexadecimal digits are read back**, with the marker in front of them or without it. -/
theorem strtoul_fixedDigits {width n : ℕ} (hwidth : 0 < width) (hn : n < 16 ^ width)
    (hlt : n < 2 ^ 64) :
    strtoul 16 (fixedDigits 16 width n) = UInt64.ofNat n ∧
      strtoul 16 ('0' :: 'x' :: fixedDigits 16 width n) = UInt64.ofNat n := by
  have hscan : scanDigits 16 0 (fixedDigits 16 width n) = n := by
    have h := scanDigits_fixedDigits (by decide : 0 < 16) (le_refl 16) width 0 n []
    rw [List.append_nil, Nat.zero_mul, Nat.zero_add, Nat.mod_eq_of_lt hn] at h
    exact h
  have hmarker := dropMarker_fixedDigits width n
  obtain ⟨c, rest, hcons⟩ : ∃ c rest, fixedDigits 16 width n = c :: rest := by
    apply List.exists_cons_of_length_pos
    rw [length_fixedDigits]
    exact hwidth
  have hmem : c ∈ fixedDigits 16 width n := by
    rw [hcons]
    exact List.mem_cons_self
  obtain ⟨d, hd, rfl⟩ := exists_of_mem_fixedDigits (by decide) hmem
  rw [hcons] at hscan hmarker ⊢
  have hread : ∀ s, scanInteger 16 s = (false, n) → strtoul 16 s = UInt64.ofNat n := by
    intro s hs
    unfold strtoul
    rw [hs]
    exact if_neg (not_le.mpr hlt)
  constructor
  · apply hread
    rw [scanInteger_of_digit hd (le_refl 16), if_pos rfl, hmarker, hscan]
  · apply hread
    have hdigit := (digitChar_spec hd (le_refl 16)).1
    show scanInteger 16 (digitChar 0 :: 'x' :: digitChar d :: rest) = _
    rw [scanInteger_of_digit (by decide) (le_refl 16), if_pos rfl]
    show (false, scanDigits 16 0 (dropMarker ('0' :: 'x' :: digitChar d :: rest))) = _
    rw [dropMarker, if_pos ⟨.inl rfl, by rw [hdigit]; rfl⟩, hscan]

/-! ### Words, items and blanks at the ends -/

/-- The tokens that `operator>>` delivers. -/
def words (s : List Char) : List (List Char) := (s.splitOnP isSpace).filter (· ≠ [])

/-- **Words are found again** when they are joined by blanks. -/
theorem words_intercalate {ls : List (List Char)}
    (h : ∀ l ∈ ls, l ≠ [] ∧ ∀ c ∈ l, isSpace c = false) : words ([' '].intercalate ls) = ls := by
  unfold words
  induction ls with
  | nil => rfl
  | cons l rest ih =>
    obtain ⟨hne, hl⟩ := h l List.mem_cons_self
    have hrest := ih fun l' hl' => h l' (List.mem_cons_of_mem l hl')
    cases rest with
    | nil =>
      rw [List.intercalate_singleton, List.splitOnP_eq_singleton hl]
      simp [hne]
    | cons l' rest =>
      rw [List.intercalate_cons_cons, List.append_assoc, List.singleton_append,
        List.splitOnP_append_cons_of_forall_mem hl ' ' (by decide),
        List.filter_cons_of_pos (by simpa using hne), hrest]

/-- The items that `std::getline` delivers: all between separators, but no empty one at the end. -/
def getlines (sep : Char) (s : List Char) : List (List Char) :=
  let items := s.splitOn sep
  if items.getLast? = some [] then items.dropLast else items

/-- **Items are found again** when they are joined by the separator, but for an empty last one. -/
theorem getlines_intercalate {sep : Char} {ls : List (List Char)} (hls : ls ≠ [])
    (h : ∀ l ∈ ls, sep ∉ l) :
    getlines sep ([sep].intercalate ls) =
      if ls.getLast? = some [] then ls.dropLast else ls := by
  unfold getlines
  rw [List.splitOn_intercalate sep h hls]

/-- The text without the blanks at its ends. -/
def trim (isBlank : Char → Bool) (s : List Char) : List Char :=
  (s.dropWhile isBlank).rdropWhile isBlank

/-- **Blanks at the ends are taken off**, and nothing else. -/
theorem trim_append {isBlank : Char → Bool} {before s after : List Char}
    (hbefore : ∀ c ∈ before, isBlank c = true) (hafter : ∀ c ∈ after, isBlank c = true)
    (hhead : ∀ c ∈ s.head?, isBlank c = false) (hlast : ∀ c ∈ s.getLast?, isBlank c = false) :
    trim isBlank (before ++ (s ++ after)) = s := by
  have hdrop : (s ++ after).dropWhile isBlank = if s = [] then [] else s ++ after := by
    cases s with
    | nil =>
      rw [if_pos rfl, List.nil_append, List.dropWhile_eq_nil_iff]
      exact hafter
    | cons c s =>
      rw [if_neg (List.cons_ne_nil c s), List.cons_append, List.dropWhile_cons_of_neg]
      simpa using hhead c rfl
  unfold trim
  rw [List.dropWhile_append_of_pos hbefore, hdrop]
  split_ifs with hs
  · rw [hs, List.rdropWhile_nil]
  · -- the blanks behind `s` go one by one, from the right
    clear hdrop hbefore hhead
    induction after using List.reverseRecOn with
    | nil =>
      rw [List.append_nil, List.rdropWhile_eq_self_iff]
      intro hne
      simpa using hlast (s.getLast hne) (List.getLast?_eq_some_getLast hne)
    | append_singleton after c ih =>
      rw [← List.append_assoc, List.rdropWhile_concat_pos _ _ _ (hafter c (by simp))]
      exact ih fun x hx => hafter x (List.mem_append_left _ hx)

theorem intercalate_ne_nil {sep : List Char} {ls : List (List Char)} (hls : ls ≠ [])
    (h : ∀ l ∈ ls, l ≠ []) : sep.intercalate ls ≠ [] := by
  obtain ⟨l, rest, rfl⟩ := List.exists_cons_of_ne_nil hls
  have hl := h l List.mem_cons_self
  cases rest with
  | nil => simpa using hl
  | cons l' rest => simp [List.intercalate_cons_cons, hl]

/-- Words joined by a separator neither start nor end with a blank. -/
theorem ends_intercalate {isBlank : Char → Bool} {sep : List Char} {ls : List (List Char)}
    (h : ∀ l ∈ ls, l ≠ [] ∧ ∀ c ∈ l, isBlank c = false) :
    (∀ c ∈ (sep.intercalate ls).head?, isBlank c = false) ∧
      ∀ c ∈ (sep.intercalate ls).getLast?, isBlank c = false := by
  induction ls with
  | nil => simp
  | cons l rest ih =>
    obtain ⟨hne, hl⟩ := h l List.mem_cons_self
    obtain ⟨-, hlast⟩ := ih fun l' hl' => h l' (List.mem_cons_of_mem l hl')
    cases rest with
    | nil =>
      rw [List.intercalate_singleton]
      exact ⟨fun c hc => hl c (List.mem_of_mem_head? hc),
        fun c hc => hl c (List.mem_of_mem_getLast? hc)⟩
    | cons l' rest =>
      have hrest : sep.intercalate (l' :: rest) ≠ [] :=
        intercalate_ne_nil (List.cons_ne_nil l' rest)
          fun x hx => (h x (List.mem_cons_of_mem l hx)).1
      rw [List.intercalate_cons_cons]
      constructor
      · intro c hc
        rw [List.append_assoc, List.head?_append_of_ne_nil _ hne] at hc
        exact hl c (List.mem_of_mem_head? hc)
      · intro c hc
        rw [List.getLast?_append_of_ne_nil _ hrest] at hc
        exact hlast c hc

end Text
