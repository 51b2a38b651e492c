import DemandPaging.Proofs.Words
import DemandPaging.Text.Numeral
import Mathlib.Data.List.Forall2
import Mathlib.Data.Nat.Digits.Defs

/-!
# What numerals denote

A numeral denotes the number whose digits it shows, whatever its size.  Reading
a numeral gives exactly this number, and every way of typing a number, in
decimal or in hexadecimal, with zeros before it and with letters of either case,
is read as that number.
-/

namespace DemandPaging

namespace Text

/-- A letter stands for a digit, in lower or in upper case. -/
def IsDigit (base : Nat) (letter : Char) (digit : Nat) : Prop :=
  digit < base ∧ (letter = Nat.digitChar digit ∨ letter = (Nat.digitChar digit).toUpper)

/-- Letters show the digits of a number, the highest one first. -/
def Spells (base : Nat) (letters : List Char) (number : Nat) : Prop :=
  ∃ digits, List.Forall₂ (IsDigit base) letters digits ∧ Nat.ofDigits base digits.reverse = number

/-- Letters show at least one digit of a number, with or without a plus sign
before them. -/
def SpellsUnsigned (base : Nat) (letters : List Char) (number : Nat) : Prop :=
  ∃ digits, digits ≠ [] ∧ Spells base digits number ∧ (letters = digits ∨ letters = '+' :: digits)

/-- A word denotes a number. -/
inductive Denotes (word : String) (number : Nat) : Prop
  | decimal (spelled : SpellsUnsigned 10 word.toList number)
  | hexadecimal {letters : List Char} (marked : word.toList = '0' :: 'x' :: letters)
    (spelled : SpellsUnsigned 16 letters number)

section Digits

variable {base digit number : Nat} {letter : Char} {letters : List Char}

/-- A digit is read off either of its letters. -/
theorem digitValue?_digitChar : ∀ digit < 16,
    digitValue? 16 (Nat.digitChar digit) = some digit ∧
      digitValue? 16 (Nat.digitChar digit).toUpper = some digit := by
  decide

/-- A base up to sixteen has the lowest digits of hexadecimal. -/
theorem digitValue?_eq_some_iff_sixteen (small : base ≤ 16) :
    digitValue? base letter = some digit ↔ digit < base ∧ digitValue? 16 letter = some digit := by
  simp only [digitValue?]
  repeat' split
  all_goals simp only [Option.some.injEq, reduceCtorEq, and_false, iff_false, false_iff]
  all_goals omega

/-- The letters up to `f` that show digits are the letters of these digits. -/
theorem digitChar_of_digitValue?_ofNat : ∀ code < 103, ∀ digit < 16,
    digitValue? 16 (Char.ofNat code) = some digit →
      Char.ofNat code = Nat.digitChar digit ∨ Char.ofNat code = (Nat.digitChar digit).toUpper := by
  decide

theorem lt_of_digitValue? (read : digitValue? 16 letter = some digit) :
    letter.toNat < 103 ∧ digit < 16 := by
  have value : ∀ {value : Nat}, (if value < 16 then some value else none) = some digit →
      value < 16 ∧ value = digit := by
    intro value
    split <;> simp [*]
  simp only [digitValue?] at read
  split at read
  · rename_i range
    have last : letter.toNat ≤ 57 := range.2
    obtain ⟨small, rfl⟩ := value read
    exact ⟨by omega, small⟩
  split at read
  · rename_i range
    have last : letter.toNat ≤ 102 := range.2
    obtain ⟨small, rfl⟩ := value read
    exact ⟨by omega, small⟩
  split at read
  · rename_i range
    have last : letter.toNat ≤ 70 := range.2
    obtain ⟨small, rfl⟩ := value read
    exact ⟨by omega, small⟩
  · exact absurd (value read).1 (Nat.lt_irrefl 16)

/-- Reading a letter tells the digit that it stands for. -/
theorem digitValue?_eq_some_iff (small : base ≤ 16) :
    digitValue? base letter = some digit ↔ IsDigit base letter digit := by
  rw [digitValue?_eq_some_iff_sixteen small, IsDigit, and_congr_right_iff]
  intro below
  constructor
  · intro read
    obtain ⟨code, sixteen⟩ := lt_of_digitValue? read
    have shown := digitChar_of_digitValue?_ofNat letter.toNat code digit sixteen
    rw [Char.ofNat_toNat] at shown
    exact shown read
  · rintro (rfl | rfl)
    · exact (digitValue?_digitChar digit (by omega)).1
    · exact (digitValue?_digitChar digit (by omega)).2

theorem spells_nil_iff : Spells base [] number ↔ number = 0 := by
  constructor
  · rintro ⟨digits, shown, rfl⟩
    cases shown
    rfl
  · rintro rfl
    exact ⟨[], .nil, rfl⟩

theorem spells_cons_iff :
    Spells base (letter :: letters) number ↔ ∃ digit lower, IsDigit base letter digit ∧
      Spells base letters lower ∧ base ^ letters.length * digit + lower = number := by
  constructor
  · rintro ⟨_, shown, rfl⟩
    obtain ⟨digit, digits, first, others, rfl⟩ := List.forall₂_cons_left_iff.mp shown
    refine ⟨digit, _, first, ⟨digits, others, rfl⟩, ?_⟩
    rw [others.length_eq, List.reverse_cons, Nat.ofDigits_append, Nat.ofDigits_singleton,
      List.length_reverse, Nat.add_comm]
  · rintro ⟨digit, _, first, ⟨digits, others, rfl⟩, rfl⟩
    refine ⟨digit :: digits, .cons first others, ?_⟩
    rw [others.length_eq, List.reverse_cons, Nat.ofDigits_append, Nat.ofDigits_singleton,
      List.length_reverse, Nat.add_comm]

/-- Reading digits one after the other adds up to the number that they show. -/
theorem digitsValue?_eq_some_iff (small : base ≤ 16) {value : Nat} :
    digitsValue? base value letters = some number ↔
      ∃ lower, Spells base letters lower ∧ base ^ letters.length * value + lower = number := by
  induction letters generalizing value with
  | nil => simp [digitsValue?, spells_nil_iff]
  | cons letter rest ih =>
    simp only [spells_cons_iff, ← digitValue?_eq_some_iff small]
    rw [digitsValue?]
    cases read : digitValue? base letter with
    | none => simp
    | some digit =>
      simp only [ih, Option.some.injEq]
      constructor
      · rintro ⟨lower, spelled, rfl⟩
        refine ⟨_, ⟨digit, lower, rfl, spelled, rfl⟩, ?_⟩
        rw [List.length_cons]
        ring
      · rintro ⟨_, ⟨_, lower, rfl, spelled, rfl⟩, rfl⟩
        refine ⟨lower, spelled, ?_⟩
        rw [List.length_cons]
        ring

/-- A sign is no digit. -/
theorem not_spells_plus (small : base ≤ 16) : ¬Spells base ('+' :: letters) number := by
  rw [spells_cons_iff]
  rintro ⟨digit, lower, first, -⟩
  rw [← digitValue?_eq_some_iff small, digitValue?_eq_some_iff_sixteen small] at first
  exact Option.some_ne_none _ (first.2.symm.trans (by decide))

theorem spellsUnsigned_plus_iff (small : base ≤ 16) :
    SpellsUnsigned base ('+' :: letters) number ↔ letters ≠ [] ∧ Spells base letters number := by
  constructor
  · rintro ⟨digits, some, spelled, rfl | signed⟩
    · exact absurd spelled (not_spells_plus small)
    · obtain rfl := List.cons.inj signed |>.2
      exact ⟨some, spelled⟩
  · rintro ⟨some, spelled⟩
    exact ⟨letters, some, spelled, .inr rfl⟩

theorem spellsUnsigned_iff_of_ne (unsigned : letter ≠ '+') :
    SpellsUnsigned base (letter :: letters) number ↔ Spells base (letter :: letters) number := by
  constructor
  · rintro ⟨digits, -, spelled, rfl | signed⟩
    · exact spelled
    · exact absurd (List.cons.inj signed).1 unsigned
  · exact fun spelled => ⟨_, List.cons_ne_nil _ _, spelled, .inl rfl⟩

theorem digitsValue?_zero_eq_some_iff (small : base ≤ 16) :
    digitsValue? base 0 letters = some number ↔ Spells base letters number := by
  simp [digitsValue?_eq_some_iff small]

theorem unsignedValue?_eq_some_iff (small : base ≤ 16) :
    unsignedValue? base letters = some number ↔ SpellsUnsigned base letters number := by
  cases letters with
  | nil =>
    refine iff_of_false (by simp [unsignedValue?]) ?_
    rintro ⟨digits, some, -, none | signed⟩
    · exact some none.symm
    · cases signed
  | cons letter rest =>
    by_cases signed : letter = '+'
    · subst signed
      rw [spellsUnsigned_plus_iff small]
      cases rest with
      | nil => simp [unsignedValue?]
      | cons first others => simp [unsignedValue?, digitsValue?_zero_eq_some_iff small]
    · rw [spellsUnsigned_iff_of_ne signed, ← digitsValue?_zero_eq_some_iff small]
      simp [unsignedValue?, signed]

end Digits

section Numerals

variable {word : String} {number other : Nat}

/-- The mark of a hexadecimal numeral is no decimal digit. -/
theorem not_spells_mark {letters : List Char} :
    ¬SpellsUnsigned 10 ('0' :: 'x' :: letters) number := by
  rw [spellsUnsigned_iff_of_ne (by decide), spells_cons_iff]
  rintro ⟨-, lower, -, others, -⟩
  obtain ⟨digit, -, mark, -⟩ := spells_cons_iff.mp others
  rw [← digitValue?_eq_some_iff (by decide)] at mark
  cases mark

/-- Reading a word gives exactly the number that it denotes. -/
theorem numeralValue?_eq_some_iff : numeralValue? word = some number ↔ Denotes word number := by
  rw [numeralValue?]
  split
  case h_1 letters marked =>
    rw [unsignedValue?_eq_some_iff (Nat.le_refl 16)]
    constructor
    · exact .hexadecimal marked
    · rintro (decimal | ⟨same, spelled⟩)
      · rw [marked] at decimal
        exact absurd decimal not_spells_mark
      · obtain rfl := (List.cons.inj (List.cons.inj (marked.symm.trans same)).2).2
        exact spelled
  case h_2 unmarked =>
    rw [unsignedValue?_eq_some_iff (by decide)]
    constructor
    · exact .decimal
    · rintro (decimal | ⟨marked, -⟩)
      · exact decimal
      · exact absurd marked (unmarked _)

theorem Denotes.unique (first : Denotes word number) (second : Denotes word other) :
    number = other := by
  rw [← numeralValue?_eq_some_iff] at first second
  exact Option.some.inj (first.symm.trans second)

end Numerals

/-- How a number is typed. -/
inductive NumeralStyle where
  | decimal (zeros : Nat)
  /-- In hexadecimal; `capital` tells which digits, counted from the highest
  one, are typed as capitals. -/
  | hexadecimal (zeros : Nat) (capital : Nat → Bool)

namespace NumeralStyle

/-- Letters of which some are typed as capitals. -/
def withCapitals (capital : Nat → Bool) (letters : List Char) : List Char :=
  letters.mapIdx fun place letter => if capital place then letter.toUpper else letter

/-- The numeral that is typed for a number, with some zeros before it. -/
def text (number : Nat) : NumeralStyle → String
  | decimal zeros => String.ofList (List.replicate zeros '0' ++ Nat.toDigits 10 number)
  | hexadecimal zeros capital =>
    String.ofList ('0' :: 'x' ::
      (List.replicate zeros '0' ++ withCapitals capital (Nat.toDigits 16 number)))

end NumeralStyle

section Typing

variable {base number digit : Nat} {letter : Char} {letters : List Char}

theorem toUpper_toUpper_digitChar : ∀ digit < 16,
    (Nat.digitChar digit).toUpper.toUpper = (Nat.digitChar digit).toUpper := by
  decide

theorem IsDigit.toUpper (small : base ≤ 16) (shown : IsDigit base letter digit) :
    IsDigit base letter.toUpper digit := by
  obtain ⟨below, rfl | rfl⟩ := shown
  · exact ⟨below, .inr rfl⟩
  · exact ⟨below, .inr (toUpper_toUpper_digitChar digit (by omega))⟩

/-- The case of the letters does not matter. -/
theorem Spells.withCapitals (small : base ≤ 16) (spelled : Spells base letters number)
    (capital : Nat → Bool) : Spells base (NumeralStyle.withCapitals capital letters) number := by
  induction letters generalizing number capital with
  | nil => exact spelled
  | cons letter rest ih =>
    obtain ⟨digit, lower, first, others, rfl⟩ := spells_cons_iff.mp spelled
    rw [NumeralStyle.withCapitals, List.mapIdx_cons, spells_cons_iff, List.length_mapIdx]
    refine ⟨digit, lower, ?_, ih others fun place => capital (place + 1), rfl⟩
    split
    · exact first.toUpper small
    · exact first

/-- Zeros before a number do not matter. -/
theorem Spells.zeros (large : 1 < base) (spelled : Spells base letters number) (zeros : Nat) :
    Spells base (List.replicate zeros '0' ++ letters) number := by
  induction zeros with
  | zero => exact spelled
  | succ zeros ih =>
    rw [List.replicate_succ, List.cons_append, spells_cons_iff]
    exact ⟨0, number, ⟨Nat.zero_lt_of_lt large, .inl rfl⟩, ih, by simp⟩

theorem Spells.concat (spelled : Spells base letters number) (shown : IsDigit base letter digit) :
    Spells base (letters ++ [letter]) (base * number + digit) := by
  obtain ⟨digits, others, rfl⟩ := spelled
  refine ⟨digits ++ [digit], List.rel_append others (.cons shown .nil), ?_⟩
  rw [List.reverse_append, List.reverse_singleton, List.singleton_append, Nat.ofDigits_cons,
    Nat.add_comm]

theorem spells_toDigits (large : 1 < base) (number : Nat) :
    Spells base (Nat.toDigits base number) number := by
  induction number using Nat.strongRecOn with
  | ind number ih =>
    rw [Nat.toDigits_eq_if large]
    split
    · rename_i single
      exact spells_cons_iff.mpr ⟨number, 0, ⟨single, .inl rfl⟩, spells_nil_iff.mpr rfl, by simp⟩
    · rename_i several
      have positive : 0 < base := Nat.zero_lt_of_lt large
      have higher := ih (number / base) (Nat.div_lt_self (by omega) large)
      have last : IsDigit base (Nat.digitChar (number % base)) (number % base) :=
        ⟨Nat.mod_lt _ positive, .inl rfl⟩
      have spelled := higher.concat last
      rwa [Nat.div_add_mod] at spelled

/-- However a number is typed, it is the number that is denoted. -/
theorem denotes_text (number : Nat) (style : NumeralStyle) :
    Denotes (style.text number) number := by
  cases style with
  | decimal zeros =>
    have spelled := (spells_toDigits (show 1 < 10 by decide) number).zeros (by decide) zeros
    have present : List.replicate zeros '0' ++ Nat.toDigits 10 number ≠ [] :=
      List.append_ne_nil_of_right_ne_nil _ Nat.toDigits_ne_nil
    exact .decimal ⟨_, present, spelled, .inl String.toList_ofList⟩
  | hexadecimal zeros capital =>
    have digits := (spells_toDigits (show 1 < 16 by decide) number).withCapitals (by decide) capital
    have present : NumeralStyle.withCapitals capital (Nat.toDigits 16 number) ≠ [] :=
      mt List.mapIdx_eq_nil_iff.mp Nat.toDigits_ne_nil
    exact .hexadecimal String.toList_ofList
      ⟨_, List.append_ne_nil_of_right_ne_nil _ present, digits.zeros (by decide) zeros, .inl rfl⟩

/-- No letter of a numeral is a blank. -/
theorem isBlank_digitChar : ∀ digit < 16,
    isBlank (Nat.digitChar digit) = false ∧ isBlank (Nat.digitChar digit).toUpper = false := by
  decide

theorem Spells.solid (small : base ≤ 16) (spelled : Spells base letters number) :
    ∀ letter ∈ letters, isBlank letter = false := by
  induction letters generalizing number with
  | nil => exact nofun
  | cons letter rest ih =>
    obtain ⟨digit, lower, ⟨below, shown⟩, others, -⟩ := spells_cons_iff.mp spelled
    obtain ⟨plain, capital⟩ := isBlank_digitChar digit (by omega)
    rw [List.forall_mem_cons]
    refine ⟨?_, ih others⟩
    rcases shown with rfl | rfl
    · exact plain
    · exact capital

theorem SpellsUnsigned.solid (small : base ≤ 16) (spelled : SpellsUnsigned base letters number) :
    letters ≠ [] ∧ ∀ letter ∈ letters, isBlank letter = false := by
  obtain ⟨digits, present, shown, rfl | rfl⟩ := spelled
  · exact ⟨present, shown.solid small⟩
  · exact ⟨List.cons_ne_nil _ _, List.forall_mem_cons.mpr ⟨by decide, shown.solid small⟩⟩

theorem Denotes.isWord {word : String} (denotes : Denotes word number) : IsWord word := by
  rcases denotes with decimal | ⟨marked, hexadecimal⟩
  · exact decimal.solid (by decide)
  · obtain ⟨-, solid⟩ := hexadecimal.solid (Nat.le_refl 16)
    rw [IsWord, marked]
    exact ⟨List.cons_ne_nil _ _, List.forall_mem_cons.mpr
      ⟨by decide, List.forall_mem_cons.mpr ⟨by decide, solid⟩⟩⟩

end Typing

end Text

end DemandPaging
