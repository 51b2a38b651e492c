import DemandPaging.Proofs.StatementFields

/-!
# Typing statements

Every statement can be typed in many ways: each of its numbers in decimal or in
hexadecimal, with zeros before it and with letters of either case, and its words
with any blanks between and around them.  All these lines are taken for the
statement.
-/

namespace DemandPaging

namespace Statement

open Text (IsWord LineStyle NumeralStyle)

/-- The ways in which the numbers of a statement are typed, in their order, and
the blanks on its line. -/
structure Style where
  numbers : Nat → NumeralStyle
  line : LineStyle

/-- The statement can be typed: its texts are words, and its numbers keep the
limits of the prompt. -/
def Typeable : Statement → Prop
  | exec name codePages dataPages arguments =>
    IsWord name ∧ (∀ argument ∈ arguments, IsWord argument) ∧
      codePages ≤ maxSectionPages ∧ dataPages ≤ maxSectionPages
  | read _ _ length => length ≤ maxTransferBytes
  | write _ _ _ length => length ≤ maxTransferBytes
  | exit _ => True

instance : (statement : Statement) → Decidable statement.Typeable
  | exec _ _ _ _ => inferInstanceAs (Decidable (_ ∧ _ ∧ _ ∧ _))
  | read _ _ length => inferInstanceAs (Decidable (length ≤ maxTransferBytes))
  | write _ _ _ length => inferInstanceAs (Decidable (length ≤ maxTransferBytes))
  | exit _ => inferInstanceAs (Decidable True)

/-- The words in which a statement is typed. -/
def typedWords (style : Nat → NumeralStyle) : Statement → List String
  | exec name codePages dataPages arguments =>
    "exec" :: name :: (style 0).text codePages :: (style 1).text dataPages :: arguments
  | read pid address length =>
    ["read", (style 0).text pid.toNat, (style 1).text address.toNat, (style 2).text length]
  | write pid address byte length =>
    ["write", (style 0).text pid.toNat, (style 1).text address.toNat, (style 2).text byte.toNat,
      (style 3).text length]
  | exit pid => ["exit", (style 0).text pid.toNat]

/-- A line on which a statement is typed. -/
def typed (statement : Statement) (style : Style) : String :=
  style.line.line (statement.typedWords style.numbers)

section Typing

variable {statement : Statement}

theorem isWord_text (number : Nat) (style : NumeralStyle) : IsWord (style.text number) :=
  (Text.denotes_text number style).isWord

theorem isWord_keyword : ∀ word ∈ ["exec", "read", "write", "exit"], IsWord word := by
  decide

theorem isWord_of_mem_typedWords (typeable : statement.Typeable) (style : Nat → NumeralStyle) :
    ∀ word ∈ statement.typedWords style, IsWord word := by
  cases statement with
  | exec name codePages dataPages arguments =>
    obtain ⟨named, words, -, -⟩ := typeable
    simp only [typedWords, List.forall_mem_cons]
    exact ⟨isWord_keyword _ (by decide), named, isWord_text _ _, isWord_text _ _, words⟩
  | read pid address length =>
    simp only [typedWords, List.forall_mem_cons]
    exact ⟨isWord_keyword _ (by decide), isWord_text _ _, isWord_text _ _, isWord_text _ _, nofun⟩
  | write pid address byte length =>
    simp only [typedWords, List.forall_mem_cons]
    exact ⟨isWord_keyword _ (by decide), isWord_text _ _, isWord_text _ _, isWord_text _ _,
      isWord_text _ _, nofun⟩
  | exit pid =>
    simp only [typedWords, List.forall_mem_cons]
    exact ⟨isWord_keyword _ (by decide), isWord_text _ _, nofun⟩

theorem denotes_pid (pid : ProcessId) (style : NumeralStyle) :
    Text.Denotes (style.text pid.toNat) pid.toNat ∧ pid.toNat < numeralLimit ∧
      pid.toNat.toUInt32 = pid :=
  ⟨Text.denotes_text _ style, Nat.lt_trans pid.toNat_lt (by decide), UInt32.ofNat_toNat⟩

/-- The words in which a statement is typed fill its fields. -/
theorem fills_typedWords (typeable : statement.Typeable) (style : Nat → NumeralStyle) :
    ∃ first fields keyword, statement.typedWords style = first :: fields ∧
      Keyword.ofWord? first = some keyword ∧ Fills keyword fields statement := by
  have denotes := fun number place => Text.denotes_text number (style place)
  cases statement with
  | exec name codePages dataPages arguments =>
    obtain ⟨-, -, codeFits, dataFits⟩ := typeable
    exact ⟨_, _, .exec, rfl, rfl, .exec (denotes _ 0) codeFits (denotes _ 1) dataFits⟩
  | read pid address length =>
    obtain ⟨numbered, pidFits, same⟩ := denotes_pid pid (style 0)
    refine ⟨_, _, .read, rfl, rfl, ?_⟩
    have fills := @Fills.read _ _ _ [] _ _ _ numbered pidFits (denotes address.toNat 1)
      (denotes _ 2) typeable
    rwa [same] at fills
  | write pid address byte length =>
    obtain ⟨numbered, pidFits, same⟩ := denotes_pid pid (style 0)
    refine ⟨_, _, .write, rfl, rfl, ?_⟩
    have fills := @Fills.write _ _ _ _ [] _ _ _ _ numbered pidFits (denotes address.toNat 1)
      (denotes byte.toNat 2) (denotes _ 3) typeable
    rwa [same] at fills
  | exit pid =>
    obtain ⟨numbered, pidFits, same⟩ := denotes_pid pid (style 0)
    refine ⟨_, _, .exit, rfl, rfl, ?_⟩
    have fills := @Fills.exit _ [] _ numbered pidFits
    rwa [same] at fills

/-- However a statement is typed, the line is taken for this statement. -/
theorem ofLine_typed (typeable : statement.Typeable) (style : Style) :
    ofLine (statement.typed style) = .ok statement := by
  rw [ofLine_eq_ok_iff, typed, Text.words_line _ (isWord_of_mem_typedWords typeable _)]
  exact fills_typedWords typeable _

/-- A line with blanks of several kinds, a number with zeros before it and one
in hexadecimal with digits of both cases. -/
theorem ofLine_typed_exec :
    (exec "sh" 0xAA 7 ["-v", "now"]).Typeable ∧
      ofLine "\t exec\u00A0sh 0x0aA 007 -v now\n" = .ok (exec "sh" 0xAA 7 ["-v", "now"]) := by
  have typeable : (exec "sh" 0xAA 7 ["-v", "now"]).Typeable := by decide
  let style : Style := {
    numbers := fun place =>
      if place = 0 then .hexadecimal 1 (fun digit => digit = 1) else .decimal 2
    line := {
      before := ⟨['\t', ' '], List.all_eq_true.mp rfl⟩
      between := fun place =>
        if place = 0 then
          ⟨⟨['\u00A0'], List.all_eq_true.mp rfl⟩, by decide⟩
        else
          ⟨⟨[' '], List.all_eq_true.mp rfl⟩, by decide⟩
      after := ⟨['\n'], List.all_eq_true.mp rfl⟩ } }
  have same : typed (exec "sh" 0xAA 7 ["-v", "now"]) style =
      "\t exec\u00A0sh 0x0aA 007 -v now\n" := by
    decide
  exact ⟨typeable, same ▸ ofLine_typed typeable style⟩

end Typing

end Statement

end DemandPaging
