import DemandPaging.Proofs.Numerals
import DemandPaging.Statement

/-!
# The fields of statements

A line is accepted as a statement exactly if the words after its keyword fill
the fields of the statement.  Each number in the statement is then the number
that was typed, with one exception: of the number of a process only the lowest
32 bits are kept, so that a statement can name another process than the one
that was typed.  Numbers that are too large for any other field make the line
malformed.
-/

namespace DemandPaging

namespace Statement

open Text (Denotes)

/-- The words after a keyword fill the fields of a statement.  Of the number of
a process the lowest 32 bits are taken. -/
inductive Fills : Keyword → List String → Statement → Prop
  | exec {name codeWord dataWord : String} {arguments : List String} {codePages dataPages : Nat}
    (code : Denotes codeWord codePages) (codeFits : codePages ≤ maxSectionPages)
    (data : Denotes dataWord dataPages) (dataFits : dataPages ≤ maxSectionPages) :
    Fills .exec (name :: codeWord :: dataWord :: arguments)
      (.exec name codePages dataPages arguments)
  | read {pidWord addressWord lengthWord : String} {more : List String} {number length : Nat}
    {address : UInt64} (pid : Denotes pidWord number) (pidFits : number < numeralLimit)
    (addressed : Denotes addressWord address.toNat) (counted : Denotes lengthWord length)
    (lengthFits : length ≤ maxTransferBytes) :
    Fills .read (pidWord :: addressWord :: lengthWord :: more)
      (.read number.toUInt32 address length)
  | write {pidWord addressWord byteWord lengthWord : String} {more : List String}
    {number length : Nat} {address : UInt64} {byte : UInt8} (pid : Denotes pidWord number)
    (pidFits : number < numeralLimit) (addressed : Denotes addressWord address.toNat)
    (filled : Denotes byteWord byte.toNat) (counted : Denotes lengthWord length)
    (lengthFits : length ≤ maxTransferBytes) :
    Fills .write (pidWord :: addressWord :: byteWord :: lengthWord :: more)
      (.write number.toUInt32 address byte length)
  | exit {pidWord : String} {more : List String} {number : Nat} (pid : Denotes pidWord number)
    (pidFits : number < numeralLimit) :
    Fills .exit (pidWord :: more) (.exit number.toUInt32)

theorem bind_eq_ok_iff {Error First Second : Type} {first : Except Error First}
    {next : First → Except Error Second} {result : Second} :
    first >>= next = .ok result ↔ ∃ value, first = .ok value ∧ next value = .ok result := by
  cases first <;> simp [bind, Except.bind]

section Fields

variable {keyword : Keyword} {word? : Option String} {number : Nat}

theorem wordField_eq_ok_iff {word : String} :
    wordField keyword word? = .ok word ↔ word? = some word := by
  cases word? <;> simp [wordField]

/-- The outcome of a check on a number that was read. -/
theorem ite_eq_ok_iff {Value : Type} {holds : Prop} [Decidable holds] {value result : Value}
    {error : StatementError} :
    (if holds then Except.ok value else Except.error error) = .ok result ↔
      holds ∧ value = result := by
  split <;> simp [*]

theorem numberField_eq_ok_iff :
    numberField keyword word? = .ok number ↔
      ∃ word, word? = some word ∧ Denotes word number ∧ number < numeralLimit := by
  simp only [← Text.numeralValue?_eq_some_iff]
  cases word? with
  | none => simp [numberField]
  | some word =>
    simp only [numberField, Option.bind_some, Option.some.injEq, exists_eq_left']
    cases Text.numeralValue? word with
    | none => simp
    | some value =>
      simp only [ite_eq_ok_iff, Option.some.injEq]
      constructor
      · rintro ⟨small, rfl⟩
        exact ⟨rfl, small⟩
      · rintro ⟨rfl, small⟩
        exact ⟨small, rfl⟩

theorem boundedField_eq_ok_iff {most : Nat} (within : most < numeralLimit) :
    boundedField keyword most word? = .ok number ↔
      ∃ word, word? = some word ∧ Denotes word number ∧ number ≤ most := by
  simp only [boundedField, bind_eq_ok_iff, numberField_eq_ok_iff]
  constructor
  · rintro ⟨_, ⟨word, present, denotes, -⟩, bounded⟩
    obtain ⟨fits, rfl⟩ := ite_eq_ok_iff.mp bounded
    exact ⟨word, present, denotes, fits⟩
  · rintro ⟨word, present, denotes, fits⟩
    exact ⟨number, ⟨word, present, denotes, Nat.lt_of_le_of_lt fits within⟩,
      ite_eq_ok_iff.mpr ⟨fits, rfl⟩⟩

theorem pidField_eq_ok_iff {pid : ProcessId} :
    pidField keyword word? = .ok pid ↔ ∃ word number, word? = some word ∧ Denotes word number ∧
      number < numeralLimit ∧ number.toUInt32 = pid := by
  simp only [pidField, bind_eq_ok_iff, numberField_eq_ok_iff]
  constructor
  · rintro ⟨number, ⟨word, present, denotes, small⟩, done⟩
    exact ⟨word, number, present, denotes, small, Except.ok.inj done⟩
  · rintro ⟨word, number, present, denotes, small, rfl⟩
    exact ⟨number, ⟨word, present, denotes, small⟩, rfl⟩

theorem addressField_eq_ok_iff {address : UInt64} :
    addressField keyword word? = .ok address ↔
      ∃ word, word? = some word ∧ Denotes word address.toNat := by
  simp only [addressField, bind_eq_ok_iff, numberField_eq_ok_iff]
  constructor
  · rintro ⟨number, ⟨word, present, denotes, small⟩, done⟩
    obtain rfl := Except.ok.inj done
    refine ⟨word, present, ?_⟩
    rwa [Nat.toUInt64_eq, UInt64.toNat_ofNat', Nat.mod_eq_of_lt (show number < 2 ^ 64 from small)]
  · rintro ⟨word, present, denotes⟩
    exact ⟨_, ⟨word, present, denotes, address.toNat_lt⟩,
      congrArg Except.ok (UInt64.ofNat_toNat)⟩

theorem byteField_eq_ok_iff {byte : UInt8} :
    byteField keyword word? = .ok byte ↔
      ∃ word, word? = some word ∧ Denotes word byte.toNat := by
  simp only [byteField, bind_eq_ok_iff, numberField_eq_ok_iff]
  constructor
  · rintro ⟨number, ⟨word, present, denotes, -⟩, done⟩
    obtain ⟨small, rfl⟩ := ite_eq_ok_iff.mp done
    refine ⟨word, present, ?_⟩
    rwa [Nat.toUInt8_eq, UInt8.toNat_ofNat', Nat.mod_eq_of_lt small]
  · rintro ⟨word, present, denotes⟩
    have small := byte.toNat_lt
    refine ⟨_, ⟨word, present, denotes, Nat.lt_trans small (by decide)⟩, ?_⟩
    exact ite_eq_ok_iff.mpr ⟨small, UInt8.ofNat_toNat⟩

end Fields

section Lines

variable {keyword : Keyword} {fields : List String} {statement : Statement} {line : String}

theorem maxSectionPages_lt : maxSectionPages < numeralLimit := by
  decide

theorem maxTransferBytes_lt : maxTransferBytes < numeralLimit := by
  decide

theorem exists_eq_cons (fields : List String) {word : String} (first : fields[0]? = some word) :
    ∃ rest, fields = word :: rest := by
  cases fields with
  | nil => cases first
  | cons _ rest => exact ⟨rest, congrArg (· :: rest) (Option.some.inj first)⟩

/-- The fields of a statement are read exactly if the words fill them. -/
theorem ofFields_eq_ok_iff :
    ofFields keyword fields = .ok statement ↔ Fills keyword fields statement := by
  constructor
  · intro done
    cases keyword with
    | exec =>
      simp only [ofFields, bind_eq_ok_iff, wordField_eq_ok_iff,
        boundedField_eq_ok_iff maxSectionPages_lt] at done
      obtain ⟨name, nameAt, codePages, ⟨codeWord, codeAt, code, codeFits⟩, dataPages,
        ⟨dataWord, dataAt, data, dataFits⟩, same⟩ := done
      obtain rfl := Except.ok.inj same
      obtain ⟨rest, rfl⟩ := exists_eq_cons _ nameAt
      obtain ⟨rest, rfl⟩ := exists_eq_cons rest codeAt
      obtain ⟨rest, rfl⟩ := exists_eq_cons rest dataAt
      exact .exec code codeFits data dataFits
    | read =>
      simp only [ofFields, bind_eq_ok_iff, pidField_eq_ok_iff, addressField_eq_ok_iff,
        boundedField_eq_ok_iff maxTransferBytes_lt] at done
      obtain ⟨_, ⟨pidWord, number, pidAt, pid, pidFits, rfl⟩, address,
        ⟨addressWord, addressAt, addressed⟩, length,
        ⟨lengthWord, lengthAt, counted, lengthFits⟩, same⟩ := done
      obtain rfl := Except.ok.inj same
      obtain ⟨rest, rfl⟩ := exists_eq_cons _ pidAt
      obtain ⟨rest, rfl⟩ := exists_eq_cons rest addressAt
      obtain ⟨rest, rfl⟩ := exists_eq_cons rest lengthAt
      exact .read pid pidFits addressed counted lengthFits
    | write =>
      simp only [ofFields, bind_eq_ok_iff, pidField_eq_ok_iff, addressField_eq_ok_iff,
        byteField_eq_ok_iff, boundedField_eq_ok_iff maxTransferBytes_lt] at done
      obtain ⟨_, ⟨pidWord, number, pidAt, pid, pidFits, rfl⟩, address,
        ⟨addressWord, addressAt, addressed⟩, byte, ⟨byteWord, byteAt, filled⟩, length,
        ⟨lengthWord, lengthAt, counted, lengthFits⟩, same⟩ := done
      obtain rfl := Except.ok.inj same
      obtain ⟨rest, rfl⟩ := exists_eq_cons _ pidAt
      obtain ⟨rest, rfl⟩ := exists_eq_cons rest addressAt
      obtain ⟨rest, rfl⟩ := exists_eq_cons rest byteAt
      obtain ⟨rest, rfl⟩ := exists_eq_cons rest lengthAt
      exact .write pid pidFits addressed filled counted lengthFits
    | exit =>
      simp only [ofFields, bind_eq_ok_iff, pidField_eq_ok_iff] at done
      obtain ⟨_, ⟨pidWord, number, pidAt, pid, pidFits, rfl⟩, same⟩ := done
      obtain rfl := Except.ok.inj same
      obtain ⟨rest, rfl⟩ := exists_eq_cons _ pidAt
      exact .exit pid pidFits
  · intro fills
    cases fills with
    | exec code codeFits data dataFits =>
      simp only [ofFields, bind_eq_ok_iff, wordField_eq_ok_iff,
        boundedField_eq_ok_iff maxSectionPages_lt]
      exact ⟨_, rfl, _, ⟨_, rfl, code, codeFits⟩, _, ⟨_, rfl, data, dataFits⟩, rfl⟩
    | read pid pidFits addressed counted lengthFits =>
      simp only [ofFields, bind_eq_ok_iff, pidField_eq_ok_iff, addressField_eq_ok_iff,
        boundedField_eq_ok_iff maxTransferBytes_lt]
      exact ⟨_, ⟨_, _, rfl, pid, pidFits, rfl⟩, _, ⟨_, rfl, addressed⟩, _,
        ⟨_, rfl, counted, lengthFits⟩, rfl⟩
    | write pid pidFits addressed filled counted lengthFits =>
      simp only [ofFields, bind_eq_ok_iff, pidField_eq_ok_iff, addressField_eq_ok_iff,
        byteField_eq_ok_iff, boundedField_eq_ok_iff maxTransferBytes_lt]
      exact ⟨_, ⟨_, _, rfl, pid, pidFits, rfl⟩, _, ⟨_, rfl, addressed⟩, _, ⟨_, rfl, filled⟩, _,
        ⟨_, rfl, counted, lengthFits⟩, rfl⟩
    | exit pid pidFits =>
      simp only [ofFields, bind_eq_ok_iff, pidField_eq_ok_iff]
      exact ⟨_, ⟨_, _, rfl, pid, pidFits, rfl⟩, rfl⟩

theorem ofLine_eq_ok_iff :
    ofLine line = .ok statement ↔ ∃ first fields keyword, Text.words line = first :: fields ∧
      Keyword.ofWord? first = some keyword ∧ Fills keyword fields statement := by
  rw [ofLine]
  cases Text.words line with
  | nil => simp
  | cons first fields =>
    cases known : Keyword.ofWord? first with
    | none => simp [known]
    | some keyword => simp [known, ofFields_eq_ok_iff]

end Lines

/-- Whatever goes wrong is reported as a malformed statement. -/
def OnlyMalformed {Value : Type} (outcome : Except StatementError Value) : Prop :=
  ∀ error, outcome = .error error → ∃ usage, error = .malformed usage

section Refusals

variable {keyword : Keyword} {word? : Option String} {line : String}

theorem onlyMalformed_ok {Value : Type} (value : Value) :
    OnlyMalformed (Except.ok value) := by
  intro error failed
  cases failed

theorem onlyMalformed_malformed {Value : Type} (usage : String) :
    OnlyMalformed (.error (.malformed usage) : Except StatementError Value) := by
  intro error failed
  obtain rfl := Except.error.inj failed
  exact ⟨usage, rfl⟩

theorem OnlyMalformed.bind {First Second : Type} {first : Except StatementError First}
    {next : First → Except StatementError Second} (fails : OnlyMalformed first)
    (later : ∀ value, OnlyMalformed (next value)) : OnlyMalformed (first >>= next) := by
  cases first with
  | ok value => exact later value
  | error error =>
    obtain ⟨usage, rfl⟩ := fails error rfl
    exact onlyMalformed_malformed usage

theorem onlyMalformed_wordField : OnlyMalformed (wordField keyword word?) := by
  cases word? with
  | none => exact onlyMalformed_malformed _
  | some word => exact onlyMalformed_ok word

theorem onlyMalformed_numberField : OnlyMalformed (numberField keyword word?) := by
  rw [numberField]
  split
  · split
    · exact onlyMalformed_ok _
    · exact onlyMalformed_malformed _
  · exact onlyMalformed_malformed _

theorem onlyMalformed_boundedField (most : Nat) :
    OnlyMalformed (boundedField keyword most word?) := by
  refine onlyMalformed_numberField.bind fun number => ?_
  split
  · exact onlyMalformed_ok _
  · exact onlyMalformed_malformed _

theorem onlyMalformed_pidField : OnlyMalformed (pidField keyword word?) :=
  onlyMalformed_numberField.bind fun _ => onlyMalformed_ok _

theorem onlyMalformed_addressField : OnlyMalformed (addressField keyword word?) :=
  onlyMalformed_numberField.bind fun _ => onlyMalformed_ok _

theorem onlyMalformed_byteField : OnlyMalformed (byteField keyword word?) := by
  refine onlyMalformed_numberField.bind fun number => ?_
  split
  · exact onlyMalformed_ok _
  · exact onlyMalformed_malformed _

theorem onlyMalformed_ofFields (fields : List String) :
    OnlyMalformed (ofFields keyword fields) := by
  cases keyword with
  | exec =>
    exact onlyMalformed_wordField.bind fun _ => (onlyMalformed_boundedField _).bind fun _ =>
      (onlyMalformed_boundedField _).bind fun _ => onlyMalformed_ok _
  | read =>
    exact onlyMalformed_pidField.bind fun _ => onlyMalformed_addressField.bind fun _ =>
      (onlyMalformed_boundedField _).bind fun _ => onlyMalformed_ok _
  | write =>
    exact onlyMalformed_pidField.bind fun _ => onlyMalformed_addressField.bind fun _ =>
      onlyMalformed_byteField.bind fun _ => (onlyMalformed_boundedField _).bind fun _ =>
        onlyMalformed_ok _
  | exit => exact onlyMalformed_pidField.bind fun _ => onlyMalformed_ok _

end Refusals

/-- The numbers of a statement, each with the place of its word on the line; the
keyword has place zero. -/
def numbers : Statement → List (Nat × Nat)
  | exec _ codePages dataPages _ => [(2, codePages), (3, dataPages)]
  | read pid address length => [(1, pid.toNat), (2, address.toNat), (3, length)]
  | write pid address byte length =>
    [(1, pid.toNat), (2, address.toNat), (3, byte.toNat), (4, length)]
  | exit pid => [(1, pid.toNat)]

/-- The largest number that each field of a statement can hold, with the place
of its word. -/
def limits : Keyword → List (Nat × Nat)
  | .exec => [(2, maxSectionPages), (3, maxSectionPages)]
  | .read => [(1, 2 ^ 32 - 1), (2, 2 ^ 64 - 1), (3, maxTransferBytes)]
  | .write => [(1, 2 ^ 32 - 1), (2, 2 ^ 64 - 1), (3, 2 ^ 8 - 1), (4, maxTransferBytes)]
  | .exit => [(1, 2 ^ 32 - 1)]

/-- A word at a place on the line denotes a number. -/
def Shows (words : List String) (place number : Nat) : Prop :=
  ∃ word, words[place]? = some word ∧ Denotes word number

/-- No number is taken for another than the one that was typed. -/
structure TakenAsTyped (line : String) : Prop where
  accepted : ∀ statement, ofLine line = .ok statement →
    ∀ place number, (place, number) ∈ statement.numbers → Shows (Text.words line) place number
  tooLarge : ∀ first keyword, (Text.words line)[0]? = some first →
    Keyword.ofWord? first = some keyword → ∀ place most, (place, most) ∈ limits keyword →
      ∀ number, Shows (Text.words line) place number → most < number →
        ∃ usage, ofLine line = .error (.malformed usage)

/-- The line is accepted although the number of the process that was typed is
too large. -/
def Redirected (line : String) : Prop :=
  ∃ statement pid number, ofLine line = .ok statement ∧ (1, pid) ∈ statement.numbers ∧
    Shows (Text.words line) 1 number ∧ 2 ^ 32 ≤ number

section Typing

variable {words : List String} {place number other : Nat}

theorem Shows.unique (first : Shows words place number) (second : Shows words place other) :
    number = other := by
  obtain ⟨word, present, denotes⟩ := first
  obtain ⟨_, same, also⟩ := second
  obtain rfl := Option.some.inj (present.symm.trans same)
  exact denotes.unique also

variable {first : String} {keyword : Keyword} {fields : List String} {statement : Statement}

/-- Each number of a statement was typed, except that the number of a process
loses the multiples of `2 ^ 32`. -/
theorem Fills.shows (fills : Fills keyword fields statement)
    (member : (place, number) ∈ statement.numbers) :
    ∃ typed, Shows (first :: fields) place typed ∧
      (typed = number ∨ place = 1 ∧ number = typed % 2 ^ 32) := by
  cases fills with
  | exec code _ data _ =>
    simp only [numbers, List.mem_cons, Prod.mk.injEq, List.not_mem_nil, or_false] at member
    rcases member with ⟨rfl, rfl⟩ | ⟨rfl, rfl⟩
    · exact ⟨_, ⟨_, rfl, code⟩, .inl rfl⟩
    · exact ⟨_, ⟨_, rfl, data⟩, .inl rfl⟩
  | read pid _ addressed counted _ =>
    simp only [numbers, List.mem_cons, Prod.mk.injEq, List.not_mem_nil, or_false] at member
    rcases member with ⟨rfl, rfl⟩ | ⟨rfl, rfl⟩ | ⟨rfl, rfl⟩
    · exact ⟨_, ⟨_, rfl, pid⟩, .inr ⟨rfl, UInt32.toNat_ofNat'⟩⟩
    · exact ⟨_, ⟨_, rfl, addressed⟩, .inl rfl⟩
    · exact ⟨_, ⟨_, rfl, counted⟩, .inl rfl⟩
  | write pid _ addressed filled counted _ =>
    simp only [numbers, List.mem_cons, Prod.mk.injEq, List.not_mem_nil, or_false] at member
    rcases member with ⟨rfl, rfl⟩ | ⟨rfl, rfl⟩ | ⟨rfl, rfl⟩ | ⟨rfl, rfl⟩
    · exact ⟨_, ⟨_, rfl, pid⟩, .inr ⟨rfl, UInt32.toNat_ofNat'⟩⟩
    · exact ⟨_, ⟨_, rfl, addressed⟩, .inl rfl⟩
    · exact ⟨_, ⟨_, rfl, filled⟩, .inl rfl⟩
    · exact ⟨_, ⟨_, rfl, counted⟩, .inl rfl⟩
  | exit pid _ =>
    obtain ⟨rfl, rfl⟩ := Prod.mk.inj (List.mem_singleton.mp member)
    exact ⟨_, ⟨_, rfl, pid⟩, .inr ⟨rfl, UInt32.toNat_ofNat'⟩⟩

/-- Every field holds a number that it can hold. -/
theorem Fills.exists_le {most : Nat} (fills : Fills keyword fields statement)
    (limited : (place, most) ∈ limits keyword) :
    ∃ number, (place, number) ∈ statement.numbers ∧ number ≤ most := by
  cases fills with
  | exec _ codeFits _ dataFits =>
    simp only [limits, List.mem_cons, Prod.mk.injEq, List.not_mem_nil, or_false] at limited
    rcases limited with ⟨rfl, rfl⟩ | ⟨rfl, rfl⟩
    · exact ⟨_, List.mem_of_getElem? (i := 0) rfl, codeFits⟩
    · exact ⟨_, List.mem_of_getElem? (i := 1) rfl, dataFits⟩
  | read _ _ _ _ lengthFits =>
    simp only [limits, List.mem_cons, Prod.mk.injEq, List.not_mem_nil, or_false] at limited
    rcases limited with ⟨rfl, rfl⟩ | ⟨rfl, rfl⟩ | ⟨rfl, rfl⟩
    · exact ⟨_, List.mem_of_getElem? (i := 0) rfl, Nat.le_sub_one_of_lt (UInt32.toNat_lt _)⟩
    · exact ⟨_, List.mem_of_getElem? (i := 1) rfl, Nat.le_sub_one_of_lt (UInt64.toNat_lt _)⟩
    · exact ⟨_, List.mem_of_getElem? (i := 2) rfl, lengthFits⟩
  | write _ _ _ _ _ lengthFits =>
    simp only [limits, List.mem_cons, Prod.mk.injEq, List.not_mem_nil, or_false] at limited
    rcases limited with ⟨rfl, rfl⟩ | ⟨rfl, rfl⟩ | ⟨rfl, rfl⟩ | ⟨rfl, rfl⟩
    · exact ⟨_, List.mem_of_getElem? (i := 0) rfl, Nat.le_sub_one_of_lt (UInt32.toNat_lt _)⟩
    · exact ⟨_, List.mem_of_getElem? (i := 1) rfl, Nat.le_sub_one_of_lt (UInt64.toNat_lt _)⟩
    · exact ⟨_, List.mem_of_getElem? (i := 2) rfl, Nat.le_sub_one_of_lt (UInt8.toNat_lt _)⟩
    · exact ⟨_, List.mem_of_getElem? (i := 3) rfl, lengthFits⟩
  | exit _ _ =>
    obtain ⟨rfl, rfl⟩ := Prod.mk.inj (List.mem_singleton.mp limited)
    exact ⟨_, List.mem_of_getElem? (i := 0) rfl, Nat.le_sub_one_of_lt (UInt32.toNat_lt _)⟩

end Typing

section Redirection

variable {line : String} {statement : Statement} {place number : Nat}

theorem shows_of_not_redirected (same : ¬Redirected line)
    (accepted : ofLine line = .ok statement) (member : (place, number) ∈ statement.numbers) :
    Shows (Text.words line) place number := by
  obtain ⟨first, fields, keyword, cut, -, fills⟩ := ofLine_eq_ok_iff.mp accepted
  obtain ⟨typed, shown, rfl | ⟨rfl, rfl⟩⟩ := @Fills.shows _ _ first _ _ _ fills member
  · rwa [cut]
  · rw [← cut] at shown
    rcases Nat.lt_or_ge typed (2 ^ 32) with small | large
    · rwa [Nat.mod_eq_of_lt small]
    · exact absurd ⟨_, _, typed, accepted, member, shown, large⟩ same

theorem lt_of_mem_numbers {pid : Nat} (member : (1, pid) ∈ statement.numbers) :
    pid < 2 ^ 32 := by
  cases statement with
  | exec name codePages dataPages arguments => simp [numbers] at member
  | read process address length =>
    obtain rfl : pid = process.toNat := by simpa [numbers] using member
    exact process.toNat_lt
  | write process address byte length =>
    obtain rfl : pid = process.toNat := by simpa [numbers] using member
    exact process.toNat_lt
  | exit process =>
    obtain rfl : pid = process.toNat := by simpa [numbers] using member
    exact process.toNat_lt

theorem not_redirected_of_takenAsTyped (taken : TakenAsTyped line) : ¬Redirected line := by
  rintro ⟨statement, pid, typed, accepted, member, shown, large⟩
  obtain rfl := (taken.accepted _ accepted _ _ member).unique shown
  exact absurd (lt_of_mem_numbers member) (Nat.not_lt.mpr large)

/-- A line with a number that is too large for its field is not accepted, and
there is only one way in which the fields of a statement can fail. -/
theorem malformed_of_not_redirected (same : ¬Redirected line) {first : String}
    {keyword : Keyword} (starts : (Text.words line)[0]? = some first)
    (known : Keyword.ofWord? first = some keyword) {most : Nat}
    (limited : (place, most) ∈ limits keyword) (shown : Shows (Text.words line) place number)
    (large : most < number) : ∃ usage, ofLine line = .error (.malformed usage) := by
  obtain ⟨fields, cut⟩ := exists_eq_cons _ starts
  cases outcome : ofLine line with
  | ok statement =>
    obtain ⟨_, _, other, cutAgain, knownAgain, fills⟩ := ofLine_eq_ok_iff.mp outcome
    obtain ⟨rfl, rfl⟩ := List.cons.inj (cut.symm.trans cutAgain)
    obtain rfl := Option.some.inj (known.symm.trans knownAgain)
    obtain ⟨held, member, fits⟩ := fills.exists_le limited
    obtain rfl := shown.unique (shows_of_not_redirected same outcome member)
    exact absurd fits (Nat.not_le.mpr large)
  | error error =>
    rw [ofLine, cut] at outcome
    simp only [known] at outcome
    obtain ⟨usage, rfl⟩ := onlyMalformed_ofFields fields error outcome
    exact ⟨usage, rfl⟩

end Redirection

/-- The statement that a line is taken for has the numbers that were typed,
unless a process is taken for another one. -/
theorem takenAsTyped_iff_not_redirected (line : String) :
    TakenAsTyped line ↔ ¬Redirected line := by
  constructor
  · exact not_redirected_of_takenAsTyped
  · intro same
    constructor
    case accepted => exact fun _ accepted _ _ => shows_of_not_redirected same accepted
    case tooLarge =>
      exact fun _ _ starts known _ _ limited _ =>
        malformed_of_not_redirected same starts known limited

/-- Only a one is left of the number that is typed here, so that another process
exits. -/
theorem not_takenAsTyped_exit : ¬TakenAsTyped "exit 4294967297" := by
  intro taken
  have accepted : ofLine "exit 4294967297" = .ok (.exit 1) := by cbv
  have words : Text.words "exit 4294967297" = ["exit", "4294967297"] := by cbv
  have shown := taken.accepted _ accepted 1 1 (by decide)
  have typed : Shows (Text.words "exit 4294967297") 1 4294967297 := by
    rw [words]
    exact ⟨_, rfl, Text.numeralValue?_eq_some_iff.mp (by cbv)⟩
  exact absurd (shown.unique typed) (by decide)

end Statement

end DemandPaging
