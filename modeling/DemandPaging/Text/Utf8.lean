import DemandPaging.Bytes

/-!
# UTF-8

Texts as bytes and bytes as texts.  A decoder consumes one byte at a time and
keeps what is left of a character in between.  Bytes that are no part of a
character are read as the replacement character: one for each longest run of
bytes that starts like a character and then breaks off.
-/

namespace DemandPaging

namespace Utf8

def encode (text : String) : Bytes :=
  (text.toList.flatMap String.utf8EncodeChar).toArray

/-- The character that stands for bytes that are no part of a character. -/
def replacement : Char := '\uFFFD'

/-- The beginning of a character: the bits seen so far, the number of bytes that
are still missing, and the range of the next one. -/
structure Pending where
  bits : Nat
  missing : Nat
  low : UInt8 := 0x80
  high : UInt8 := 0xBF
  deriving DecidableEq, Repr

/-- What a byte is at the start of a character. -/
inductive Lead where
  | complete (letter : Char)
  | begins (pending : Pending)
  | invalid
  deriving DecidableEq, Repr

/-- Classify the first byte of a character.  The ranges of the second byte
exclude the forms that are longer than necessary, the surrogates, and the
numbers beyond the last character. -/
def lead (byte : UInt8) : Lead :=
  let bits := byte.toNat
  if byte < 0x80 then .complete (Char.ofNat bits)
  else if byte < 0xC2 then .invalid
  else if byte < 0xE0 then .begins { bits := bits % 0x20, missing := 1 }
  else if byte = 0xE0 then .begins { bits := bits % 0x10, missing := 2, low := 0xA0 }
  else if byte = 0xED then .begins { bits := bits % 0x10, missing := 2, high := 0x9F }
  else if byte < 0xF0 then .begins { bits := bits % 0x10, missing := 2 }
  else if byte = 0xF0 then .begins { bits := bits % 0x08, missing := 3, low := 0x90 }
  else if byte < 0xF4 then .begins { bits := bits % 0x08, missing := 3 }
  else if byte = 0xF4 then .begins { bits := bits % 0x08, missing := 3, high := 0x8F }
  else .invalid

/-- The characters that the first byte of a character completes, and what is
left over. -/
def feedLead (byte : UInt8) : List Char × Option Pending :=
  match lead byte with
  | .complete letter => ([letter], none)
  | .begins pending => ([], some pending)
  | .invalid => ([replacement], none)

/-- The characters that a byte completes, and what is left over.  A byte that
does not go on with the character begun is the first byte of another. -/
def feed (state : Option Pending) (byte : UInt8) : List Char × Option Pending :=
  match state with
  | none => feedLead byte
  | some pending =>
    if pending.low ≤ byte ∧ byte ≤ pending.high then
      let bits := pending.bits * 0x40 + byte.toNat % 0x40
      if pending.missing ≤ 1 then
        ([Char.ofNat bits], none)
      else
        ([], some { bits := bits, missing := pending.missing - 1 })
    else
      let (letters, next) := feedLead byte
      (replacement :: letters, next)

/-- The characters of a run of bytes, after what is left over from before. -/
def decodeFrom (state : Option Pending) : List UInt8 → List Char
  | [] => if state.isSome then [replacement] else []
  | byte :: rest =>
    let (letters, next) := feed state byte
    letters ++ decodeFrom next rest

/-- The text of a run of bytes, whatever the bytes are. -/
def decodeLossy (bytes : Bytes) : String :=
  String.ofList (decodeFrom none bytes.toList)

/-- The text that a run of bytes is the encoding of. -/
def decode? (bytes : Bytes) : Option String :=
  let text := decodeLossy bytes
  if encode text = bytes then some text else none

section RoundTrip

theorem lead_of_one : ∀ number < 0x80,
    lead (UInt8.ofNat number) = .complete (Char.ofNat number) := by
  decide

theorem lead_of_two : ∀ high < 0x20, 2 ≤ high →
    lead (UInt8.ofNat (high + 0xC0)) = .begins { bits := high, missing := 1 } := by
  decide

theorem lead_of_three : ∀ high < 0x10, lead (UInt8.ofNat (high + 0xE0)) = .begins {
    bits := high
    missing := 2
    low := if high = 0 then 0xA0 else 0x80
    high := if high = 0xD then 0x9F else 0xBF } := by
  decide

theorem lead_of_four : ∀ high < 5, lead (UInt8.ofNat (high + 0xF0)) = .begins {
    bits := high
    missing := 3
    low := if high = 0 then 0x90 else 0x80
    high := if high = 4 then 0x8F else 0xBF } := by
  decide

variable {rest : List UInt8} {first second third fourth : Nat}

theorem decodeFrom_lead {byte : UInt8} {pending : Pending} (begins : lead byte = .begins pending) :
    decodeFrom none (byte :: rest) = decodeFrom (some pending) rest := by
  simp only [decodeFrom, feed, feedLead, begins, List.nil_append]

/-- A byte in the range that is expected adds six bits to the character. -/
theorem feed_of_mem {pending : Pending} {six : Nat} (small : six < 0x40)
    (expected : pending.low.toNat ≤ six + 0x80 ∧ six + 0x80 ≤ pending.high.toNat) :
    feed (some pending) (UInt8.ofNat (six + 0x80)) =
      if pending.missing ≤ 1 then
        ([Char.ofNat (pending.bits * 0x40 + six)], none)
      else
        ([], some { bits := pending.bits * 0x40 + six, missing := pending.missing - 1 }) := by
  have value : (UInt8.ofNat (six + 0x80)).toNat = six + 0x80 := by
    rw [UInt8.toNat_ofNat', Nat.mod_eq_of_lt (by omega)]
  have bits : (six + 0x80) % 0x40 = six := by omega
  simp only [feed, UInt8.le_iff_toNat_le, value, bits]
  rw [if_pos expected]

section Continuation

variable {bits missing six : Nat} {low high : UInt8}

theorem decodeFrom_more (small : six < 0x40)
    (expected : low.toNat ≤ six + 0x80 ∧ six + 0x80 ≤ high.toNat) :
    decodeFrom (some ⟨bits, missing + 2, low, high⟩) (UInt8.ofNat (six + 0x80) :: rest) =
      decodeFrom (some { bits := bits * 0x40 + six, missing := missing + 1 }) rest := by
  rw [decodeFrom, feed_of_mem small expected, if_neg (by simp)]
  rfl

theorem decodeFrom_last (small : six < 0x40)
    (expected : low.toNat ≤ six + 0x80 ∧ six + 0x80 ≤ high.toNat) :
    decodeFrom (some ⟨bits, 1, low, high⟩) (UInt8.ofNat (six + 0x80) :: rest) =
      Char.ofNat (bits * 0x40 + six) :: decodeFrom none rest := by
  rw [decodeFrom, feed_of_mem small expected, if_pos (Nat.le_refl 1)]
  rfl

theorem mem_default (small : six < 0x40) :
    (0x80 : UInt8).toNat ≤ six + 0x80 ∧ six + 0x80 ≤ (0xBF : UInt8).toNat :=
  ⟨Nat.le_add_left 0x80 six, Nat.add_le_add_right (Nat.le_of_lt_succ small) 0x80⟩

end Continuation

theorem decodeFrom_two (leads : first < 0x20) (least : 2 ≤ first) (last : second < 0x40) :
    decodeFrom none (UInt8.ofNat (first + 0xC0) :: UInt8.ofNat (second + 0x80) :: rest) =
      Char.ofNat (first * 0x40 + second) :: decodeFrom none rest := by
  rw [decodeFrom_lead (lead_of_two first leads least), decodeFrom_last last (mem_default last)]

theorem decodeFrom_three (leads : first < 0x10) (least : first = 0 → 0x20 ≤ second)
    (scalar : first = 0xD → second < 0x20) (next : second < 0x40) (last : third < 0x40) :
    decodeFrom none (UInt8.ofNat (first + 0xE0) :: UInt8.ofNat (second + 0x80) ::
        UInt8.ofNat (third + 0x80) :: rest) =
      Char.ofNat ((first * 0x40 + second) * 0x40 + third) :: decodeFrom none rest := by
  have expected : (if first = 0 then (0xA0 : UInt8) else 0x80).toNat ≤ second + 0x80 ∧
      second + 0x80 ≤ (if first = 0xD then (0x9F : UInt8) else 0xBF).toNat := by
    constructor <;> split <;> simp <;> omega
  rw [decodeFrom_lead (lead_of_three first leads), decodeFrom_more next expected,
    decodeFrom_last last (mem_default last)]

theorem decodeFrom_four (leads : first < 5) (least : first = 0 → 0x10 ≤ second)
    (scalar : first = 4 → second < 0x10) (next : second < 0x40) (further : third < 0x40)
    (last : fourth < 0x40) :
    decodeFrom none (UInt8.ofNat (first + 0xF0) :: UInt8.ofNat (second + 0x80) ::
        UInt8.ofNat (third + 0x80) :: UInt8.ofNat (fourth + 0x80) :: rest) =
      Char.ofNat (((first * 0x40 + second) * 0x40 + third) * 0x40 + fourth) ::
        decodeFrom none rest := by
  have expected : (if first = 0 then (0x90 : UInt8) else 0x80).toNat ≤ second + 0x80 ∧
      second + 0x80 ≤ (if first = 4 then (0x8F : UInt8) else 0xBF).toNat := by
    constructor <;> split <;> simp <;> omega
  rw [decodeFrom_lead (lead_of_four first leads), decodeFrom_more next expected,
    decodeFrom_more further (mem_default further), decodeFrom_last last (mem_default last)]

theorem decodeFrom_utf8EncodeChar (letter : Char) :
    decodeFrom none (String.utf8EncodeChar letter ++ rest) = letter :: decodeFrom none rest := by
  have same : Char.ofNat letter.val.toNat = letter := Char.ofNat_toNat letter
  have scalar : letter.val.toNat < 0xD800 ∨
      0xDFFF < letter.val.toNat ∧ letter.val.toNat < 0x110000 := letter.valid
  rw [String.utf8EncodeChar]
  generalize letter.val.toNat = number at same scalar
  subst same
  split
  · rename_i one
    simp only [List.cons_append, List.nil_append, decodeFrom, feed, feedLead,
      lead_of_one number (by omega)]
  split
  · rename_i two
    rw [List.cons_append, List.cons_append, List.nil_append,
      decodeFrom_two (by omega) (by omega) (by omega)]
    congr 2
    omega
  split
  · rename_i three
    rw [List.cons_append, List.cons_append, List.cons_append, List.nil_append,
      decodeFrom_three (by omega) (by omega) (by omega) (by omega) (by omega)]
    congr 2
    omega
  · rename_i four
    rw [List.cons_append, List.cons_append, List.cons_append, List.cons_append, List.nil_append,
      decodeFrom_four (by omega) (by omega) (by omega) (by omega) (by omega) (by omega)]
    congr 2
    omega

/-- A text is read back from its bytes. -/
theorem decodeLossy_encode (text : String) : decodeLossy (encode text) = text := by
  have decoded : ∀ letters : List Char,
      decodeFrom none (letters.flatMap String.utf8EncodeChar) = letters := by
    intro letters
    induction letters with
    | nil => rfl
    | cons letter rest ih => rw [List.flatMap_cons, decodeFrom_utf8EncodeChar, ih]
  rw [decodeLossy, encode, decoded, String.ofList_toList]

theorem size_encode (text : String) : (encode text).size = text.utf8ByteSize := by
  rw [String.utf8ByteSize, ← String.utf8Encode_toList]
  simp [encode, List.utf8Encode]

/-- Only the character zero has a zero byte. -/
theorem eq_of_zero_mem_utf8EncodeChar {letter : Char}
    (member : 0 ∈ String.utf8EncodeChar letter) : letter = '\x00' := by
  have same : Char.ofNat letter.val.toNat = letter := Char.ofNat_toNat letter
  have whole : ∀ {number}, 0 = UInt8.ofNat number → number % 0x100 = 0 := by
    intro number equal
    have bytes := congrArg UInt8.toNat equal
    rw [UInt8.toNat_ofNat'] at bytes
    exact bytes.symm
  rw [String.utf8EncodeChar] at member
  generalize letter.val.toNat = number at same member
  subst same
  split at member
  · have none := whole (List.mem_singleton.mp member)
    rw [show number = 0 by omega]
  · -- All bytes of a longer character are at least 0x80.
    split at member
    · simp only [List.mem_cons, List.not_mem_nil, or_false] at member
      rcases member with zero | zero <;> have none := whole zero <;> omega
    split at member <;> simp only [List.mem_cons, List.not_mem_nil, or_false] at member
    · rcases member with zero | zero | zero <;> have none := whole zero <;> omega
    · rcases member with zero | zero | zero | zero <;> have none := whole zero <;> omega

theorem zero_notMem_encode {text : String} (plain : '\x00' ∉ text.toList) : 0 ∉ encode text := by
  intro member
  obtain ⟨letter, inside, zero⟩ := List.mem_flatMap.mp (List.mem_toArray.mp member)
  rw [eq_of_zero_mem_utf8EncodeChar zero] at inside
  exact plain inside

end RoundTrip

end Utf8

end DemandPaging
