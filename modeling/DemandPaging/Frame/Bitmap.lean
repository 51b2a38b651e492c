/-!
# Bitmaps

One bit per index, set while the index is taken.  Storage comes in whole
bytes, so a bitmap keeps a few bits beyond its length; they stay clear and
are never handed out, and the lowest clear index is always handed out first.
-/

namespace DemandPaging

/-- The number of bytes stored for `length` indices, eight indices to a byte. -/
def storedBytes (length : Nat) : Nat :=
  length / 8 + if length % 8 = 0 then 0 else 1

theorem div_lt_storedBytes {length index : Nat} (inside : index < length) :
    index / 8 < storedBytes length := by
  unfold storedBytes
  split <;> omega

/-- The byte in which only the bit at `place` is set. -/
def bitMask (place : Nat) : UInt8 :=
  1 <<< place.toUInt8

/-- The bit at `place` of a byte, counted from the lowest one. -/
def bitAt (byte : UInt8) (place : Nat) : Bool :=
  byte &&& bitMask place != 0

section Bits

variable {byte : UInt8} {place other : Nat}

theorem toBitVec_bitMask (inside : place < 8) :
    (bitMask place).toBitVec = BitVec.twoPow 8 place := by
  have masks : ∀ place : Fin 8, (bitMask place).toBitVec = BitVec.twoPow 8 place := by decide
  exact masks ⟨place, inside⟩

theorem bitAt_eq_getLsbD (inside : place < 8) : bitAt byte place = byte.toBitVec.getLsbD place := by
  have apart : BitVec.twoPow 8 place ≠ 0#8 := by
    intro zero
    have bit := congrArg (fun bits => bits.getLsbD place) zero
    simp [inside] at bit
  rw [Bool.eq_iff_iff, bitAt, bne_iff_ne, Ne, ← UInt8.toBitVec_inj, UInt8.toBitVec_and,
    toBitVec_bitMask inside, BitVec.and_twoPow]
  cases byte.toBitVec.getLsbD place with
  | false => simp
  | true => simp [apart]

theorem bitAt_or_bitMask (placeInside : place < 8) (otherInside : other < 8) :
    bitAt (byte ||| bitMask place) other = if other = place then true else bitAt byte other := by
  rw [bitAt_eq_getLsbD otherInside, bitAt_eq_getLsbD otherInside, UInt8.toBitVec_or,
    toBitVec_bitMask placeInside, BitVec.getLsbD_or, BitVec.getLsbD_twoPow]
  by_cases same : other = place
  · simp [same, placeInside]
  · simp [same, Ne.symm same]

theorem bitAt_and_not_bitMask (placeInside : place < 8) (otherInside : other < 8) :
    bitAt (byte &&& ~~~bitMask place) other =
      if other = place then false else bitAt byte other := by
  rw [bitAt_eq_getLsbD otherInside, bitAt_eq_getLsbD otherInside, UInt8.toBitVec_and,
    UInt8.toBitVec_not, toBitVec_bitMask placeInside, BitVec.getLsbD_and, BitVec.getLsbD_not,
    BitVec.getLsbD_twoPow]
  by_cases same : other = place
  · simp [same, placeInside]
  · simp [same, Ne.symm same, otherInside]

@[simp]
theorem bitAt_zero (inside : place < 8) : bitAt 0 place = false := by
  rw [bitAt_eq_getLsbD inside]
  simp

theorem bitAt_full (inside : place < 8) : bitAt 0xFF place = true := by
  have bits : ∀ place : Fin 8, bitAt 0xFF place = true := by decide
  exact bits ⟨place, inside⟩

end Bits

/-- The bit at `position` in a run of bytes, unless the run is too short. -/
def bitIn (bytes : List UInt8) (position : Nat) : Option Bool :=
  bytes[position / 8]?.map fun byte => bitAt byte (position % 8)

/-- What the search for a clear bit comes to in one byte. -/
inductive ByteSearch where
  | clear (index : Nat)
  /-- The bits beyond the length are reached. -/
  | ended
  | full
  deriving DecidableEq, Repr

/-- Look for the lowest clear bit below `length` in byte number `number`. -/
def searchByte (length number : Nat) (byte : UInt8) : ByteSearch :=
  if byte = 0xFF then
    .full
  else
    match (List.range 8).find? fun place => length ≤ 8 * number + place || !bitAt byte place with
    | none => .full
    | some place =>
      if length ≤ 8 * number + place then .ended else .clear (8 * number + place)

/-- Look for the lowest clear bit below `length` in the bytes from number
`number` on. -/
def searchBytes (length number : Nat) : List UInt8 → Option Nat
  | [] => none
  | byte :: rest =>
    match searchByte length number byte with
    | .clear index => some index
    | .ended => none
    | .full => searchBytes length (number + 1) rest

/-- A bitmap over the indices below `length`. -/
structure Bitmap where
  length : Nat
  bytes : Vector UInt8 (storedBytes length)
  deriving DecidableEq

namespace Bitmap

def empty (length : Nat) : Bitmap where
  length := length
  bytes := Vector.replicate (storedBytes length) 0

/-- The bit at `index`, unless no byte is stored for it. -/
def isSet? (bitmap : Bitmap) (index : Nat) : Option Bool :=
  bitmap.bytes[index / 8]?.map fun byte => bitAt byte (index % 8)

/-- Change the byte in which the bit at `index` is, unless no byte is stored for
it. -/
def alterByte? (bitmap : Bitmap) (index : Nat) (change : UInt8 → UInt8) : Option Bitmap :=
  if stored : index / 8 < storedBytes bitmap.length then
    some { bitmap with bytes := bitmap.bytes.set (index / 8) (change bitmap.bytes[index / 8]) }
  else
    none

/-- Set the bit at `index`, unless no byte is stored for it. -/
def set? (bitmap : Bitmap) (index : Nat) : Option Bitmap :=
  bitmap.alterByte? index fun byte => byte ||| bitMask (index % 8)

/-- Clear the bit at `index`, unless no byte is stored for it. -/
def clear? (bitmap : Bitmap) (index : Nat) : Option Bitmap :=
  bitmap.alterByte? index fun byte => byte &&& ~~~bitMask (index % 8)

/-- Set the lowest clear bit and return its index.  A full bitmap has none:
its lowest clear bit, if any, lies beyond its length. -/
def allocate? (bitmap : Bitmap) : Option (Nat × Bitmap) :=
  match searchBytes bitmap.length 0 bitmap.bytes.toList with
  | none => none
  | some index => (bitmap.set? index).map fun next => (index, next)

/-- The indices below the length whose bit is set, in ascending order. -/
def setIndices (bitmap : Bitmap) : List Nat :=
  (List.range bitmap.length).filter fun index => bitmap.isSet? index == some true

def clearCount (bitmap : Bitmap) : Nat :=
  (List.range bitmap.length).countP fun index => bitmap.isSet? index == some false

end Bitmap

section Search

variable {byte : UInt8} {rest : List UInt8} {length number position : Nat}

theorem bitIn_cons_of_lt (first : position < 8) :
    bitIn (byte :: rest) position = some (bitAt byte position) := by
  rw [bitIn, Nat.div_eq_of_lt first, Nat.mod_eq_of_lt first]
  rfl

theorem bitIn_cons_add (position : Nat) :
    bitIn (byte :: rest) (8 + position) = bitIn rest position := by
  rw [bitIn, bitIn, Nat.add_div_left position (by decide), Nat.add_mod_left]
  rfl

theorem searchByte_cases (length number : Nat) (byte : UInt8) :
    (∃ place < 8, searchByte length number byte = .clear (8 * number + place) ∧
      8 * number + place < length ∧ bitAt byte place = false ∧
      ∀ lower < place, bitAt byte lower = true) ∨
    (∃ place < 8, searchByte length number byte = .ended ∧ length ≤ 8 * number + place ∧
      ∀ lower < place, bitAt byte lower = true) ∨
    (searchByte length number byte = .full ∧ ∀ place < 8, bitAt byte place = true) := by
  rw [searchByte]
  split
  · rename_i full
    refine .inr (.inr ⟨rfl, fun place inside => ?_⟩)
    rw [full, bitAt_full inside]
  split
  · rename_i nowhere
    refine .inr (.inr ⟨rfl, fun place inside => ?_⟩)
    have passed := List.find?_range_eq_none.mp nowhere place inside
    simp only [Bool.not_or, Bool.not_not, Bool.and_eq_true] at passed
    exact passed.2
  · rename_i place found
    obtain ⟨here, member, before⟩ := List.find?_range_eq_some.mp found
    have inside : place < 8 := List.mem_range.mp member
    have lower : ∀ lower < place, bitAt byte lower = true := by
      intro lower below
      have passed := before lower below
      simp only [Bool.not_or, Bool.not_not, Bool.and_eq_true] at passed
      exact passed.2
    by_cases outside : length ≤ 8 * number + place
    · rw [if_pos outside]
      exact .inr (.inl ⟨place, inside, rfl, outside, lower⟩)
    · rw [if_neg outside]
      simp only [outside, decide_false, Bool.false_or, Bool.not_eq_true'] at here
      exact .inl ⟨place, inside, rfl, Nat.lt_of_not_le outside, here, lower⟩

/-- The search finds the lowest clear bit. -/
theorem of_searchBytes_eq_some {bytes : List UInt8} {index : Nat}
    (found : searchBytes length number bytes = some index) :
    ∃ position, index = 8 * number + position ∧ index < length ∧
      bitIn bytes position = some false ∧ ∀ lower < position, bitIn bytes lower = some true := by
  induction bytes generalizing number with
  | nil => cases found
  | cons byte rest ih =>
    rw [searchBytes] at found
    rcases searchByte_cases length number byte with
      ⟨place, inside, search, below, clear, lower⟩ | ⟨place, -, search, -⟩ | ⟨search, full⟩
    · rw [search] at found
      obtain rfl := Option.some.inj found
      refine ⟨place, rfl, below, ?_, fun position before => ?_⟩
      · rw [bitIn_cons_of_lt inside, clear]
      · rw [bitIn_cons_of_lt (Nat.lt_trans before inside), lower position before]
    · rw [search] at found
      cases found
    · rw [search] at found
      obtain ⟨position, equal, below, clear, lower⟩ := ih found
      refine ⟨8 + position, by omega, below, ?_, fun other before => ?_⟩
      · rw [bitIn_cons_add, clear]
      · by_cases here : other < 8
        · rw [bitIn_cons_of_lt here, full other here]
        · obtain ⟨later, rfl⟩ := Nat.exists_eq_add_of_le (Nat.le_of_not_lt here)
          rw [bitIn_cons_add, lower later (by omega)]

/-- Nothing is found only if every bit below the length is set. -/
theorem of_searchBytes_eq_none {bytes : List UInt8}
    (nothing : searchBytes length number bytes = none) (below : 8 * number + position < length)
    (stored : position / 8 < bytes.length) : bitIn bytes position = some true := by
  induction bytes generalizing number position with
  | nil => exact absurd stored (Nat.not_lt_zero _)
  | cons byte rest ih =>
    rw [searchBytes] at nothing
    rcases searchByte_cases length number byte with
      ⟨place, -, search, -⟩ | ⟨place, inside, search, outside, lower⟩ | ⟨search, full⟩
    · rw [search] at nothing
      cases nothing
    · have before : position < place := by omega
      rw [bitIn_cons_of_lt (Nat.lt_trans before inside), lower position before]
    · rw [search] at nothing
      by_cases here : position < 8
      · rw [bitIn_cons_of_lt here, full position here]
      · obtain ⟨later, rfl⟩ := Nat.exists_eq_add_of_le (Nat.le_of_not_lt here)
        rw [bitIn_cons_add]
        apply ih nothing
        · omega
        · rw [List.length_cons] at stored
          omega

end Search

namespace Bitmap

theorem isSet?_eq_bitIn (bitmap : Bitmap) (index : Nat) :
    bitmap.isSet? index = bitIn bitmap.bytes.toList index := by
  rw [isSet?, bitIn, Vector.getElem?_toList]

theorem isSet?_isSome (bitmap : Bitmap) {index : Nat} (inside : index < bitmap.length) :
    ∃ bit, bitmap.isSet? index = some bit := by
  rw [isSet?, Vector.getElem?_eq_getElem (div_lt_storedBytes inside)]
  exact ⟨_, rfl⟩

/-- At first all bits are clear, those beyond the length included. -/
theorem isSet?_empty_of_stored {length index : Nat} (stored : index / 8 < storedBytes length) :
    (empty length).isSet? index = some false := by
  rw [isSet?, empty, Vector.getElem?_eq_getElem stored, Vector.getElem_replicate,
    Option.map_some, bitAt_zero (Nat.mod_lt index (by decide))]

@[simp]
theorem isSet?_empty (length : Nat) {index : Nat} (inside : index < length) :
    (empty length).isSet? index = some false :=
  isSet?_empty_of_stored (div_lt_storedBytes inside)

theorem isSet?_empty_ne (length index : Nat) : (empty length).isSet? index ≠ some true := by
  by_cases stored : index / 8 < storedBytes length
  · rw [isSet?_empty_of_stored stored]
    exact nofun
  · have missing : (empty length).bytes[index / 8]? = none :=
      Vector.getElem?_eq_none (Nat.le_of_not_lt stored)
    rw [isSet?, missing]
    exact nofun

/-- Where a change of a byte gives one bit its value and keeps the others, it
does so in the bitmap. -/
theorem isSet?_of_alterByte? {bitmap next : Bitmap} {index : Nat} {change : UInt8 → UInt8}
    {value : Bool} (altered : bitmap.alterByte? index change = some next)
    (changes : ∀ byte, ∀ place < 8,
      bitAt (change byte) place = if place = index % 8 then value else bitAt byte place) :
    next.length = bitmap.length ∧ ∀ other, next.isSet? other =
      if other = index then some value else bitmap.isSet? other := by
  rw [alterByte?] at altered
  split at altered
  · rename_i stored
    obtain rfl := Option.some.inj altered
    refine ⟨rfl, fun other => ?_⟩
    have inside : other % 8 < 8 := Nat.mod_lt other (by decide)
    simp only [isSet?, Vector.getElem?_set]
    by_cases sameByte : index / 8 = other / 8
    · rw [if_pos sameByte, Option.map_some, changes _ _ inside]
      by_cases same : other = index
      · rw [if_pos same, if_pos (by rw [same])]
      · rw [if_neg same, if_neg (by omega), Vector.getElem?_eq_getElem (sameByte ▸ stored)]
        simp only [sameByte, Option.map_some]
    · have differs : other ≠ index := by
        rintro rfl
        exact sameByte rfl
      rw [if_neg sameByte, if_neg differs]
  · cases altered

theorem exists_alterByte?_eq_some (bitmap : Bitmap) {index : Nat} (inside : index < bitmap.length)
    (change : UInt8 → UInt8) : ∃ next, bitmap.alterByte? index change = some next := by
  rw [alterByte?, dif_pos (div_lt_storedBytes inside)]
  exact ⟨_, rfl⟩

theorem isSet?_of_set? {bitmap next : Bitmap} {index : Nat}
    (set : bitmap.set? index = some next) :
    next.length = bitmap.length ∧
      ∀ other, next.isSet? other = if other = index then some true else bitmap.isSet? other :=
  isSet?_of_alterByte? set fun _ _ => bitAt_or_bitMask (Nat.mod_lt index (by decide))

theorem isSet?_of_clear? {bitmap next : Bitmap} {index : Nat}
    (cleared : bitmap.clear? index = some next) :
    next.length = bitmap.length ∧
      ∀ other, next.isSet? other =
        if other = index then some false else bitmap.isSet? other :=
  isSet?_of_alterByte? cleared fun _ _ => bitAt_and_not_bitMask (Nat.mod_lt index (by decide))

/-- The index handed out is the lowest one whose bit was clear, and its bit is
the only one that changes. -/
theorem of_allocate?_eq_some {bitmap next : Bitmap} {index : Nat}
    (found : bitmap.allocate? = some (index, next)) :
    index < bitmap.length ∧ bitmap.isSet? index = some false ∧
      (∀ lower < index, bitmap.isSet? lower = some true) ∧ next.length = bitmap.length ∧
      ∀ other, next.isSet? other = if other = index then some true else bitmap.isSet? other := by
  rw [allocate?] at found
  split at found
  · cases found
  · rename_i lowest search
    obtain ⟨changed, set, equal⟩ := Option.map_eq_some_iff.mp found
    obtain ⟨rfl, rfl⟩ := Prod.mk.inj equal
    obtain ⟨position, place, below, clear, lower⟩ := of_searchBytes_eq_some search
    rw [Nat.mul_zero, Nat.zero_add] at place
    subst place
    simp only [← isSet?_eq_bitIn] at clear lower
    exact ⟨below, clear, lower, isSet?_of_set? set⟩

/-- Nothing is handed out only if every index is taken. -/
theorem of_allocate?_eq_none {bitmap : Bitmap} (full : bitmap.allocate? = none) {index : Nat}
    (inside : index < bitmap.length) : bitmap.isSet? index = some true := by
  rw [allocate?] at full
  split at full
  · rename_i search
    rw [isSet?_eq_bitIn]
    apply of_searchBytes_eq_none search
    · omega
    · rw [Vector.length_toList]
      exact div_lt_storedBytes inside
  · rename_i lowest search
    -- A clear bit below the length is in a byte that is stored.
    obtain ⟨position, -, below, -⟩ := of_searchBytes_eq_some search
    obtain ⟨next, set⟩ := bitmap.exists_alterByte?_eq_some below
      fun byte => byte ||| bitMask (lowest % 8)
    rw [Option.map_eq_none_iff, set?, set] at full
    cases full

end Bitmap

end DemandPaging
