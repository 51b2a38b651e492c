import DemandPaging.ProcessImage

/-!
# The argument page

The arguments of a process reach its last page in pieces: for each argument a
pointer, its bytes and a zero byte.  All pointers come before all texts, and no
piece lies over another, so that every piece is still there when all of them
are written.
-/

namespace DemandPaging

namespace Bytes

/-- Write pieces of data over a run, each to its place, one after the other. -/
def overwriteEach (bytes : Bytes) (pieces : List (Nat × Bytes)) : Bytes :=
  pieces.foldl (fun bytes piece => bytes.overwrite piece.1 piece.2) bytes

/-- Two pieces that share no position. -/
def Apart (first second : Nat × Bytes) : Prop :=
  first.1 + first.2.size ≤ second.1 ∨ second.1 + second.2.size ≤ first.1

variable {bytes : Bytes} {pieces : List (Nat × Bytes)}

theorem slice_overwriteEach_of_apart {start count : Nat}
    (apart : ∀ piece ∈ pieces, start + count ≤ piece.1 ∨ piece.1 + piece.2.size ≤ start) :
    slice (overwriteEach bytes pieces) start count = slice bytes start count := by
  induction pieces generalizing bytes with
  | nil => rfl
  | cons piece rest ih =>
    obtain ⟨first, others⟩ := List.forall_mem_cons.mp apart
    exact (ih others).trans (slice_overwrite_of_apart first)

/-- Pieces that are apart are all read back. -/
theorem slice_overwriteEach_of_mem (apart : pieces.Pairwise Apart)
    (inside : ∀ piece ∈ pieces, piece.1 + piece.2.size ≤ bytes.size) {piece : Nat × Bytes}
    (member : piece ∈ pieces) :
    slice (overwriteEach bytes pieces) piece.1 piece.2.size = piece.2 := by
  induction pieces generalizing bytes with
  | nil => cases member
  | cons first rest ih =>
    obtain ⟨firstApart, restApart⟩ := List.pairwise_cons.mp apart
    obtain ⟨firstInside, restInside⟩ := List.forall_mem_cons.mp inside
    rcases List.mem_cons.mp member with rfl | later
    · apply (slice_overwriteEach_of_apart firstApart).trans
      exact slice_overwrite_self rfl firstInside
    · apply ih restApart _ later
      rwa [size_overwrite]

/-- The first zero byte of a run comes right after a text that it starts
with. -/
theorem findIdx?_zero {text : Bytes} (starts : slice bytes 0 text.size = text)
    (ends : bytes[text.size]? = some 0) (plain : 0 ∉ text) :
    bytes.findIdx? (· == 0) = some text.size := by
  obtain ⟨inside, zero⟩ := Array.getElem?_eq_some_iff.mp ends
  rw [Array.findIdx?_eq_some_iff_getElem]
  refine ⟨inside, beq_iff_eq.mpr zero, fun position before => ?_⟩
  have same := @getElem?_slice bytes 0 text.size position
  rw [starts, if_pos before, Nat.zero_add, Array.getElem?_eq_getElem before,
    Array.getElem?_eq_getElem (Nat.lt_trans before inside)] at same
  rw [beq_iff_eq, ← Option.some.inj same]
  intro isZero
  exact plain (isZero ▸ Array.getElem_mem before)

end Bytes

namespace ProcessImage

@[simp]
theorem size_encodePointer (address : Nat) : (encodePointer address).size = pointerBytes :=
  rfl

/-- A pointer reaches every address below four gibibytes. -/
theorem decodePointer_encodePointer {address : Nat} (small : address < 0x100000000) :
    decodePointer (encodePointer address) = address := by
  simp only [decodePointer, encodePointer, List.foldr_toArray, List.foldr_cons, List.foldr_nil,
    Nat.toUInt8_eq, UInt8.toNat_ofNat']
  omega

section Pieces

variable {pointerAddress textAddress : Nat} {arguments : List String} {piece : Nat × Bytes}

theorem pointers_le_argumentBytes (arguments : List String) :
    arguments.length * pointerBytes ≤ argumentBytes arguments := by
  induction arguments with
  | nil => simp
  | cons argument rest ih =>
    rw [List.length_cons, Nat.succ_mul, argumentBytes]
    omega

/-- A piece lies among the pointers or among the texts. -/
theorem place_of_mem_argumentPieces
    (member : piece ∈ argumentPieces pointerAddress textAddress arguments) :
    (pointerAddress ≤ piece.1 ∧
        piece.1 + piece.2.size ≤ pointerAddress + arguments.length * pointerBytes) ∨
      (textAddress ≤ piece.1 ∧ piece.1 + piece.2.size + arguments.length * pointerBytes ≤
        textAddress + argumentBytes arguments) := by
  induction arguments generalizing pointerAddress textAddress with
  | nil => cases member
  | cons argument rest ih =>
    have short := pointers_le_argumentBytes rest
    have size := Utf8.size_encode argument
    rw [List.length_cons, Nat.succ_mul, argumentBytes]
    simp only [argumentPieces, List.mem_cons] at member
    rcases member with rfl | rfl | rfl | later
    · left
      simp only [size_encodePointer]
      omega
    · right
      simp only
      omega
    · right
      simp only [List.size_toArray, List.length_singleton]
      omega
    · have placed := ih later
      omega

/-- No piece lies over another, if the texts come after all pointers. -/
theorem pairwise_argumentPieces
    (apart : pointerAddress + arguments.length * pointerBytes ≤ textAddress) :
    (argumentPieces pointerAddress textAddress arguments).Pairwise Bytes.Apart := by
  induction arguments generalizing pointerAddress textAddress with
  | nil => exact .nil
  | cons argument rest ih =>
    have size := Utf8.size_encode argument
    rw [List.length_cons, Nat.succ_mul] at apart
    have rests := @ih (pointerAddress + pointerBytes)
      (textAddress + argument.utf8ByteSize + 1) (by omega)
    have places : ∀ piece ∈ argumentPieces (pointerAddress + pointerBytes)
        (textAddress + argument.utf8ByteSize + 1) rest,
        pointerAddress + pointerBytes ≤ piece.1 ∧
          (piece.1 + piece.2.size ≤ textAddress ∨
            textAddress + argument.utf8ByteSize + 1 ≤ piece.1) := by
      intro piece member
      have placed := place_of_mem_argumentPieces member
      omega
    simp only [argumentPieces, List.pairwise_cons, List.forall_mem_cons, Bytes.Apart,
      size_encodePointer, size, List.size_toArray, List.length_singleton]
    refine ⟨⟨?pointerText, ?pointerZero, ?pointerRest⟩, ⟨?textZero, ?textRest⟩, ?zeroRest, rests⟩
    case pointerText => omega
    case pointerZero => omega
    case textZero => omega
    case pointerRest => exact fun piece member => .inl (places piece member).1
    case textRest =>
      intro piece member
      have placed := places piece member
      omega
    case zeroRest =>
      intro piece member
      have placed := places piece member
      omega

end Pieces

end ProcessImage

end DemandPaging
