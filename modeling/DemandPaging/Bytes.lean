/-!
# Runs of bytes

Memory, files and pages are runs of bytes.  The two operations that matter
are cutting a slice out of a run and overwriting a part of it in place; an
overwrite never changes the length.
-/

namespace DemandPaging

/-- A run of bytes of any length. -/
abbrev Bytes := Array UInt8

/-- The content of one page. -/
abbrev Page (pageSize : Nat) := Vector UInt8 pageSize

namespace Bytes

def zeros (count : Nat) : Bytes :=
  Array.replicate count 0

/-- The `count` bytes from `start` on, or fewer where the run ends before. -/
def slice (bytes : Bytes) (start count : Nat) : Bytes :=
  bytes.extract start (start + count)

/-- Write the elements of `data` from position `index` on over `bytes`, the
first element of `data` belonging at `start`.  Positions past the end of
`bytes` are left out. -/
def overwriteFrom (bytes : Bytes) (start : Nat) (data : Bytes) (index : Nat) : Bytes :=
  if inside : index < data.size then
    overwriteFrom (bytes.setIfInBounds (start + index) data[index]) start data (index + 1)
  else
    bytes
termination_by data.size - index

def overwrite (bytes : Bytes) (start : Nat) (data : Bytes) : Bytes :=
  overwriteFrom bytes start data 0

/-- The run cut, or filled up with zero bytes, to length `count`. -/
def resize (bytes : Bytes) (count : Nat) : Bytes :=
  bytes.slice 0 count ++ zeros (count - bytes.size)

@[simp]
theorem size_overwriteFrom (bytes : Bytes) (start : Nat) (data : Bytes) (index : Nat) :
    (overwriteFrom bytes start data index).size = bytes.size := by
  fun_induction overwriteFrom bytes start data index with
  | case1 bytes index inside ih => simpa using ih
  | case2 => rfl

@[simp]
theorem size_overwrite (bytes : Bytes) (start : Nat) (data : Bytes) :
    (overwrite bytes start data).size = bytes.size :=
  size_overwriteFrom bytes start data 0

@[simp]
theorem size_zeros (count : Nat) : (zeros count).size = count :=
  Array.size_replicate

@[simp]
theorem size_resize (bytes : Bytes) (count : Nat) : (resize bytes count).size = count := by
  simp only [resize, slice, zeros, Array.size_append, Array.size_extract, Array.size_replicate]
  omega

section Positions

variable {bytes data : Bytes} {start count index : Nat}

theorem getElem?_slice :
    (slice bytes start count)[index]? = if index < count then bytes[start + index]? else none := by
  rw [slice, Array.getElem?_extract]
  by_cases inside : start + index < bytes.size
  · by_cases before : index < count
    · rw [if_pos before, if_pos (by omega)]
    · rw [if_neg before, if_neg (by omega)]
  · rw [if_neg (by omega), Array.getElem?_eq_none (by omega), ite_self]

theorem getElem?_overwriteFrom (position : Nat) :
    (overwriteFrom bytes start data index)[position]? =
      if start + index ≤ position ∧ position < start + data.size ∧ position < bytes.size then
        data[position - start]?
      else
        bytes[position]? := by
  fun_induction overwriteFrom bytes start data index with
  | case1 bytes index inside ih =>
    rw [ih, Array.size_setIfInBounds, Array.getElem?_setIfInBounds]
    by_cases here : start + index = position
    · subst position
      by_cases stored : start + index < bytes.size
      · simp [stored, inside]
      · simp [stored]
    · rw [if_neg here]
      by_cases beyond : start + index ≤ position
      · have later : start + (index + 1) ≤ position := by omega
        simp [beyond, later]
      · have earlier : ¬start + (index + 1) ≤ position := by omega
        simp [beyond, earlier]
  | case2 bytes index outside =>
    rw [if_neg (by omega)]

theorem getElem?_overwrite (position : Nat) :
    (overwrite bytes start data)[position]? =
      if start ≤ position ∧ position < start + data.size ∧ position < bytes.size then
        data[position - start]?
      else
        bytes[position]? :=
  getElem?_overwriteFrom position

theorem size_slice_le : (slice bytes start count).size ≤ count := by
  rw [slice, Array.size_extract]
  omega

theorem size_slice (inside : start + count ≤ bytes.size) :
    (slice bytes start count).size = count := by
  rw [slice, Array.size_extract]
  omega

end Positions

section Slices

variable {bytes data : Bytes} {start other count : Nat}

/-- What was written is read back. -/
theorem slice_overwrite_self (fits : data.size = count)
    (inside : start + count ≤ bytes.size) :
    slice (overwrite bytes start data) start count = data := by
  subst count
  refine Array.ext_getElem? fun index => ?_
  rw [getElem?_slice, getElem?_overwrite]
  by_cases before : index < data.size
  · rw [if_pos before, if_pos (by omega), Nat.add_sub_cancel_left]
  · rw [if_neg before, Array.getElem?_eq_none (by omega)]

theorem slice_overwrite_of_apart (apart : other + count ≤ start ∨ start + data.size ≤ other) :
    slice (overwrite bytes start data) other count = slice bytes other count := by
  refine Array.ext_getElem? fun index => ?_
  rw [getElem?_slice, getElem?_slice, getElem?_overwrite]
  by_cases before : index < count
  · rw [if_pos before, if_pos before, if_neg (by omega)]
  · rw [if_neg before, if_neg before]

/-- An overwrite inside a slice is an overwrite of the slice. -/
theorem slice_overwrite_of_inside (inside : other + data.size ≤ count) :
    slice (overwrite bytes (start + other) data) start count =
      overwrite (slice bytes start count) other data := by
  refine Array.ext_getElem? fun index => ?_
  rw [getElem?_slice, getElem?_overwrite, getElem?_overwrite, getElem?_slice]
  by_cases before : index < count
  · have sizes : index < (slice bytes start count).size ↔ start + index < bytes.size := by
      rw [slice, Array.size_extract]
      omega
    simp only [before, sizes, if_true]
    by_cases written : other ≤ index ∧ index < other + data.size ∧ start + index < bytes.size
    · rw [if_pos written, if_pos (by omega), Nat.add_sub_add_left]
    · rw [if_neg written, if_neg (by omega)]
  · rw [if_neg before, if_neg before, if_neg (by omega)]

/-- What a run keeps when it is resized, it keeps in its place. -/
theorem slice_resize {length : Nat} (before : other + count ≤ bytes.size)
    (after : other + count ≤ length) :
    slice (resize bytes length) other count = slice bytes other count := by
  refine Array.ext_getElem? fun index => ?_
  rw [getElem?_slice, getElem?_slice]
  by_cases inside : index < count
  · have kept : other + index < (slice bytes 0 length).size := by
      rw [slice, Array.size_extract]
      omega
    rw [if_pos inside, if_pos inside, resize, Array.getElem?_append_left kept, getElem?_slice,
      if_pos (by omega), Nat.zero_add]
  · rw [if_neg inside, if_neg inside]

theorem slice_slice {length : Nat} (inside : other + length ≤ count) :
    slice (slice bytes start count) other length = slice bytes (start + other) length := by
  refine Array.ext_getElem? fun index => ?_
  rw [getElem?_slice, getElem?_slice, getElem?_slice]
  by_cases before : index < length
  · rw [if_pos before, if_pos before, if_pos (by omega), Nat.add_assoc]
  · rw [if_neg before, if_neg before]

@[simp]
theorem slice_zero : slice bytes start 0 = #[] :=
  Array.extract_empty_of_stop_le_start (Nat.le_refl start)

theorem slice_append_slice {length : Nat} :
    slice bytes start count ++ slice bytes (start + count) length =
      slice bytes start (count + length) := by
  simp only [slice, Array.extract_append_extract]
  congr 1 <;> omega

theorem overwrite_overwrite {more : Bytes} :
    overwrite (overwrite bytes start data) (start + data.size) more =
      overwrite bytes start (data ++ more) := by
  refine Array.ext_getElem? fun index => ?_
  simp only [getElem?_overwrite, size_overwrite, Array.size_append, Array.getElem?_append]
  by_cases stored : index < bytes.size
  · grind
  · grind

@[simp]
theorem overwrite_empty : overwrite bytes start #[] = bytes := by
  refine Array.ext_getElem? fun index => ?_
  rw [getElem?_overwrite, if_neg (by simp; omega)]

end Slices

end Bytes

end DemandPaging
