import DemandPaging.Proofs.ArgumentPage
import DemandPaging.Proofs.ProgramPages

/-!
# The layout of a process

A program is laid out if its sections follow one another without a gap.  The
page behind its stack takes the arguments: two cursors move through it, one over
the pointers and one over the texts, and what they leave behind are the pointers,
then the texts, then the zero bytes that were there before.
-/

namespace DemandPaging

namespace Image

variable {pageSize : Nat} {image : Image pageSize} {index other : Nat}

/-- The section of that index is the first one that does not start where the one
before it ends. -/
structure FirstGap (image : Image pageSize) (index : Nat) : Prop where
  present : index < image.sectionCount
  gap : image.firstPage index ≠ image.pagesBefore index
  before : ∀ earlier < index, image.firstPage earlier = image.pagesBefore earlier

theorem FirstGap.unique (first : image.FirstGap index) (second : image.FirstGap other) :
    index = other := by
  rcases Nat.lt_trichotomy index other with below | same | above
  · exact absurd (second.before index below) first.gap
  · exact same
  · exact absurd (first.before other above) second.gap

theorem FirstGap.not_contiguous (first : image.FirstGap index) : ¬image.Contiguous :=
  fun contiguous => first.gap (contiguous index first.present)

end Image

namespace ProcessImage

section Sections

variable {pageSize : Nat} (image : Image pageSize)

/-- Whatever was laid out before it, the rest of the sections comes to its end or
to the first gap. -/
theorem layOut_range' {start count : Nat} (total : start + count = image.sectionCount)
    (before : ∀ earlier < start, image.firstPage earlier = image.pagesBefore earlier) :
    (image.Contiguous ∧
        layOut image (image.pagesBefore start) (List.range' start count) =
          .ok image.totalPages) ∨
      ∃ index, image.FirstGap index ∧
        layOut image (image.pagesBefore start) (List.range' start count) =
          .error (.fragmentedExecutable index) := by
  induction count generalizing start with
  | zero =>
    obtain rfl : start = image.sectionCount := total
    exact .inl ⟨before, by rw [Image.totalPages_eq]; rfl⟩
  | succ count ih =>
    rw [List.range'_succ, layOut, ← Image.pagesBefore_succ]
    by_cases gap : image.firstPage start = image.pagesBefore start
    · rw [if_neg (not_not_intro gap)]
      apply ih (by omega)
      intro earlier below
      rcases Nat.lt_succ_iff_lt_or_eq.mp below with old | rfl
      · exact before earlier old
      · exact gap
    · rw [if_pos gap]
      exact .inr ⟨start, ⟨by omega, gap, before⟩, rfl⟩

/-- Sections are laid out if there is no gap, and the first gap is what keeps
them from it. -/
theorem layOut_cases :
    (image.Contiguous ∧
        layOut image 0 (List.range image.sectionCount) = .ok image.totalPages) ∨
      ∃ index, image.FirstGap index ∧
        layOut image 0 (List.range image.sectionCount) =
          .error (.fragmentedExecutable index) := by
  rw [List.range_eq_range']
  exact layOut_range' image (Nat.zero_add _) fun _ => nofun

variable {image}

theorem layOut_of_contiguous (contiguous : image.Contiguous) :
    layOut image 0 (List.range image.sectionCount) = .ok image.totalPages := by
  rcases layOut_cases image with ⟨-, done⟩ | ⟨index, first, -⟩
  · exact done
  · exact absurd contiguous first.not_contiguous

theorem of_layOut_eq_ok {total : Nat}
    (done : layOut image 0 (List.range image.sectionCount) = .ok total) :
    image.Contiguous ∧ total = image.totalPages := by
  rcases layOut_cases image with ⟨contiguous, same⟩ | ⟨index, -, failed⟩
  · exact ⟨contiguous, Except.ok.inj (done.symm.trans same)⟩
  · cases done.symm.trans failed

theorem layOut_of_firstGap {index : Nat} (first : image.FirstGap index) :
    layOut image 0 (List.range image.sectionCount) = .error (.fragmentedExecutable index) := by
  rcases layOut_cases image with ⟨contiguous, -⟩ | ⟨other, otherFirst, failed⟩
  · exact absurd contiguous first.not_contiguous
  · rw [first.unique otherFirst, failed]

end Sections

end ProcessImage

namespace Bytes

variable {front back old data : Bytes} {start count : Nat}

theorem zeros_add (first second : Nat) : zeros (first + second) = zeros first ++ zeros second :=
  Array.replicate_append_replicate.symm

theorem slice_append_left (inside : start + count ≤ front.size) :
    slice (front ++ back) start count = slice front start count := by
  refine Array.ext_getElem? fun index => ?_
  rw [getElem?_slice, getElem?_slice]
  by_cases before : index < count
  · rw [if_pos before, if_pos before, Array.getElem?_append_left (by omega)]
  · rw [if_neg before, if_neg before]

theorem slice_append_right {position : Nat} (starts : position = front.size + start) :
    slice (front ++ back) position count = slice back start count := by
  subst position
  refine Array.ext_getElem? fun index => ?_
  rw [getElem?_slice, getElem?_slice, Array.getElem?_append_right (by omega), Nat.add_assoc,
    Nat.add_sub_cancel_left]

theorem slice_append_self (fits : front.size = count) : slice (front ++ back) 0 count = front := by
  subst count
  rw [slice_append_left (Nat.le_of_eq (Nat.zero_add _)), slice_zero_size]

/-- A piece that fits a gap of zero bytes exactly takes its place. -/
theorem overwriteEach_zeros {address : Nat} {pieces : List (Nat × Bytes)}
    (starts : address = front.size) (fits : data.size = count) :
    overwriteEach (front ++ (zeros count ++ back)) ((address, data) :: pieces) =
      overwriteEach (front ++ (data ++ back)) pieces := by
  have placed : overwrite (front ++ (zeros count ++ back)) address data =
      front ++ (data ++ back) := by
    refine Array.ext_getElem? fun index => ?_
    simp only [getElem?_overwrite, Array.getElem?_append, Array.size_append, size_zeros, starts,
      fits]
    by_cases before : index < front.size
    · rw [if_neg (by omega), if_pos before, if_pos before]
    · rw [if_neg before, if_neg before]
      by_cases here : index - front.size < count
      · rw [if_pos (by omega), if_pos here]
      · rw [if_neg (by omega), if_neg here, if_neg here]
  rw [overwriteEach, List.foldl_cons, placed]
  rfl

end Bytes

namespace ProcessImage

variable {vector textAddress index : Nat} {argument : String} {arguments : List String}

/-- The pointers to arguments whose texts follow one another from `textAddress`
on. -/
def pointers (textAddress : Nat) : List String → Bytes
  | [] => #[]
  | argument :: rest =>
    encodePointer textAddress ++ pointers (textAddress + argument.utf8ByteSize + 1) rest

/-- Arguments one after the other, each with a zero byte after it. -/
def texts : List String → Bytes
  | [] => #[]
  | argument :: rest => Utf8.encode argument ++ (#[0] ++ texts rest)

@[simp]
theorem size_pointers (textAddress : Nat) (arguments : List String) :
    (pointers textAddress arguments).size = arguments.length * pointerBytes := by
  induction arguments generalizing textAddress with
  | nil => rw [pointers, List.length_nil, Nat.zero_mul, Array.size_empty]
  | cons argument rest ih =>
    rw [pointers, Array.size_append, ih, size_encodePointer, List.length_cons, Nat.succ_mul,
      Nat.add_comm]

theorem size_texts_cons (argument : String) (rest : List String) :
    (texts (argument :: rest)).size = argument.utf8ByteSize + (1 + (texts rest).size) := by
  rw [texts, Array.size_append, Array.size_append, Utf8.size_encode, List.size_toArray,
    List.length_singleton]

theorem argumentBytes_eq (arguments : List String) :
    argumentBytes arguments = arguments.length * pointerBytes + (texts arguments).size := by
  induction arguments with
  | nil => rfl
  | cons argument rest ih =>
    rw [argumentBytes, size_texts_cons, List.length_cons, Nat.succ_mul, ih]
    omega

/-- The pieces of the arguments fill two gaps of zero bytes, one at the cursor of
the pointers and one at the cursor of the texts. -/
theorem overwriteEach_argumentPieces {pointerAddress : Nat} {front middle back : Bytes}
    (pointerCursor : pointerAddress = front.size)
    (textCursor : textAddress = front.size + arguments.length * pointerBytes + middle.size) :
    (front ++ (Bytes.zeros (arguments.length * pointerBytes) ++
        (middle ++ (Bytes.zeros (texts arguments).size ++ back)))).overwriteEach
      (argumentPieces pointerAddress textAddress arguments) =
      front ++ (pointers textAddress arguments ++ (middle ++ (texts arguments ++ back))) := by
  induction arguments generalizing pointerAddress textAddress front middle with
  | nil => simp [Bytes.overwriteEach, argumentPieces, pointers, texts, Bytes.zeros]
  | cons argument rest ih =>
    rw [List.length_cons, Nat.succ_mul] at textCursor
    let gap := Bytes.zeros (rest.length * pointerBytes)
    let after := Bytes.zeros (texts rest).size ++ back
    let pointer := encodePointer textAddress
    let text := Utf8.encode argument
    let pieces := argumentPieces (pointerAddress + pointerBytes)
      (textAddress + argument.utf8ByteSize + 1) rest
    have gapSize : gap.size = rest.length * pointerBytes := Bytes.size_zeros _
    have pointerSize : pointer.size = pointerBytes := size_encodePointer textAddress
    have textSize : text.size = argument.utf8ByteSize := Utf8.size_encode argument
    have zeroSize : (#[0] : Bytes).size = 1 := rfl
    calc
      _ = (front ++ (Bytes.zeros pointerBytes ++ (gap ++ (middle ++
            (Bytes.zeros argument.utf8ByteSize ++ (Bytes.zeros 1 ++ after)))))).overwriteEach
          ((pointerAddress, pointer) :: (textAddress, text) ::
            (textAddress + argument.utf8ByteSize, #[0]) :: pieces) := by
        rw [List.length_cons, Nat.succ_mul, Nat.add_comm _ pointerBytes, size_texts_cons]
        simp only [Bytes.zeros_add, Array.append_assoc, argumentPieces, gap, after, pointer, text,
          pieces]
      _ = ((front ++ pointer ++ gap ++ middle) ++ (Bytes.zeros argument.utf8ByteSize ++
            (Bytes.zeros 1 ++ after))).overwriteEach
          ((textAddress, text) :: (textAddress + argument.utf8ByteSize, #[0]) :: pieces) := by
        rw [Bytes.overwriteEach_zeros pointerCursor pointerSize]
        simp only [Array.append_assoc]
      _ = ((front ++ pointer ++ gap ++ middle ++ text) ++
            (Bytes.zeros 1 ++ after)).overwriteEach
          ((textAddress + argument.utf8ByteSize, #[0]) :: pieces) := by
        rw [Bytes.overwriteEach_zeros _ textSize, ← Array.append_assoc]
        simp only [Array.size_append, gapSize, pointerSize]
        omega
      _ = ((front ++ pointer) ++ (gap ++ ((middle ++ (text ++ #[0])) ++ after))).overwriteEach
          pieces := by
        rw [Bytes.overwriteEach_zeros _ zeroSize]
        · simp only [Array.append_assoc]
        · simp only [Array.size_append, gapSize, pointerSize, textSize]
          omega
      _ = (front ++ pointer) ++ (pointers (textAddress + argument.utf8ByteSize + 1) rest ++
            ((middle ++ (text ++ #[0])) ++ (texts rest ++ back))) := by
        apply ih
        · rw [Array.size_append, pointerSize, pointerCursor]
        · simp only [Array.size_append, pointerSize, textSize, zeroSize]
          omega
      _ = _ := by
        simp only [pointers, texts, Array.append_assoc, pointer, text]

/-- The address of an argument in a page at `vector`: behind the pointers and the
texts before it. -/
def argumentAddress (vector : Nat) (arguments : List String) (index : Nat) : Nat :=
  vector + arguments.length * pointerBytes + (texts (arguments.take index)).size

/-- A page at `vector` holds arguments: a pointer to each of them, then their
texts with a zero byte after each, then zero bytes up to its end. -/
structure HoldsArguments (page : Bytes) (vector : Nat) (arguments : List String) : Prop where
  pointer_eq : ∀ index < arguments.length,
    decodePointer (page.slice (index * pointerBytes) pointerBytes) =
      argumentAddress vector arguments index
  texts_eq : page.slice (arguments.length * pointerBytes)
      (page.size - arguments.length * pointerBytes) =
    texts arguments ++ Bytes.zeros (page.size - argumentBytes arguments)
  text_eq : ∀ index argument, arguments[index]? = some argument →
    page.slice (argumentAddress vector arguments index - vector) argument.utf8ByteSize =
      Utf8.encode argument

theorem slice_pointers (start : Nat) (inside : index < arguments.length) :
    (pointers start arguments).slice (index * pointerBytes) pointerBytes =
      encodePointer (start + (texts (arguments.take index)).size) := by
  induction arguments generalizing start index with
  | nil => cases inside
  | cons argument rest ih =>
    have size := size_encodePointer start
    rw [pointers]
    cases index with
    | zero =>
      rw [Nat.zero_mul, Bytes.slice_append_self size]
      rfl
    | succ index =>
      have next := ih (start + argument.utf8ByteSize + 1) (Nat.lt_of_succ_lt_succ inside)
      rw [Bytes.slice_append_right (by rw [Nat.succ_mul, Nat.add_comm, size]), next,
        List.take_succ_cons, size_texts_cons]
      congr 1
      omega

theorem slice_texts (present : arguments[index]? = some argument) :
    (texts arguments).slice (texts (arguments.take index)).size argument.utf8ByteSize =
      Utf8.encode argument := by
  induction arguments generalizing index with
  | nil => cases present
  | cons first rest ih =>
    have size := Utf8.size_encode first
    cases index with
    | zero =>
      obtain rfl := Option.some.inj present
      exact Bytes.slice_append_self size
    | succ index =>
      rw [List.take_succ_cons, size_texts_cons, texts, Bytes.slice_append_right (by rw [size])]
      exact (Bytes.slice_append_right rfl).trans (ih present)

/-- A text ends before the zero byte after it. -/
theorem text_ends (present : arguments[index]? = some argument) :
    (texts (arguments.take index)).size + argument.utf8ByteSize < (texts arguments).size := by
  induction arguments generalizing index with
  | nil => cases present
  | cons first rest ih =>
    rw [size_texts_cons]
    cases index with
    | zero =>
      obtain rfl := Option.some.inj present
      rw [List.take_zero, texts, Array.size_empty]
      omega
    | succ index =>
      have ends := ih present
      rw [List.take_succ_cons, size_texts_cons]
      omega

/-- The number of addresses that pointers reach: pointers have 32 bits. -/
def pointerLimit : Nat := 0x100000000

theorem decodePointer_encodePointer_lt (address : Nat) :
    decodePointer (encodePointer address) < pointerLimit := by
  simp only [pointerLimit, decodePointer, encodePointer, List.foldr_toArray, List.foldr_cons,
    List.foldr_nil, Nat.toUInt8_eq, UInt8.toNat_ofNat']
  omega

/-- The page of the arguments as it is written. -/
def argumentPage (pageSize vector : Nat) (arguments : List String) : Bytes :=
  pointers (vector + arguments.length * pointerBytes) arguments ++
    (texts arguments ++ Bytes.zeros (pageSize - argumentBytes arguments))

section Pages

variable {pageSize : Nat}

theorem size_argumentPage (vector : Nat) (fits : argumentBytes arguments ≤ pageSize) :
    (argumentPage pageSize vector arguments).size = pageSize := by
  have bytes := argumentBytes_eq arguments
  rw [argumentPage, Array.size_append, Array.size_append, size_pointers, Bytes.size_zeros]
  omega

/-- The pieces of the arguments turn a blank page at the end of a run into the
page of the arguments. -/
theorem slice_overwriteEach_argumentPieces {bytes : Bytes}
    (fits : argumentBytes arguments ≤ pageSize) (ends : bytes.size = vector + pageSize)
    (blank : bytes.slice vector pageSize = Bytes.zeros pageSize) :
    (bytes.overwriteEach (argumentPieces vector
      (vector + arguments.length * pointerBytes) arguments)).slice vector pageSize =
        argumentPage pageSize vector arguments := by
  have counted := argumentBytes_eq arguments
  have front : (bytes.slice 0 vector).size = vector := Bytes.size_slice (by omega)
  have gaps : pageSize = arguments.length * pointerBytes +
      ((texts arguments).size + (pageSize - argumentBytes arguments)) := by omega
  have parts : bytes = bytes.slice 0 vector ++
      (Bytes.zeros (arguments.length * pointerBytes) ++ (#[] ++
        (Bytes.zeros (texts arguments).size ++
          Bytes.zeros (pageSize - argumentBytes arguments)))) := by
    rw [Array.empty_append, ← Bytes.zeros_add, ← Bytes.zeros_add, ← gaps, ← blank]
    have joined := @Bytes.slice_append_slice bytes 0 vector pageSize
    rw [Nat.zero_add] at joined
    rw [joined, ← ends, Bytes.slice_zero_size]
  have written := @overwriteEach_argumentPieces
    (vector + arguments.length * pointerBytes) arguments vector (bytes.slice 0 vector) #[]
    (Bytes.zeros (pageSize - argumentBytes arguments)) front.symm (by rw [front]; rfl)
  rw [← parts, Array.empty_append] at written
  rw [written, Bytes.slice_append_right (by rw [front, Nat.add_zero])]
  have whole := @Bytes.slice_zero_size (argumentPage pageSize vector arguments)
  rwa [size_argumentPage vector fits] at whole

/-- The page of the arguments holds them exactly if every pointer reaches its
text. -/
theorem holdsArguments_iff (pageSize vector : Nat) (arguments : List String) :
    HoldsArguments (argumentPage pageSize vector arguments) vector arguments ↔
      ∀ index < arguments.length, argumentAddress vector arguments index < pointerLimit := by
  rw [argumentPage]
  generalize pageSize - argumentBytes arguments = rest
  generalize shown : pointers (vector + arguments.length * pointerBytes) arguments = slots
  have size : slots.size = arguments.length * pointerBytes := by rw [← shown, size_pointers]
  have slotted : ∀ index < arguments.length,
      (slots ++ (texts arguments ++ Bytes.zeros rest)).slice
          (index * pointerBytes) pointerBytes =
        encodePointer (argumentAddress vector arguments index) := by
    intro index inside
    have ends : (index + 1) * pointerBytes ≤ arguments.length * pointerBytes :=
      Nat.mul_le_mul_right _ inside
    rw [Nat.succ_mul] at ends
    rw [Bytes.slice_append_left (by omega), ← shown, slice_pointers _ inside, argumentAddress]
  constructor
  · intro holds index inside
    rw [← holds.pointer_eq index inside, slotted index inside]
    exact decodePointer_encodePointer_lt _
  · intro reached
    constructor
    case pointer_eq =>
      intro index inside
      rw [slotted index inside, decodePointer_encodePointer (reached index inside)]
    case texts_eq =>
      have total : (slots ++ (texts arguments ++ Bytes.zeros rest)).size =
          arguments.length * pointerBytes + (texts arguments ++ Bytes.zeros rest).size := by
        rw [Array.size_append, size]
      have left : (texts arguments ++ Bytes.zeros rest).size - (texts arguments).size = rest := by
        rw [Array.size_append, Bytes.size_zeros, Nat.add_sub_cancel_left]
      rw [total, argumentBytes_eq, Nat.add_sub_cancel_left, Nat.add_sub_add_left, left,
        Bytes.slice_append_right (by rw [size, Nat.add_zero]), Bytes.slice_zero_size]
    case text_eq =>
      intro index argument present
      rw [argumentAddress, Nat.add_assoc, Nat.add_sub_cancel_left,
        Bytes.slice_append_right (by rw [size]),
        Bytes.slice_append_left (Nat.le_of_lt (text_ends present)), slice_texts present]

/-- Arguments begin inside their page. -/
theorem argumentAddress_lt (vector : Nat) (inside : index < arguments.length) :
    argumentAddress vector arguments index < vector + argumentBytes arguments := by
  have ends := text_ends (List.getElem?_eq_getElem inside)
  rw [argumentAddress, argumentBytes_eq]
  omega

end Pages

end ProcessImage

end DemandPaging
