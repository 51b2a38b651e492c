import DemandPaging.Program.Sections

/-!
# The pages of a program

When the sections of a program follow one another without a gap, its virtual
pages are the pages of the first section, then those of the second and so on.
Loading them one by one yields the program as a whole, each section cut or filled
up to its pages, whatever was in the memory that the pages are loaded into.
-/

namespace DemandPaging

namespace Image

variable {pageSize : Nat} {image : Image pageSize} {index page vpn : Nat}

/-- The number of pages of all sections before the one of that index. -/
def pagesBefore (image : Image pageSize) : Nat → Nat
  | 0 => 0
  | index + 1 => image.pagesBefore index + image.pageCount index

/-- Each section starts where the one before it ends, the first one at page
zero. -/
def Contiguous (image : Image pageSize) : Prop :=
  ∀ index < image.sectionCount, image.firstPage index = image.pagesBefore index

instance (image : Image pageSize) : Decidable image.Contiguous :=
  inferInstanceAs (Decidable (∀ index < image.sectionCount,
    image.firstPage index = image.pagesBefore index))

theorem pagesBefore_succ (index : Nat) :
    image.pagesBefore (index + 1) = image.pagesBefore index + image.pageCount index :=
  rfl

theorem foldr_pageCount (count pages : Nat) :
    (List.range count).foldr (fun index pages => image.pageCount index + pages) pages =
      image.pagesBefore count + pages := by
  induction count generalizing pages with
  | zero => exact (Nat.zero_add pages).symm
  | succ count ih =>
    rw [List.range_succ, List.foldr_append, ih, pagesBefore_succ, Nat.add_assoc]
    rfl

theorem totalPages_eq : image.totalPages = image.pagesBefore image.sectionCount :=
  foldr_pageCount image.sectionCount 0

theorem pagesBefore_mono {first second : Nat} (ordered : first ≤ second) :
    image.pagesBefore first ≤ image.pagesBefore second := by
  induction ordered with
  | refl => exact Nat.le_refl _
  | step _ ih =>
    rw [pagesBefore_succ]
    exact Nat.le_add_right_of_le ih

/-- A page before the end of some section lies in one of the sections so far. -/
theorem exists_pagesBefore_le {count : Nat} (below : vpn < image.pagesBefore count) :
    ∃ index < count, image.pagesBefore index ≤ vpn ∧ vpn < image.pagesBefore (index + 1) := by
  induction count with
  | zero => exact absurd below (Nat.not_lt_zero vpn)
  | succ count ih =>
    by_cases earlier : vpn < image.pagesBefore count
    · obtain ⟨index, before, covers⟩ := ih earlier
      exact ⟨index, Nat.lt_succ_of_lt before, covers⟩
    · exact ⟨count, Nat.lt_succ_self count, Nat.le_of_not_lt earlier, below⟩

theorem of_findSection_eq_some (located : image.findSection vpn = some (index, page)) :
    index < image.sectionCount ∧ page < image.pageCount index ∧
      image.firstPage index + page = vpn := by
  obtain ⟨found, covered, place⟩ := Option.map_eq_some_iff.mp located
  obtain ⟨rfl, rfl⟩ := Prod.mk.inj place
  have member := List.mem_range.mp (List.mem_of_find?_eq_some covered)
  have covers := List.find?_some covered
  obtain ⟨starts, ends⟩ : image.firstPage found ≤ vpn ∧
      vpn < image.firstPage found + image.pageCount found := of_decide_eq_true covers
  exact ⟨member, by omega, Nat.add_sub_of_le starts⟩

namespace Contiguous

/-- The search finds a page at the only place where it is. -/
theorem findSection_eq_some_iff (contiguous : image.Contiguous) :
    image.findSection vpn = some (index, page) ↔
      index < image.sectionCount ∧ page < image.pageCount index ∧
        image.firstPage index + page = vpn := by
  refine ⟨of_findSection_eq_some, ?_⟩
  rintro ⟨member, inside, rfl⟩
  have here : image.covers index (image.firstPage index + page) = true :=
    decide_eq_true ⟨Nat.le_add_right _ _, Nat.add_lt_add_left inside _⟩
  have first : (List.range image.sectionCount).find?
      (fun other => image.covers other (image.firstPage index + page)) = some index := by
    refine List.find?_range_eq_some.mpr ⟨here, List.mem_range.mpr member, ?_⟩
    intro earlier before
    -- An earlier section ends before this one starts.
    have ends := @pagesBefore_mono _ image _ _ (Nat.succ_le_of_lt before)
    rw [Nat.succ_eq_add_one, pagesBefore_succ] at ends
    rw [Bool.not_eq_true', covers, decide_eq_false_iff_not,
      contiguous earlier (Nat.lt_trans before member), contiguous index member]
    omega
  rw [findSection, first, Option.map_some, Nat.add_sub_cancel_left]

theorem findSection_isSome_iff (contiguous : image.Contiguous) :
    (image.findSection vpn).isSome = true ↔ vpn < image.totalPages := by
  rw [Option.isSome_iff_exists, totalPages_eq]
  constructor
  · rintro ⟨⟨index, page⟩, located⟩
    obtain ⟨member, inside, rfl⟩ := of_findSection_eq_some located
    have ends := @pagesBefore_mono _ image _ _ (Nat.succ_le_of_lt member)
    rw [Nat.succ_eq_add_one, pagesBefore_succ] at ends
    rw [contiguous index member]
    omega
  · intro below
    obtain ⟨index, member, starts, ends⟩ := exists_pagesBefore_le below
    rw [pagesBefore_succ] at ends
    refine ⟨(index, vpn - image.pagesBefore index), contiguous.findSection_eq_some_iff.mpr ?_⟩
    rw [contiguous index member]
    exact ⟨member, by omega, Nat.add_sub_of_le starts⟩

end Contiguous

end Image

namespace Bytes

variable {bytes data : Bytes}

theorem slice_zero_size : slice bytes 0 bytes.size = bytes := by
  rw [slice, Nat.zero_add, Array.extract_size]

/-- Nothing is left of a run that is overwritten as a whole. -/
theorem overwrite_whole (whole : data.size = bytes.size) : overwrite bytes 0 data = data := by
  have same := @slice_overwrite_self bytes data 0 bytes.size whole (Nat.le_of_eq (Nat.zero_add _))
  rwa [← size_overwrite bytes 0 data, slice_zero_size] at same

/-- A slice does not change when its ends are taken back into the run. -/
theorem extract_min {start stop : Nat} :
    bytes.extract (min start bytes.size) (min stop bytes.size) = bytes.extract start stop := by
  refine Array.ext_getElem? fun position => ?_
  simp only [Array.getElem?_extract]
  by_cases inside : start ≤ bytes.size
  · rw [Nat.min_eq_left inside, Nat.min_assoc, Nat.min_self]
  · rw [if_neg (by omega), if_neg (by omega)]

theorem resize_of_size_le {count : Nat} (short : bytes.size ≤ count) :
    resize bytes count = bytes ++ zeros (count - bytes.size) := by
  rw [resize, slice, Nat.zero_add, Array.extract_eq_self_of_le short]

theorem getElem?_resize {count position : Nat} :
    (resize bytes count)[position]? =
      if position < count then some (bytes[position]?.getD 0) else none := by
  by_cases inside : position < count
  · rw [if_pos inside, resize]
    by_cases stored : position < bytes.size
    · rw [Array.getElem?_append_left (by rw [slice, Array.size_extract]; omega), getElem?_slice,
        if_pos inside, Nat.zero_add, Array.getElem?_eq_getElem stored, Option.getD_some]
    · have shown : (slice bytes 0 count).size = bytes.size := by
        rw [slice, Array.size_extract]
        omega
      rw [Array.getElem?_append_right (by omega), shown, zeros, Array.getElem?_replicate,
        if_pos (by omega), Array.getElem?_eq_none (Nat.le_of_not_lt stored), Option.getD_none]
  · rw [if_neg inside, Array.getElem?_eq_none]
    rw [size_resize]
    omega

/-- A run is resized part by part. -/
theorem resize_add (first second : Nat) :
    resize bytes (first + second) =
      resize bytes first ++ resize (slice bytes first second) second := by
  refine Array.ext_getElem? fun position => ?_
  rw [Array.getElem?_append, size_resize, getElem?_resize, getElem?_resize, getElem?_resize,
    getElem?_slice]
  by_cases before : position < first
  · rw [if_pos before, if_pos before, if_pos (by omega)]
  · rw [if_neg before, Nat.add_sub_of_le (Nat.le_of_not_lt before)]
    by_cases inside : position < first + second
    · rw [if_pos inside, if_pos (by omega), if_pos (by omega)]
    · rw [if_neg inside, if_neg (by omega)]

end Bytes

namespace Section

variable {pageSize : Nat} {part : Section}

/-- Fill `buffer` with page `page` of a section: first the initialised bytes,
then zero bytes over what the buffer still holds. -/
def fill (pageSize : Nat) (part : Section) (page : Nat) (buffer : Bytes) : Bytes :=
  let start := min (page * pageSize) part.bytes.size
  let stop := min ((page + 1) * pageSize) part.bytes.size
  let initialised : Bytes := part.bytes.extract start stop
  (buffer.overwrite 0 initialised).overwrite initialised.size
    (Bytes.zeros (buffer.size - initialised.size))

theorem fill_eq {page : Nat} {buffer : Bytes} (sized : buffer.size = pageSize) :
    part.fill pageSize page buffer = (part.pageContent pageSize page).toArray := by
  subst pageSize
  have short := @Bytes.size_slice_le part.bytes (page * buffer.size) buffer.size
  have shown : part.bytes.extract (min (page * buffer.size) part.bytes.size)
      (min ((page + 1) * buffer.size) part.bytes.size) =
        Bytes.slice part.bytes (page * buffer.size) buffer.size := by
    rw [Bytes.extract_min, Bytes.slice, Nat.succ_mul]
  rw [fill, shown, pageContent]
  generalize Bytes.slice part.bytes (page * buffer.size) buffer.size = initialised at short ⊢
  have whole : (initialised ++ Bytes.zeros (buffer.size - initialised.size)).size =
      buffer.size := by
    rw [Array.size_append, Bytes.zeros, Array.size_replicate]
    omega
  have filled := @Bytes.overwrite_overwrite buffer initialised 0
    (Bytes.zeros (buffer.size - initialised.size))
  rw [Nat.zero_add] at filled
  exact (filled.trans (Bytes.overwrite_whole whole)).trans (Bytes.resize_of_size_le short).symm

/-- The pages of a section in order. -/
def pages (pageSize : Nat) (part : Section) : List Bytes :=
  (List.range part.pageCount).map fun page => (part.pageContent pageSize page).toArray

/-- The first pages of a section, one after the other, are its bytes cut or filled
up to their length. -/
theorem flatMap_pageContent (part : Section) (count : Nat) :
    (List.range count).flatMap (fun page => (part.pageContent pageSize page).toArray.toList) =
      (part.bytes.resize (count * pageSize)).toList := by
  induction count with
  | zero => simp [Bytes.resize, Bytes.zeros]
  | succ count ih =>
    rw [List.range_succ, List.flatMap_append, ih, List.flatMap_singleton, Nat.succ_mul,
      Bytes.resize_add, Array.toList_append, pageContent]

theorem flatMap_pages (part : Section) :
    (part.pages pageSize).flatMap Array.toList =
      (part.bytes.resize (part.pageCount * pageSize)).toList := by
  rw [pages, List.flatMap_map, flatMap_pageContent]

end Section

/-- A loop in which every turn succeeds yields what its turns yield. -/
theorem mapM_eq_some_map {Item Value : Type} {items : List Item} {run : Item → Option Value}
    {value : Item → Value} (succeeds : ∀ item ∈ items, run item = some (value item)) :
    items.mapM run = some (items.map value) := by
  induction items with
  | nil => rfl
  | cons item rest ih =>
    obtain ⟨first, others⟩ := List.forall_mem_cons.mp succeeds
    rw [List.mapM_cons, first, ih others]
    rfl

namespace Program

variable {pageSize : Nat} {program : Program pageSize} {part : Section} {index page : Nat}

/-- The content of `buffer` after a page was loaded into it. -/
def loadOver (program : Program pageSize) (index page : Nat) (buffer : Bytes) :
    Except SectionError Bytes :=
  if buffer.size ≠ pageSize then
    .error (.incorrectPageSize buffer.size)
  else
    match program.sections[index]? with
    | none => .error (.noSuchSection index)
    | some part =>
      if part.pageCount ≤ page then
        .error (.pageOutOfRange index page)
      else
        .ok (part.fill pageSize page buffer)

/-- What a buffer holds after loading does not depend on what it held before. -/
theorem loadOver_eq (program : Program pageSize) (index page : Nat) (buffer : Bytes) :
    program.loadOver index page buffer = program.loadInto index page buffer.size := by
  rw [loadOver, loadInto, loadPage]
  by_cases sized : buffer.size = pageSize
  · rw [if_neg (not_not_intro sized), if_neg (not_not_intro sized)]
    cases program.sections[index]? with
    | none => rfl
    | some part =>
      by_cases beyond : part.pageCount ≤ page
      · simp only [if_pos beyond, Except.map]
      · simp only [if_neg beyond, Except.map, Section.fill_eq sized]
  · rw [if_pos sized, if_pos sized]

theorem loadPage_eq_ok (present : program.sections[index]? = some part)
    (inside : page < part.pageCount) :
    program.loadPage index page = .ok (part.pageContent pageSize page) := by
  rw [loadPage, present]
  exact if_neg (Nat.not_le_of_lt inside)

theorem loadInto_eq_ok (present : program.sections[index]? = some part)
    (inside : page < part.pageCount) :
    program.loadInto index page pageSize =
      .ok (part.pageContent pageSize page).toArray := by
  rw [loadInto, if_neg (not_not_intro rfl), loadPage_eq_ok present inside]
  rfl

/-- The content of `buffer` after the virtual page `vpn` was loaded into it; none
if the program has no such page or it cannot be loaded. -/
def loadAt (program : Program pageSize) (buffer : Bytes) (vpn : Nat) : Option Bytes :=
  match program.image.findSection vpn with
  | none => none
  | some (index, page) => (program.loadOver index page buffer).toOption

theorem pageCount_image (present : program.sections[index]? = some part) :
    program.image.pageCount index = part.pageCount := by
  simp only [image, pageCount, present, Option.map_some, Option.getD_some]

theorem exists_section (inside : page < program.image.pageCount index) :
    ∃ part, program.sections[index]? = some part ∧ page < part.pageCount := by
  cases present : program.sections[index]? with
  | none =>
    simp only [image, pageCount, present, Option.map_none, Option.getD_none] at inside
    exact absurd inside (Nat.not_lt_zero page)
  | some part =>
    rw [pageCount_image present] at inside
    exact ⟨part, rfl, inside⟩

/-- The pages that a program consists of, in order. -/
def pages (program : Program pageSize) : List Bytes :=
  program.sections.toList.flatMap (Section.pages pageSize)

/-- Everything that a program initialises, each section cut or filled up to its
pages. -/
def bytes (program : Program pageSize) : List UInt8 :=
  program.sections.toList.flatMap fun part =>
    (part.bytes.resize (part.pageCount * pageSize)).toList

theorem flatMap_pages (program : Program pageSize) :
    program.pages.flatMap Array.toList = program.bytes := by
  simp only [pages, bytes, List.flatMap_assoc, Section.flatMap_pages]

section Contiguous

variable (contiguous : program.image.Contiguous)

include contiguous in
theorem loadAt_eq_some (present : program.sections[index]? = some part)
    (inside : page < part.pageCount) (buffer : Page pageSize) :
    program.loadAt buffer.toArray (program.image.pagesBefore index + page) =
      some (part.pageContent pageSize page).toArray := by
  have member : index < program.image.sectionCount :=
    (Array.getElem?_eq_some_iff.mp present).1
  have located : program.image.findSection (program.image.pagesBefore index + page) =
      some (index, page) := by
    rw [contiguous.findSection_eq_some_iff, contiguous index member, pageCount_image present]
    exact ⟨member, inside, rfl⟩
  rw [loadAt, located]
  simp only [loadOver_eq, buffer.size_toArray, loadInto_eq_ok present inside, Except.toOption]

include contiguous in
/-- The pages of the first `count` sections are loaded in order. -/
theorem mapM_loadAt (buffers : Nat → Page pageSize) {count : Nat}
    (within : count ≤ program.sections.size) :
    (List.range (program.image.pagesBefore count)).mapM
        (fun vpn => program.loadAt (buffers vpn).toArray vpn) =
      some ((program.sections.toList.take count).flatMap (Section.pages pageSize)) := by
  induction count with
  | zero => rfl
  | succ count ih =>
    have present := Array.getElem?_eq_getElem (Nat.lt_of_succ_le within)
    generalize program.sections[count] = part at present
    have listed : program.sections.toList[count]? = some part := by
      rwa [Array.getElem?_toList]
    have here : (List.range part.pageCount).mapM (fun page => program.loadAt
        (buffers (program.image.pagesBefore count + page)).toArray
        (program.image.pagesBefore count + page)) = some (part.pages pageSize) :=
      mapM_eq_some_map fun page inside =>
        loadAt_eq_some contiguous present (List.mem_range.mp inside) _
    rw [Image.pagesBefore_succ, pageCount_image present, List.range_add, List.mapM_append,
      ih (Nat.le_of_succ_le within), List.mapM_map, List.take_add_one, listed,
      List.flatMap_append]
    simp only [Function.comp_def, here, Option.toList_some, List.flatMap_singleton]
    rfl

end Contiguous

/-- The virtual pages of a program are those of its sections, each in one place,
and what they show is what the sections initialise. -/
structure Reassembles (program : Program pageSize) : Prop where
  covered : ∀ vpn,
    (program.image.findSection vpn).isSome = true ↔ vpn < program.image.totalPages
  located : ∀ vpn index page, program.image.findSection vpn = some (index, page) ↔
    page < program.image.pageCount index ∧ program.image.firstPage index + page = vpn
  /-- A page is loaded whatever its buffer held, and leaves nothing of it. -/
  loaded : ∀ index page, page < program.image.pageCount index → ∃ content : Page pageSize,
    ∀ buffer : Bytes, buffer.size = pageSize →
      program.loadOver index page buffer = .ok content.toArray
  /-- The pages, loaded one by one into any buffers, make up the program. -/
  whole : ∀ buffers : Nat → Page pageSize, ∃ pages,
    (List.range program.image.totalPages).mapM
        (fun vpn => program.loadAt (buffers vpn).toArray vpn) = some pages ∧
      pages.flatMap Array.toList = program.bytes

/-- A program whose sections follow one another without a gap is reassembled
from its pages, whether or not its sections are empty, too short for their
pages or too long. -/
theorem reassembles_of_contiguous (contiguous : program.image.Contiguous) :
    program.Reassembles := by
  constructor
  case covered => exact fun vpn => contiguous.findSection_isSome_iff
  case located =>
    intro vpn index page
    rw [contiguous.findSection_eq_some_iff, and_iff_right_iff_imp]
    rintro ⟨inside, -⟩
    obtain ⟨part, present, -⟩ := exists_section inside
    exact (Array.getElem?_eq_some_iff.mp present).1
  case loaded =>
    intro index page inside
    obtain ⟨part, present, within⟩ := exists_section inside
    refine ⟨part.pageContent pageSize page, fun buffer sized => ?_⟩
    rw [loadOver_eq, sized]
    exact loadInto_eq_ok present within
  case whole =>
    intro buffers
    refine ⟨program.pages, ?_, flatMap_pages program⟩
    have loaded := mapM_loadAt contiguous buffers (Nat.le_refl program.sections.size)
    rw [Image.totalPages_eq]
    rwa [← Array.length_toList, List.take_length, Array.length_toList] at loaded

/-- A section with a partial last page, an empty one and one with more bytes than
its page holds. -/
theorem reassembles_of_contiguous_three : @Reassembles 4 { sections := #[
    { name := "text", firstPage := 0, pageCount := 2, readOnly := true,
      bytes := #[1, 2, 3, 4, 5] },
    { name := "none", firstPage := 2, pageCount := 0, readOnly := true, bytes := #[6] },
    { name := "data", firstPage := 2, pageCount := 1, readOnly := false,
      bytes := #[7, 8, 9, 10, 11] }] } :=
  reassembles_of_contiguous (by decide)

end Program

end DemandPaging
