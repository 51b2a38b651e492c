import DemandPaging.PagingError

/-!
# Page tables

Where every virtual page of one address space is kept.  A valid entry
names the frame that holds its page; an invalid one keeps the last frame
number, which then means nothing.
-/

namespace DemandPaging

/-- Where one virtual page is kept, and how it was used. -/
structure PageEntry where
  vpn : Nat
  frame : Nat := 0
  valid : Bool := false
  readOnly : Bool := false
  used : Bool := false
  dirty : Bool := false
  deriving DecidableEq, Repr

namespace PageEntry

/-- The entry of a page that was just brought into `frame`. -/
def install (entry : PageEntry) (frame : Nat) : PageEntry :=
  { entry with frame := frame, valid := true, used := true, dirty := false }

/-- The entry of a page that was just taken out of its frame. -/
def invalidate (entry : PageEntry) : PageEntry :=
  { entry with valid := false, used := false, dirty := false }

end PageEntry

/-- The entries of all pages of an address space, in the order of the pages. -/
structure PageTable where
  entries : Array PageEntry
  deriving DecidableEq, Repr

namespace PageTable

def empty (numPages : Nat) : PageTable where
  entries := (Array.range numPages).map fun vpn => { vpn := vpn }

def size (table : PageTable) : Nat :=
  table.entries.size

def get (table : PageTable) (vpn : Nat) : Except PagingError PageEntry :=
  match table.entries[vpn]? with
  | some entry => .ok entry
  | none => .error (.invalidAddress vpn)

/-- Replace the entry of page `vpn`, if there is one, by its image under
`change`. -/
def modify (table : PageTable) (vpn : Nat) (change : PageEntry → PageEntry) : PageTable where
  entries := table.entries.modify vpn change

/-- The frames of the valid entries, in the order of the pages. -/
def residentFrames (table : PageTable) : List Nat :=
  (table.entries.toList.filter PageEntry.valid).map PageEntry.frame

@[simp]
theorem size_empty (numPages : Nat) : (empty numPages).size = numPages := by
  simp [empty, size]

@[simp]
theorem size_modify (table : PageTable) (vpn : Nat) (change : PageEntry → PageEntry) :
    (table.modify vpn change).size = table.size :=
  Array.size_modify

theorem get_eq_ok_iff {table : PageTable} {vpn : Nat} {entry : PageEntry} :
    table.get vpn = .ok entry ↔ table.entries[vpn]? = some entry := by
  rw [get]
  cases table.entries[vpn]? with
  | none => simp
  | some found => simp

theorem exists_get_eq_ok_iff {table : PageTable} {vpn : Nat} :
    (∃ entry, table.get vpn = .ok entry) ↔ vpn < table.size := by
  simp only [get_eq_ok_iff, size]
  rw [← Option.isSome_iff_exists]
  simp

theorem get_empty {numPages vpn : Nat} {entry : PageEntry}
    (found : (empty numPages).get vpn = .ok entry) : entry = { vpn := vpn } := by
  rw [get_eq_ok_iff] at found
  simp only [empty, Array.getElem?_map, Option.map_eq_some_iff] at found
  obtain ⟨index, present, rfl⟩ := found
  rw [Array.getElem?_range] at present
  split at present
  · rw [Option.some.inj present]
  · cases present

theorem get_modify (table : PageTable) (vpn other : Nat) (change : PageEntry → PageEntry) :
    (table.modify vpn change).get other =
      if other = vpn then (table.get other).map change else table.get other := by
  simp only [get, modify, Array.getElem?_modify]
  by_cases same : other = vpn
  · rw [if_pos same.symm, if_pos same]
    cases table.entries[other]? <;> rfl
  · rw [if_neg (Ne.symm same), if_neg same]

theorem mem_residentFrames_iff {table : PageTable} {frame : Nat} :
    frame ∈ table.residentFrames ↔
      ∃ vpn entry, table.get vpn = .ok entry ∧ entry.valid = true ∧ entry.frame = frame := by
  simp only [residentFrames, List.mem_map, List.mem_filter, get_eq_ok_iff]
  constructor
  · rintro ⟨entry, ⟨member, valid⟩, frameEq⟩
    obtain ⟨vpn, present⟩ := List.getElem?_of_mem member
    exact ⟨vpn, entry, by rw [← Array.getElem?_toList]; exact present, valid, frameEq⟩
  · rintro ⟨vpn, entry, present, valid, frameEq⟩
    rw [← Array.getElem?_toList] at present
    exact ⟨entry, ⟨List.mem_of_getElem? present, valid⟩, frameEq⟩

/-- If no two pages share a frame, every resident frame is listed once. -/
theorem nodup_residentFrames {table : PageTable}
    (exclusive : ∀ first second firstEntry secondEntry,
      table.get first = .ok firstEntry → table.get second = .ok secondEntry →
      firstEntry.valid = true → secondEntry.valid = true →
      firstEntry.frame = secondEntry.frame → first = second) :
    table.residentFrames.Nodup := by
  rw [residentFrames, List.Nodup, List.pairwise_map, List.pairwise_filter,
    List.pairwise_iff_getElem]
  intro first second firstLt secondLt below firstValid secondValid equal
  have firstGet : table.get first = .ok table.entries.toList[first] := by
    rw [get_eq_ok_iff, ← Array.getElem?_toList, List.getElem?_eq_getElem firstLt]
  have secondGet : table.get second = .ok table.entries.toList[second] := by
    rw [get_eq_ok_iff, ← Array.getElem?_toList, List.getElem?_eq_getElem secondLt]
  have same := exclusive first second _ _ firstGet secondGet firstValid secondValid equal
  omega

end PageTable

end DemandPaging
