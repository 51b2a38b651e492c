import DemandPaging.Program.Image

/-!
# Programs held in memory

A program is a list of sections with their initialised bytes.  The pages of a
section show its bytes in order, followed by zero bytes; bytes beyond the last
page of a section are never shown.
-/

namespace DemandPaging

structure Section where
  name : String
  firstPage : Nat
  pageCount : Nat
  readOnly : Bool
  bytes : Bytes := #[]
  deriving DecidableEq, Repr

namespace Section

/-- The content of page `page` of a section. -/
def pageContent (pageSize : Nat) (part : Section) (page : Nat) : Page pageSize :=
  let shown : Bytes := Bytes.slice part.bytes (page * pageSize) pageSize
  ⟨shown.resize pageSize, Bytes.size_resize shown pageSize⟩

end Section

/-- A program for pages of `pageSize` bytes. -/
structure Program (pageSize : Nat) where
  sections : Array Section := #[]
  entryPoint : Nat := 0
  deriving DecidableEq, Repr

namespace Program

variable {pageSize : Nat}

def codeByte (page : Nat) : UInt8 :=
  page.toUInt8 ^^^ 0x5A

def dataByte : UInt8 := 0xDA

/-- A program of `codePages` read-only pages, each filled with a byte that
tells its number, followed by `dataPages` writable pages. -/
def synthetic (codePages dataPages : Nat) : Program pageSize where
  sections := #[
    { name := ".text"
      firstPage := 0
      pageCount := codePages
      readOnly := true
      bytes := Array.ofFn fun offset : Fin (codePages * pageSize) =>
        codeByte (offset / pageSize) },
    { name := ".data"
      firstPage := codePages
      pageCount := dataPages
      readOnly := false
      bytes := Array.replicate (dataPages * pageSize) dataByte }]

/-- The first virtual page of a section; a missing section starts at zero. -/
def firstPage (program : Program pageSize) (index : Nat) : Nat :=
  (program.sections[index]?.map Section.firstPage).getD 0

/-- The number of pages of a section; a missing section has none. -/
def pageCount (program : Program pageSize) (index : Nat) : Nat :=
  (program.sections[index]?.map Section.pageCount).getD 0

/-- Whether a section is read-only; a missing section is not. -/
def readOnly (program : Program pageSize) (index : Nat) : Bool :=
  program.sections[index]?.any Section.readOnly

/-- The content of page `page` of the section of that index. -/
def loadPage (program : Program pageSize) (index page : Nat) :
    Except SectionError (Page pageSize) :=
  match program.sections[index]? with
  | none => .error (.noSuchSection index)
  | some part =>
    if part.pageCount ≤ page then
      .error (.pageOutOfRange index page)
    else
      .ok (part.pageContent pageSize page)

/-- The content of a page, for a buffer of `size` bytes; a wrong buffer is
reported first. -/
def loadInto (program : Program pageSize) (index page size : Nat) :
    Except SectionError Bytes :=
  if size ≠ pageSize then
    .error (.incorrectPageSize size)
  else
    (program.loadPage index page).map Vector.toArray

def image (program : Program pageSize) : Image pageSize where
  sectionCount := program.sections.size
  firstPage := program.firstPage
  pageCount := program.pageCount
  readOnly := program.readOnly
  loadPage := program.loadPage
  entryPoint := program.entryPoint

end Program

end DemandPaging
