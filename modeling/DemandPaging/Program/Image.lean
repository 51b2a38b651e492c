import DemandPaging.Bytes

/-!
# Program images

A program image says which virtual pages its sections cover and produces the
initial content of each of these pages.  Sections are known by their index;
the section of a virtual page is the first one that covers it.
-/

namespace DemandPaging

/-- Why a page of a program image could not be produced. -/
inductive SectionError where
  | noSuchSection (index : Nat)
  | pageOutOfRange (index page : Nat)
  | incorrectPageSize (size : Nat)
  /-- The image failed to produce the page, for the given reason. -/
  | load (index page : Nat) (reason : String)
  deriving DecidableEq, Repr

namespace SectionError

def message : SectionError → String
  | noSuchSection index => s!"no section {index}"
  | pageOutOfRange index page => s!"section {index} has no page {page}"
  | incorrectPageSize size => s!"destination of {size} bytes is not one page"
  | load index page reason => s!"loading page {page} of section {index}: {reason}"

end SectionError

/-- What the loader knows about a program image.  A page that is produced is
produced as a whole. -/
structure Image (pageSize : Nat) where
  sectionCount : Nat
  firstPage : Nat → Nat
  pageCount : Nat → Nat
  readOnly : Nat → Bool
  /-- The content of a page, given the index of its section and its number
  inside the section. -/
  loadPage : Nat → Nat → Except SectionError (Page pageSize)
  entryPoint : Nat

namespace Image

variable {pageSize : Nat}

/-- Whether a section covers the virtual page `vpn`. -/
def covers (image : Image pageSize) (index vpn : Nat) : Bool :=
  decide (image.firstPage index ≤ vpn ∧ vpn < image.firstPage index + image.pageCount index)

/-- The section that covers the virtual page `vpn`, and the number of the page
inside it. -/
def findSection (image : Image pageSize) (vpn : Nat) : Option (Nat × Nat) :=
  ((List.range image.sectionCount).find? fun index => image.covers index vpn).map
    fun index => (index, vpn - image.firstPage index)

def totalPages (image : Image pageSize) : Nat :=
  (List.range image.sectionCount).foldr (fun index pages => image.pageCount index + pages) 0

end Image

end DemandPaging
