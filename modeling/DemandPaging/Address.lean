/-!
# Virtual addresses and pages

A virtual address consists of a virtual page number and an offset inside the
page.  Page numbers repeat across address spaces, so a page is named by its
space and its number.
-/

namespace DemandPaging

/-- The number of an address space.  A manager hands numbers out in ascending
order and never twice.  They have no bound here.  Kept in 32 bits they would
last for `2 ^ 32 - 2` spaces, so what is shown of runs holds of such numbers as
long as fewer than `2 ^ 32 - 1` spaces are created. -/
abbrev SpaceId := Nat

/-- The number of virtual addresses: addresses have 64 bits. -/
def addressLimit : Nat := 0x10000000000000000

/-- The virtual page number of an address and the offset inside the page. -/
def splitAddress (pageSize address : Nat) : Nat × Nat :=
  (address / pageSize, address % pageSize)

/-- A virtual page of some address space. -/
structure PageId where
  space : SpaceId
  vpn : Nat
  deriving DecidableEq, Repr

namespace PageId

def text (page : PageId) : String :=
  s!"{page.space}:{page.vpn}"

/-- Pages are ordered by their space first and by their number second. -/
def le (first second : PageId) : Bool :=
  decide (first.space < second.space ∨ first.space = second.space ∧ first.vpn ≤ second.vpn)

/-- The pages in ascending order. -/
def sort (pages : List PageId) : List PageId :=
  pages.mergeSort le

end PageId

end DemandPaging
