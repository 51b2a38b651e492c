import DemandPaging.AddressSpace

/-!
# Process images

A program image becomes a process: an address space with the sections of the
image back to back from address zero on, pages for the stack after them, and
one last page for the arguments.  The argument page starts with one pointer
for each argument, followed by the arguments, each ended by a zero byte.
-/

namespace DemandPaging

def stackPages : Nat := 8

/-- The longest argument that is read back, in bytes. -/
def maxArgumentBytes : Nat := 256

def pointerBytes : Nat := 4

/-- What the registers of a new process are set from. -/
structure ProcessImage where
  numPages : Nat
  initialCounter : Nat
  initialStack : Nat
  argumentCount : Nat
  /-- The address of the pointers to the arguments. -/
  argumentVector : Nat
  deriving DecidableEq, Repr

namespace ProcessImage

variable {pageSize : Nat}

/-- A number as a pointer, lowest byte first.  A number beyond the reach of a
pointer loses its high bits. -/
def encodePointer (address : Nat) : Bytes :=
  #[address.toUInt8, (address / 0x100).toUInt8, (address / 0x10000).toUInt8,
    (address / 0x1000000).toUInt8]

def decodePointer (bytes : Bytes) : Nat :=
  bytes.foldr (fun byte value => byte.toNat + 256 * value) 0

/-- The number of pages that the given sections take up, together with the
`pages` before them, if each starts where the one before it ends. -/
def layOut (image : Image pageSize) (pages : Nat) : List Nat → Except PagingError Nat
  | [] => .ok pages
  | index :: rest =>
    if image.firstPage index ≠ pages then
      .error (.fragmentedExecutable index)
    else
      layOut image (pages + image.pageCount index) rest

/-- The number of bytes that arguments, their pointers and the zero bytes after
them take up. -/
def argumentBytes : List String → Nat
  | [] => 0
  | argument :: rest => pointerBytes + argument.utf8ByteSize + 1 + argumentBytes rest

def writeAll (space : AddressSpace) (manager : Manager pageSize) (address : Nat)
    (data : Bytes) : Except PagingError Unit × Manager pageSize :=
  match space.writeBytes manager address data with
  | (⟨_, some error⟩, stopped) => (.error error, stopped)
  | (⟨_, none⟩, written) => (.ok (), written)

/-- Write pieces of data to the addresses they belong at, in order, until one
cannot be written. -/
def writePieces (space : AddressSpace) (manager : Manager pageSize) :
    List (Nat × Bytes) → Except PagingError Unit × Manager pageSize
  | [] => (.ok (), manager)
  | (address, data) :: rest =>
    match writeAll space manager address data with
    | (.error error, failed) => (.error error, failed)
    | (.ok (), written) => writePieces space written rest

/-- What is to be written for the given arguments, when the next pointer
belongs at `pointerAddress` and the next text at `textAddress`: for each
argument its pointer, its bytes and a zero byte. -/
def argumentPieces (pointerAddress textAddress : Nat) : List String → List (Nat × Bytes)
  | [] => []
  | argument :: rest =>
    let endAddress := textAddress + argument.utf8ByteSize
    (pointerAddress, encodePointer textAddress) ::
      (textAddress, Utf8.encode argument) ::
      (endAddress, #[0]) ::
      argumentPieces (pointerAddress + pointerBytes) (endAddress + 1) rest

/-- Load a program image into a new address space and write the arguments into
its last page.  A space whose arguments cannot be written is destroyed
again. -/
def load (manager : Manager pageSize) (image : Image pageSize) (arguments : List String)
    (strategy : PagingStrategy) :
    Except PagingError (AddressSpace × ProcessImage) × Manager pageSize :=
  match layOut image 0 (List.range image.sectionCount) with
  | .error error => (.error error, manager)
  | .ok sectionPages =>
    if pageSize < argumentBytes arguments then
      (.error (.argumentsTooLong (argumentBytes arguments)), manager)
    else
      let argumentPage := sectionPages + stackPages
      let argumentVector := argumentPage * pageSize
      match AddressSpace.create manager (argumentPage + 1) image strategy with
      | (.error error, failed) => (.error error, failed)
      | (.ok space, created) =>
        let firstText := argumentVector + arguments.length * pointerBytes
        match writePieces space created (argumentPieces argumentVector firstText arguments) with
        | (.error error, failed) => (.error error, (failed.destroySpace space.id).2)
        | (.ok (), written) =>
          (.ok (space, {
            numPages := argumentPage + 1
            initialCounter := image.entryPoint
            initialStack := argumentVector
            argumentCount := arguments.length
            argumentVector := argumentVector }), written)

/-- Read `count` arguments back through the pointers from `address` on, until a
pointer or an argument cannot be read. -/
def readArguments (space : AddressSpace) (manager : Manager pageSize) (address : Nat) :
    Nat → List String × Manager pageSize
  | 0 => ([], manager)
  | count + 1 =>
    match space.readBytes manager address pointerBytes with
    | (⟨_, some _⟩, _, stopped) => ([], stopped)
    | (⟨_, none⟩, pointer, read) =>
      match space.readText read (decodePointer pointer) maxArgumentBytes with
      | (none, failed) => ([], failed)
      | (some argument, found) =>
        let (rest, last) :=
          readArguments space found (address + pointerBytes) count
        (argument :: rest, last)

end ProcessImage

end DemandPaging
