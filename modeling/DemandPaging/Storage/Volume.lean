import DemandPaging.Bytes
import DemandPaging.KeyedTable

/-!
# Volumes

A volume is one flat directory of named files.  A name leads to a file, and a
file that was opened stays readable and writable after its name is gone.
Opening with creation empties an existing file for everyone who has it open.
A volume also knows which of the coming requests will go wrong, so that what is
said about every volume is said about every way in which its device can fail.
-/

namespace DemandPaging

/-- Why the operating system refused a request about a file. -/
inductive FileError where
  | notFound
  /-- A component of the path, or the whole path, is too long. -/
  | nameTooLong
  /-- The path leads through something that is not a directory. -/
  | notDirectory
  | isDirectory
  | nulInName
  /-- Any other refusal, in the words it was given with. -/
  | other (text : String)
  deriving DecidableEq, Repr

namespace FileError

def message : FileError → String
  | notFound => "No such file or directory (os error 2)"
  | nameTooLong => "File name too long (os error 36)"
  | notDirectory => "Not a directory (os error 20)"
  | isDirectory => "Is a directory (os error 21)"
  | nulInName => "file name contained an unexpected NUL byte"
  | other text => text

end FileError

/-- What goes wrong with one request to a file. -/
inductive Trouble where
  /-- The request is refused before anything is done. -/
  | refused (error : FileError)
  /-- The request breaks off when `reached` bytes of its data are through. -/
  | brokenOff (error : FileError) (reached : Nat)
  deriving DecidableEq, Repr

namespace Trouble

/-- What the operating system says about it. -/
def error : Trouble → FileError
  | refused error => error
  | brokenOff error _ => error

end Trouble

/-- The number under which an opened file is known. -/
abbrev FileNumber := Nat

/-- A directory of named files together with the content of every file that
was ever created in it. -/
structure Volume where
  names : KeyedTable String FileNumber := {}
  files : Array Bytes := #[]
  /-- The troubles that the coming requests run into, in order; every request
  beyond the end of the list goes well. -/
  troubles : List (Option Trouble) := []

namespace Volume

def maxNameBytes : Nat := 255

def maxPathBytes : Nat := 4095

/-- The trouble that the next request runs into, if any, and the volume as the
request after it finds it. -/
def takeTrouble (volume : Volume) : Option Trouble × Volume :=
  (volume.troubles.head?.join, { volume with troubles := volume.troubles.tail })

def find? (volume : Volume) (name : String) : Option FileNumber :=
  volume.names.find? name

def hasFile (volume : Volume) (name : String) : Bool :=
  (volume.find? name).isSome

/-- Check the component of a path that comes before a slash: the directory
holds only files, so it never leads to another directory. -/
def checkDirectory (volume : Volume) (name : String) : FileError :=
  if maxNameBytes < name.utf8ByteSize then
    .nameTooLong
  else if volume.hasFile name then
    .notDirectory
  else
    .notFound

/-- Check that `path` can name a file of this directory; `creating` tells
whether the file is to be created. -/
def checkPath (volume : Volume) (path : String) (creating : Bool) :
    Except FileError Unit :=
  let (first, rest) := path.toList.span (· ≠ '/')
  if path.toList.contains '\x00' then
    .error .nulInName
  else if path = "" then
    .error .notFound
  else if maxPathBytes < path.utf8ByteSize then
    .error .nameTooLong
  else if rest = [] then
    if maxNameBytes < path.utf8ByteSize then .error .nameTooLong else .ok ()
  else if creating && rest.all (· == '/') then
    .error .isDirectory
  else
    .error (volume.checkDirectory (String.ofList first))

def content (volume : Volume) (file : FileNumber) : Bytes :=
  volume.files.getD file #[]

/-- Replace the content of a file by its image under `change`. -/
def modify (volume : Volume) (file : FileNumber) (change : Bytes → Bytes) : Volume :=
  { volume with files := volume.files.modify file change }

/-- Cut a file, or fill it up with zero bytes, to `length` bytes. -/
def setLength (volume : Volume) (file : FileNumber) (length : Nat) : Volume :=
  volume.modify file fun bytes => bytes.resize length

/-- Open the file called `name`.  When `creating`, a missing file is created
and an existing one is emptied. -/
def openFile (volume : Volume) (name : String) (creating : Bool) :
    Except FileError (FileNumber × Volume) := do
  volume.checkPath name creating
  match volume.find? name with
  | some file =>
    return (file, if creating then volume.setLength file 0 else volume)
  | none =>
    if creating then
      let file := volume.files.size
      return (file, { volume with
        names := volume.names.set name file
        files := volume.files.push #[] })
    else
      throw .notFound

/-- Remove the name of a file.  The file lives on for those who have it
open. -/
def remove (volume : Volume) (name : String) : Except FileError Volume := do
  volume.checkPath name false
  if volume.hasFile name then
    return { volume with names := volume.names.erase name }
  else
    throw .notFound

/-- Give the file called `name` another length from outside; none if there is
no such file. -/
def setLengthOf? (volume : Volume) (name : String) (length : Nat) : Option Volume :=
  (volume.find? name).map fun file => volume.setLength file length

section Content

variable {volume : Volume} {file other : FileNumber} {change : Bytes → Bytes}

@[simp]
theorem content_takeTrouble : volume.takeTrouble.2.content file = volume.content file :=
  rfl

/-- A file is changed as asked for, unless there is no such file. -/
theorem content_modify_self (volume : Volume) (file : FileNumber) (change : Bytes → Bytes) :
    (volume.modify file change).content file = change (volume.content file) ∨
      (volume.modify file change).content file = #[] ∧ volume.content file = #[] := by
  simp only [content, modify, Array.getD_eq_getD_getElem?, Array.getElem?_modify, if_true]
  cases volume.files[file]? with
  | none => exact .inr ⟨rfl, rfl⟩
  | some bytes => exact .inl rfl

theorem content_modify_of_lt (present : file < volume.files.size) :
    (volume.modify file change).content file = change (volume.content file) := by
  simp only [content, modify, Array.getD_eq_getD_getElem?, Array.getElem?_modify, if_true,
    Array.getElem?_eq_getElem present, Option.map_some, Option.getD_some]

@[simp]
theorem size_files_modify : (volume.modify file change).files.size = volume.files.size :=
  Array.size_modify

theorem of_remove_eq_ok {name : String} {removed : Volume}
    (done : volume.remove name = .ok removed) :
    removed = { volume with names := volume.names.erase name } := by
  simp only [remove] at done
  cases checked : volume.checkPath name false with
  | error error =>
    rw [checked] at done
    cases done
  | ok =>
    rw [checked] at done
    simp only [bind, Except.bind] at done
    split at done
    · exact (Except.ok.inj done).symm
    · cases done

/-- Every name leads to a file. -/
def Consistent (volume : Volume) : Prop :=
  ∀ name file, volume.find? name = some file → file < volume.files.size

theorem consistent_empty : Consistent {} := by
  intro name file found
  cases found

/-- A file that can have its name can be opened to be created. -/
theorem exists_openFile_eq_ok {name : String} (named : volume.checkPath name true = .ok ()) :
    ∃ file opened, volume.openFile name true = .ok (file, opened) := by
  unfold openFile
  rw [named]
  simp only [bind, Except.bind]
  split
  · exact ⟨_, _, rfl⟩
  · exact ⟨_, _, rfl⟩

/-- A file that was opened to be created is there, and is empty. -/
theorem of_openFile_eq_ok {name : String} {opened : Volume} (consistent : volume.Consistent)
    (done : volume.openFile name true = .ok (file, opened)) :
    file < opened.files.size ∧ opened.content file = #[] ∧ opened.troubles = volume.troubles := by
  simp only [openFile] at done
  cases checked : volume.checkPath name true with
  | error error =>
    rw [checked] at done
    cases done
  | ok =>
    rw [checked] at done
    simp only [bind, Except.bind] at done
    split at done
    · rename_i number found
      obtain ⟨rfl, rfl⟩ := Prod.mk.inj (Except.ok.inj done)
      have present := consistent name number found
      refine ⟨by simpa [setLength] using present, ?_, rfl⟩
      rw [if_pos trivial, setLength, content_modify_of_lt present]
      exact Array.eq_empty_of_size_eq_zero (Bytes.size_resize _ 0)
    · obtain ⟨rfl, rfl⟩ := Prod.mk.inj (Except.ok.inj done)
      refine ⟨by simp, ?_, rfl⟩
      simp [content]

end Content

end Volume

end DemandPaging
