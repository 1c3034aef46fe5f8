import CaseRunner.Files.Store

/-!
# `CaseRunner.Files.Disk`: files as an operating system keeps them

A disk holds files and directories at places, a place being the list of names that leads
there from the root. A path describes a walk from the root or from the working directory
to a place; each step of the walk must start in a directory, and two dots lead up. A
path that ends in a slash leads to a directory only.

Creating a directory and copying a file can be done in part: directories above that were
created stay when a later step fails. A file that is copied to is emptied before the
source is read.
-/

set_option autoImplicit false

namespace CaseRunner.Files

/-- The names that lead from the root to a file or directory. -/
abbrev Place := List Segment

/-- Files and directories at places. The root is always a directory. -/
structure Disk where
  /-- The places other than the root; a file has contents. -/
  entries : List (Place × Option Bytes)
  /-- The working directory. -/
  working : Place
  deriving DecidableEq, Repr

namespace Disk

/-- What there is at a place: nothing, a directory or a file. -/
def find? (d : Disk) (place : Place) : Option (Option Bytes) :=
  if place = [] then some none else (d.entries.find? (·.1 = place)).map (·.2)

/-- Puts something at a place, in place of what was there. -/
def put (d : Disk) (place : Place) (contents : Option Bytes) : Disk :=
  { d with entries := (place, contents) :: d.entries.filter (·.1 ≠ place) }

/-- Whether there is a directory at a place. -/
def hasDir (d : Disk) (place : Place) : Bool := d.find? place = some none

/-- The greatest number of bytes in a name. -/
def maxNameSize : Nat := 255

/-- The name, if it is no longer than names may be. -/
def checkedName (name : Segment) : Except SystemFault Segment :=
  if maxNameSize < (Text.encode name).length then .error .nameTooLong else .ok name

/-- Whether there is a character in the path that no path may have. -/
def hasZero (path : FilePath) : Bool := path.segments.any (·.contains '\x00')

/-- One step of a walk, which must start in a directory. -/
def step (d : Disk) (place : Place) (segment : Segment) : Except SystemFault Place :=
  if d.hasDir place then
    match FilePath.stepOf segment with
    | some .up => .ok place.dropLast
    | some (.name name) => do
      let name ← checkedName name
      match d.find? (place ++ [name]) with
      | some _ => .ok (place ++ [name])
      | none => .error .noEntry
    | _ => .ok place
  else
    .error .notDirectory

/-- Where the walk that a path describes begins. -/
def start (d : Disk) (path : FilePath) : Place := if path.rooted then [] else d.working

/-- The segments of a path with a dot for a slash at the end, which asks for a directory. -/
def walkSegments (path : FilePath) : List Segment :=
  (path.segments.filter (!·.isEmpty)) ++ (if path.endsInSlash then [['.']] else [])

/-- The place that a path leads to. -/
def walk (d : Disk) (path : FilePath) : Except SystemFault Place :=
  if hasZero path then .error .zeroCharacter
  else if path.isEmpty then .error .noEntry
  else (walkSegments path).foldlM d.step (d.start path)

/-- Whether there is a file at the path. -/
def isFile (d : Disk) (path : FilePath) : Bool :=
  match d.walk path with
  | .ok place => !d.hasDir place
  | .error _ => false

/-- Whether there is a directory at the path. -/
def isDir (d : Disk) (path : FilePath) : Bool :=
  match d.walk path with
  | .ok place => d.hasDir place
  | .error _ => false

/-- The contents of the file at a place. -/
def contentsAt (d : Disk) (place : Place) : Except SystemFault Bytes :=
  match d.find? place with
  | some (some contents) => .ok contents
  | some none => .error .isDirectory
  | none => .error .noEntry

/-- The contents of a file. -/
def contents (d : Disk) (path : FilePath) : Except SystemFault Bytes := do
  d.contentsAt (← d.walk path)

/-- The contents of a file that is text. -/
def textContents (d : Disk) (path : FilePath) : Except SystemFault String := do
  (Text.decodeString (← d.contents path)).mapError fun _ => .notText

/-- The contents of a file; a fault in opening it names the task. -/
def readBytes (d : Disk) (path : FilePath) : Except FileFault Bytes := do
  let place ← (d.walk path).mapError (.system (some (.openFile path)))
  (d.contentsAt place).mapError (.system none)

/-- The contents of a file that is text. -/
def readText (d : Disk) (path : FilePath) : Except FileFault String :=
  (d.textContents path).mapError (.system (some (.readText path)))

/-- The place where a new entry of the path's final name would be, in a directory that
must be there, and whether the path asks for a directory. -/
def newPlace (d : Disk) (path : FilePath) : Except SystemFault (Option (Place × Segment)) :=
  if hasZero path then .error .zeroCharacter
  else if path.isEmpty then .error .noEntry
  else do
    let segments := path.segments.filter (!·.isEmpty)
    let above ← segments.dropLast.foldlM d.step (d.start path)
    match segments.getLast?.bind FilePath.stepOf with
    | some (.name name) =>
      if d.hasDir above then return some (above, ← checkedName name) else throw .notDirectory
    | _ =>
      let _ ← d.step above ['.']
      return none

/-- Makes one directory, in one that must be there. -/
def makeDir (d : Disk) (path : FilePath) : Except SystemFault Disk := do
  match ← d.newPlace path with
  | none => throw .entryExists
  | some (above, name) =>
    match d.find? (above ++ [name]) with
    | some _ => throw .entryExists
    | none => return d.put (above ++ [name]) none

/-- Makes a directory and those above it that are missing, the highest first. -/
def makeDirs (d : Disk) (path : FilePath) : Except SystemFault Unit × Disk :=
  if path.isEmpty then (.ok (), d)
  else
    match d.makeDir path with
    | .ok d => (.ok (), d)
    | .error .noEntry =>
      match _h : path.parent? with
      | none => (.error .noEntry, d)
      | some parent =>
        match makeDirs d parent with
        | (.error cause, d) => (.error cause, d)
        | (.ok _, d) =>
          match d.makeDir path with
          | .ok d => (.ok (), d)
          | .error cause => (if d.isDir path then .ok () else .error cause, d)
    | .error cause => (if d.isDir path then .ok () else .error cause, d)
termination_by path.segments.length
decreasing_by exact FilePath.parent_segments_length _h

/-- The names directly in a directory, in order. -/
def namesIn (d : Disk) (place : Place) : List Segment :=
  let names := d.entries.filterMap fun entry =>
    if entry.1.dropLast = place then entry.1.getLast? else none
  names.mergeSort fun a b => !decide (b.map Char.toNat < a.map Char.toNat)

/-- The directory that a path leads to. -/
def directory (d : Disk) (path : FilePath) : Except SystemFault Place := do
  let place ← d.walk path
  if d.hasDir place then return place else throw .notDirectory

/-- The paths directly in a directory, in order. -/
def list (d : Disk) (path : FilePath) : Except FileFault (List FilePath) := do
  let place ← (d.directory path).mapError (.system (some (.readDir path)))
  return (d.namesIn place).map path.child

/-- Creates a directory and those above it. -/
def createDir (path : FilePath) : Change Disk Unit := fun d =>
  let (result, d) := d.makeDirs path
  (result.mapError (.system (some (.createDir path))), d)

/-- Removes what a directory holds. -/
def clearDir (path : FilePath) : Change Disk Unit := fun d =>
  match d.directory path with
  | .error cause => (.error (.system (some (.readDir path)) cause), d)
  | .ok place =>
    (.ok (), { d with entries := d.entries.filter fun entry =>
      !(place.isPrefixOf entry.1 && entry.1 ≠ place) })

/-- The place of a file that is opened for writing, empty from then on. -/
def openNew (d : Disk) (path : FilePath) : Except SystemFault (Place × Disk) := do
  match ← d.newPlace path with
  | none => throw .isDirectory
  | some (above, name) =>
    let place := above ++ [name]
    if path.endsInSlash || d.hasDir place then throw .isDirectory
    else return (place, d.put place (some []))

/-- Copies what is in a file into another one that is emptied before. -/
def copyContents (source target : FilePath) (d : Disk) : Except SystemFault Unit × Disk :=
  match d.walk source with
  | .error cause => (.error cause, d)
  | .ok origin =>
    if d.hasDir origin then (.error .notRegular, d)
    else
      match d.openNew target with
      | .error cause => (.error cause, d)
      | .ok (place, d) =>
        match d.contentsAt origin with
        | .error cause => (.error cause, d)
        | .ok contents => (.ok (), d.put place (some contents))

/-- Copies a file, and creates the directories it goes to. -/
def copyFile (source target : FilePath) : Change Disk Unit := do
  if let some parent := target.parent? then createDir parent
  ExceptT.adapt (.system (some (.copy source target))) (copyContents source target)

/-- Puts a file at a path, and creates the directories above it. -/
def deposit (path : FilePath) (contents : Bytes) (d : Disk) : Disk :=
  let d := match path.parent? with
    | some parent => (d.makeDirs parent).2
    | none => d
  match d.openNew path with
  | .ok (place, d) => d.put place (some contents)
  | .error _ => d

/-- The spelling of a place. -/
def pathOf (place : Place) : FilePath := ⟨true, if place = [] then [[]] else place⟩

/-- The path from the root on. Dots and doubled slashes go, two dots stay; of exactly two
slashes at the beginning both stay, and so does one at the end. -/
def absolute (d : Disk) (path : FilePath) : Except FileFault FilePath :=
  if path.isEmpty then .error (.system (some (.makeAbsolute path)) .emptyPath)
  else
    let kept := path.segments.filter fun s => !s.isEmpty && s ≠ ['.']
    let leading : List Segment :=
      if path.rooted then
        match path.segments with
        | [[], []] => [[]]
        | [] :: [] :: _ => []
        | [] :: _ :: _ => [[]]
        | _ => []
      else d.working
    let trailing : List Segment := if path.endsInSlash then [[]] else []
    .ok ⟨true, leading ++ kept ++ trailing⟩

/-- The texts of all places below a place, each without the way to that place and with a
slash at the end of a directory, in the order of texts. -/
def listing (d : Disk) (place : Place) : List String :=
  let below := d.entries.filter fun entry => place.isPrefixOf entry.1 && entry.1 ≠ place
  let texts := below.map fun entry =>
    FilePath.joinSlash (entry.1.drop place.length) ++ (if entry.2.isSome then [] else ['/'])
  (texts.mergeSort fun a b => !decide (b.map Char.toNat < a.map Char.toNat)).map String.ofList

end Disk

instance : FileStore Disk where
  readBytes := Disk.readBytes
  readText := Disk.readText
  isFile := Disk.isFile
  isDir := Disk.isDir
  absolute := Disk.absolute
  list := Disk.list
  createDir := Disk.createDir
  clearDir := Disk.clearDir
  copyFile := Disk.copyFile
  deposit := Disk.deposit

end CaseRunner.Files
