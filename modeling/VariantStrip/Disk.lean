/-
A file system.

A `Disk` lists files and folders by their absolute places, and knows the folder that relative
paths start from. Paths are followed step by step, so every folder on the way has to exist, also
the ones that two dots leave again.
-/
import VariantStrip.Path

namespace VariantStrip

/-- Why a file operation failed. -/
inductive DiskFault where
  | notFound
  | notFolder
  | isFolder
  | occupied
  | badName
  | notText
  deriving DecidableEq, Repr

/-- The words for a fault. -/
def DiskFault.message : DiskFault → String
  | notFound => "no such file or folder"
  | notFolder => "not a folder"
  | isFolder => "is a folder"
  | occupied => "exists already"
  | badName => "not a name of a file"
  | notText => "not a text"

/-- The names of the folders that lead to a file or folder, and its own. -/
abbrev Place := List String

/-- A file or folder. -/
inductive DiskNode where
  | folder
  | file (text : String)
  /-- A file whose bytes are no text. -/
  | blob
  deriving DecidableEq, Repr

/-- Files and folders. The root is a folder and is not listed. -/
structure Disk where
  entries : List (Place × DiskNode) := []
  /-- Where relative paths start. -/
  current : Place := []
  deriving Inhabited

namespace Disk

/-- What lies at a place. -/
def node? (d : Disk) (p : Place) : Option DiskNode :=
  if p.isEmpty then some .folder else d.entries.lookup p

/-- Puts something at a place. -/
def put (p : Place) (n : DiskNode) : List (Place × DiskNode) → List (Place × DiskNode)
  | [] => [(p, n)]
  | (q, m) :: rest => if q = p then (p, n) :: rest else (q, m) :: put p n rest

/-- Whether a name can be one of a file: it is not too long and has no character zero. -/
def isName (name : List Char) : Bool :=
  (String.ofList name).utf8ByteSize ≤ 255 && !name.contains '\x00'

/-- Goes one step from a folder. The place reached need not exist. -/
def enter (p : Place) : Path.Component → Except DiskFault Place
  | .root => .ok []
  | .here => .ok p
  | .up => .ok p.dropLast
  | .entry name => if isName name then .ok (p ++ [String.ofList name]) else .error .badName

/-- Checks that a folder lies at a place. -/
def needFolder (d : Disk) (p : Place) : Except DiskFault Unit :=
  match d.node? p with
  | some .folder => .ok ()
  | some _ => .error .notFolder
  | none => .error .notFound

/-- Follows steps from a place; what each step leaves has to be a folder. -/
def follow (d : Disk) : Place → List Path.Component → Except DiskFault Place
  | p, [] => .ok p
  | p, c :: cs => do
    d.needFolder p
    d.follow (← enter p c) cs

/-- Where some steps lead, from the folder that relative paths start from. -/
def placeOf (d : Disk) (cs : List Path.Component) : Except DiskFault Place := d.follow d.current cs

/-- Whether the text of a path asks for a folder: it ends in a slash or a dot step. -/
def asksFolder (p : Path) : Bool :=
  match p.text.toList.reverse with
  | '/' :: _ => true
  | '.' :: '/' :: _ => true
  | _ => false

/-- Where a path leads; the path without text leads nowhere. -/
def locate (d : Disk) (p : Path) : Except DiskFault Place := do
  if p.isEmpty then throw .notFound
  let place ← d.placeOf p.components
  if asksFolder p then d.needFolder place
  return place

/-- The text of a file. -/
def read (d : Disk) (p : Path) : Except DiskFault String := do
  match d.node? (← d.locate p) with
  | some (.file text) => return text
  | some .blob => throw .notText
  | some .folder => throw .isFolder
  | none => throw .notFound

/-- Whether a path leads to a file. -/
def isFile (d : Disk) (p : Path) : Bool :=
  match d.locate p with
  | .ok place =>
    match d.node? place with
    | some (.file _) | some .blob => true
    | _ => false
  | .error _ => false

/-- The same files as they are seen from the current folder and from each folder above it, the
nearest one first. -/
def upwards (d : Disk) : List Disk :=
  (List.range (d.current.length + 1)).map fun k =>
    { d with current := d.current.take (d.current.length - k) }

/-- The text of the file that a path leads to from the current folder, or else from the nearest
folder above it from which the path leads to a file. -/
def readUpwards (d : Disk) (p : Path) : Except DiskFault String :=
  match d.upwards.find? (·.isFile p) with
  | some d => d.read p
  | none => .error .notFound

/-- Writes a file, in place of one that is there. -/
def write (d : Disk) (p : Path) (text : String) : Except DiskFault Disk := do
  let place ← d.locate p
  match d.node? place with
  | some .folder => throw .isFolder
  | _ => return { d with entries := put place (.file text) d.entries }

/-- Whether some steps lead to a folder. -/
def isFolder (d : Disk) (cs : List Path.Component) : Bool :=
  match d.placeOf cs with
  | .ok place => d.node? place == some .folder
  | .error _ => false

/-- Makes a folder in one that exists. -/
def makeFolder (d : Disk) (cs : List Path.Component) : Except DiskFault Disk := do
  let place ← d.placeOf cs
  match d.node? place with
  | some _ => throw .occupied
  | none => return { d with entries := put place .folder d.entries }

/-- Makes a folder and the missing ones above it. What has been made stays when a step fails. -/
def makeFolders (d : Disk) (cs : List Path.Component) : Except DiskFault Unit × Disk :=
  if cs.isEmpty then (.ok (), d)
  else
    match d.makeFolder cs with
    | .ok d => (.ok (), d)
    | .error .notFound =>
      match d.makeFolders cs.dropLast with
      | (.error e, d) => (.error e, d)
      | (.ok (), d) =>
        match d.makeFolder cs with
        | .ok d => (.ok (), d)
        | .error e => if d.isFolder cs then (.ok (), d) else (.error e, d)
    | .error e => if d.isFolder cs then (.ok (), d) else (.error e, d)
termination_by cs.length
decreasing_by
  cases cs with
  | nil => simp at *
  | cons c cs => simp

/-- Makes the folder of a path and the missing ones above it. -/
def createFolders (d : Disk) (p : Path) : Except DiskFault Unit × Disk := d.makeFolders p.components

/-- Writes a file after making the folders above it. What has been made stays when a step
fails. -/
def writeInto (d : Disk) (p : Path) (text : String) : Except DiskFault Unit × Disk :=
  let made := match p.parent? with
    | some folder => d.createFolders folder
    | none => (.ok (), d)
  match made with
  | (.error e, d) => (.error e, d)
  | (.ok (), d) =>
    match d.write p text with
    | .ok d => (.ok (), d)
    | .error e => (.error e, d)

end Disk

end VariantStrip
