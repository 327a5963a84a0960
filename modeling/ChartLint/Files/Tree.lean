import ChartLint.Files.FileError
import ChartLint.Files.Path

/-!
# Trees of files

The files that a run of the linter sees, as a value.  A directory is a list of files and directories
with their names.  A file system is the directory at the root and the working directory in it.

A path is resolved from left to right.  Everything but its end has to be a directory, also where the
path goes on with a point, with two points or with nothing behind a slash.  A name of more than 255
bytes stands for nothing, and neither does a path of 4096 bytes or more.
-/

namespace ChartLint

/-- The contents of a directory. -/
inductive Listing where
  /-- Nothing. -/
  | empty
  /-- A file, and the rest of the directory. -/
  | file (name : String) (content : ByteArray) (rest : Listing)
  /-- A directory, and the rest of the directory around it. -/
  | directory (name : String) (inner rest : Listing)

/-- What a name stands for in a directory. -/
inductive Entry where
  /-- A file. -/
  | file (content : ByteArray)
  /-- A directory. -/
  | directory (listing : Listing)

namespace Listing

instance : Inhabited Listing := ⟨.empty⟩

/-- What a name stands for. -/
def get? (name : String) : Listing → Option Entry
  | .empty => none
  | .file n content rest => if n = name then some (.file content) else rest.get? name
  | .directory n inner rest => if n = name then some (.directory inner) else rest.get? name

/-- A directory without a name. -/
def erase (name : String) : Listing → Listing
  | .empty => .empty
  | .file n content rest => if n = name then rest else .file n content (rest.erase name)
  | .directory n inner rest => if n = name then rest else .directory n inner (rest.erase name)

/-- A directory in which a name stands for an entry. -/
def put (name : String) (entry : Entry) (l : Listing) : Listing :=
  match entry with
  | .file content => .file name content (l.erase name)
  | .directory inner => .directory name inner (l.erase name)

/-- What a list of names leads to. -/
def find? (l : Listing) : List String → Option Entry
  | [] => some (.directory l)
  | name :: names =>
    match l.get? name with
    | some (.directory inner) => inner.find? names
    | some (.file content) => if names.isEmpty then some (.file content) else none
    | none => none

/-- The directory that a name stands for; an empty one if it stands for none. -/
def directoryAt (l : Listing) (name : String) : Listing :=
  match l.get? name with
  | some (.directory inner) => inner
  | _ => .empty

/-- A tree in which a list of names leads to an entry.  Directories on the way are made. -/
def putAt (entry : Entry) : List String → Listing → Listing
  | [], l => l
  | [name], l => l.put name entry
  | name :: names, l => l.put name (.directory (putAt entry names (l.directoryAt name)))

/-- A tree in which a list of names leads to nothing. -/
def eraseAt : List String → Listing → Listing
  | [], l => l
  | [name], l => l.erase name
  | name :: names, l =>
    match l.get? name with
    | some (.directory inner) => l.put name (.directory (eraseAt names inner))
    | _ => l

end Listing

/-- A tree of files and the working directory in it. -/
structure FileSystem where
  /-- The directory at the root. -/
  root : Listing
  /-- The names that lead from the root to the working directory. -/
  workingDirectory : List String

namespace FileSystem

/-- Is the name longer than names may be? -/
def isLongName (name : String) : Bool := 255 < name.utf8ByteSize

/-- Why a path leads nowhere, whatever the files are. -/
def pathError? (p : Path) : Option FileError :=
  if p.text.toList.contains (Char.ofNat 0) then some .nullInPath
  else if p.text = "" then some .notFound
  else if 4096 ≤ p.text.utf8ByteSize then some .nameTooLong
  else none

/-- Follow segments from a place, given by its names from the last to the first. -/
def follow (root : Listing) (place : List String) : List String → Except FileError (List String × Entry)
  | [] =>
    match root.find? place.reverse with
    | some entry => .ok (place, entry)
    | none => .error .notFound
  | segment :: segments =>
    match root.find? place.reverse with
    | none => .error .notFound
    | some (.file _) => .error .notADirectory
    | some (.directory here) =>
      if Path.isVoid segment then follow root place segments
      else if segment = ".." then follow root place.tail segments
      else if isLongName segment then .error .nameTooLong
      else if (here.get? segment).isSome then follow root (segment :: place) segments
      else .error .notFound

/-- The place where relative paths start. -/
def startOf (fs : FileSystem) (p : Path) : List String :=
  if p.isAbsolute then [] else fs.workingDirectory.reverse

/-- The place that a path leads to, and what is there. -/
def resolve (fs : FileSystem) (p : Path) : Except FileError (List String × Entry) :=
  match pathError? p with
  | some e => .error e
  | none => follow fs.root (fs.startOf p) p.segments

/-- Does the path lead to a file? -/
def isFile (fs : FileSystem) (p : Path) : Bool :=
  match fs.resolve p with
  | .ok (_, .file _) => true
  | _ => false

/-- The directory that the path leads to. -/
def directory? (fs : FileSystem) (p : Path) : Option Listing :=
  match fs.resolve p with
  | .ok (_, .directory l) => some l
  | _ => none

/-- Does the path lead to something? -/
def present (fs : FileSystem) (p : Path) : Bool :=
  match fs.resolve p with
  | .ok _ => true
  | .error _ => false

/-- The content of the file that the path leads to. -/
def readBytes (fs : FileSystem) (p : Path) : Except FileError ByteArray :=
  match fs.resolve p with
  | .error e => .error e
  | .ok (_, .directory _) => .error .isADirectory
  | .ok (_, .file content) => .ok content

/-- The text of the file that the path leads to. -/
def readText (fs : FileSystem) (p : Path) : Except FileError String :=
  match fs.readBytes p with
  | .error e => .error e
  | .ok content =>
    match String.fromUTF8? content with
    | some text => .ok text
    | none => .error .invalidText

/-! ## Changes -/

/-- Write a file, and make the directories on its way. -/
def write (fs : FileSystem) (p : Path) (content : ByteArray) : FileSystem :=
  let names := (fs.startOf p).reverse ++ p.segments.filter (!Path.isVoid ·)
  { fs with root := fs.root.putAt (.file content) names }

/-- Make a directory that is not there, and those on its way. -/
def makeDirectory (fs : FileSystem) (p : Path) : FileSystem :=
  if fs.present p then fs
  else
    let names := (fs.startOf p).reverse ++ p.segments.filter (!Path.isVoid ·)
    { fs with root := fs.root.putAt (.directory .empty) names }

/-- Remove what the path leads to. -/
def remove (fs : FileSystem) (p : Path) : FileSystem :=
  match fs.resolve p with
  | .ok (place, _) => { fs with root := fs.root.eraseAt place.reverse }
  | .error _ => fs

/-- Make the directories that segments lead through from a place. -/
def makeWay (root : Listing) (place : List String) : List String → Except FileError Listing
  | [] => .ok root
  | segment :: segments =>
    match root.find? place.reverse with
    | some (.directory here) =>
      if Path.isVoid segment then makeWay root place segments
      else if segment = ".." then makeWay root place.tail segments
      else if isLongName segment then .error .nameTooLong
      else if (here.get? segment).isSome then makeWay root (segment :: place) segments
      else makeWay (root.putAt (.directory .empty) (segment :: place).reverse)
        (segment :: place) segments
    | some (.file _) => .error .notADirectory
    | none => .error .notFound

/-- A file system in which the directory of a path is there.  It is only made if nothing is there. -/
def makeParent (fs : FileSystem) (p : Path) : Except FileError FileSystem :=
  match p.parent? with
  | none => .ok fs
  | some parent =>
    if parent.text = "" || fs.present parent then .ok fs
    else match pathError? parent with
      | some e => .error e
      | none => (makeWay fs.root (fs.startOf parent) parent.segments).map fun root => { fs with root }

/-- Add to the end of a file that is at a place under a name, or make the file. -/
def appendUnder (fs : FileSystem) (place : List String) (name : String) (content : ByteArray) :
    Except FileError FileSystem :=
  let names := (name :: place).reverse
  match fs.root.find? names with
  | some (.directory _) => .error .isADirectory
  | some (.file old) => .ok { fs with root := fs.root.putAt (.file (old ++ content)) names }
  | none => .ok { fs with root := fs.root.putAt (.file content) names }

/-- Add to the end of a file, or make it.  Its directory is made if nothing is there.  A path with a
slash at its end asks for a directory. -/
def append (fs : FileSystem) (p : Path) (content : ByteArray) : Except FileError FileSystem := do
  let fs ← fs.makeParent p
  match pathError? p, p.segments.reverse.dropWhile (· = "") with
  | some e, _ => throw e
  | none, [] => throw .isADirectory
  | none, name :: before =>
    let (place, entry) ← follow fs.root (fs.startOf p) before.reverse
    match entry with
    | .file _ => throw .notADirectory
    | .directory _ =>
      if Path.isVoid name || name = ".." || p.text.endsWith "/" then throw .isADirectory
      else if isLongName name then throw .nameTooLong
      else fs.appendUnder place name content

end FileSystem

end ChartLint
