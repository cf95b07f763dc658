import KernelCharts.Extraction.Basic
import KernelCharts.Image.Pdf
import KernelCharts.Image.Png
import KernelCharts.Text.Blank

/-!
# File systems

A run reads and writes files. The files are kept as a value, so that what a run does to them is a
function of what they were.

* `FileSystem` — the files and directories, and the current directory;
* `FileSystem.resolve` — the place that a path names;
* `FileSystem.openFile`, `FileSystem.writeFile`, `FileSystem.createDirectories` — the operations.
-/

namespace KernelCharts

inductive Content where
  | bytes (data : List UInt8)
  /-- a raster image of a width and a height -/
  | raster (width height : Nat)
  /-- a page of vectors of a width and a height, in points -/
  | page (width height : Nat)
  /-- the lines of a log -/
  | log
deriving DecidableEq

/-- the bytes of a content. The marks on an image and the lines of a log are not kept. -/
def Content.data : Content → List UInt8
  | bytes data => data
  | raster width height => Image.blankPng width height
  | page width height => Image.blankPdf width height
  | log => []

inductive Entry where
  | directory
  | file (content : Content)
deriving DecidableEq

/-- a place: the names of the directories on the way to it, and its own name -/
abbrev Place := List String

/-- the files and directories below the root, and the current directory -/
structure FileSystem where
  entries : List (Place × Entry)
  current : Place
deriving DecidableEq

namespace FileSystem

/-! ## Places -/

/-- what stands at a place; the root and the current directory are there -/
def entry? (fs : FileSystem) (place : Place) : Option Entry :=
  if place.isPrefixOf fs.current then some .directory else fs.entries.lookup place

/-- the file system with an entry at a place, whatever stood there -/
def put (fs : FileSystem) (place : Place) (entry : Entry) : FileSystem :=
  { fs with entries := (place, entry) :: fs.entries.filter (·.1 != place) }

def isDirectory (fs : FileSystem) (place : Place) : Bool := fs.entry? place == some .directory

/-- the place one name further on; there is no way on from a file -/
def stepInto (fs : FileSystem) (place : Place) (name : String) : Except FileFault Place :=
  match fs.entry? place with
  | none => .error .notFound
  | some (.file _) => .error .notDirectory
  | some .directory =>
    if name == "." then .ok place
    else if name == ".." then .ok place.dropLast
    else .ok (place ++ [name])

/-- the names of a path; those in its middle that stand for the directory itself are left out -/
def names (path : String) : List String :=
  let parts := ((Text.fields '/' path.toList).map String.ofList).filter (· != "")
  parts.dropLast.filter (· != ".") ++ parts.getLast?.toList

/-- a slash at the end of a path: only a directory can be meant -/
def endsInSlash (path : String) : Bool := path.toList.getLast? = some '/'

/-- the place where a path starts -/
def origin (fs : FileSystem) (path : String) : Place :=
  if path.toList.head? = some '/' then [] else fs.current

/-- the place that a path names; all but the last name have to be there -/
def resolve (fs : FileSystem) (path : String) : Except FileFault Place :=
  if path.isEmpty then .error .notFound
  else (names path ++ if endsInSlash path then ["."] else []).foldlM fs.stepInto (fs.origin path)

/-! ## Operations -/

/-- the feed of a file. A directory can be opened, too, but gives nothing but a fault. -/
def openFile (fs : FileSystem) (path : String) : Except FileFault Feed := do
  match fs.entry? (← fs.resolve path) with
  | none => .error .notFound
  | some .directory => .ok ⟨[], some .isDirectory⟩
  | some (.file content) => .ok (.ofBytes content.data)

/-- the file of a path is written; its directory has to be there -/
def writeFile (fs : FileSystem) (path : String) (content : Content) :
    Except FileFault FileSystem := do
  let place ← fs.resolve path
  if fs.isDirectory place then .error .isDirectory
  else if !fs.isDirectory place.dropLast then .error .notFound
  else .ok (fs.put place (.file content))

/-- a new directory at the end of a row of names -/
def createDirectory (fs : FileSystem) (start : Place) (names : List String) :
    Except FileFault FileSystem := do
  let place ← names.foldlM fs.stepInto start
  if (fs.entry? place).isSome then .error .exists
  else if !fs.isDirectory place.dropLast then .error .notFound
  else .ok (fs.put place .directory)

def leadsToDirectory (fs : FileSystem) (start : Place) (names : List String) : Bool :=
  match names.foldlM fs.stepInto start with
  | .ok place => fs.isDirectory place
  | .error _ => false

/-- a new directory, unless there is one already -/
def ensureDirectory (fs : FileSystem) (start : Place) (names : List String) :
    FileSystem × Option FileFault :=
  match fs.createDirectory start names with
  | .ok fs => (fs, none)
  | .error fault => (fs, if fs.leadsToDirectory start names then none else some fault)

/-- the rows of names of some directory, given last name first, and of those on the way to it -/
def rowsUpwards : List String → List (List String)
  | [] => []
  | name :: parents => (name :: parents).reverse :: rowsUpwards parents

/-- the rows of names of a directory and of those on the way to it. A last name that stands for the
directory itself belongs to the name before it. -/
def ancestors (names : List String) : List (List String) :=
  match names.reverse with
  | "." :: inner => names :: rowsUpwards inner.tail
  | upwards => rowsUpwards upwards

/-- a directory and those on the way to it, given by their rows of names. What has been created stays
when a later one fails. -/
def ensureAll (fs : FileSystem) (start : Place) : List (List String) → FileSystem × Option FileFault
  | [] => (fs, none)
  | names :: parents =>
    match fs.createDirectory start names with
    | .error .notFound =>
      match fs.ensureAll start parents with
      | (fs, some fault) => (fs, some fault)
      | (fs, none) => fs.ensureDirectory start names
    | _ => fs.ensureDirectory start names

/-- the directory of a path and all directories on the way to it -/
def createDirectories (fs : FileSystem) (path : String) : FileSystem × Option FileFault :=
  fs.ensureAll (fs.origin path) (ancestors (names path))

/-! ## Paths -/

def join (directory name : String) : String :=
  if directory.isEmpty || name.toList.head? = some '/' then name
  else if endsInSlash directory then directory ++ name
  else directory ++ "/" ++ name

end FileSystem

end KernelCharts
