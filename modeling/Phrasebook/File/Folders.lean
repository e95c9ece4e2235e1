import Phrasebook.Text.Quoted

namespace Phrasebook.File

def parts (path : String) : List String :=
  (path.toList.splitOn '/').map String.ofList

def names (path : String) : List String :=
  (parts path).filter fun p => p ≠ "" && p ≠ "."

/-- A path in its shortest spelling: without dots and empty parts, but with the steps upward that it
holds. Two slashes at the front, and only two, are kept. -/
def normalize (path : String) : String :=
  let root := if path.startsWith "//" && !path.startsWith "///" then "//"
    else if path.startsWith "/" then "/"
    else ""
  let short := root ++ "/".intercalate (names path)
  if short = "" then "." else short

/-- The files and folders of a system, by the names on the way to them from its root, and the folder
where relative paths start. -/
structure Folders where
  files : List (List String × ByteArray) := []
  folders : List (List String) := []
  here : List String := []

inductive OpenError where
  | missing (path : String)
  | isFolder (path : String)
  | notFolder (path : String)
  deriving DecidableEq, Repr

namespace OpenError

def message : OpenError → String
  | .missing path => "[Errno 2] No such file or directory: " ++ Text.Quoted.quote path
  | .isFolder path => "[Errno 21] Is a directory: " ++ Text.Quoted.quote path
  | .notFolder path => "[Errno 20] Not a directory: " ++ Text.Quoted.quote path

end OpenError

inductive Spot where
  | folder (names : List String)
  | file (bytes : ByteArray)

namespace Folders

def ofPaths (here : List String) (files : List (String × ByteArray)) (folders : List String) :
    Folders :=
  { files := files.map fun x => (here ++ names x.1, x.2)
    folders := folders.map fun x => here ++ names x
    here }

def hasFolder (f : Folders) (names : List String) : Bool :=
  (f.here :: f.folders).any names.isPrefixOf || f.files.any fun x => names.isPrefixOf x.1.dropLast

def lookup (f : Folders) (path : String) (names : List String) : Except OpenError Spot :=
  match f.files.lookup names with
  | some bytes => .ok (.file bytes)
  | none => if f.hasFolder names then .ok (.folder names) else .error (.missing path)

/-- One part of a path. Whatever the part is, it can only be taken from a folder, and what is above
the root is the root. -/
def step (f : Folders) (path : String) : Spot → String → Except OpenError Spot
  | .file _, _ => .error (.notFolder path)
  | .folder names, part =>
    if part = "" || part = "." then .ok (.folder names)
    else if part = ".." then .ok (.folder names.dropLast)
    else f.lookup path (names ++ [part])

def read (f : Folders) (path : String) : Except OpenError ByteArray := do
  if path = "" then throw (.missing path)
  let start := if path.startsWith "/" then [] else f.here
  match ← (parts path).foldlM (f.step path) (Spot.folder start) with
  | .file bytes => return bytes
  | .folder _ => throw (.isFolder path)

end Folders

end Phrasebook.File
