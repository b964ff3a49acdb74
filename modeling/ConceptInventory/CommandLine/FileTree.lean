import ConceptInventory.CommandLine.Files

/-!
# File trees

Files held as their places below the root and their texts, and the directory that paths
start from if they do not start at the root. A path is followed component by component;
two dots go back up, at the root nowhere, and only what a directory holds can be followed
further. Directories are the one that paths start from, those above it, and whatever has a
file below it. Writing puts a file in front, so the text written last is the one that is read.
-/
namespace ConceptInventory.CommandLine

/-- Where a path leads: to a file, to a free place in a directory, or nowhere. -/
inductive Place
  | file (spot : List String) (content : String)
  | free (spot : List String)
  | closed (o : Obstacle)
deriving DecidableEq, Repr

structure FileTree where
  start : List String
  files : List (List String × String)
deriving DecidableEq, Repr

namespace FileTree

/-- Where following a path begins. -/
def origin (t : FileTree) (path : String) : List String := if isAbsolute path then [] else t.start

/-- The tree of some files, given by their paths. -/
def ofList (start : List String) (files : List (String × String)) : FileTree :=
  let bare : FileTree := ⟨start, []⟩
  ⟨start, files.map fun f => (bare.origin f.1 ++ components f.1, f.2)⟩

def fileAt? (t : FileTree) (spot : List String) : Option String := t.files.lookup spot

def hasDirectory (t : FileTree) (spot : List String) : Bool :=
  spot.isPrefixOf t.start || t.files.any fun e => spot.isPrefixOf e.1 && spot.length < e.1.length

/-- Follows components from a directory. The names in it have at most 255 bytes. -/
def walk (t : FileTree) (directory : List String) : List String → Place
  | [] => .closed .isDirectory
  | c :: rest =>
    if c == ".." then t.walk directory.dropLast rest
    else if 255 < c.utf8ByteSize then .closed .nameTooLong
    else
      let here := directory ++ [c]
      match t.fileAt? here with
      | some content => if rest.isEmpty then .file here content else .closed .belowFile
      | none =>
        if t.hasDirectory here then t.walk here rest
        else if rest.isEmpty then .free here
        else .closed .missing

/-- Where a path leads. With the zero that ends it a path has at most 4096 bytes. -/
def place (t : FileTree) (p : PathName) : Place :=
  if p.shown.toList.contains '\x00' then .closed .zeroByte
  else if 4096 ≤ p.shown.utf8ByteSize then .closed .nameTooLong
  else t.walk (t.origin p.shown) (components p.shown)

def look (t : FileTree) (p : PathName) : Look :=
  match t.place p with
  | .file _ content => .text content
  | .free _ => .closed .missing
  | .closed o => .closed o

/-- A file can be written where a file is already, or in a directory. -/
def obstacle? (t : FileTree) (p : PathName) : Option Obstacle :=
  match t.place p with
  | .file .. => none
  | .free _ => none
  | .closed o => some o

/-- The tree after a file is written, the same tree where it cannot be. -/
def write (t : FileTree) (p : PathName) (content : String) : FileTree :=
  match t.place p with
  | .file spot _ => { t with files := (spot, content) :: t.files }
  | .free spot => { t with files := (spot, content) :: t.files }
  | .closed _ => t

/-- Trees as a store of files. -/
def system : FileSystem := ⟨FileTree, look, obstacle?, write⟩

end FileTree

end ConceptInventory.CommandLine
