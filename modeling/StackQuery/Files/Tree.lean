import StackQuery.Text.Quoted

/-!
# Paths and a tree of files

A path is taken apart at its slashes; empty parts and single dots say nothing. A tree holds files and
directories by their paths; the directories that these lie in are there as well.
-/
namespace StackQuery.Files

/-- A path: what it begins with if it is absolute, and its parts. -/
structure Path where
  root : String
  parts : List String
  deriving DecidableEq, Repr

namespace Path

/-- The path of a text. Exactly two slashes at the front are kept apart from one. -/
def ofText (text : String) : Path :=
  let front := text.toList.takeWhile (· == '/')
  let root := if front.length == 0 then "" else if front.length == 2 then "//" else "/"
  ⟨root, ((text.toList.splitOn '/').map String.ofList).filter fun part => part != "" && part != "."⟩

def text (p : Path) : String :=
  if p.root == "" && p.parts.isEmpty then "." else p.root ++ "/".intercalate p.parts

def child (p : Path) (part : String) : Path := { p with parts := p.parts ++ [part] }

/-- One directory up. Above the root stands the root; directories above the working directory are
written with double dots. -/
def climb (p : Path) : Path :=
  if p.parts.all (· == "..") then
    if p.root == "" then p.child ".." else p
  else { p with parts := p.parts.dropLast }

def parent (p : Path) : Path := { p with parts := p.parts.dropLast }

def collapse (p : Path) : Path :=
  p.parts.foldl (fun q part => if part == ".." then q.climb else q.child part) ⟨p.root, []⟩

def isBelow (p q : Path) : Bool :=
  p.root == q.root && q.parts.length < p.parts.length && q.parts.isPrefixOf p.parts

def holdsNul (p : Path) : Bool := p.parts.any fun part => part.toList.contains '\x00'

end Path

/-- What the system has against a path. -/
inductive Fault where
  | missing
  | taken
  | notDirectory
  | directory
  | tooLong
  deriving DecidableEq, Repr

def Fault.text : Fault → String
  | .missing => "[Errno 2] No such file or directory"
  | .taken => "[Errno 17] File exists"
  | .notDirectory => "[Errno 20] Not a directory"
  | .directory => "[Errno 21] Is a directory"
  | .tooLong => "[Errno 36] File name too long"

/-- A path that the system is not asked about, since it holds a null character. -/
structure NulInPath where
  deriving DecidableEq, Repr

def NulInPath.message (_ : NulInPath) : String := "embedded null byte"

inductive FileError where
  | refused (fault : Fault) (path : String)
  | nul (error : NulInPath)
  deriving DecidableEq, Repr

def FileError.message : FileError → String
  | .refused fault path => fault.text ++ ": " ++ Text.quote path
  | .nul error => error.message

def nullDevice : Path := ⟨"/", ["dev", "null"]⟩

/-- Contents of files by their paths, and directories; double dots are carried out. -/
structure Tree where
  files : List (Path × List UInt8)
  directories : List Path

namespace Tree

def empty : Tree := ⟨[(nullDevice, [])], []⟩

def insert (t : Tree) (p : Path) (content : List UInt8) : Tree :=
  { t with files := (p.collapse, content) :: t.files }

def insertDirectory (t : Tree) (p : Path) : Tree :=
  { t with directories := p.collapse :: t.directories }

def ofList (files : List (String × List UInt8)) : Tree :=
  ⟨files.map (fun f => ((Path.ofText f.1).collapse, f.2)) ++ empty.files, []⟩

/-- The directory is the working directory, one above it or the root, it is in the tree, or something
in the tree lies below it. -/
def hasDirectory (t : Tree) (p : Path) : Bool :=
  p.parts.all (· == "..") || t.directories.any (fun d => d == p || d.isBelow p) ||
    t.files.any fun f => f.1.isBelow p

inductive Entry where
  | file (content : List UInt8)
  | directory (path : Path)

def maxPartBytes : Nat := 255

def maxPathBytes : Nat := 4095

def enter (t : Tree) (entry : Entry) (part : String) : Except Fault Entry :=
  match entry with
  | .file _ => .error .notDirectory
  | .directory path =>
    if part == ".." then .ok (.directory path.climb)
    else if maxPartBytes < part.utf8ByteSize then .error .tooLong
    else
      let inner := path.child part
      match t.files.lookup inner with
      | some content => .ok (.file content)
      | none => if t.hasDirectory inner then .ok (.directory inner) else .error .missing

/-- What stands at a path. The first part in the way decides what the system has against it. -/
def lookup (t : Tree) (p : Path) : Except Fault Entry :=
  if maxPathBytes < p.text.utf8ByteSize then .error .tooLong
  else p.parts.foldlM t.enter (.directory ⟨p.root, []⟩)

/-- Something stands at a path. Nobody knows of a path that is too long. -/
def present (t : Tree) (p : Path) : Except FileError Bool :=
  if p.holdsNul then .ok false
  else match t.lookup p with
    | .ok _ => .ok true
    | .error .tooLong => .error (.refused .tooLong p.text)
    | .error _ => .ok false

def openFile (t : Tree) (p : Path) : Except FileError (List UInt8) :=
  if p.holdsNul then .error (.nul ⟨⟩)
  else match t.lookup p with
    | .ok (.file content) => .ok content
    | .ok (.directory _) => .error (.refused .directory p.text)
    | .error fault => .error (.refused fault p.text)

def leadsToDirectory (t : Tree) (p : Path) : Bool :=
  match t.lookup p with
  | .ok (.directory _) => true
  | _ => false

def makeDirectory (t : Tree) (p : Path) : Except Fault Tree :=
  match t.lookup p with
  | .ok _ => .error .taken
  | .error .missing => if t.leadsToDirectory p.parent then .ok (t.insertDirectory p) else .error .missing
  | .error fault => .error fault

/-- Makes the directory with some parts, given from the last one on, and those that it lies in. Where it cannot be
made it may be there already. -/
def makeDirectories (root : String) : (parts : List String) → Tree → Except FileError Unit × Tree
  | [], t => (.ok (), t)
  | part :: outer, t =>
    let p : Path := ⟨root, (part :: outer).reverse⟩
    let orThere (t : Tree) (fault : Fault) : Except FileError Unit × Tree :=
      (if t.leadsToDirectory p then .ok () else .error (.refused fault p.text), t)
    match t.makeDirectory p with
    | .ok t => (.ok (), t)
    | .error .missing =>
      match makeDirectories root outer t with
      | (.error e, t) => (.error e, t)
      | (.ok (), t) =>
        match t.makeDirectory p with
        | .ok t => (.ok (), t)
        | .error fault => orThere t fault
    | .error fault => orThere t fault

/-- Creates an empty file, with the directories it lies in, unless it is there. What was made stays where the rest
fails. -/
def create (t : Tree) (p : Path) : Except FileError Unit × Tree :=
  if p.parent.holdsNul then (.error (.nul ⟨⟩), t)
  else match makeDirectories p.root p.parent.parts.reverse t with
    | (.error e, t) => (.error e, t)
    | (.ok (), t) =>
      match t.openFile p.collapse with
      | .ok _ => (.ok (), t)
      | .error (.refused .missing _) => (.ok (), t.insert p [])
      | .error e => (.error e, t)

end Tree

end StackQuery.Files
