import Sentinels.Source

/-!
# File trees

A working directory with files and directories, from which paths are read as an operating system
resolves them: every part of a path but the last must be a directory, a slash at the end asks for
a directory, and what lies above the working directory is a directory of which nothing is known.
-/

set_option autoImplicit false

namespace Sentinels

/-- What a path may lead to. -/
inductive FileNode
  | file (bytes : List UInt8)
  | directory
deriving DecidableEq, Repr

/--
The files and directories of a working directory, the latest first. Directories above an entry
exist without an entry of their own.
-/
structure FileTree where
  entries : List (List Text × FileNode)
deriving DecidableEq, Repr

/-- A place that the parts of a path lead to. -/
inductive Location
  | inside (parts : List Text)
  | outside
deriving DecidableEq, Repr

/-- The parts of a text between slashes. -/
def splitPath : Text → List Text
  | [] => [[]]
  | c :: rest =>
    match splitPath rest with
    | [] => [[c]]
    | part :: parts => if c = '/' then [] :: part :: parts else (c :: part) :: parts

namespace FileTree

/-- The tree without entries. -/
def empty : FileTree := ⟨[]⟩

/-- Adds an entry. -/
def insert (tree : FileTree) (path : Text) (node : FileNode) : FileTree :=
  let parts := (splitPath path).filter fun part => part ≠ [] ∧ part ≠ ['.']
  ⟨(parts, node) :: tree.entries⟩

/-- What is known of a place inside the tree. -/
def node? (tree : FileTree) (parts : List Text) : Option FileNode :=
  match tree.entries.lookup parts with
  | some node => some node
  | none =>
    if parts.isEmpty || tree.entries.any fun entry => parts.isPrefixOf entry.1 then
      some .directory
    else none

/-- The place that one more part of a path leads to. -/
def step (tree : FileTree) (place : Location) (part : Text) : Except ReadError Location :=
  match place with
  | .outside =>
    if part = [] ∨ part = ['.'] ∨ part = ['.', '.'] then .ok .outside else .error .notFound
  | .inside parts =>
    match tree.node? parts with
    | none => .error .notFound
    | some (.file _) => .error .notDirectory
    | some .directory =>
      if part = [] ∨ part = ['.'] then .ok place
      else if part = ['.', '.'] then
        .ok (if parts.isEmpty then .outside else .inside parts.dropLast)
      else .ok (.inside (parts ++ [part]))

/-- The place that a path leads to. -/
def resolve (tree : FileTree) (path : Text) : Except ReadError Location :=
  match path with
  | [] => .error .notFound
  | c :: _ =>
    (splitPath path).foldlM tree.step (if c = '/' then .outside else .inside [])

/-- Reads the file at a path. -/
def read (tree : FileTree) (path : Text) : ReadResult :=
  match tree.resolve path with
  | .error e => .error e
  | .ok .outside => .error .isDirectory
  | .ok (.inside parts) =>
    match tree.node? parts with
    | none => .error .notFound
    | some .directory => .error .isDirectory
    | some (.file bytes) => .ok bytes

end FileTree

end Sentinels
