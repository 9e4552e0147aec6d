import Endpoint.Files.Path
import Endpoint.Text.Quoted

/-!
# A tree of files

Directories and the contents of files, by the components of their absolute paths. Two dots in a path lead to the
directory above, and a relative path begins in the directory one is in. Paths and names of more octets than a system
takes cannot be looked for.
-/

namespace Endpoint

/-- What is at a path. -/
inductive FileNode where
  | directory
  | file (bytes : List Nat)
  deriving DecidableEq

/-- The nodes of a tree, and the components of the directory one is in. The root is always a directory. -/
structure FileTree where
  nodes : List (List String × FileNode)
  here : List String

/-- A path that is too long, or has a name that is. -/
structure TooLong where
  path : String
  deriving DecidableEq, Repr

/-- The wording of a failure to look for a path. -/
def TooLong.message (e : TooLong) : String :=
  "[Errno 36] File name too long: " ++ Text.quoted e.path

namespace FileTree

/-- A tree with nothing in it. -/
def empty : FileTree := ⟨[], []⟩

/-- The most octets that a name may have. -/
def maxName : Nat := 255

/-- The most octets that a path may have. -/
def maxPath : Nat := 4095

/-- The node at the components of an absolute path without two dots. -/
def at? (t : FileTree) (parts : List String) : Option FileNode :=
  if parts = [] then some .directory else t.nodes.lookup parts

/-- The components that a path begins with: those of the directory one is in if it is relative. -/
def start (t : FileTree) (p : Path) : List String :=
  if p.slashes = 0 then t.here else []

/-- The node that some components lead to from a directory, if none that is looked for there has too long a name. -/
def walk? (t : FileTree) : List String → List String → Option (Option FileNode)
  | dir, [] => some (t.at? dir)
  | dir, p :: ps =>
    match t.at? dir with
    | some .directory =>
      if p = ".." then walk? t dir.dropLast ps
      else if maxName < p.utf8ByteSize then none
      else walk? t (dir ++ [p]) ps
    | _ => some none

/-- The node at a path, if there is one, unless the path cannot be looked for. -/
def find? (t : FileTree) (p : Path) : Except TooLong (Option FileNode) :=
  if maxPath < p.text.utf8ByteSize then .error ⟨p.text⟩
  else match t.walk? (t.start p) p.parts with
    | some node => .ok node
    | none => .error ⟨p.text⟩

/-- The tree with a node put at the components of a path. -/
def put (t : FileTree) (parts : List String) (node : FileNode) : FileTree :=
  { t with nodes := (parts, node) :: t.nodes.filter fun n => n.1 ≠ parts }

/-- The tree with a directory at the components of a path, and with those above it. Files stay. -/
def putDirectory (t : FileTree) (parts : List String) : FileTree :=
  (List.range parts.length).foldl (fun t i =>
    let dir := parts.take (i + 1)
    if (t.at? dir).isSome then t else t.put dir .directory) t

/-- The components of a path from the root when two dots only take away the component before them. -/
def flatten (t : FileTree) (p : Path) : List String :=
  p.parts.foldl (fun done p => if p = ".." then done.dropLast else done ++ [p]) (t.start p)

/-- The tree with a file at a path, and with the directories above it. -/
def writeFile (t : FileTree) (p : Path) (bytes : List Nat) : FileTree :=
  let parts := t.flatten p
  (t.putDirectory parts.dropLast).put parts (.file bytes)

/-- The tree with a directory at a path, and with those above it. -/
def writeDirectory (t : FileTree) (p : Path) : FileTree :=
  t.putDirectory (t.flatten p)

/-- The tree without the file at a path, if there is one. -/
def remove? (t : FileTree) (p : Path) : Option FileTree :=
  match t.find? p with
  | .ok (some (.file _)) => some { t with nodes := t.nodes.filter fun n => n.1 ≠ t.flatten p }
  | _ => none

/-- A tree with nothing but the directory at a path. -/
def ofDirectory (p : Path) : FileTree :=
  empty.writeDirectory p

end FileTree

end Endpoint
