/-
# FileTree -- files that can be read, below a working directory

A file tree knows the files below one working directory, each by the names on the way to
it, and the directories that are there without a file.  A directory is there when it is
listed or when something below it is.

A path is followed name by name (`follow`).  Each step starts from a directory, so a
file cannot be gone through, not even by `.` or by a slash at the end.  Above the working
directory, and at the root, there are directories in which nothing is known.

Reading (`read`) also has the limits of the operating system on the length of a name and
of a whole path, in bytes, and refuses a path with a NUL in it, a directory, and a content
that is not UTF-8.
-/
import RandomSentences.Config
import RandomSentences.Fault

namespace RandomSentences

set_option autoImplicit false

inductive FileNode where
  | directory
  | file (content : ByteArray)

/-- The files and listed directories, by the names that lead to them. -/
structure FileTree where
  nodes : List (List String × FileNode)

namespace FileTree

def nameLimit : Nat := 255

/-- The least length of a path that is too long, in bytes. -/
def pathLimit : Nat := 4096

/-- The names on a relative path. -/
def names (path : String) : List String :=
  (path.toList.splitOn '/').filterMap fun piece =>
    if piece = [] ∨ piece = ['.'] then none else some (String.ofList piece)

def ofPaths (paths : List (String × FileNode)) : FileTree :=
  ⟨paths.map fun (path, node) => (names path, node)⟩

/-- What the names lead to. -/
def find? (tree : FileTree) (names : List String) : Option FileNode :=
  match tree.nodes.find? fun (known, _) => known = names with
  | some (_, node) => some node
  | none =>
      if names = [] ∨ tree.nodes.any fun (known, _) => names.isPrefixOf known then some .directory
      else none

/-- Where a path has led so far: above or beside the working directory, or below it. -/
inductive Place where
  | outside
  | below (names : List String)

def at? (tree : FileTree) : Place → Option FileNode
  | .outside => some .directory
  | .below names => tree.find? names

/-- The place that one more piece of a path leads to. -/
def stepTo : Place → List Char → Place
  | place, [] => place
  | place, ['.'] => place
  | .outside, _ => .outside
  | .below names, ['.', '.'] => if names = [] then .outside else .below names.dropLast
  | .below names, piece => .below (names ++ [String.ofList piece])

/-- Is the piece a name that is looked up? -/
def isName (piece : List Char) : Bool :=
  piece != [] && piece != ['.'] && piece != ['.', '.']

/-- Goes on along the pieces of a path, from a place where there is something. -/
def follow (tree : FileTree) (place : Place) (node : FileNode) :
    List (List Char) → Except SystemFault FileNode
  | [] => .ok node
  | piece :: rest =>
      match node with
      | .file _ => .error .notDirectory
      | .directory =>
          if isName piece && nameLimit < (String.ofList piece).utf8ByteSize then
            .error .nameTooLong
          else
            match place, isName piece with
            | .outside, true => .error .notFound
            | _, _ =>
                match tree.at? (stepTo place piece) with
                | none => .error .notFound
                | some next => follow tree (stepTo place piece) next rest

def locate (tree : FileTree) (path : String) : Except SystemFault FileNode :=
  if path = "" then .error .notFound
  else if pathLimit ≤ path.utf8ByteSize then .error .nameTooLong
  else if Path.isAbsolute path then tree.follow .outside .directory (path.toList.splitOn '/')
  else tree.follow (.below []) .directory (path.toList.splitOn '/')

def read (tree : FileTree) (path : String) : Except Fault String :=
  if path.toList.contains '\x00' then .error .nulInPath
  else
    match tree.locate path with
    | .error fault => .error (.system fault)
    | .ok .directory => .error (.system .isDirectory)
    | .ok (.file content) =>
        match String.fromUTF8? content with
        | some text => .ok text
        | none => .error .notText

end FileTree

end RandomSentences
