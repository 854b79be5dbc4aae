/-
# Config -- where sentences start, and where grammars are found

A path is a text, and what it means is its list of *components*: the root, if it starts with a `/`,
and then the names between the slashes.  Empty names and the name `.` say nothing and are left out,
but for a `.` that starts a path; `..` is a component of its own and is not resolved.  So `a//b/.` and
`a/b` have the same components.  Two questions are asked of components and not of the text: whether
one path lies under another (`liesUnder`), and what the extension of a file's name is (`extension?`).

A grammar is asked for by a bare name, and `pathOf` turns that into the path of a file: `poem` is
`grammars/poem.g`.  A name that is absolute or already lies under the grammar directory is not put
there again, and a name that already has the extension is not given it again.
-/

namespace RandomSentences

set_option autoImplicit false

namespace Path

/-! ## Paths -/

/-- One step on the way to a file. -/
inductive Component where
  /-- The root of all files. -/
  | root
  /-- The directory the step starts from. -/
  | here
  /-- The directory above. -/
  | up
  /-- The entry of that name. -/
  | entry (name : String)
deriving DecidableEq

/-- The component that what stands between two slashes is, unless it comes first. -/
def component? (piece : List Char) : Option Component :=
  if piece = [] ∨ piece = ['.'] then none
  else if piece = ['.', '.'] then some .up
  else some (.entry (String.ofList piece))

def isAbsolute (path : String) : Bool :=
  path.toList.head? == some '/'

def components (path : String) : List Component :=
  match path.toList.splitOn '/' with
  | [] => []
  | first :: rest =>
      let start :=
        if isAbsolute path then [.root]
        else if first = ['.'] then [.here]
        else (component? first).toList
      start ++ rest.filterMap component?

/-- Do the components of the path start with those of the directory? -/
def liesUnder (path directory : String) : Bool :=
  (components directory).isPrefixOf (components path)

def join (directory path : String) : String :=
  if isAbsolute path then path
  else
    match directory.toList.getLast? with
    | none => path
    | some '/' => directory ++ path
    | some _ => directory ++ "/" ++ path

/-- What comes behind the last full stop of a name, if the name does not start there. -/
def extensionOf? (name : List Char) : Option (List Char) :=
  match name.reverse.dropWhile (· != '.') with
  | '.' :: _ :: _ => some (name.reverse.takeWhile (· != '.')).reverse
  | _ => none

def extension? (path : String) : Option String :=
  match (components path).getLast? with
  | some (.entry name) => (extensionOf? name.toList).map String.ofList
  | _ => none

end Path

/-! ## Configurations -/

/-- How a grammar is found and used. -/
structure Config where
  /-- The symbol that a sentence is the expansion of. -/
  startSymbol : String := "<start>"
  /-- Are the blanks at both ends of a sentence removed? -/
  trimOutput : Bool := true
  /-- The directory in which bare names are looked up. -/
  grammarDir : String := "grammars"
  /-- The extension of grammar files, without its full stop. -/
  extension : String := "g"
deriving DecidableEq

namespace Config

/-- The path of a grammar before its extension is seen to. -/
def placed (config : Config) (name : String) : String :=
  if Path.isAbsolute name || Path.liesUnder name config.grammarDir then name
  else Path.join config.grammarDir name

def pathOf (config : Config) (name : String) : String :=
  if Path.extension? (config.placed name) = some config.extension then config.placed name
  else config.placed name ++ "." ++ config.extension

end Config

end RandomSentences
