/-
# Rules.Basic -- productions, and those of each symbol by its canonical name

A word of a production is a *reference* to another symbol when it is written in angle brackets, `<`
first and `>` last, and otherwise a *terminal*, which stands for itself.  The empty brackets `<>` are
a reference; a lone bracket is a terminal.  A production is a list of tokens, and the empty list is
one: it expands to nothing.

Symbols are matched without regard to case or surrounding blanks: the *canonical name* of a symbol is
its name trimmed, then in lower case.  `insert` stores under the canonical name and `get?` looks the
canonical name up, so the last insertion of a symbol is the one that counts (`get?_insert`).

Rules read from outside may be stored under names that are not canonical (`ofEntries`).  Such a name
is listed among the others and never found by `get?`.

Rules are an extensional ordered map: they are equal when the same is stored under every name
(`ext_stored`), and the names come in the order of their code points.
-/
import RandomSentences.Text.Case
import Std.Data.ExtTreeMap

namespace RandomSentences

set_option autoImplicit false

/-! ## Tokens -/

/-- One word of a production. -/
inductive Token where
  /-- Text that stands for itself. -/
  | terminal (text : String)
  /-- A reference to the symbol of that name. -/
  | nonTerminal (text : String)
deriving DecidableEq

/-- One way to expand a symbol. -/
abbrev Production := List Token

namespace Token

def isReference (word : String) : Bool :=
  match word.toList with
  | '<' :: rest => rest.getLast? == some '>'
  | _ => false

def ofWord (word : String) : Token :=
  if isReference word then .nonTerminal word else .terminal word

def text : Token → String
  | .terminal text => text
  | .nonTerminal text => text

end Token

namespace Production

/-- The production on one line: its words, in order. -/
def ofLine (line : String) : Production :=
  (Text.words line.toList).map fun word => Token.ofWord (String.ofList word)

end Production

/-! ## Rules -/

/-- The name under which a symbol is stored and looked up. -/
def canonicalName (name : String) : String :=
  String.ofList (Text.lowerCase (Text.trim name.toList))

/-- The productions of each defined symbol. -/
structure Rules where
  stored : Std.ExtTreeMap String (List Production)
deriving DecidableEq

namespace Rules

/-- The rules that define no symbol. -/
def empty : Rules := ⟨∅⟩

/-- Gives a symbol its productions, in place of any it had. -/
def insert (rules : Rules) (name : String) (productions : List Production) : Rules :=
  ⟨rules.stored.insert (canonicalName name) productions⟩

def get? (rules : Rules) (name : String) : Option (List Production) :=
  rules.stored[canonicalName name]?

def contains (rules : Rules) (name : String) : Bool :=
  (rules.get? name).isSome

/-- The number of names something is stored under. -/
def size (rules : Rules) : Nat := rules.stored.size

def isEmpty (rules : Rules) : Bool := rules.stored.isEmpty

/-- The names as they are stored, in increasing order. -/
def names (rules : Rules) : List String := rules.stored.keys

/-- The names as they are stored with their productions, in increasing order of the names. -/
def entries (rules : Rules) : List (String × List Production) := rules.stored.toList

/-- The rules of the entries, names as they are; of two entries of one name the later counts. -/
def ofEntries (entries : List (String × List Production)) : Rules :=
  ⟨Std.ExtTreeMap.ofList entries⟩

/-- Rules are equal when the same is stored under every name. -/
theorem ext_stored {s t : Rules} (same : ∀ name : String, s.stored[name]? = t.stored[name]?) :
    s = t := by
  cases s; cases t
  exact congrArg Rules.mk (Std.ExtTreeMap.ext_getElem? same)

/-- An insertion counts for every spelling of its symbol, and for no other symbol. -/
theorem get?_insert (rules : Rules) (name other : String) (productions : List Production) :
    (rules.insert name productions).get? other =
      if canonicalName name = canonicalName other then some productions else rules.get? other := by
  simp only [get?, insert, Std.ExtTreeMap.getElem?_insert, Std.compare_eq_iff_eq]

@[simp] theorem get?_empty (name : String) : empty.get? name = none := by
  simp [get?, empty]

end Rules

end RandomSentences
