/-
# Grammar -- rules ready to make sentences

A grammar is rules with a configuration and a filter.  A sentence is the expansion of a
symbol, put through the filter, and trimmed at the end where the configuration asks for
it.  The symbol is the start symbol of the configuration unless another one is given.

Grammars are read through a function from paths to texts, so that nothing here depends
on where the files are.
-/
import RandomSentences.Config
import RandomSentences.Expansion
import RandomSentences.Fault
import RandomSentences.Filter
import RandomSentences.GrammarFile

namespace RandomSentences

set_option autoImplicit false

/-- Rules, how they are used, and what is done to each sentence. -/
structure Grammar where
  rules : Rules
  config : Config := {}
  filter : Filter := Filter.punctuation

namespace Grammar

/-- The grammar in a text, with the usual configuration and filter. -/
def ofText (text : String) : Grammar := { rules := Rules.ofText text }

def ofFile (read : String → Except Fault String) (path : String) : Except LoadError Grammar :=
  match read path with
  | .ok text => .ok (ofText text)
  | .error cause => .error (.unreadable path cause)

/-- The grammar of a name, found by the configuration that it then has. -/
def find (read : String → Except Fault String) (name : String) (config : Config) :
    Except LoadError Grammar :=
  (ofFile read (config.pathOf name)).map fun grammar => { grammar with config := config }

/-- What a grammar makes of the text of an expansion. -/
def finish (grammar : Grammar) (text : String) : String :=
  let filtered := grammar.filter.apply text
  if grammar.config.trimOutput then Text.trimmed filtered else filtered

/-- A sentence from any symbol, drawn from the stream from a position on. -/
def sentenceFrom (grammar : Grammar) (limits : Limits) (stream : WordStream) (symbol : String)
    (position : Nat) : Option (String × Nat) :=
  (grammar.rules.expand limits stream symbol position).map fun (text, after) =>
    (grammar.finish text, after)

def sentence (grammar : Grammar) (limits : Limits) (stream : WordStream) (position : Nat) :
    Option (String × Nat) :=
  grammar.sentenceFrom limits stream grammar.config.startSymbol position

/-- That many sentences one after the other from a position on, behind those already made, of
which the last comes first. -/
def sentencesFrom (grammar : Grammar) (limits : Limits) (stream : WordStream) :
    Nat → Nat → List String → Option (List String)
  | 0, _, made => some made.reverse
  | count + 1, position, made =>
      match grammar.sentence limits stream position with
      | none => none
      | some (next, after) => sentencesFrom grammar limits stream count after (next :: made)

def sentences (grammar : Grammar) (limits : Limits) (stream : WordStream) (count : Nat) :
    Option (List String) :=
  grammar.sentencesFrom limits stream count 0 []

end Grammar

end RandomSentences
