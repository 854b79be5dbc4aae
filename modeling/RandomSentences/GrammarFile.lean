/-
# GrammarFile -- from the text of a grammar to its rules

A grammar file is prose with *blocks* in it.  A block opens at a `{` and closes at the next `}`; what
stands between them is its body, where a further `{` has no meaning.  Outside a block everything but
`{` is prose, and so is a `{` that no `}` follows.  The scan has two states: outside of any block
(`none`), or inside a block with the part of the body already read (`some read`, last character
first).

On a line of a block a `;` ends a production and a tab is padding: neither means anything, and both
are deleted wherever they stand.  Then the blanks at the end of the line go, and every run of blanks
that is left becomes one space.  A run at the start of the line is kept, as one space.  A tab is
deleted and not read as a blank, so it joins the words on its two sides.

The body of a block is one *definition*.  Its lines that are not empty, each made tidy, are first the
name of a symbol and then one production each.  A line is empty when it has no character at all: a
line of blanks or of a lone `;` is not, and stands for the production without tokens.

Rules are built from definitions in their order, so the last definition of a symbol is the one that
counts; a definition without a line defines nothing.
-/
import RandomSentences.Rules.Basic

namespace RandomSentences

set_option autoImplicit false

namespace GrammarFile

/-! ## Blocks -/

/-- The bodies of the blocks in the rest of a text, given where the scan stands. -/
def scanBlocks : Option (List Char) → List Char → List (List Char)
  | _, [] => []
  | none, c :: rest =>
      if c = '{' then scanBlocks (some []) rest else scanBlocks none rest
  | some read, c :: rest =>
      if c = '}' then read.reverse :: scanBlocks none rest
      else scanBlocks (some (c :: read)) rest

def blocks (text : String) : List String :=
  (scanBlocks none text.toList).map String.ofList

/-! ## Lines -/

def isPadding (c : Char) : Bool :=
  c == '\t' || c == ';'

def tidyChars (line : List Char) : List Char :=
  Text.collapse (Text.trimEnd (line.filter fun c => !isPadding c))

def tidyLine (line : String) : String :=
  String.ofList (tidyChars line.toList)

/-- The lines of a block's body that are not empty, each made tidy. -/
def definitionLines (body : String) : List String :=
  ((Text.lines body.toList).filter fun line => !line.isEmpty).map fun line =>
    String.ofList (tidyChars line)

end GrammarFile

namespace Rules

/-- Adds the definition with the given lines: the name, then the productions. -/
def define (rules : Rules) : List String → Rules
  | [] => rules
  | name :: productions => rules.insert name (productions.map Production.ofLine)

def ofDefinitions (definitions : List (List String)) : Rules :=
  definitions.foldl define empty

def ofText (text : String) : Rules :=
  ofDefinitions ((GrammarFile.blocks text).map GrammarFile.definitionLines)

end Rules

end RandomSentences
