/-
# Json.Lexeme -- what a JSON document is made of, and how it is laid out

A document without numbers, truth values and null is a list of *lexemes*: the four brackets, the
comma, the colon, and quoted texts.  The blanks between them carry no meaning, so a document is
written by laying a list of lexemes out and read by recovering that list (`Json.Lexer`).

In its spelling a text stands between quotes, with the quote, the reverse solidus and the controls
below U+0020 escaped, by a letter where there is one.  Every other character, whether ASCII or not,
stands for itself.

Objects and arrays are both written as an opening mark, the members with a comma between each two,
and the closing mark; `writeSequence` does this for any way to write a member.

The *compact* layout puts nothing between lexemes.  The *indented* layout gives every member of an
object or array a line of its own, two spaces further in than the line of its bracket, and puts one
space after a colon; the brackets of an empty object or array stand together.  What stands between
two neighbours depends on them alone and on the depth of nesting (`gap`).
-/

namespace RandomSentences.Json

set_option autoImplicit false

/-- One mark or text of a document. -/
inductive Lexeme where
  | openObject
  | closeObject
  | openArray
  | closeArray
  | comma
  | colon
  /-- A text, as it is after its escapes are undone. -/
  | text (content : String)
deriving DecidableEq

/-- The spelling of one character within quotes. -/
def escapeChar (c : Char) : List Char :=
  if c = '"' then ['\\', '"']
  else if c = '\\' then ['\\', '\\']
  else if c = '\x08' then ['\\', 'b']
  else if c = '\x0C' then ['\\', 'f']
  else if c = '\n' then ['\\', 'n']
  else if c = '\r' then ['\\', 'r']
  else if c = '\t' then ['\\', 't']
  else if c < ' ' then
    ['\\', 'u', '0', '0', Nat.digitChar (c.toNat / 16), Nat.digitChar (c.toNat % 16)]
  else [c]

namespace Lexeme

def spelling : Lexeme → List Char
  | .openObject => ['{']
  | .closeObject => ['}']
  | .openArray => ['[']
  | .closeArray => [']']
  | .comma => [',']
  | .colon => [':']
  | .text content => '"' :: (content.toList.flatMap escapeChar ++ ['"'])

def isOpening : Lexeme → Bool
  | .openObject => true
  | .openArray => true
  | _ => false

def isClosing : Lexeme → Bool
  | .closeObject => true
  | .closeArray => true
  | _ => false

end Lexeme

/-! ## Sequences -/

def separated : List (List Lexeme) → List Lexeme
  | [] => []
  | [member] => member
  | member :: next :: rest => member ++ .comma :: separated (next :: rest)

def writeSequence (opening closing : Lexeme) (members : List (List Lexeme)) : List Lexeme :=
  opening :: (separated members ++ [closing])

/-! ## Layouts -/

def compact (lexemes : List Lexeme) : String :=
  String.ofList (lexemes.flatMap Lexeme.spelling)

def lineBreak (depth : Nat) : List Char :=
  '\n' :: List.replicate (2 * depth) ' '

def depthAfter (depth : Nat) (lexeme : Lexeme) : Nat :=
  if lexeme.isOpening then depth + 1 else if lexeme.isClosing then depth - 1 else depth

/-- What stands between a lexeme and the next one, at the depth after the first. -/
def gap (depth : Nat) (lexeme next : Lexeme) : List Char :=
  if lexeme.isOpening then
    if next.isClosing then [] else lineBreak depth
  else if lexeme = .comma then lineBreak depth
  else if lexeme = .colon then [' ']
  else if next.isClosing then lineBreak (depth - 1)
  else []

/-- The lexemes laid out from a depth on. -/
def indentFrom (depth : Nat) : List Lexeme → List Char
  | [] => []
  | [lexeme] => lexeme.spelling
  | lexeme :: next :: rest =>
      lexeme.spelling ++ gap (depthAfter depth lexeme) lexeme next ++
        indentFrom (depthAfter depth lexeme) (next :: rest)

def indented (lexemes : List Lexeme) : String :=
  String.ofList (indentFrom 0 lexemes)

end RandomSentences.Json
