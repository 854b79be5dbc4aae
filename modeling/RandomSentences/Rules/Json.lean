/-
# Rules.Json -- rules as a JSON document

Rules are an object with a member for each stored name, in the order of the names.  The
value of a member is the array of the productions, a production is the array of its tokens,
and a token is an object with one member that is named for its kind and has its text as the
value.

A document that is read may have its members in any order; of two members with one name
the later one counts.  Names and texts are kept as they are written: a name need not be
canonical, and the kind of a token need not agree with its text.
-/
import RandomSentences.Json.Lexer
import RandomSentences.Rules.Basic

namespace RandomSentences

set_option autoImplicit false

open Json (Lexeme Reader)

namespace Token

def lexemes : Token → List Lexeme
  | .terminal text => [.openObject, .text "Terminal", .colon, .text text, .closeObject]
  | .nonTerminal text => [.openObject, .text "NonTerminal", .colon, .text text, .closeObject]

def read : Reader Token
  | .openObject :: .text kind :: .colon :: .text text :: .closeObject :: rest =>
      if kind = "Terminal" then some (.terminal text, rest)
      else if kind = "NonTerminal" then some (.nonTerminal text, rest)
      else none
  | _ => none

/-- The token as a JSON document on one line. -/
def toJson (token : Token) : String := Json.compact token.lexemes

end Token

namespace Production

def lexemes (production : Production) : List Lexeme :=
  Json.writeSequence .openArray .closeArray (production.map Token.lexemes)

/-- Reads a production with at most the given number of tokens. -/
def read (bound : Nat) : Reader Production :=
  Json.readSequence .openArray .closeArray Token.read bound

end Production

namespace Rules

def entryLexemes (entry : String × List Production) : List Lexeme :=
  .text entry.1 :: .colon ::
    Json.writeSequence .openArray .closeArray (entry.2.map Production.lexemes)

/-- Reads a name and its productions, within the given number for each of its sequences. -/
def readEntry (bound : Nat) : Reader (String × List Production)
  | .text name :: .colon :: rest => do
      let (productions, rest) ←
        Json.readSequence .openArray .closeArray (Production.read bound) bound rest
      some ((name, productions), rest)
  | _ => none

def lexemes (rules : Rules) : List Lexeme :=
  Json.writeSequence .openObject .closeObject (rules.entries.map entryLexemes)

/-- The rules as a JSON document, a line for each member. -/
def toJson (rules : Rules) : String := Json.indented rules.lexemes

/-- The rules in a JSON document; `none` when it is not a document of rules. -/
def ofJson? (document : String) : Option Rules := do
  let lexemes ← Json.lex document
  let bound := lexemes.length
  let (entries, rest) ←
    Json.readSequence .openObject .closeObject (readEntry bound) bound lexemes
  if rest = [] then some (ofEntries entries) else none

end Rules

end RandomSentences
