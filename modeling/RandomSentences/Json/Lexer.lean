/-
# Json.Lexer -- a JSON document, read strictly

The lexer goes through a document one character at a time.  Between lexemes it skips the four JSON
blanks and takes marks as they come.  Within quotes it undoes escapes; a character below U+0020 has
to be escaped there.  An escape `\u` with four hexadecimal digits gives a code point or half of one:
a leading surrogate has to be followed at once by the escape of a trailing one, and a trailing one
may stand nowhere else.

`lex` answers `none` for a document with anything else in it, numbers and the words `true`, `false`
and `null` among that, and for one that ends within quotes.

A *reader* takes what it reads from the front of a list of lexemes and answers with the rest.
`readSequence` undoes `writeSequence` for any way to read a member.  It is told how many members
there may be.  Each of them takes up at least one lexeme, so the number of lexemes in a document is
bound enough for every sequence in it.
-/
import RandomSentences.Json.Lexeme

namespace RandomSentences.Json

set_option autoImplicit false

/-- Where the lexer stands.  Texts are read with their last character first. -/
inductive Mode where
  /-- Between lexemes. -/
  | between
  /-- Within quotes. -/
  | quoted (read : List Char)
  /-- After a reverse solidus within quotes. -/
  | escape (read : List Char)
  /-- Within the digits of an escape, after the leading surrogate if there was one. -/
  | digits (read : List Char) (leading : Option Nat) (missing value : Nat)
  /-- After a leading surrogate. -/
  | surrogate (read : List Char) (leading : Nat)
  /-- After a leading surrogate and a reverse solidus. -/
  | surrogateEscape (read : List Char) (leading : Nat)
deriving DecidableEq

/-- The lexer in a document: where it stands, and the lexemes so far, the last one first. -/
structure Lexer where
  mode : Mode
  found : List Lexeme
deriving DecidableEq

def isGap (c : Char) : Bool :=
  c == ' ' || c == '\t' || c == '\n' || c == '\r'

def mark? (c : Char) : Option Lexeme :=
  if c = '{' then some .openObject
  else if c = '}' then some .closeObject
  else if c = '[' then some .openArray
  else if c = ']' then some .closeArray
  else if c = ',' then some .comma
  else if c = ':' then some .colon
  else none

/-- The character that a letter after a reverse solidus stands for. -/
def unescape? (c : Char) : Option Char :=
  if c = '"' then some '"'
  else if c = '\\' then some '\\'
  else if c = '/' then some '/'
  else if c = 'b' then some '\x08'
  else if c = 'f' then some '\x0C'
  else if c = 'n' then some '\n'
  else if c = 'r' then some '\r'
  else if c = 't' then some '\t'
  else none

/-- The value of a hexadecimal digit, of either case. -/
def hexValue? (c : Char) : Option Nat :=
  if '0' ≤ c ∧ c ≤ '9' then some (c.toNat - '0'.toNat)
  else if 'a' ≤ c ∧ c ≤ 'f' then some (c.toNat - 'a'.toNat + 10)
  else if 'A' ≤ c ∧ c ≤ 'F' then some (c.toNat - 'A'.toNat + 10)
  else none

def isLeading (value : Nat) : Bool :=
  0xD800 ≤ value && value < 0xDC00

def isTrailing (value : Nat) : Bool :=
  0xDC00 ≤ value && value < 0xE000

/-- Where the lexer stands after all four digits of an escape. -/
def afterDigits (read : List Char) (value : Nat) : Option Nat → Option Mode
  | none =>
      if isLeading value then some (.surrogate read value)
      else if isTrailing value then none
      else some (.quoted (Char.ofNat value :: read))
  | some leading =>
      if isTrailing value then
        some (.quoted
          (Char.ofNat (0x10000 + (leading - 0xD800) * 0x400 + (value - 0xDC00)) :: read))
      else none

/-- Goes over one character, or refuses it. -/
def Lexer.step (lexer : Lexer) (c : Char) : Option Lexer :=
  match lexer.mode with
  | .between =>
      if isGap c then some lexer
      else if c = '"' then some ⟨.quoted [], lexer.found⟩
      else (mark? c).map fun mark => ⟨.between, mark :: lexer.found⟩
  | .quoted read =>
      if c = '"' then some ⟨.between, .text (String.ofList read.reverse) :: lexer.found⟩
      else if c = '\\' then some ⟨.escape read, lexer.found⟩
      else if c < ' ' then none
      else some ⟨.quoted (c :: read), lexer.found⟩
  | .escape read =>
      if c = 'u' then some ⟨.digits read none 4 0, lexer.found⟩
      else (unescape? c).map fun char => ⟨.quoted (char :: read), lexer.found⟩
  | .digits read leading missing value => do
      let digit ← hexValue? c
      if missing ≤ 1 then
        let mode ← afterDigits read (value * 16 + digit) leading
        some ⟨mode, lexer.found⟩
      else some ⟨.digits read leading (missing - 1) (value * 16 + digit), lexer.found⟩
  | .surrogate read leading =>
      if c = '\\' then some ⟨.surrogateEscape read leading, lexer.found⟩ else none
  | .surrogateEscape read leading =>
      if c = 'u' then some ⟨.digits read (some leading) 4 0, lexer.found⟩ else none

def lex (document : String) : Option (List Lexeme) := do
  let lexer ← document.toList.foldlM Lexer.step ⟨.between, []⟩
  if lexer.mode = .between then some lexer.found.reverse else none

/-! ## Readers -/

/-- Reads a value from the front of a list of lexemes. -/
abbrev Reader (α : Type) := List Lexeme → Option (α × List Lexeme)

variable {α : Type}

/-- At least one and at most the given number of members, up to the closing mark. -/
def readMembers (closing : Lexeme) (member : Reader α) : Nat → Reader (List α)
  | 0, _ => none
  | bound + 1, input => do
      let (first, rest) ← member input
      match rest with
      | [] => none
      | .comma :: rest => do
          let (others, rest) ← readMembers closing member bound rest
          some (first :: others, rest)
      | mark :: rest => if mark = closing then some ([first], rest) else none

/-- At most the given number of members between an opening and a closing mark. -/
def readSequence (opening closing : Lexeme) (member : Reader α) (bound : Nat) : Reader (List α)
  | first :: second :: rest =>
      if first = opening then
        if second = closing then some ([], rest)
        else readMembers closing member bound (second :: rest)
      else none
  | _ => none

end RandomSentences.Json
