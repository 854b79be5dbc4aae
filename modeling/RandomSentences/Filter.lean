/-
# Filter -- what is done to a text after its expansion

A filter is a function on texts with a name.  `punctuation` is the one that a grammar has unless it
is given another.

Words written one by one leave blanks around marks.  A mark that *closes up* (`. , ? ! : ) ^`) stands
right behind the word before it, and a mark that *opens* (`(` and `^`) right in front of the word
after it.  So the blanks before a closing mark go, and the blanks after an opening mark; `^` is both.
Every other blank stays as it is.  The text is tightened in two passes, before closing marks and then
after opening ones.
-/
import RandomSentences.Text.Basic

namespace RandomSentences

set_option autoImplicit false

namespace Punctuation

/-! ## Marks and the blanks around them -/

/-- Does the mark stand right behind what is before it? -/
def isClosing (c : Char) : Bool :=
  c == '.' || c == ',' || c == '?' || c == '!' || c == ':' || c == ')' || c == '^'

/-- Does the mark stand right in front of what is after it? -/
def isOpening (c : Char) : Bool :=
  c == '(' || c == '^'

def startsClosing : List Char → Bool
  | [] => false
  | c :: _ => isClosing c

/-- The text without the blanks before closing marks. -/
def tightenClosing : List Char → List Char
  | [] => []
  | c :: rest =>
      let kept := tightenClosing rest
      if Text.isBlank c && startsClosing kept then kept else c :: kept

/-- The text without the blanks after opening marks; are those at its start after one? -/
def tightenOpening : Bool → List Char → List Char
  | _, [] => []
  | afterOpening, c :: rest =>
      if afterOpening && Text.isBlank c then tightenOpening true rest
      else c :: tightenOpening (isOpening c) rest

def tighten (text : List Char) : List Char :=
  tightenOpening false (tightenClosing text)

/-- The text without the blanks before closing and after opening marks. -/
def closeGaps (text : String) : String :=
  String.ofList (tighten text.toList)

end Punctuation

/-! ## Filters -/

/-- A named function on texts. -/
structure Filter where
  name : String
  apply : String → String

namespace Filter

def keep : Filter := ⟨"noop", id⟩

def punctuation : Filter := ⟨"punctuation", Punctuation.closeGaps⟩

end Filter

end RandomSentences
