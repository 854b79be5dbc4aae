/-
# Text.Basic -- blanks, words, lines and numerals

A character is *blank* when it has the Unicode property White_Space: the five controls from TAB to
CR, the space, NEL, the no-break space, and the space, line and paragraph separators.  The
information separators U+001C to U+001F, the zero-width characters and the byte order mark are not
blank.

* `trim` removes the blanks at both ends of a text, `trimEnd` those at its end.
* `words` lists the maximal runs of characters that are not blank.
* `collapse` writes one space for each maximal run of blanks.

A *line* ends at a line feed, and a carriage return just before that line feed belongs to the line's
end.  No other character ends a line: a carriage return anywhere else, also at the very end of the
text, is kept.  A line feed at the end of the text closes the last line and opens no further one.

A *numeral* is a run of decimal digits, at least one, with a plus sign allowed before it.  Leading
zeros do not matter.  Blanks, a minus sign and digits of other scripts do.

A set of code points is a list of closed intervals in increasing order.  The search in it stops at
the first interval that starts above the code point, so the list has to be sorted: `rangesSorted`
says so, and each table is checked against it where it is written.
-/

namespace RandomSentences.Text

set_option autoImplicit false

/-! ## Blanks -/

/-- Has the character the property White_Space? -/
def isBlank (c : Char) : Bool :=
  ('\t' ≤ c && c ≤ '\r') || c == ' ' || c == '\u0085' || c == '\u00A0' || c == '\u1680' ||
    ('\u2000' ≤ c && c ≤ '\u200A') || c == '\u2028' || c == '\u2029' || c == '\u202F' ||
    c == '\u205F' || c == '\u3000'

def trimStart (text : List Char) : List Char :=
  text.dropWhile isBlank

def trimEnd (text : List Char) : List Char :=
  (text.reverse.dropWhile isBlank).reverse

def trim (text : List Char) : List Char :=
  trimEnd (trimStart text)

def trimmed (text : String) : String :=
  String.ofList (trim text.toList)

def startsBlank : List Char → Bool
  | [] => false
  | c :: _ => isBlank c

/-- Every maximal run of blanks becomes one space. -/
def collapse : List Char → List Char
  | [] => []
  | c :: rest =>
      if isBlank c then
        if startsBlank rest then collapse rest else ' ' :: collapse rest
      else c :: collapse rest

/-! ## Words and lines -/

/-- Puts a character in front of the first piece, or makes it a piece of its own. -/
def extendFirst (c : Char) : List (List Char) → List (List Char)
  | [] => [[c]]
  | piece :: pieces => (c :: piece) :: pieces

/-- The maximal runs of characters that are not blank, in order. -/
def words : List Char → List (List Char)
  | [] => []
  | c :: rest =>
      if isBlank c then words rest
      else if startsBlank rest then [c] :: words rest
      else extendFirst c (words rest)

/-- The lines of a text, without their ends. -/
def lines : List Char → List (List Char)
  | [] => []
  | '\n' :: rest => [] :: lines rest
  | '\r' :: '\n' :: rest => [] :: lines rest
  | c :: rest => extendFirst c (lines rest)

/-- What comes before and behind the last place of the mark, if it stands anywhere; of two places
that overlap the later one counts. -/
def cutLast? (mark : List Char) : List Char → Option (List Char × List Char)
  | [] => (mark.isPrefixOf? []).map fun rest => ([], rest)
  | c :: text =>
      match cutLast? mark text with
      | some (before, rest) => some (c :: before, rest)
      | none => (mark.isPrefixOf? (c :: text)).map fun rest => ([], rest)

/-! ## Numerals -/

def digits? (text : List Char) : Option Nat :=
  if text.isEmpty || !text.all Char.isDigit then none else some (Nat.ofDigitChars 10 text 0)

def numeral? (text : String) : Option Nat :=
  match text.toList with
  | '+' :: rest => digits? rest
  | all => digits? all

def numeralBelow? (bound : Nat) (text : String) : Option Nat :=
  (numeral? text).filter (· < bound)

/-! ## Sets of code points -/

/-- Is the code point in one of the closed intervals? -/
def inRanges (code : Nat) : List (Nat × Nat) → Bool
  | [] => false
  | (first, last) :: rest =>
      if code < first then false
      else if code ≤ last then true
      else inRanges code rest

/-- Are the intervals non-empty, in increasing order and apart from each other? -/
def rangesSorted : List (Nat × Nat) → Bool
  | [] => true
  | [(first, last)] => first ≤ last
  | (first, last) :: (next, stop) :: rest =>
      first ≤ last && last < next && rangesSorted ((next, stop) :: rest)

end RandomSentences.Text
