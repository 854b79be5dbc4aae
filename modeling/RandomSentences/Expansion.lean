/-
# Expansion -- from a symbol to the text it stands for

To expand a symbol, one of its productions is chosen from the stream, and then the
tokens of that production are written from left to right: a terminal followed by
one space, a reference as the expansion of its symbol, with a choice of its own
each time.  The production is chosen before anything in it is expanded.  A symbol
that is undefined or has no production expands to nothing and draws no word.

A grammar may refer to itself, and a stream may refuse for ever, so an expansion
runs under *limits*: how deep symbols may lie within each other, and how many words
one choice may draw.  The answer `none` means that a limit was reached, and nothing
else; any other answer is the text with the position in the stream after it.
-/
import RandomSentences.Random
import RandomSentences.Rules.Basic

namespace RandomSentences

set_option autoImplicit false

/-- How far an expansion may go. -/
structure Limits where
  /-- How deep symbols may lie within each other. -/
  depth : Nat
  /-- How many words may be drawn for one choice. -/
  draws : Nat

/-- Limits beyond the reach of any machine. -/
def Limits.ample : Limits := ⟨1 <<< 62, 1 <<< 62⟩

/-- The text of a production, given how to expand a symbol. -/
def expandTokens (expandSymbol : String → Nat → Option (String × Nat)) :
    Production → Nat → Option (String × Nat)
  | [], position => some ("", position)
  | .terminal text :: rest, position => do
      let (after, position) ← expandTokens expandSymbol rest position
      some (text ++ " " ++ after, position)
  | .nonTerminal name :: rest, position => do
      let (here, position) ← expandSymbol name position
      let (after, position) ← expandTokens expandSymbol rest position
      some (here ++ after, position)

namespace Rules

/-- Expands a symbol down to the given depth. -/
def expandTo (rules : Rules) (stream : WordStream) (draws : Nat) :
    Nat → String → Nat → Option (String × Nat)
  | 0, _, _ => none
  | depth + 1, symbol, position =>
      match rules.get? symbol with
      | none => some ("", position)
      | some [] => some ("", position)
      | some productions => do
          let (choice, position) ← Choice.choose stream productions.length draws position
          let production ← productions[choice]?
          expandTokens (expandTo rules stream draws depth) production position

def expand (rules : Rules) (limits : Limits) (stream : WordStream) (symbol : String)
    (position : Nat) : Option (String × Nat) :=
  expandTo rules stream limits.draws limits.depth symbol position

/-- The text of a production, drawn from the stream from a position on. -/
def expandWithin (rules : Rules) (limits : Limits) (stream : WordStream)
    (production : Production) (position : Nat) : Option (String × Nat) :=
  expandTokens (rules.expand limits stream) production position

end Rules

end RandomSentences
