/-
# Proofs.Derivation -- the tree of choices behind an expansion

A *derivation* of a symbol says how the symbol is expanded: not at all, when it has
no production, and otherwise by one of its productions, with a derivation for every
reference in it.  The tokens of a production are derived as a *row*.  Both are
families over what they derive, so a derivation of a symbol picks among the
productions of that very symbol and no other tree can be written down.

`Rules.derive` is the expansion again, under the same limits and on the same stream,
except that it answers the derivation and not its text.  Two equations carry
everything that is said about expansions by their trees:

* `expand_eq_derive`: the text of an expansion is the *yield* of its derivation;
* `derive_eq_some_iff`: under given limits the derivation is a given tree just when the
  tree is not too deep and its picks, a node before what is below it and the left before
  the right, are read off the stream one after the other.

So limits decide whether there is an answer and never which (`expand_mono`).
-/
import RandomSentences.Expansion
import RandomSentences.Proofs.Choice

namespace RandomSentences

set_option autoImplicit false

open Choice (Pick Reads)

namespace Rules

/-- The productions of a symbol; an undefined symbol has none. -/
def productions (rules : Rules) (symbol : String) : List Production :=
  (rules.get? symbol).getD []

@[simp] theorem productions_empty (symbol : String) : empty.productions symbol = [] := by
  rw [productions, get?_empty]
  rfl

theorem productions_insert (rules : Rules) (name symbol : String) (productions : List Production) :
    (rules.insert name productions).productions symbol =
      if canonicalName name = canonicalName symbol then productions else rules.productions symbol := by
  rw [Rules.productions, get?_insert]
  split <;> rfl

/-- Has every symbol fewer productions than there are 32-bit words? -/
def WordSized (rules : Rules) : Prop :=
  ∀ symbol, (rules.productions symbol).length < 2 ^ 32

end Rules

/-! ## Trees -/

mutual

/-- How a symbol is expanded. -/
inductive Derivation (rules : Rules) : String → Type where
  /-- A symbol without productions stands for nothing. -/
  | silent {symbol : String} (none_ : rules.productions symbol = []) : Derivation rules symbol
  /-- One production of the symbol, and how its tokens are expanded. -/
  | choice {symbol : String} (index : Fin (rules.productions symbol).length)
      (row : Row rules (rules.productions symbol)[index]) : Derivation rules symbol

/-- How the tokens of a production are expanded. -/
inductive Row (rules : Rules) : Production → Type where
  | nil : Row rules []
  | word {tokens : Production} (text : String) (rest : Row rules tokens) :
      Row rules (.terminal text :: tokens)
  | tree {name : String} {tokens : Production} (tree : Derivation rules name)
      (rest : Row rules tokens) : Row rules (.nonTerminal name :: tokens)

end

variable {rules : Rules}

mutual

def Derivation.yield : {symbol : String} → Derivation rules symbol → String
  | _, .silent _ => ""
  | _, .choice _ row => row.yield

/-- The text of a row: a space after every word, and what each reference yields. -/
def Row.yield : {tokens : Production} → Row rules tokens → String
  | _, .nil => ""
  | _, .word text rest => text ++ " " ++ rest.yield
  | _, .tree tree rest => tree.yield ++ rest.yield

end

mutual

/-- The choices of a derivation, a node before what is below it. -/
def Derivation.picks : {symbol : String} → Derivation rules symbol → List Pick
  | _, .silent _ => []
  | _, .choice index row => ⟨_, index⟩ :: row.picks

def Row.picks : {tokens : Production} → Row rules tokens → List Pick
  | _, .nil => []
  | _, .word _ rest => rest.picks
  | _, .tree tree rest => tree.picks ++ rest.picks

end

mutual

def Derivation.depth : {symbol : String} → Derivation rules symbol → Nat
  | _, .silent _ => 1
  | _, .choice _ row => row.depth + 1

def Row.depth : {tokens : Production} → Row rules tokens → Nat
  | _, .nil => 0
  | _, .word _ rest => rest.depth
  | _, .tree tree rest => max tree.depth rest.depth

end

mutual

/-- The terminals of a derivation, from left to right. -/
def Derivation.words : {symbol : String} → Derivation rules symbol → List String
  | _, .silent _ => []
  | _, .choice _ row => row.words

def Row.words : {tokens : Production} → Row rules tokens → List String
  | _, .nil => []
  | _, .word text rest => text :: rest.words
  | _, .tree tree rest => tree.words ++ rest.words

end

mutual

/-- The symbols that are expanded in a derivation, each before what is below it. -/
def Derivation.symbols : {symbol : String} → Derivation rules symbol → List String
  | symbol, .silent _ => [symbol]
  | symbol, .choice _ row => symbol :: row.symbols

def Row.symbols : {tokens : Production} → Row rules tokens → List String
  | _, .nil => []
  | _, .word _ rest => rest.symbols
  | _, .tree tree rest => tree.symbols ++ rest.symbols

end

mutual

/-- What a derivation yields is its words, with a space after each of them. -/
theorem Derivation.toList_yield : ∀ {symbol : String} (tree : Derivation rules symbol),
    tree.yield.toList = tree.words.flatMap fun word => word.toList ++ [' ']
  | _, .silent _ => rfl
  | _, .choice _ row => row.toList_yield

theorem Row.toList_yield : ∀ {tokens : Production} (row : Row rules tokens),
    row.yield.toList = row.words.flatMap fun word => word.toList ++ [' ']
  | _, .nil => rfl
  | _, .word text rest => by
      rw [Row.yield, Row.words, List.flatMap_cons, String.toList_append, String.toList_append,
        rest.toList_yield]
      rfl
  | _, .tree tree rest => by
      rw [Row.yield, Row.words, List.flatMap_append, String.toList_append, tree.toList_yield,
        rest.toList_yield]

end

mutual

theorem Derivation.count_lt (sized : rules.WordSized) :
    ∀ {symbol : String} (tree : Derivation rules symbol), ∀ pick ∈ tree.picks, pick.count < 2 ^ 32
  | _, .silent _ => by simp [Derivation.picks]
  | symbol, .choice index row => by
      rw [Derivation.picks, List.forall_mem_cons]
      exact ⟨sized symbol, row.count_lt sized⟩

theorem Row.count_lt (sized : rules.WordSized) :
    ∀ {tokens : Production} (row : Row rules tokens), ∀ pick ∈ row.picks, pick.count < 2 ^ 32
  | _, .nil => by simp [Row.picks]
  | _, .word _ rest => by
      rw [Row.picks]
      exact rest.count_lt sized
  | _, .tree tree rest => by
      rw [Row.picks, List.forall_mem_append]
      exact ⟨tree.count_lt sized, rest.count_lt sized⟩

end

/-! ## The derivation behind an expansion -/

def deriveTokens (deriveSymbol : (name : String) → Nat → Option (Derivation rules name × Nat)) :
    (tokens : Production) → Nat → Option (Row rules tokens × Nat)
  | [], position => some (.nil, position)
  | .terminal text :: rest, position => do
      let (after, position) ← deriveTokens deriveSymbol rest position
      some (.word text after, position)
  | .nonTerminal name :: rest, position => do
      let (here, position) ← deriveSymbol name position
      let (after, position) ← deriveTokens deriveSymbol rest position
      some (.tree here after, position)

namespace Rules

def deriveTo (rules : Rules) (stream : WordStream) (draws : Nat) :
    Nat → (symbol : String) → Nat → Option (Derivation rules symbol × Nat)
  | 0, _, _ => none
  | depth + 1, symbol, position =>
      if none_ : rules.productions symbol = [] then some (.silent none_, position)
      else do
        let (choice, position) ←
          Choice.choose stream (rules.productions symbol).length draws position
        if inside : choice < (rules.productions symbol).length then
          let (row, position) ← deriveTokens (deriveTo rules stream draws depth)
            (rules.productions symbol)[choice] position
          some (.choice ⟨choice, inside⟩ row, position)
        else none

/-- The derivation of a symbol, drawn from the stream from a position on. -/
def derive (rules : Rules) (limits : Limits) (stream : WordStream) (symbol : String)
    (position : Nat) : Option (Derivation rules symbol × Nat) :=
  deriveTo rules stream limits.draws limits.depth symbol position

end Rules

theorem expandTokens_eq_deriveTokens
    {expandSymbol : String → Nat → Option (String × Nat)}
    {deriveSymbol : (name : String) → Nat → Option (Derivation rules name × Nat)}
    (same : ∀ name position, expandSymbol name position =
      (deriveSymbol name position).map fun (tree, after) => (tree.yield, after))
    (tokens : Production) (position : Nat) :
    expandTokens expandSymbol tokens position =
      (deriveTokens deriveSymbol tokens position).map fun (row, after) => (row.yield, after) := by
  induction tokens generalizing position with
  | nil => rfl
  | cons token tokens ih =>
      cases token with
      | terminal text =>
          rw [expandTokens, deriveTokens, ih]
          cases deriveTokens deriveSymbol tokens position <;> rfl
      | nonTerminal name =>
          rw [expandTokens, deriveTokens, same]
          cases deriveSymbol name position with
          | none => rfl
          | some here =>
              simp only [Option.map_some, Option.bind_eq_bind, Option.bind_some, ih]
              cases deriveTokens deriveSymbol tokens here.2 <;> rfl

namespace Rules

theorem expandTo_of_silent {stream : WordStream} {draws depth position : Nat} {symbol : String}
    (none_ : rules.productions symbol = []) :
    rules.expandTo stream draws (depth + 1) symbol position = some ("", position) := by
  unfold productions at none_
  rw [expandTo]
  cases defined : rules.get? symbol with
  | none => rfl
  | some productions =>
      rw [defined, Option.getD_some] at none_
      rw [none_]

theorem expandTo_of_choice {stream : WordStream} {draws depth position : Nat} {symbol : String}
    (some_ : rules.productions symbol ≠ []) :
    rules.expandTo stream draws (depth + 1) symbol position =
      (Choice.choose stream (rules.productions symbol).length draws position).bind
        fun (choice, position) => (rules.productions symbol)[choice]?.bind fun production =>
          expandTokens (rules.expandTo stream draws depth) production position := by
  unfold productions at some_ ⊢
  rw [expandTo]
  cases defined : rules.get? symbol with
  | none => simp [defined] at some_
  | some productions =>
      cases productions with
      | nil => simp [defined] at some_
      | cons production productions => rfl

theorem expandTo_eq_deriveTo (stream : WordStream) (draws depth : Nat) (symbol : String)
    (position : Nat) :
    rules.expandTo stream draws depth symbol position =
      (rules.deriveTo stream draws depth symbol position).map fun (tree, after) =>
        (tree.yield, after) := by
  induction depth generalizing symbol position with
  | zero => rfl
  | succ depth ih =>
      by_cases none_ : rules.productions symbol = []
      · rw [expandTo_of_silent none_, deriveTo, dif_pos none_]
        rfl
      · rw [expandTo_of_choice none_, deriveTo, dif_neg none_]
        cases Choice.choose stream (rules.productions symbol).length draws position with
        | none => rfl
        | some made =>
            obtain ⟨choice, between⟩ := made
            simp only [Option.bind_eq_bind, Option.bind_some]
            by_cases inside : choice < (rules.productions symbol).length
            · rw [dif_pos inside, List.getElem?_eq_getElem inside, Option.bind_some,
                expandTokens_eq_deriveTokens ih]
              cases deriveTokens (rules.deriveTo stream draws depth) _ between <;> rfl
            · rw [dif_neg inside, List.getElem?_eq_none (Nat.le_of_not_lt inside)]
              rfl

/-- **The text of an expansion is the yield of its derivation**, under every limits. -/
theorem expand_eq_derive (rules : Rules) (limits : Limits) (stream : WordStream) (symbol : String)
    (position : Nat) :
    rules.expand limits stream symbol position =
      (rules.derive limits stream symbol position).map fun (tree, after) => (tree.yield, after) :=
  expandTo_eq_deriveTo stream limits.draws limits.depth symbol position

end Rules

/-! ## The derivation as it is read off the stream -/

theorem deriveTokens_eq_some_iff {stream : WordStream} {draws depth : Nat}
    {deriveSymbol : (name : String) → Nat → Option (Derivation rules name × Nat)}
    (same : ∀ (name : String) (position : Nat) (tree : Derivation rules name) (after : Nat),
      deriveSymbol name position = some (tree, after) ↔
        tree.depth ≤ depth ∧ Reads stream draws tree.picks position after) :
    ∀ {tokens : Production} {position : Nat} {row : Row rules tokens} {after : Nat},
      deriveTokens deriveSymbol tokens position = some (row, after) ↔
        row.depth ≤ depth ∧ Reads stream draws row.picks position after
  | _, position, .nil, after => by
      simp [deriveTokens, Row.depth, Row.picks, Reads]
  | _, position, .word text rest, after => by
      rw [deriveTokens, Row.depth, Row.picks, ← deriveTokens_eq_some_iff same]
      simp only [Option.bind_eq_bind, Option.bind_eq_some_iff, Prod.exists]
      constructor
      · rintro ⟨row, between, found, made⟩
        cases made
        exact found
      · intro found
        exact ⟨rest, after, found, rfl⟩
  | _, position, .tree tree rest, after => by
      rw [deriveTokens, Row.depth, Row.picks, Choice.reads_append]
      simp only [Option.bind_eq_bind, Option.bind_eq_some_iff, Prod.exists, max_le_iff, same,
        deriveTokens_eq_some_iff same]
      constructor
      · rintro ⟨tree', between, ⟨shallow, left⟩, row, after', ⟨flat, right⟩, made⟩
        cases made
        exact ⟨⟨shallow, flat⟩, between, left, right⟩
      · rintro ⟨⟨shallow, flat⟩, between, left, right⟩
        exact ⟨tree, between, ⟨shallow, left⟩, rest, after, ⟨flat, right⟩, rfl⟩

namespace Rules

theorem deriveTo_eq_some_iff {stream : WordStream} {draws depth : Nat} {symbol : String}
    {position : Nat} {tree : Derivation rules symbol} {after : Nat} :
    rules.deriveTo stream draws depth symbol position = some (tree, after) ↔
      tree.depth ≤ depth ∧ Reads stream draws tree.picks position after := by
  induction depth generalizing symbol position after with
  | zero => cases tree <;> simp [deriveTo, Derivation.depth]
  | succ depth ih =>
      cases tree with
      | silent none_ =>
          rw [deriveTo, dif_pos none_]
          simp [Derivation.depth, Derivation.picks, Reads]
      | choice index row =>
          have some_ : rules.productions symbol ≠ [] := List.ne_nil_of_length_pos index.pos
          have tokens {between : Nat} (row : Row rules (rules.productions symbol)[index]) :
              deriveTokens (rules.deriveTo stream draws depth) (rules.productions symbol)[index]
                  between = some (row, after) ↔
                row.depth ≤ depth ∧ Reads stream draws row.picks between after :=
            deriveTokens_eq_some_iff fun _ _ _ _ => ih
          rw [deriveTo, dif_neg some_, Derivation.depth, Derivation.picks, Nat.add_le_add_iff_right]
          simp only [Option.bind_eq_bind, Option.bind_eq_some_iff, Prod.exists, Reads]
          constructor
          · rintro ⟨chosen, between, made, rest⟩
            split at rest
            · obtain ⟨⟨row', after'⟩, found, same⟩ := Option.bind_eq_some_iff.1 rest
              cases same
              exact ⟨((tokens _).1 found).1, between, made, ((tokens _).1 found).2⟩
            · cases rest
          · rintro ⟨flat, between, made, rest⟩
            refine ⟨index, between, made, ?_⟩
            have found := (tokens row).2 ⟨flat, rest⟩
            rw [dif_pos index.isLt]
            exact Option.bind_eq_some_iff.2 ⟨_, found, rfl⟩

theorem derive_eq_some_iff {limits : Limits} {stream : WordStream} {symbol : String}
    {position : Nat} {tree : Derivation rules symbol} {after : Nat} :
    rules.derive limits stream symbol position = some (tree, after) ↔
      tree.depth ≤ limits.depth ∧ Reads stream limits.draws tree.picks position after :=
  deriveTo_eq_some_iff

theorem expand_eq_some_iff {limits : Limits} {stream : WordStream} {symbol : String}
    {position : Nat} {text : String} {after : Nat} :
    rules.expand limits stream symbol position = some (text, after) ↔
      ∃ tree : Derivation rules symbol, tree.yield = text ∧ tree.depth ≤ limits.depth ∧
        Reads stream limits.draws tree.picks position after := by
  rw [expand_eq_derive]
  simp only [Option.map_eq_some_iff, Prod.exists, Prod.mk.injEq, derive_eq_some_iff]
  constructor
  · rintro ⟨tree, after', ⟨shallow, reads⟩, yields, rfl⟩
    exact ⟨tree, yields, shallow, reads⟩
  · rintro ⟨tree, yields, shallow, reads⟩
    exact ⟨tree, after, ⟨shallow, reads⟩, yields, rfl⟩

/-- Wider limits change no answer. -/
theorem expand_mono {limits wider : Limits} (deeper : limits.depth ≤ wider.depth)
    (longer : limits.draws ≤ wider.draws) {stream : WordStream} {symbol : String}
    {position : Nat} {answer : String × Nat}
    (found : rules.expand limits stream symbol position = some answer) :
    rules.expand wider stream symbol position = some answer := by
  obtain ⟨tree, yields, shallow, reads⟩ := expand_eq_some_iff.1 found
  exact expand_eq_some_iff.2 ⟨tree, yields, shallow.trans deeper, reads.mono longer⟩

/-- Does the expansion of a symbol from a position on come to an end, with that text and after
that position?  It does when it does under some limits, and then under all wider ones. -/
def Expands (rules : Rules) (stream : WordStream) (symbol : String) (position : Nat)
    (text : String) (after : Nat) : Prop :=
  ∃ limits, rules.expand limits stream symbol position = some (text, after)

theorem expands_iff {stream : WordStream} {symbol : String} {position : Nat} {text : String}
    {after : Nat} :
    rules.Expands stream symbol position text after ↔
      ∃ tree : Derivation rules symbol, tree.yield = text ∧
        ∃ draws, Reads stream draws tree.picks position after := by
  constructor
  · rintro ⟨limits, found⟩
    obtain ⟨tree, yields, -, reads⟩ := expand_eq_some_iff.1 found
    exact ⟨tree, yields, limits.draws, reads⟩
  · rintro ⟨tree, yields, draws, reads⟩
    exact ⟨⟨tree.depth, draws⟩, expand_eq_some_iff.2 ⟨tree, yields, le_rfl, reads⟩⟩

/-- An expansion ends in one way only. -/
theorem Expands.unique {stream : WordStream} {symbol : String} {position : Nat}
    {text other : String} {after later : Nat}
    (ends : rules.Expands stream symbol position text after)
    (ends' : rules.Expands stream symbol position other later) : text = other ∧ after = later := by
  obtain ⟨limits, found⟩ := ends
  obtain ⟨limits', found'⟩ := ends'
  let wider : Limits := ⟨max limits.depth limits'.depth, max limits.draws limits'.draws⟩
  have first : rules.expand wider stream symbol position = some (text, after) :=
    expand_mono (le_max_left _ _) (le_max_left _ _) found
  have second : rules.expand wider stream symbol position = some (other, later) :=
    expand_mono (le_max_right _ _) (le_max_right _ _) found'
  exact Prod.mk.inj (Option.some.inj (first.symm.trans second))

/-! ## Rules of moderate size -/

theorem wordSized_empty : empty.WordSized := by
  intro symbol
  rw [productions_empty]
  exact Nat.two_pow_pos 32

theorem WordSized.insert (sized : rules.WordSized) (name : String) {productions : List Production}
    (short : productions.length < 2 ^ 32) : (rules.insert name productions).WordSized := by
  intro symbol
  rw [productions_insert]
  split
  · exact short
  · exact sized symbol

end Rules

end RandomSentences
