/-
# Proofs.Pruning -- references that stand for nothing may be left out

A reference is *silent* when its symbol has no production, whether the symbol is undefined or an
empty list is stored for it.  To *prune* rules is to delete the silent references from every
production.  Each symbol keeps as many productions as it had (`productions_pruned`), so a choice
is among as many alternatives as before, and the symbols without productions are the same: no
silent reference is left (`not_isSilent_of_mem_pruned`).

A silent reference writes nothing and draws no word.  Tokens among which the silent references
are passed over are expanded as the tokens that are left of them (`expandTokens_passOver`), and
with that one fact the rules and their pruned form follow each other, level by level.

They do so under limits of their own.  To find out that a symbol has no production takes one level
of depth, so rules may need one level more than their pruned form (`expandTo_of_pruned`), and never
less than it (`expandTo_pruned`).  Where no limit is set, nothing is left of that.
-/
import RandomSentences.Proofs.Derivation

namespace RandomSentences

set_option autoImplicit false

namespace Rules

variable {rules other : Rules}

/-! ## Pruned rules -/

/-- Is the token a reference to a symbol without productions? -/
def isSilent (rules : Rules) : Token → Bool
  | .terminal _ => false
  | .nonTerminal name => (rules.productions name).isEmpty

def prune (rules : Rules) (production : Production) : Production :=
  production.filter fun token => !rules.isSilent token

theorem prune_cons_of_silent {token : Token} (silent : rules.isSilent token = true)
    (tokens : Production) : rules.prune (token :: tokens) = rules.prune tokens :=
  List.filter_cons_of_neg (by simp [silent])

theorem prune_cons_of_not_silent {token : Token} (heard : rules.isSilent token = false)
    (tokens : Production) : rules.prune (token :: tokens) = token :: rules.prune tokens :=
  List.filter_cons_of_pos (by simp [heard])

/-- The rules with the silent references deleted from every production. -/
def pruned (rules : Rules) : Rules :=
  ⟨rules.stored.map fun _ productions => productions.map rules.prune⟩

theorem get?_pruned (rules : Rules) (name : String) :
    rules.pruned.get? name = (rules.get? name).map (List.map rules.prune) := by
  rw [get?, pruned, Std.ExtTreeMap.getElem?_map]
  rfl

/-- The names are the same, also those that are not found. -/
theorem names_pruned (rules : Rules) : rules.pruned.names = rules.names :=
  Std.ExtTreeMap.keys_map

theorem productions_pruned (rules : Rules) (name : String) :
    rules.pruned.productions name = (rules.productions name).map rules.prune := by
  rw [productions, productions, get?_pruned]
  cases rules.get? name <;> rfl

theorem isSilent_pruned (rules : Rules) (token : Token) :
    rules.pruned.isSilent token = rules.isSilent token := by
  cases token with
  | terminal text => rfl
  | nonTerminal name => rw [isSilent, isSilent, productions_pruned, List.isEmpty_map]

/-- Pruned rules have no silent reference left. -/
theorem not_isSilent_of_mem_pruned {name : String} {production : Production}
    (member : production ∈ rules.pruned.productions name) {token : Token}
    (inside : token ∈ production) : rules.pruned.isSilent token = false := by
  rw [productions_pruned] at member
  obtain ⟨whole, -, rfl⟩ := List.mem_map.1 member
  have kept := (List.mem_filter.1 inside).2
  rw [isSilent_pruned]
  simpa using kept

/-! ## One level -/

/-- Expands a symbol, or passes it over if it has no production. -/
def passOver (rules : Rules) (expandSymbol : String → Nat → Option (String × Nat)) (name : String)
    (position : Nat) : Option (String × Nat) :=
  if rules.isSilent (.nonTerminal name) then some ("", position) else expandSymbol name position

/-- **To pass silent references over is to expand the tokens without them.** -/
theorem expandTokens_passOver (rules : Rules)
    (expandSymbol : String → Nat → Option (String × Nat)) (tokens : Production) (position : Nat) :
    expandTokens (rules.passOver expandSymbol) tokens position =
      expandTokens expandSymbol (rules.prune tokens) position := by
  induction tokens generalizing position with
  | nil => rfl
  | cons token tokens ih =>
      cases token with
      | terminal text =>
          rw [prune_cons_of_not_silent rfl, expandTokens, expandTokens, ih]
      | nonTerminal name =>
          rw [expandTokens, passOver]
          cases silent : rules.isSilent (.nonTerminal name) with
          | true =>
              rw [prune_cons_of_silent silent, if_pos rfl]
              simp only [Option.bind_eq_bind, Option.bind_some, ih, String.empty_append]
              cases expandTokens expandSymbol (rules.prune tokens) position <;> rfl
          | false =>
              rw [prune_cons_of_not_silent silent, if_neg Bool.false_ne_true, expandTokens]
              simp only [ih]

/-- Where every answer for a symbol is kept, so is every answer for tokens. -/
theorem expandTokens_mono {expandSymbol expandOther : String → Nat → Option (String × Nat)}
    (more : ∀ name position answer, expandSymbol name position = some answer →
      expandOther name position = some answer)
    {tokens : Production} {position : Nat} {answer : String × Nat}
    (found : expandTokens expandSymbol tokens position = some answer) :
    expandTokens expandOther tokens position = some answer := by
  induction tokens generalizing position answer with
  | nil => exact found
  | cons token tokens ih =>
      cases token with
      | terminal text =>
          rw [expandTokens] at found ⊢
          obtain ⟨after, tail, made⟩ := Option.bind_eq_some_iff.1 found
          exact Option.bind_eq_some_iff.2 ⟨after, ih tail, made⟩
      | nonTerminal name =>
          rw [expandTokens] at found ⊢
          obtain ⟨here, head, found⟩ := Option.bind_eq_some_iff.1 found
          obtain ⟨after, tail, made⟩ := Option.bind_eq_some_iff.1 found
          exact Option.bind_eq_some_iff.2 ⟨here, more _ _ _ head,
            Option.bind_eq_some_iff.2 ⟨after, ih tail, made⟩⟩

/-- A symbol with as many productions in both rules keeps its answer when the tokens of the
production that is chosen do. -/
theorem expandTo_succ_of_tokens {stream : WordStream} {draws depth deeper : Nat} {symbol : String}
    (counts : (rules.productions symbol).length = (other.productions symbol).length)
    (tokens : ∀ (choice : Nat) (production : Production),
      (rules.productions symbol)[choice]? = some production → ∃ next,
        (other.productions symbol)[choice]? = some next ∧ ∀ position answer,
        expandTokens (rules.expandTo stream draws depth) production position = some answer →
          expandTokens (other.expandTo stream draws deeper) next position = some answer)
    {position : Nat} {answer : String × Nat}
    (found : rules.expandTo stream draws (depth + 1) symbol position = some answer) :
    other.expandTo stream draws (deeper + 1) symbol position = some answer := by
  by_cases none_ : rules.productions symbol = []
  · have none' : other.productions symbol = [] := by
      rwa [none_, List.length_nil, eq_comm, List.length_eq_zero_iff] at counts
    rw [expandTo_of_silent none_] at found
    rw [expandTo_of_silent none', found]
  · have some' : other.productions symbol ≠ [] := by
      rwa [← List.length_pos_iff, ← counts, List.length_pos_iff]
    rw [expandTo_of_choice none_] at found
    rw [expandTo_of_choice some', ← counts]
    obtain ⟨⟨choice, between⟩, made, found⟩ := Option.bind_eq_some_iff.1 found
    obtain ⟨production, chosen, found⟩ := Option.bind_eq_some_iff.1 found
    obtain ⟨next, chosen', kept⟩ := tokens choice production chosen
    exact Option.bind_eq_some_iff.2
      ⟨_, made, Option.bind_eq_some_iff.2 ⟨next, chosen', kept between answer found⟩⟩

/-! ## All levels -/

theorem length_productions_pruned (rules : Rules) (symbol : String) :
    (rules.productions symbol).length = (rules.pruned.productions symbol).length := by
  rw [productions_pruned, List.length_map]

/-- Pruned rules need no more depth than the rules. -/
theorem expandTo_pruned {stream : WordStream} {draws depth : Nat} {symbol : String}
    {position : Nat} {answer : String × Nat}
    (found : rules.expandTo stream draws depth symbol position = some answer) :
    rules.pruned.expandTo stream draws depth symbol position = some answer := by
  induction depth generalizing symbol position answer with
  | zero => cases found
  | succ depth ih =>
      refine expandTo_succ_of_tokens (rules.length_productions_pruned symbol) ?_ found
      intro choice production chosen
      refine ⟨rules.prune production, ?_, fun position answer found => ?_⟩
      · rw [productions_pruned, List.getElem?_map, chosen, Option.map_some]
      refine expandTokens_mono (fun _ _ _ => ih) ?_
      rw [← expandTokens_passOver]
      refine expandTokens_mono (fun name position answer found => ?_) found
      -- a silent reference that is reached within the depth has answered with nothing
      rw [passOver]
      split
      · rename_i silent
        cases depth with
        | zero => cases found
        | succ depth => rwa [expandTo_of_silent (List.isEmpty_iff.1 silent)] at found
      · exact found

/-- The rules need one level more than pruned rules at most. -/
theorem expandTo_of_pruned {stream : WordStream} {draws depth : Nat} {symbol : String}
    {position : Nat} {answer : String × Nat}
    (found : rules.pruned.expandTo stream draws depth symbol position = some answer) :
    rules.expandTo stream draws (depth + 1) symbol position = some answer := by
  induction depth generalizing symbol position answer with
  | zero => cases found
  | succ depth ih =>
      refine expandTo_succ_of_tokens (rules.length_productions_pruned symbol).symm ?_ found
      intro choice pruned chosen
      rw [productions_pruned, List.getElem?_map] at chosen
      obtain ⟨production, whole, rfl⟩ := Option.map_eq_some_iff.1 chosen
      refine ⟨production, whole, fun position answer found => ?_⟩
      rw [← expandTokens_passOver] at found
      refine expandTokens_mono (fun name position answer found => ?_) found
      rw [passOver] at found
      split at found
      · rename_i silent
        rw [expandTo_of_silent (List.isEmpty_iff.1 silent), found]
      · exact ih found

/-- **References to symbols without productions are transparent.**  With those references deleted
every symbol ends where it ended before, with the same text and the same words drawn, and where it
did not end it does not.  No such reference is left, and no name is lost.  Under limits the pruned
rules answer what the rules answer, and the rules what the pruned rules do with one level less. -/
theorem expands_pruned (rules : Rules) :
    (∀ stream symbol position text after,
        rules.Expands stream symbol position text after ↔
          rules.pruned.Expands stream symbol position text after) ∧
      (rules.pruned.names = rules.names ∧
        ∀ name, ∀ production ∈ rules.pruned.productions name, ∀ token ∈ production,
          rules.pruned.isSilent token = false) ∧
      ∀ limits stream symbol position answer,
        (rules.expand limits stream symbol position = some answer →
          rules.pruned.expand limits stream symbol position = some answer) ∧
        (rules.pruned.expand limits stream symbol position = some answer →
          rules.expand ⟨limits.depth + 1, limits.draws⟩ stream symbol position = some answer) := by
  refine ⟨fun stream symbol position text after => ⟨?_, ?_⟩,
    ⟨rules.names_pruned, fun _ _ member _ => not_isSilent_of_mem_pruned member⟩,
    fun _ _ _ _ _ => ⟨expandTo_pruned, expandTo_of_pruned⟩⟩
  · rintro ⟨limits, found⟩
    exact ⟨limits, expandTo_pruned found⟩
  · rintro ⟨limits, found⟩
    exact ⟨⟨limits.depth + 1, limits.draws⟩, expandTo_of_pruned found⟩

/-- Rules that lead a symbol back to itself past an undefined symbol and one with an empty list, and
a production of silent references alone. -/
def hushed : Rules :=
  (empty.insert "<s>" [
    [.nonTerminal "<gone>", .terminal "x", .nonTerminal " <NONE>\n", .nonTerminal "<S>"],
    [.nonTerminal "<none>", .nonTerminal "<gone>"]]).insert "<None>" []

/-- The silent references cost a level of depth, and neither a word nor a space. -/
theorem expands_pruned_hushed :
    let stream := WordStream.ofList [0, 0x80000000]
    hushed.pruned.productions "<s>" = [[.terminal "x", .nonTerminal "<S>"], []] ∧
      hushed.expand ⟨2, 1⟩ stream "<s>" 0 = none ∧
      hushed.pruned.expand ⟨2, 1⟩ stream "<s>" 0 = some ("x ", 2) ∧
      hushed.expand ⟨3, 1⟩ stream "<s>" 0 = some ("x ", 2) ∧
      hushed.pruned.Expands stream "<s>" 0 "x " 2 := by
  intro stream
  obtain ⟨same, -, levels⟩ := expands_pruned hushed
  have within : hushed.pruned.expand ⟨2, 1⟩ stream "<s>" 0 = some ("x ", 2) := by decide +kernel
  have deeper := (levels ⟨2, 1⟩ stream "<s>" 0 ("x ", 2)).2 within
  exact ⟨by decide +kernel, by decide +kernel, within, deeper,
    (same stream "<s>" 0 "x " 2).1 ⟨⟨3, 1⟩, deeper⟩⟩

end Rules

end RandomSentences
