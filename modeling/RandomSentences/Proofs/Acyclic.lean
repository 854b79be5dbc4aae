/-
# Proofs.Acyclic -- expansions that end because no symbol leads back to itself

A name *refers* to another when one of its productions has a reference with that canonical
name.  Where nothing that is reached from a symbol is reached from itself (`AcyclicFrom`), the
defined names that are reached from a symbol are more than those reached from any symbol it
refers to (`ncard_definedFrom_lt`): the symbol is one of them, and is never met again.  So their
number falls with every reference that is followed, whichever productions are chosen.

Two things come of that measure.  No derivation is deeper than the number of defined names
that are reached, with one more for a symbol at the bottom that has no production
(`Derivation.depth_le_of_acyclic`).  And on a stream that decides every choice there is a
derivation to be read (`exists_tree_of_acyclic`), so the expansion ends.
-/
import RandomSentences.Proofs.CanonicalName
import RandomSentences.Proofs.Derivation
import Mathlib.Data.Set.Card
import Mathlib.Logic.Relation

namespace RandomSentences

set_option autoImplicit false

open Choice (Decides Reads)

namespace Rules

variable {rules : Rules} {symbol reference : String}

/-! ## What refers to what -/

/-- Has the first name a production with a reference to the second? -/
def Refers (rules : Rules) (name next : String) : Prop :=
  ∃ production ∈ rules.productions name, ∃ reference,
    Token.nonTerminal reference ∈ production ∧ canonicalName reference = next

/-- Is the name that of the symbol, or does the symbol lead to it in any number of references? -/
def Reaches (rules : Rules) (symbol name : String) : Prop :=
  Relation.ReflTransGen rules.Refers (canonicalName symbol) name

/-- Is no name that is reached from the symbol reached from itself? -/
def AcyclicFrom (rules : Rules) (symbol : String) : Prop :=
  ∀ name, rules.Reaches symbol name → ¬ Relation.TransGen rules.Refers name name

def definedFrom (rules : Rules) (symbol : String) : Set String :=
  {name | rules.Reaches symbol name ∧ rules.contains name = true}

@[simp] theorem productions_canonicalName (rules : Rules) (symbol : String) :
    rules.productions (canonicalName symbol) = rules.productions symbol := by
  rw [productions, productions, get?, canonicalName_canonicalName, ← get?]

theorem contains_of_productions_ne_nil (some_ : rules.productions symbol ≠ []) :
    rules.contains symbol = true := by
  rw [contains, Option.isSome_iff_exists]
  unfold productions at some_
  cases defined : rules.get? symbol with
  | none => simp [defined] at some_
  | some productions => exact ⟨productions, rfl⟩

theorem refers_of_mem {production : Production} (member : production ∈ rules.productions symbol)
    (inside : Token.nonTerminal reference ∈ production) :
    rules.Refers (canonicalName symbol) (canonicalName reference) :=
  ⟨production, by rwa [productions_canonicalName], reference, inside, rfl⟩

/-- Only canonical names are reached. -/
theorem Reaches.canonical {name : String} (reaches : rules.Reaches symbol name) :
    canonicalName name = name := by
  rcases reaches.cases_tail with rfl | ⟨_, -, _, -, reference, -, rfl⟩
  · exact canonicalName_canonicalName symbol
  · exact canonicalName_canonicalName reference

/-! ## The defined names that are reached -/

theorem definedFrom_subset_names (rules : Rules) (symbol : String) :
    rules.definedFrom symbol ⊆ ↑rules.names.toFinset := by
  rintro name ⟨reaches, defined⟩
  rw [contains, get?, reaches.canonical] at defined
  rw [Finset.mem_coe, List.mem_toFinset, names, Std.ExtTreeMap.mem_keys]
  exact Std.ExtTreeMap.mem_iff_isSome_getElem?.2 defined

theorem finite_definedFrom (rules : Rules) (symbol : String) :
    (rules.definedFrom symbol).Finite :=
  rules.names.toFinset.finite_toSet.subset (rules.definedFrom_subset_names symbol)

theorem ncard_definedFrom_le_size (rules : Rules) (symbol : String) :
    (rules.definedFrom symbol).ncard ≤ rules.size :=
  calc (rules.definedFrom symbol).ncard
    _ ≤ (rules.names.toFinset : Set String).ncard :=
        Set.ncard_le_ncard (rules.definedFrom_subset_names symbol) rules.names.toFinset.finite_toSet
    _ = rules.names.toFinset.card := Set.ncard_coe_finset _
    _ ≤ rules.names.length := List.toFinset_card_le _
    _ = rules.size := Std.ExtTreeMap.length_keys

theorem AcyclicFrom.of_refers (acyclic : rules.AcyclicFrom symbol)
    (refers : rules.Refers (canonicalName symbol) (canonicalName reference)) :
    rules.AcyclicFrom reference :=
  fun name reaches => acyclic name (.head refers reaches)

/-- A rank that falls from a name to every name it refers to leaves no way back. -/
theorem acyclicFrom_of_rank (rank : String → Nat)
    (falls : ∀ name next, rules.Refers name next → rank next < rank name) (symbol : String) :
    rules.AcyclicFrom symbol := by
  have below {name next : String} (leads : Relation.TransGen rules.Refers name next) :
      rank next < rank name := by
    induction leads with
    | single refers => exact falls _ _ refers
    | tail _ refers ih => exact (falls _ _ refers).trans ih
  exact fun name _ around => Nat.lt_irrefl _ (below around)

/-- Following a reference leaves the symbol behind, and nothing comes in its place. -/
theorem ncard_definedFrom_lt (acyclic : rules.AcyclicFrom symbol) {production : Production}
    (member : production ∈ rules.productions symbol)
    (inside : Token.nonTerminal reference ∈ production) :
    (rules.definedFrom reference).ncard < (rules.definedFrom symbol).ncard := by
  have refers : rules.Refers (canonicalName symbol) (canonicalName reference) :=
    refers_of_mem member inside
  have fewer : rules.definedFrom reference ⊆ rules.definedFrom symbol :=
    fun name ⟨reaches, defined⟩ => ⟨.head refers reaches, defined⟩
  have here : canonicalName symbol ∈ rules.definedFrom symbol := by
    refine ⟨.refl, contains_of_productions_ne_nil ?_⟩
    rw [productions_canonicalName]
    exact List.ne_nil_of_mem member
  have gone : canonicalName symbol ∉ rules.definedFrom reference := fun ⟨reaches, _⟩ =>
    acyclic _ .refl (.head' refers reaches)
  exact Set.ncard_lt_ncard ((Set.ssubset_iff_of_subset fewer).2 ⟨_, here, gone⟩)
    (rules.finite_definedFrom symbol)

end Rules

/-! ## Derivations -/

variable {rules : Rules}

mutual

theorem Derivation.depth_le_of_acyclic : ∀ {symbol : String} (tree : Derivation rules symbol),
    rules.AcyclicFrom symbol → tree.depth ≤ (rules.definedFrom symbol).ncard + 1
  | _, .silent _, _ => Nat.le_add_left _ _
  | _, .choice index row, acyclic => by
      have member := List.getElem_mem index.isLt
      have shallow := row.depth_le_of_acyclic fun reference inside =>
        ⟨acyclic.of_refers (Rules.refers_of_mem member inside),
          Rules.ncard_definedFrom_lt acyclic member inside⟩
      rw [Derivation.depth]
      exact Nat.succ_le_succ shallow

theorem Row.depth_le_of_acyclic : ∀ {tokens : Production} (row : Row rules tokens) {bound : Nat},
    (∀ reference, Token.nonTerminal reference ∈ tokens → rules.AcyclicFrom reference ∧
      (rules.definedFrom reference).ncard < bound) → row.depth ≤ bound
  | _, .nil, _, _ => Nat.zero_le _
  | _, .word _ rest, _, below => by
      rw [Row.depth]
      exact rest.depth_le_of_acyclic fun reference inside => below reference (.tail _ inside)
  | _, @Row.tree _ name _ tree rest, _, below => by
      obtain ⟨acyclic, less⟩ := below name (.head _)
      rw [Row.depth]
      exact Nat.max_le.2 ⟨(tree.depth_le_of_acyclic acyclic).trans less,
        rest.depth_le_of_acyclic fun reference inside => below reference (.tail _ inside)⟩

end

/-- A row is there to be read where a derivation of every reference is, from every position. -/
theorem exists_row {stream : WordStream} {draws : Nat} : ∀ (tokens : Production) (position : Nat),
    (∀ reference, Token.nonTerminal reference ∈ tokens → ∀ position,
      ∃ (tree : Derivation rules reference) (after : Nat),
        Reads stream draws tree.picks position after) →
      ∃ (row : Row rules tokens) (after : Nat), Reads stream draws row.picks position after
  | [], position, _ => ⟨.nil, position, rfl⟩
  | .terminal text :: rest, position, trees => by
      obtain ⟨row, after, reads⟩ :=
        exists_row rest position fun reference inside => trees reference (.tail _ inside)
      exact ⟨.word text row, after, reads⟩
  | .nonTerminal name :: rest, position, trees => by
      obtain ⟨tree, between, left⟩ := trees name (.head _) position
      obtain ⟨row, after, right⟩ :=
        exists_row rest between fun reference inside => trees reference (.tail _ inside)
      exact ⟨.tree tree row, after, Choice.reads_append.2 ⟨between, left, right⟩⟩

namespace Rules

/-- On a stream that decides every choice there is a derivation to be read, from every position. -/
theorem exists_tree_of_acyclic {stream : WordStream} {draws : Nat} (decides : Decides stream draws)
    (symbol : String) (acyclic : rules.AcyclicFrom symbol) (position : Nat) :
    ∃ (tree : Derivation rules symbol) (after : Nat),
      Reads stream draws tree.picks position after := by
  -- the recursion is on the number of defined names that can still be reached
  by_cases none_ : rules.productions symbol = []
  · exact ⟨.silent none_, position, rfl⟩
  · have positive : 0 < (rules.productions symbol).length := List.length_pos_iff.2 none_
    obtain ⟨⟨chosen, between⟩, made⟩ := decides _ position positive
    have inside : chosen < (rules.productions symbol).length := Choice.lt_of_choose positive made
    have member := List.getElem_mem inside
    obtain ⟨row, after, reads⟩ := exists_row (rules.productions symbol)[chosen] between
      fun reference inside =>
        exists_tree_of_acyclic decides reference (acyclic.of_refers (refers_of_mem member inside))
    exact ⟨.choice ⟨chosen, inside⟩ row, after, between, made, reads⟩
termination_by (rules.definedFrom symbol).ncard
decreasing_by exact ncard_definedFrom_lt acyclic member inside

/-- **Where no symbol leads back to itself, every expansion ends**: on the words of a list with
zeros behind them, no choice takes more words than the list has and one zero, and symbols lie in
each other no deeper than there are defined names to be reached, and once more. -/
theorem expand_of_acyclic (rules : Rules) (symbol : String) (acyclic : rules.AcyclicFrom symbol) :
    (∀ (words : List UInt32) (position : Nat), ∃ text after, ∀ limits : Limits,
        (rules.definedFrom symbol).ncard + 1 ≤ limits.depth → words.length + 1 ≤ limits.draws →
          rules.expand limits (WordStream.ofList words) symbol position = some (text, after)) ∧
      (∀ tree : Derivation rules symbol, tree.depth ≤ (rules.definedFrom symbol).ncard + 1) ∧
      (rules.definedFrom symbol).ncard ≤ rules.size := by
  refine ⟨fun words position => ?_, fun tree => tree.depth_le_of_acyclic acyclic,
    rules.ncard_definedFrom_le_size symbol⟩
  obtain ⟨tree, after, reads⟩ :=
    exists_tree_of_acyclic (Choice.decides_ofList words) symbol acyclic position
  refine ⟨tree.yield, after, fun limits deep long => expand_eq_some_iff.2 ⟨tree, rfl, ?_, ?_⟩⟩
  · exact (tree.depth_le_of_acyclic acyclic).trans deep
  · exact reads.mono long

/-- Rules with two spellings of a symbol in references, and one more that has no definition. -/
def descent : Rules :=
  (empty.insert "<S>" [[.nonTerminal " <B> ", .terminal "x"], [.nonTerminal "<b>"]]).insert "<b>"
    [[.nonTerminal "<C>"]]

/-- How far a name lies above the undefined one. -/
def descentRank (name : String) : Nat :=
  if canonicalName name = "<s>" then 2 else if canonicalName name = "<b>" then 1 else 0

theorem descentRank_lt (name next : String) (refers : descent.Refers name next) :
    descentRank next < descentRank name := by
  have upper : canonicalName "<S>" = "<s>" := by decide +kernel
  have middle : canonicalName "<b>" = "<b>" := by decide +kernel
  have spaced : canonicalName " <B> " = "<b>" := by decide +kernel
  have lower : canonicalName "<C>" = "<c>" := by decide +kernel
  obtain ⟨production, member, reference, inside, rfl⟩ := refers
  simp only [productions, descent, get?_insert, upper, middle, get?_empty] at member
  rw [descentRank, descentRank, canonicalName_canonicalName]
  split at member
  · rename_i isMiddle
    obtain rfl : production = [.nonTerminal "<C>"] := by simpa using member
    obtain rfl : reference = "<C>" := by simpa using inside
    simp [← isMiddle, lower]
  · split at member
    · rename_i isUpper
      have either : production = [.nonTerminal " <B> ", .terminal "x"] ∨
          production = [.nonTerminal "<b>"] := by simpa using member
      rcases either with rfl | rfl
      · obtain rfl : reference = " <B> " := by simpa using inside
        simp [← isUpper, spaced]
      · obtain rfl : reference = "<b>" := by simpa using inside
        simp [← isUpper, middle]
    · simp at member

/-- Three symbols lie within each other at most, and two refused words do not matter. -/
theorem expand_of_acyclic_descent :
    descent.AcyclicFrom "<s>" ∧ descent.size = 2 ∧
      (∃ text after, descent.expand ⟨3, 3⟩ (WordStream.ofList [0xFFFFFFFF, 0xF0000000]) "<s>" 0 =
        some (text, after)) ∧
      ∀ tree : Derivation descent "<s>", tree.depth ≤ 3 := by
  have acyclic : descent.AcyclicFrom "<s>" := acyclicFrom_of_rank descentRank descentRank_lt "<s>"
  obtain ⟨ends, shallow, few⟩ := expand_of_acyclic descent "<s>" acyclic
  have two : descent.size = 2 := by decide +kernel
  rw [two] at few
  obtain ⟨text, after, found⟩ := ends [0xFFFFFFFF, 0xF0000000] 0
  exact ⟨acyclic, two, ⟨text, after, found _ (Nat.succ_le_succ few) le_rfl⟩,
    fun tree => (shallow tree).trans (Nat.succ_le_succ few)⟩

end Rules

end RandomSentences
