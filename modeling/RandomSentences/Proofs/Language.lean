/-
# Proofs.Language -- the texts a symbol can become, and how often it becomes them

The language of a symbol is the set of the yields of its derivations.  An expansion
never leaves it, and it reaches all of it: a derivation has *scripts*, lists of words
with one word for each of its choices, on which the expansion is that derivation.  The
expansion draws a node before what is below it and the left before the right, so the
scripts are the lists whose words select the picks of the derivation in that order
(`mem_scripts_iff`).

* `exists_expands_iff_exists_yield`: the texts that expansions end with are the yields;
* `ncard_scripts_eq_prod`: the number of scripts is a product over the choices, in which
  a choice among `count` productions has the factor `2 ^ clz count`, whichever it takes.

Both hold of rules that lead a symbol back to itself; the pole `chain` is one.
-/
import RandomSentences.Proofs.Derivation

namespace RandomSentences

set_option autoImplicit false

open Choice (Pick Reads)

variable {rules : Rules}

namespace Derivation

/-! ## Scripts -/

/-- How many productions there were to choose from, for each choice of the derivation. -/
def counts {symbol : String} (tree : Derivation rules symbol) : List Nat :=
  tree.picks.map Pick.count

/-- The lists of words, as many as the derivation has choices, on which the expansion of its
symbol is that derivation and draws them all. -/
def scripts {symbol : String} (tree : Derivation rules symbol) : Set (List UInt32) :=
  {words | words.length = tree.counts.length ∧ ∃ limits,
    rules.derive limits (WordStream.ofList words) symbol 0 = some (tree, words.length)}

theorem mem_scripts_iff {symbol : String} {tree : Derivation rules symbol} {words : List UInt32} :
    words ∈ tree.scripts ↔ List.Forall₂ Pick.SelectedBy tree.picks words := by
  simp only [scripts, counts, List.length_map, Set.mem_ofPred_eq, Rules.derive_eq_some_iff]
  constructor
  · rintro ⟨same, limits, -, reads⟩
    rw [same] at reads
    exact (Choice.reads_ofList_iff same).1 (reads.mono (Nat.le_succ limits.draws))
  · intro selected
    have same : words.length = tree.picks.length := selected.length_eq.symm
    refine ⟨same, ⟨tree.depth, 1⟩, le_rfl, ?_⟩
    rw [same]
    exact (Choice.reads_ofList_iff same).2 selected

theorem expands_of_mem_scripts {symbol : String} {tree : Derivation rules symbol}
    {words : List UInt32} (script : words ∈ tree.scripts) :
    rules.Expands (WordStream.ofList words) symbol 0 tree.yield words.length := by
  obtain ⟨-, limits, derived⟩ := script
  refine ⟨limits, ?_⟩
  rw [Rules.expand_eq_derive, derived]
  rfl

/-- No word of a script is refused. -/
theorem accepts_of_mem_scripts {symbol : String} {tree : Derivation rules symbol}
    {words : List UInt32} (script : words ∈ tree.scripts) :
    List.Forall₂ (fun count word => Choice.accepts count word = true) tree.counts words := by
  rw [counts, List.forall₂_map_left_iff]
  exact (mem_scripts_iff.1 script).imp fun _ _ selected => selected.1

theorem ncard_scripts_eq_clz (sized : rules.WordSized) {symbol : String}
    (tree : Derivation rules symbol) :
    tree.scripts.ncard =
      (tree.counts.map fun count => 2 ^ (BitVec.ofNat 32 count).clz.toNat).prod := by
  have scripts_eq : tree.scripts = {words | List.Forall₂ Pick.SelectedBy tree.picks words} :=
    Set.ext fun _ => mem_scripts_iff
  rw [scripts_eq, Choice.ncard_scripts _ (tree.count_lt sized), counts, List.map_map]
  congr 1
  apply List.map_congr_left
  intro pick member
  rw [Function.comp_apply,
    Choice.leadingZeros_eq_clz pick.index.pos (tree.count_lt sized pick member)]

end Derivation

namespace Rules

/-! ## The language -/

/-- **Expansions end with the texts of derivations, and with all of them.** -/
theorem exists_expands_iff_exists_yield (rules : Rules) (sized : rules.WordSized)
    (symbol text : String) :
    (∃ words after, rules.Expands (WordStream.ofList words) symbol 0 text after) ↔
      ∃ tree : Derivation rules symbol, tree.yield = text := by
  constructor
  · rintro ⟨words, after, ends⟩
    obtain ⟨tree, yields, -⟩ := expands_iff.1 ends
    exact ⟨tree, yields⟩
  · rintro ⟨tree, rfl⟩
    obtain ⟨words, selected⟩ := Choice.exists_script tree.picks (tree.count_lt sized)
    have script : words ∈ tree.scripts := Derivation.mem_scripts_iff.2 selected
    exact ⟨words, words.length, Derivation.expands_of_mem_scripts script⟩

/-- Rules of a chain of any length: a symbol that writes `x` before itself, or nothing. -/
def chain : Rules := empty.insert "<a>" [[.terminal "x", .nonTerminal "<A>"], []]

theorem chain_wordSized : chain.WordSized :=
  wordSized_empty.insert "<a>" (by decide)

theorem chain_two :
    chain.WordSized ∧
      (∃ words after, chain.Expands (WordStream.ofList words) "<a>" 0 "x x " after) ∧
      ∃ tree : Derivation chain "<a>", tree.yield = "x x " := by
  have ends : ∃ words after, chain.Expands (WordStream.ofList words) "<a>" 0 "x x " after :=
    ⟨[0, 0, 0x80000000], 3, ⟨9, 9⟩, by decide +kernel⟩
  exact ⟨chain_wordSized, ends,
    (exists_expands_iff_exists_yield chain chain_wordSized "<a>" "x x ").1 ends⟩

/-! ## The number of scripts -/

/-- **The choices of an expansion are independent, and each is uniform.**  On each script the
expansion yields the text of the derivation, one word is drawn for each choice and none is
refused.  The number of scripts is a product over the choices, and depends on how many
productions there were to choose from and on nothing else. -/
theorem ncard_scripts_eq_prod (rules : Rules) (sized : rules.WordSized) {symbol : String}
    (tree : Derivation rules symbol) :
    (∀ words ∈ tree.scripts,
        rules.Expands (WordStream.ofList words) symbol 0 tree.yield tree.counts.length ∧
        List.Forall₂ (fun count word => Choice.accepts count word = true) tree.counts words) ∧
      tree.scripts.ncard =
        (tree.counts.map fun count => 2 ^ (BitVec.ofNat 32 count).clz.toNat).prod ∧
      ∀ other : Derivation rules symbol, other.counts = tree.counts →
        other.scripts.ncard = tree.scripts.ncard := by
  refine ⟨fun words script => ⟨?_, Derivation.accepts_of_mem_scripts script⟩,
    Derivation.ncard_scripts_eq_clz sized tree, fun other same => ?_⟩
  · rw [← script.1]
    exact Derivation.expands_of_mem_scripts script
  · rw [Derivation.ncard_scripts_eq_clz sized, Derivation.ncard_scripts_eq_clz sized, same]

/-- Rules for two throws of a die with three faces. -/
def throws : Rules :=
  (empty.insert "<s>" [[.nonTerminal "<d>", .nonTerminal "<d>"]]).insert "<d>"
    [[.terminal "1"], [.terminal "2"], [.terminal "3"]]

theorem throws_wordSized : throws.WordSized :=
  (wordSized_empty.insert "<s>" (by decide)).insert "<d>" (by decide)

/-- The throw of a three and then a one has as many scripts as there are words for the single
production of the start, times those for one face of three, twice. -/
theorem throws_three_one :
    throws.WordSized ∧ ∃ tree : Derivation throws "<s>",
      tree.yield = "3 1 " ∧ tree.counts = [1, 3, 3] ∧
        tree.scripts.ncard = 2 ^ 31 * (2 ^ 30 * 2 ^ 30) := by
  have run : (throws.derive ⟨9, 9⟩ (WordStream.ofList [0, 0xB0000000, 0]) "<s>" 0).map
      (fun (tree, _) => (tree.yield, tree.counts)) = some ("3 1 ", [1, 3, 3]) := by decide +kernel
  obtain ⟨⟨tree, after⟩, -, same⟩ := Option.map_eq_some_iff.1 run
  obtain ⟨yields, counted⟩ := Prod.mk.inj same
  refine ⟨throws_wordSized, tree, yields, counted, ?_⟩
  rw [(ncard_scripts_eq_prod throws throws_wordSized tree).2.1, counted]
  decide +kernel

end Rules

end RandomSentences
