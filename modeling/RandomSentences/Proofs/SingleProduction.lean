/-
# Proofs.SingleProduction -- without alternatives there is nothing to be random about

Where every name that a symbol leads to has one production at most (`SingleFrom`), the symbol has no
two derivations: at each node either there is no production or there is the one, and below it the
same holds of every reference (`Derivation.eq_of_single`).  Where no name leads back to itself
besides, there is a derivation, and every run of the expansion is that one.

The stream still matters for the number of words that are drawn, as a choice among one production
draws words until one is accepted, and half of all words are refused.  So two runs make the same
picks and differ in refused words only (`expands_of_single`).
-/
import RandomSentences.Proofs.Acyclic
import RandomSentences.Proofs.Locality

namespace RandomSentences

set_option autoImplicit false

open Choice (Draw)

variable {rules : Rules}

namespace Rules

/-- Has every name that the symbol leads to one production at most? -/
def SingleFrom (rules : Rules) (symbol : String) : Prop :=
  ∀ name, rules.Reaches symbol name → (rules.productions name).length ≤ 1

theorem SingleFrom.of_refers {symbol reference : String} (single : rules.SingleFrom symbol)
    (refers : rules.Refers (canonicalName symbol) (canonicalName reference)) :
    rules.SingleFrom reference :=
  fun name reaches => single name (.head refers reaches)

theorem SingleFrom.length_le_one {symbol : String} (single : rules.SingleFrom symbol) :
    (rules.productions symbol).length ≤ 1 := by
  rw [← productions_canonicalName]
  exact single _ .refl

end Rules

/-! ## One derivation -/

mutual

theorem Derivation.eq_of_single : ∀ {symbol : String} (tree other : Derivation rules symbol),
    rules.SingleFrom symbol → tree = other
  | _, .silent _, .silent _, _ => rfl
  | _, .silent none_, .choice index _, _ => absurd none_ (List.ne_nil_of_length_pos index.pos)
  | _, .choice index _, .silent none_, _ => absurd none_ (List.ne_nil_of_length_pos index.pos)
  | _, .choice index row, .choice index' row', single => by
      have few := single.length_le_one
      obtain rfl : index = index' := Fin.ext (by omega)
      have member := List.getElem_mem index.isLt
      rw [row.eq_of_single row' fun reference inside =>
        single.of_refers (Rules.refers_of_mem member inside)]

theorem Row.eq_of_single : ∀ {tokens : Production} (row other : Row rules tokens),
    (∀ reference, Token.nonTerminal reference ∈ tokens → rules.SingleFrom reference) → row = other
  | _, .nil, .nil, _ => rfl
  | _, .word text rest, .word _ rest', single => by
      rw [rest.eq_of_single rest' fun reference inside => single reference (.tail _ inside)]
  | _, @Row.tree _ name _ tree rest, .tree tree' rest', single => by
      rw [tree.eq_of_single tree' (single name (.head _)),
        rest.eq_of_single rest' fun reference inside => single reference (.tail _ inside)]

end

theorem Derivation.yield_eq_join {symbol : String} (tree : Derivation rules symbol) :
    tree.yield = String.join (tree.words.map fun word => word ++ " ") := by
  apply String.toList_inj.1
  rw [tree.toList_yield, String.toList_join, List.flatMap_map]
  simp only [String.toList_append]
  rfl

namespace Rules

/-! ## One text -/

/-- **Where no symbol has an alternative or leads back to itself, every run says the same.**  There
is one derivation, which is found on every list of words with zeros behind it.  A run that ends, on
whichever stream, ends with the words of that derivation, each with a space after it, and draws one
word for each of its choices and those that are refused. -/
theorem expands_of_single (rules : Rules) (symbol : String) (single : rules.SingleFrom symbol)
    (acyclic : rules.AcyclicFrom symbol) :
    ∃ tree : Derivation rules symbol, (∀ other : Derivation rules symbol, other = tree) ∧
      (∀ words position, ∃ text after,
        rules.Expands (WordStream.ofList words) symbol position text after) ∧
      ∀ stream position text after, rules.Expands stream symbol position text after →
        text = String.join (tree.words.map fun word => word ++ " ") ∧
        (∃ draws, tree.DrawnBy stream position draws) ∧
        ∀ draws, tree.DrawnBy stream position draws →
          after = position + draws.length ∧
            draws.length = tree.picks.length + draws.countP Draw.refused := by
  have ends (words : List UInt32) (position : Nat) : ∃ text after,
      rules.Expands (WordStream.ofList words) symbol position text after := by
    obtain ⟨tree, after, reads⟩ :=
      exists_tree_of_acyclic (Choice.decides_ofList words) symbol acyclic position
    exact ⟨tree.yield, after, expands_iff.2 ⟨tree, rfl, _, reads⟩⟩
  -- any run shows the derivation; the one on zeros is there for sure
  obtain ⟨text, after, first⟩ := ends [] 0
  obtain ⟨tree, -⟩ := expands_iff.1 first
  refine ⟨tree, fun other => other.eq_of_single tree single, ends, ?_⟩
  intro stream position text after run
  obtain ⟨other, draws, drawn, rfl, rfl⟩ := expands_iff_drawnBy.1 run
  obtain rfl := other.eq_of_single tree single
  refine ⟨other.yield_eq_join, ⟨draws, drawn⟩, fun draws drawn => ⟨?_, drawn.makes.length_eq⟩⟩
  exact (run.unique (expands_of_drawnBy drawn)).2

/-- Rules without alternatives, with two spellings of a symbol and one that is undefined. -/
def refrain : Rules :=
  (empty.insert "<S>" [[.terminal "o", .nonTerminal " <B> ", .nonTerminal "<C>",
    .nonTerminal "<b>"]]).insert "<b>" [[.terminal "la"]]

theorem refrain_single (symbol : String) : refrain.SingleFrom symbol := by
  intro name _
  rw [refrain, productions_insert, productions_insert, productions_empty]
  split_ifs <;> decide

/-- How far a name lies above those that refer to nothing. -/
def refrainRank (name : String) : Nat :=
  if canonicalName name = "<s>" then 1 else 0

theorem refrainRank_lt (name next : String) (refers : refrain.Refers name next) :
    refrainRank next < refrainRank name := by
  have upper : canonicalName "<S>" = "<s>" := by decide +kernel
  have lower : canonicalName "<b>" = "<b>" := by decide +kernel
  obtain ⟨production, member, reference, inside, rfl⟩ := refers
  rw [refrain, productions_insert, productions_insert, productions_empty, upper, lower] at member
  split_ifs at member with isLower isUpper
  · obtain rfl := List.mem_singleton.1 member
    simp at inside
  · obtain rfl := List.mem_singleton.1 member
    have spelled : reference = " <B> " ∨ reference = "<C>" ∨ reference = "<b>" := by
      simpa using inside
    have bottom : refrainRank (canonicalName reference) = 0 := by
      rcases spelled with rfl | rfl | rfl <;> decide +kernel
    rw [bottom, refrainRank, if_pos isUpper.symm]
    exact Nat.one_pos
  · cases member

/-- Two runs, the second with two refused words in it, and the text of every other run. -/
theorem expands_of_single_refrain :
    refrain.SingleFrom "<s>" ∧ refrain.AcyclicFrom "<s>" ∧
      refrain.Expands (WordStream.ofList []) "<s>" 0 "o la la " 3 ∧
      refrain.Expands (WordStream.ofList [0xFFFFFFFF, 0, 0x80000000]) "<s>" 0 "o la la " 5 ∧
      ∀ stream position text after, refrain.Expands stream "<s>" position text after →
        text = "o la la " := by
  have single := refrain_single "<s>"
  have acyclic := acyclicFrom_of_rank refrainRank refrainRank_lt "<s>"
  have quick : refrain.Expands (WordStream.ofList []) "<s>" 0 "o la la " 3 :=
    ⟨⟨3, 1⟩, by decide +kernel⟩
  have slow : refrain.Expands (WordStream.ofList [0xFFFFFFFF, 0, 0x80000000]) "<s>" 0
      "o la la " 5 := ⟨⟨3, 2⟩, by decide +kernel⟩
  obtain ⟨tree, -, -, runs⟩ := expands_of_single refrain "<s>" single acyclic
  have said := (runs _ _ _ _ quick).1
  exact ⟨single, acyclic, quick, slow, fun stream position text after run =>
    (runs stream position text after run).1.trans said.symm⟩

end Rules

end RandomSentences
