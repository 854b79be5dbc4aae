/-
# Proofs.Bisimulation -- what a symbol is called does not matter

Two symbols, of the same rules or of different ones, *expand alike* when their expansions are
the same under all limits, on every stream and from every position (`ExpandsAlike`).

A relation between names is a *bisimulation* when related names have productions that match one
by one, token by token, up to related names in the references (`Bisimulation`).  Related names
then expand alike: at every depth both draw among equally many productions, take the same one,
and go on with matching tokens from the same position (`expandTo_of_bisimulation`).  The rules
may lead symbols back to themselves, as the induction is on the depth and not on the rules.

Three ways to change rules keep to a bisimulation, and all that a grammar can mean with it
(`expandsAlike_of_bisimulation`): to rename the symbols without giving two of them one name, to
spell each reference as one likes, and to touch only what the start symbol does not reach.
-/
import RandomSentences.Proofs.Acyclic
import RandomSentences.Proofs.Language
import RandomSentences.Proofs.Rules
import Mathlib.Data.List.Forall2
import Mathlib.Logic.Equiv.Basic

namespace RandomSentences

set_option autoImplicit false

/-! ## Tokens that match -/

/-- Do two tokens match, given which names may stand for each other? -/
inductive Token.Matches (related : String → String → Prop) : Token → Token → Prop where
  | terminal (text : String) : Matches related (.terminal text) (.terminal text)
  | nonTerminal {name next : String} (alike : related name next) :
      Matches related (.nonTerminal name) (.nonTerminal next)

abbrev Production.Matches (related : String → String → Prop) : Production → Production → Prop :=
  List.Forall₂ (Token.Matches related)

variable {related : String → String → Prop}

theorem Token.Matches.refl {token : Token}
    (kept : ∀ name, token = .nonTerminal name → related name name) : token.Matches related token := by
  cases token with
  | terminal text => exact .terminal text
  | nonTerminal name => exact .nonTerminal (kept name rfl)

theorem Production.Matches.refl {production : Production}
    (kept : ∀ name, Token.nonTerminal name ∈ production → related name name) :
    production.Matches related production := by
  rw [Production.Matches, List.forall₂_same]
  rintro token member
  exact Token.Matches.refl fun name same => kept name (same ▸ member)

theorem expandTokens_of_matches {expandSymbol expandOther : String → Nat → Option (String × Nat)}
    (same : ∀ name next, related name next → expandSymbol name = expandOther next)
    {tokens others : Production} (matched : tokens.Matches related others) :
    expandTokens expandSymbol tokens = expandTokens expandOther others := by
  induction matched with
  | nil => rfl
  | cons first _ ih =>
      funext position
      cases first with
      | terminal text => rw [expandTokens, expandTokens, ih]
      | nonTerminal alike => rw [expandTokens, expandTokens, same _ _ alike, ih]

def Token.renamed (rename : String → String) : Token → Token
  | .terminal text => .terminal text
  | .nonTerminal name => .nonTerminal (rename name)

def Production.renamed (rename : String → String) (production : Production) : Production :=
  production.map (Token.renamed rename)

variable {rules other : Rules}

namespace Rules

/-! ## Bisimulations -/

/-- Do related names have as many productions, and do these match one by one?  Names without
productions match whether they are defined or not. -/
def Bisimulation (related : String → String → Prop) (rules other : Rules) : Prop :=
  ∀ name next, related name next →
    List.Forall₂ (Production.Matches related) (rules.productions name) (other.productions next)

/-- Do two symbols expand to the same text with the same words drawn, or both to nothing? -/
structure ExpandsAlike (rules : Rules) (symbol : String) (other : Rules) (next : String) :
    Prop where
  expand_eq : ∀ limits stream position,
    rules.expand limits stream symbol position = other.expand limits stream next position
  expands_iff : ∀ stream position text after,
    rules.Expands stream symbol position text after ↔ other.Expands stream next position text after

theorem ExpandsAlike.of_expandTo {symbol next : String}
    (same : ∀ stream draws depth,
      rules.expandTo stream draws depth symbol = other.expandTo stream draws depth next) :
    rules.ExpandsAlike symbol other next where
  expand_eq := fun limits stream position => congrFun (same stream limits.draws limits.depth) position
  expands_iff := by
    intro stream position text after
    simp only [Expands, expand, same]

/-- **Related names expand alike**, one level of references after the other. -/
theorem expandTo_of_bisimulation (bisimulation : Bisimulation related rules other)
    (stream : WordStream) (draws depth : Nat) {symbol next : String} (alike : related symbol next) :
    rules.expandTo stream draws depth symbol = other.expandTo stream draws depth next := by
  induction depth generalizing symbol next with
  | zero => rfl
  | succ depth ih =>
      funext position
      have matched := bisimulation symbol next alike
      have counts := matched.length_eq
      by_cases none_ : rules.productions symbol = []
      · have none' : other.productions next = [] := by
          rwa [none_, List.length_nil, eq_comm, List.length_eq_zero_iff] at counts
        rw [expandTo_of_silent none_, expandTo_of_silent none']
      · have some' : other.productions next ≠ [] := by
          rwa [← List.length_pos_iff, ← counts, List.length_pos_iff]
        rw [expandTo_of_choice none_, expandTo_of_choice some', counts]
        congr 1
        funext ⟨choice, between⟩
        -- the index that was drawn is that of two productions that match
        by_cases inside : choice < (rules.productions symbol).length
        · have inside' : choice < (other.productions next).length := counts ▸ inside
          have tokens := expandTokens_of_matches (fun _ _ alike => ih alike) (matched.get inside inside')
          simp only [List.getElem?_eq_getElem inside, List.getElem?_eq_getElem inside',
            Option.bind_some]
          exact congrFun tokens between
        · have outside : (other.productions next).length ≤ choice := counts ▸ Nat.le_of_not_lt inside
          simp only [List.getElem?_eq_none (Nat.le_of_not_lt inside), List.getElem?_eq_none outside,
            Option.bind_none]

theorem Bisimulation.expandsAlike (bisimulation : Bisimulation related rules other)
    {symbol next : String} (alike : related symbol next) : rules.ExpandsAlike symbol other next :=
  .of_expandTo fun stream draws depth => expandTo_of_bisimulation bisimulation stream draws depth alike

/-! ## Other spellings -/

def SameSymbol (name next : String) : Prop :=
  canonicalName name = canonicalName next

theorem SameSymbol.productions_eq {name next : String} (same : SameSymbol name next) :
    rules.productions name = rules.productions next := by
  rw [← productions_canonicalName rules name, same, productions_canonicalName]

/-- Rules that differ in the spelling of references expand every spelling of a symbol alike. -/
theorem expandsAlike_of_respelled
    (respelled : ∀ name, List.Forall₂ (Production.Matches SameSymbol) (rules.productions name)
      (other.productions name))
    {symbol next : String} (same : SameSymbol symbol next) : rules.ExpandsAlike symbol other next := by
  have bisimulation : Bisimulation SameSymbol rules other := by
    intro name next same
    rw [← same.productions_eq]
    exact respelled name
  exact bisimulation.expandsAlike same

/-! ## Renaming -/

/-- Does the renaming give two names one symbol just when they had one before? -/
def Consistent (rename : String → String) : Prop :=
  ∀ name next, SameSymbol (rename name) (rename next) ↔ SameSymbol name next

def renamedEntries (rename : String → String) (rules : Rules) : List (String × List Production) :=
  (rules.entries.filter fun entry => canonicalName entry.1 = entry.1).map fun entry =>
    (canonicalName (rename entry.1), entry.2.map (Production.renamed rename))

/-- The rules with other names for their symbols, where they are defined and in references.
Something stored under a name that is not found is left out. -/
def renamed (rename : String → String) (rules : Rules) : Rules :=
  ofEntries (rules.renamedEntries rename)

theorem renamedEntries_distinct {rename : String → String} (consistent : Consistent rename) :
    (rules.renamedEntries rename).Pairwise fun a b => a.1 ≠ b.1 := by
  rw [renamedEntries, List.pairwise_map, List.pairwise_filter]
  refine rules.entries_distinct.imp fun {a b} apart isCanonical isCanonical' same => apart ?_
  have spelled := (consistent a.1 b.1).1 same
  rwa [SameSymbol, of_decide_eq_true isCanonical, of_decide_eq_true isCanonical'] at spelled

theorem get?_renamed {rename : String → String} (consistent : Consistent rename) (name : String) :
    (rules.renamed rename).get? (rename name) =
      (rules.get? name).map (List.map (Production.renamed rename)) := by
  apply Option.ext
  intro productions
  rw [get?, renamed, stored_ofEntries_iff (renamedEntries_distinct consistent), renamedEntries,
    Option.map_eq_some_iff]
  constructor
  · intro member
    obtain ⟨⟨key, found⟩, kept, made⟩ := List.mem_map.1 member
    obtain ⟨stored, fixed⟩ := List.mem_filter.1 kept
    obtain ⟨same, rfl⟩ := Prod.mk.inj made
    have isCanonical : canonicalName key = key := of_decide_eq_true fixed
    have spelled : canonicalName key = canonicalName name := (consistent key name).1 same
    obtain rfl : key = canonicalName name := isCanonical.symm.trans spelled
    exact ⟨found, mem_entries_iff.1 stored, rfl⟩
  · rintro ⟨found, stored, rfl⟩
    have isCanonical := canonicalName_canonicalName name
    refine List.mem_map.2 ⟨(canonicalName name, found),
      List.mem_filter.2 ⟨mem_entries_iff.2 stored, decide_eq_true isCanonical⟩, ?_⟩
    exact Prod.ext ((consistent (canonicalName name) name).2 isCanonical) rfl

theorem productions_renamed {rename : String → String} (consistent : Consistent rename)
    (name : String) :
    (rules.renamed rename).productions (rename name) =
      (rules.productions name).map (Production.renamed rename) := by
  rw [productions, productions, get?_renamed consistent]
  cases rules.get? name <;> rfl

theorem bisimulation_renamed (rules : Rules) {rename : String → String}
    (consistent : Consistent rename) :
    Bisimulation (fun name next => rename name = next) rules (rules.renamed rename) := by
  rintro name _ rfl
  rw [productions_renamed consistent, List.forall₂_map_right_iff, List.forall₂_same]
  intro production _
  rw [Production.renamed, Production.Matches, List.forall₂_map_right_iff, List.forall₂_same]
  rintro (text | name) _
  · exact .terminal text
  · exact .nonTerminal rfl

/-! ## Rules out of reach -/

/-- Are the two names one, and does the symbol lead to it? -/
def LedTo (rules : Rules) (symbol name next : String) : Prop :=
  name = next ∧ rules.Reaches symbol (canonicalName name)

theorem bisimulation_ledTo {symbol : String}
    (same : ∀ name, rules.Reaches symbol name → other.productions name = rules.productions name) :
    Bisimulation (rules.LedTo symbol) rules other := by
  rintro name _ ⟨rfl, reaches⟩
  rw [← productions_canonicalName other, same _ reaches, productions_canonicalName,
    List.forall₂_same]
  intro production member
  exact Production.Matches.refl fun reference inside =>
    ⟨rfl, reaches.tail (refers_of_mem member inside)⟩

/-- Rules with the same productions wherever a symbol leads expand it alike. -/
theorem expandsAlike_of_reaches {symbol : String}
    (same : ∀ name, rules.Reaches symbol name → other.productions name = rules.productions name) :
    rules.ExpandsAlike symbol other symbol :=
  (bisimulation_ledTo same).expandsAlike ⟨rfl, .refl⟩

/-! ## Names do not matter -/

/-- **What symbols are called never shows in an expansion.**  Names that a bisimulation relates
expand alike; so do a symbol and its new name after a renaming, two spellings of a symbol in rules
with any spelling of each reference, and a symbol in rules that differ where it does not lead. -/
theorem expandsAlike_of_bisimulation (rules other : Rules) :
    (∀ related, Bisimulation related rules other → ∀ symbol next, related symbol next →
        rules.ExpandsAlike symbol other next) ∧
      (∀ rename, Consistent rename → ∀ symbol,
        rules.ExpandsAlike symbol (rules.renamed rename) (rename symbol)) ∧
      ((∀ name, List.Forall₂ (Production.Matches SameSymbol) (rules.productions name)
          (other.productions name)) →
        ∀ symbol next, SameSymbol symbol next → rules.ExpandsAlike symbol other next) ∧
      ∀ symbol,
        (∀ name, rules.Reaches symbol name → other.productions name = rules.productions name) →
          rules.ExpandsAlike symbol other symbol := by
  refine ⟨fun related bisimulation symbol next => bisimulation.expandsAlike, fun rename consistent
    symbol => (rules.bisimulation_renamed consistent).expandsAlike rfl, fun respelled symbol next =>
    expandsAlike_of_respelled respelled, fun symbol => expandsAlike_of_reaches⟩

/-! ## A chain of any length, and its twin -/

def twin : Rules := empty.insert "<B>" [[.terminal "x", .nonTerminal " <b>"], []]

/-- Is the first name one of the symbol of the chain, and the second one of the symbol of its twin? -/
def Twins (name next : String) : Prop :=
  canonicalName name = "<a>" ∧ canonicalName next = "<b>"

theorem bisimulation_twin : Bisimulation Twins chain twin := by
  have upper : canonicalName "<B>" = "<b>" := by decide +kernel
  have lower : canonicalName "<a>" = "<a>" := by decide +kernel
  have references : Twins "<A>" " <b>" := by constructor <;> decide +kernel
  rintro name next ⟨isFirst, isSecond⟩
  rw [chain, twin, productions_insert, productions_insert, isFirst, isSecond, upper, lower,
    if_pos rfl, if_pos rfl]
  exact .cons (.cons (.terminal "x") (.cons (.nonTerminal references) .nil)) (.cons .nil .nil)

def swapped (name : String) : String :=
  if canonicalName name = "<a>" then "<b>" else if canonicalName name = "<b>" then "<a>" else name

theorem canonicalName_swapped (name : String) :
    canonicalName (swapped name) = Equiv.swap "<a>" "<b>" (canonicalName name) := by
  rw [Equiv.swap_apply_def, swapped]
  split_ifs
  · decide +kernel
  · decide +kernel
  · rfl

theorem consistent_swapped : Consistent swapped := by
  intro name next
  rw [SameSymbol, canonicalName_swapped, canonicalName_swapped, Equiv.apply_eq_iff_eq, SameSymbol]

def spelled : Rules := empty.insert "<A>" [[.terminal "x", .nonTerminal "<a>\n"], []]

theorem respelled_spelled (name : String) :
    List.Forall₂ (Production.Matches SameSymbol) (chain.productions name)
      (spelled.productions name) := by
  have upper : canonicalName "<A>" = canonicalName "<a>" := by decide +kernel
  have references : SameSymbol "<A>" "<a>\n" := by
    rw [SameSymbol]
    decide +kernel
  rw [chain, spelled, productions_insert, productions_insert, upper]
  split
  · exact .cons (.cons (.terminal "x") (.cons (.nonTerminal references) .nil)) (.cons .nil .nil)
  · exact .nil

theorem eq_of_chain_reaches {name : String} (reaches : chain.Reaches "<a>" name) :
    name = "<a>" := by
  have lower : canonicalName "<a>" = "<a>" := by decide +kernel
  induction reaches with
  | refl => exact lower
  | tail _ refers ih =>
      obtain ⟨production, member, reference, inside, rfl⟩ := refers
      rw [chain, productions_insert, ih, if_pos rfl] at member
      have first : production = [.terminal "x", .nonTerminal "<A>"] ∨ production = [] := by
        simpa using member
      rcases first with rfl | rfl
      · obtain rfl : reference = "<A>" := by simpa using inside
        decide +kernel
      · cases inside

theorem productions_insert_chain {name : String} (reaches : chain.Reaches "<a>" name) :
    (chain.insert "<c>" [[]]).productions name = chain.productions name := by
  have apart : canonicalName "<c>" ≠ canonicalName "<a>" := by decide +kernel
  rw [productions_insert, eq_of_chain_reaches reaches, if_neg apart]

theorem expandsAlike_chain :
    (Bisimulation Twins chain twin ∧ Twins "<a> " "<B>" ∧ chain.ExpandsAlike "<a> " twin "<B>") ∧
      (Consistent swapped ∧ chain.ExpandsAlike "<a>" (chain.renamed swapped) "<b>") ∧
      (SameSymbol "<A>" "<a>" ∧ chain.ExpandsAlike "<A>" spelled "<a>") ∧
      chain.ExpandsAlike "<a>" (chain.insert "<c>" [[]]) "<a>" := by
  have twins : Twins "<a> " "<B>" := by constructor <;> decide +kernel
  have second : swapped "<a>" = "<b>" := by decide +kernel
  have same : SameSymbol "<A>" "<a>" := by
    rw [SameSymbol]
    decide +kernel
  have renamed := (expandsAlike_of_bisimulation chain chain).2.1 swapped consistent_swapped "<a>"
  rw [second] at renamed
  refine ⟨⟨bisimulation_twin, twins, ?_⟩, ⟨consistent_swapped, renamed⟩, ⟨same, ?_⟩, ?_⟩
  · exact (expandsAlike_of_bisimulation chain twin).1 Twins bisimulation_twin _ _ twins
  · exact (expandsAlike_of_bisimulation chain spelled).2.2.1 respelled_spelled _ _ same
  · exact (expandsAlike_of_bisimulation chain (chain.insert "<c>" [[]])).2.2.2 "<a>"
      fun name => productions_insert_chain

end Rules

end RandomSentences
