/-
# Proofs.Lookup -- are the names that rules list found again?

Rules list the names that something is stored under, and look a name up by its canonical name.
The two agree when every listed name is found, with what is stored under that very name, and
no two listed names stand for one symbol (`FindsNames`).  That comes to one condition: every
listed name is its own canonical name (`findsNames_iff`).

Insertions store under canonical names, so rules that are built by insertions, from definitions
or from a grammar file find their names whatever the names were (`findsNames_ofInsertions`).  A
JSON document is not read by insertions.  Its names are stored as they are written, and the
rules in it find their names just when the document has canonical names only
(`findsNames_built_and_read`).  The poles `canonical` and `capital` are a document of each kind.
-/
import RandomSentences.Grammar
import RandomSentences.Proofs.Accepted
import RandomSentences.Proofs.Insertions

namespace RandomSentences

set_option autoImplicit false

namespace Rules

/-- Is every listed name found, with what is stored under it, and no other name of its symbol
listed? -/
structure FindsNames (rules : Rules) : Prop where
  contains : ∀ name ∈ rules.names, rules.contains name = true
  get?_eq : ∀ name ∈ rules.names, rules.get? name = rules.stored[name]?
  apart : ∀ name ∈ rules.names, ∀ other ∈ rules.names,
    canonicalName name = canonicalName other → name = other

/-- **Rules find their names when every name is its own canonical name**, and only then. -/
theorem findsNames_iff {rules : Rules} :
    rules.FindsNames ↔ ∀ name ∈ rules.names, canonicalName name = name := by
  constructor
  · intro finds name member
    have found : canonicalName name ∈ rules.names := mem_names_iff.2 (finds.contains name member)
    exact finds.apart _ found _ member (canonicalName_canonicalName name)
  · intro canonical
    refine ⟨fun name member => ?_, fun name member => ?_, fun name member other found same => ?_⟩
    · rw [Rules.contains, get?, canonical name member]
      exact mem_names_iff.1 member
    · rw [get?, canonical name member]
    · rwa [canonical name member, canonical other found] at same

theorem findsNames_ofInsertions (run : List Insertion) : (ofInsertions run).FindsNames := by
  rw [findsNames_iff]
  intro name member
  obtain ⟨insertion, -, rfl⟩ := ((follows_ofInsertions run).reflects.mem_names_iff name).1 member
  exact canonicalName_canonicalName insertion.1

theorem findsNames_ofDefinitions (definitions : List (List String)) :
    (ofDefinitions definitions).FindsNames := by
  rw [ofDefinitions_eq_ofInsertions]
  exact findsNames_ofInsertions _

/-- **Rules find their names however they are built, and a document of rules must have canonical
names for it.** -/
theorem findsNames_built_and_read (run : List Insertion) (definitions : List (List String))
    (text document : String) :
    empty.FindsNames ∧ (ofInsertions run).FindsNames ∧ (ofDefinitions definitions).FindsNames ∧
      (Grammar.ofText text).rules.FindsNames ∧
      ∀ rules, ofJson? document = some rules →
        ∃ lexemes, Json.lex document = some lexemes ∧
          (∀ name, name ∈ rules.names ↔ name ∈ Json.memberNames 0 lexemes) ∧
          (rules.FindsNames ↔ ∀ name ∈ Json.memberNames 0 lexemes, canonicalName name = name) := by
  refine ⟨findsNames_ofInsertions [], findsNames_ofInsertions run,
    findsNames_ofDefinitions definitions, findsNames_ofDefinitions _, fun rules accepted => ?_⟩
  obtain ⟨lexemes, lexed, same⟩ := mem_names_of_ofJson? accepted
  refine ⟨lexemes, lexed, same, ?_⟩
  simp only [findsNames_iff, same]

/-- A document of rules for two symbols, each under its canonical name. -/
def canonical : String := "\x7b\"<a>\": [[]], \"<b> c\": []\x7d"

theorem ofJson?_canonical :
    ofJson? canonical = some (ofEntries [("<a>", [[]]), ("<b> c", [])]) := by decide +kernel

theorem findsNames_built_and_read_canonical :
    ofJson? canonical = some (ofEntries [("<a>", [[]]), ("<b> c", [])]) ∧
      (ofEntries [("<a>", [[]]), ("<b> c", [])]).FindsNames := by
  refine ⟨ofJson?_canonical, ?_⟩
  obtain ⟨-, -, -, -, read⟩ := findsNames_built_and_read [] [] "" canonical
  obtain ⟨lexemes, lexed, -, finds⟩ := read _ ofJson?_canonical
  have names : (Json.lex canonical).map (Json.memberNames 0) = some ["<a>", "<b> c"] := by
    decide +kernel
  rw [lexed, Option.map_some, Option.some_inj] at names
  rw [finds, names]
  decide +kernel

/-- A document of rules for one symbol, with a capital letter in its name. -/
def capital : String := "\x7b\"<A>\": [[]]\x7d"

theorem ofJson?_capital : ofJson? capital = some (ofEntries [("<A>", [[]])]) := by decide +kernel

/-- **A name with a capital letter is listed and not found.** -/
theorem capital_listed_and_not_found :
    ¬ ∀ document rules, ofJson? document = some rules → rules.FindsNames := by
  intro finds
  have found := (finds _ _ ofJson?_capital).contains "<A>" (by decide +kernel)
  have notFound : (ofEntries [("<A>", [[]])]).contains "<A>" = false := by decide +kernel
  rw [notFound] at found
  cases found

end Rules

end RandomSentences
