/-
# Proofs.Insertions -- rules as the last writes of a run of insertions

Rules that start out empty and are inserted into one symbol after the other *follow* the run: under
every name is stored what the last insertion with that canonical name brought (`Follows`), since each
insertion adds an entry and the last entry of a name counts (`follows_ofInsertions`).  So whatever can
be asked of the rules is told by the run (`Reflects`).  A definition is an insertion or, when it has
no line, none, so rules built from definitions follow the run of their insertions.

What is stored is stored under canonical names, and these are canonical names of themselves; that is
why each listed name is found again.
-/
import RandomSentences.GrammarFile
import RandomSentences.Proofs.CanonicalName
import RandomSentences.Proofs.Rules
import Mathlib.Data.Finset.Card

namespace RandomSentences

set_option autoImplicit false

namespace Insertion

/-- The productions that the last insertion with a key brings. -/
def last? (run : List Insertion) (key : String) : Option (List Production) :=
  ((run.filter fun insertion => insertion.key = key).getLast?).map Prod.snd

/-- What a later run brings counts before what an earlier one brought. -/
theorem last?_append_run (run later : List Insertion) (key : String) :
    last? (run ++ later) key = (last? later key).or (last? run key) := by
  rw [last?, List.filter_append, List.getLast?_append, Option.map_or]
  rfl

theorem isSome_last?_iff {run : List Insertion} {key : String} :
    (last? run key).isSome = true ↔ ∃ insertion ∈ run, insertion.key = key := by
  simp [last?, Option.isSome_map]

/-- Two insertions with different keys may change places. -/
theorem last?_swap {first second : Insertion} (apart : first.key ≠ second.key)
    (before after : List Insertion) (key : String) :
    last? (before ++ first :: second :: after) key =
      last? (before ++ second :: first :: after) key := by
  have same : (before ++ first :: second :: after).filter (fun insertion => insertion.key = key) =
      (before ++ second :: first :: after).filter fun insertion => insertion.key = key := by
    simp only [List.filter_append, List.filter_cons]
    by_cases here : first.key = key
    · have there : second.key ≠ key := fun same => apart (here.trans same.symm)
      simp [here, there]
    · simp [here]
  rw [last?, last?, same]

end Insertion

namespace Rules

/-- Is under every name stored what the run brought last? -/
def Follows (rules : Rules) (run : List Insertion) : Prop :=
  ∀ name : String, rules.stored[name]? = Insertion.last? run name

/-- The last insertion with a key is the last entry of that name. -/
theorem follows_ofInsertions (run : List Insertion) : (ofInsertions run).Follows run := by
  intro name
  simp only [ofInsertions_eq_ofEntries, stored_ofEntries, List.filter_map, List.getLast?_map,
    Option.map_map, Insertion.last?, Insertion.entry, Function.comp_def]
  rfl

/-- Is what can be asked of the rules told by the run? -/
structure Reflects (rules : Rules) (run : List Insertion) : Prop where
  get?_eq : ∀ name, rules.get? name = Insertion.last? run (canonicalName name)
  contains_eq : ∀ name, rules.contains name = (rules.get? name).isSome
  size_eq : rules.size = (run.map Insertion.key).toFinset.card
  isEmpty_iff : rules.isEmpty = true ↔ run = []
  names_sorted : rules.names.Pairwise (· < ·)
  mem_names_iff : ∀ name, name ∈ rules.names ↔ ∃ insertion ∈ run, insertion.key = name
  get?_of_mem_names : ∀ name ∈ rules.names, ∃ productions, rules.get? name = some productions

/-- What follows a run reflects it. -/
theorem Follows.reflects {rules : Rules} {run : List Insertion} (follows : rules.Follows run) :
    rules.Reflects run := by
  have listed (name : String) :
      name ∈ rules.names ↔ ∃ insertion ∈ run, insertion.key = name := by
    rw [mem_names_iff, follows name, Insertion.isSome_last?_iff]
  refine ⟨fun name => follows (canonicalName name), fun name => rfl, ?_, ?_, rules.names_sorted,
    listed, ?_⟩
  · have same : rules.names.toFinset = (run.map Insertion.key).toFinset := by
      ext name
      simp [listed]
    rw [size, ← Std.ExtTreeMap.length_keys, ← same]
    exact (List.toFinset_card_of_nodup Std.ExtTreeMap.nodup_keys).symm
  · rw [isEmpty, ← Std.ExtTreeMap.isEmpty_keys, List.isEmpty_iff, List.eq_nil_iff_forall_not_mem,
      List.eq_nil_iff_forall_not_mem]
    constructor
    · exact fun none_ insertion member => none_ _ ((listed _).2 ⟨insertion, member, rfl⟩)
    · rintro none_ name member
      obtain ⟨insertion, found, -⟩ := (listed name).1 member
      exact none_ insertion found
  · intro name member
    obtain ⟨insertion, found, rfl⟩ := (listed name).1 member
    rw [← Option.isSome_iff_exists, get?, follows, Insertion.isSome_last?_iff]
    exact ⟨insertion, found, (canonicalName_canonicalName insertion.1).symm⟩

/-- Of definitions in two parts, those of the later part count first. -/
theorem get?_ofDefinitions_append (definitions later : List (List String)) (name : String) :
    (ofDefinitions (definitions ++ later)).get? name =
      ((ofDefinitions later).get? name).or ((ofDefinitions definitions).get? name) := by
  simp only [ofDefinitions_eq_ofInsertions, List.filterMap_append, get?, follows_ofInsertions _ _,
    Insertion.last?_append_run]

theorem ofInsertions_swap {first second : Insertion} (apart : first.key ≠ second.key)
    (before after : List Insertion) :
    ofInsertions (before ++ first :: second :: after) =
      ofInsertions (before ++ second :: first :: after) := by
  apply ext_stored
  intro name
  rw [follows_ofInsertions, follows_ofInsertions, Insertion.last?_swap apart]

/-- **Rules are the last writes of the run that built them**, whether a run of insertions or of
definitions, and two neighbours in the run with different keys may change places. -/
theorem reflects_run (run : List Insertion) (definitions : List (List String)) :
    (ofInsertions run).Reflects run ∧
      (ofDefinitions definitions).Reflects (definitions.filterMap Insertion.ofDefinition?) ∧
      (∀ before first second after, first.key ≠ second.key →
        ofInsertions (before ++ first :: second :: after) =
          ofInsertions (before ++ second :: first :: after)) ∧
      ∀ before name lines other others after, canonicalName name ≠ canonicalName other →
        ofDefinitions (before ++ (name :: lines) :: (other :: others) :: after) =
          ofDefinitions (before ++ (other :: others) :: (name :: lines) :: after) := by
  refine ⟨(follows_ofInsertions run).reflects, ?_, fun before _ _ after apart =>
    ofInsertions_swap apart before after, ?_⟩
  · rw [ofDefinitions_eq_ofInsertions]
    exact (follows_ofInsertions _).reflects
  · intro before name lines other others after apart
    have keys : Insertion.key (name, lines.map Production.ofLine) ≠
        Insertion.key (other, others.map Production.ofLine) := apart
    simp only [ofDefinitions_eq_ofInsertions, List.filterMap_append, List.filterMap_cons,
      Insertion.ofDefinition?]
    exact ofInsertions_swap keys _ _

/-- A run with two spellings of one symbol, with a sigma at the end of its name, and another symbol
between them. -/
def spellings : List Insertion :=
  [("ΛΌΓΟΣ", [[]]), ("<İ>", []), (" λόγος\n", [[.terminal "x"]])]

/-- The later spelling counts, and the other symbol may come first or second. -/
theorem reflects_run_spellings :
    (ofInsertions spellings).get? "λόγοΣ" = some [[.terminal "x"]] ∧
      (ofInsertions spellings).names = ["<i\u0307>", "λόγος"] ∧
      canonicalName "ΛΌΓΟΣ" ≠ canonicalName "<İ>" ∧
      ofInsertions spellings = ofInsertions
        [("<İ>", []), ("ΛΌΓΟΣ", [[]]), (" λόγος\n", [[.terminal "x"]])] ∧
      ofDefinitions [["ΛΌΓΟΣ", "a"], ["<İ>"]] = ofDefinitions [["<İ>"], ["ΛΌΓΟΣ", "a"]] := by
  have apart : canonicalName "ΛΌΓΟΣ" ≠ canonicalName "<İ>" := by decide +kernel
  obtain ⟨reflects, -, insertions, definitions⟩ := reflects_run spellings []
  refine ⟨?_, by decide +kernel, apart, ?_, ?_⟩
  · rw [reflects.get?_eq]
    decide +kernel
  · exact insertions [] ("ΛΌΓΟΣ", [[]]) ("<İ>", []) [(" λόγος\n", [[.terminal "x"]])] apart
  · exact definitions [] "ΛΌΓΟΣ" ["a"] "<İ>" [] [] apart

end Rules

end RandomSentences
