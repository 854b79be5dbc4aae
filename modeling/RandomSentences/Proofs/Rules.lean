/-
# Proofs.Rules -- what is stored in rules that are built one insertion after the other

An insertion stores an *entry*, its canonical name with its productions, and a definition with a
name is an insertion.  So rules built from insertions, or from definitions, are the rules of their
entries (`ofInsertions_eq_ofEntries`, `ofDefinitions_eq_ofEntries`).  Of several entries of one name
the last is stored (`stored_ofEntries`), so nothing is stored that is not an entry, and where no name
comes twice the order of the entries means nothing (`ofEntries_of_perm`).
-/
import RandomSentences.GrammarFile
import Mathlib.Data.List.Induction
import Mathlib.Data.List.Sort

namespace RandomSentences

set_option autoImplicit false

/-- A symbol, as it is spelled, and the productions it is given. -/
abbrev Insertion := String × List Production

namespace Insertion

def key (insertion : Insertion) : String := canonicalName insertion.1

/-- The insertion that a definition makes, if it has a line. -/
def ofDefinition? : List String → Option Insertion
  | [] => none
  | name :: lines => some (name, lines.map Production.ofLine)

def entry (insertion : Insertion) : String × List Production := (insertion.key, insertion.2)

end Insertion

namespace Rules

/-! ## The last entry of a name -/

/-- **The last entry of a name is the one that is stored.** -/
theorem stored_ofEntries (entries : List (String × List Production)) (name : String) :
    (ofEntries entries).stored[name]? =
      ((entries.filter fun entry => entry.1 = name).getLast?).map Prod.snd := by
  rw [ofEntries, Std.ExtTreeMap.ofList_eq_insertMany_empty, Std.ExtTreeMap.getElem?_insertMany_list,
    Std.ExtTreeMap.getElem?_empty, Option.or_none, List.findSomeRev?_eq_findSome?_reverse,
    ← List.getLast?_filterMap, ← List.getLast?_map, ← List.filterMap_eq_map, List.filterMap_filter]
  simp

theorem mem_of_stored_ofEntries {entries : List (String × List Production)} {name : String}
    {productions : List Production}
    (stored : (ofEntries entries).stored[name]? = some productions) :
    (name, productions) ∈ entries := by
  rw [stored_ofEntries] at stored
  obtain ⟨entry, last, rfl⟩ := Option.map_eq_some_iff.1 stored
  obtain ⟨member, same⟩ := List.mem_filter.1 (List.mem_of_getLast? last)
  rwa [← of_decide_eq_true same]

theorem mem_entries_iff {rules : Rules} {name : String} {productions : List Production} :
    (name, productions) ∈ rules.entries ↔ rules.stored[name]? = some productions :=
  Std.ExtTreeMap.mem_toList_iff_getElem?_eq_some

theorem mem_names_iff {rules : Rules} {name : String} :
    name ∈ rules.names ↔ (rules.stored[name]?).isSome = true := by
  rw [names, Std.ExtTreeMap.mem_keys, Std.ExtTreeMap.mem_iff_isSome_getElem?]

/-- The names come in strictly increasing order. -/
theorem names_sorted (rules : Rules) : rules.names.Pairwise (· < ·) := by
  refine Std.ExtTreeMap.ordered_keys.imp ?_
  intro name next before
  exact compareOfLessAndEq_eq_lt.1 before

/-- Rules with something under the same names list the same names. -/
theorem names_eq_of_isSome {rules other : Rules}
    (same : ∀ name : String, (rules.stored[name]?).isSome = (other.stored[name]?).isSome) :
    rules.names = other.names := by
  apply rules.names_sorted.eq_of_mem_iff other.names_sorted
  intro name
  rw [mem_names_iff, mem_names_iff, same]

theorem entries_distinct (rules : Rules) : rules.entries.Pairwise fun a b => a.1 ≠ b.1 := by
  refine rules.stored.distinct_keys_toList.imp ?_
  intro a b apart same
  exact apart (Std.compare_eq_iff_eq.2 same)

/-- Where no name comes twice, every entry is stored, and nothing else. -/
theorem stored_ofEntries_iff {entries : List (String × List Production)}
    (distinct : entries.Pairwise fun a b => a.1 ≠ b.1) {name : String}
    {productions : List Production} :
    (ofEntries entries).stored[name]? = some productions ↔ (name, productions) ∈ entries := by
  refine ⟨mem_of_stored_ofEntries, fun member => ?_⟩
  have apart : entries.Pairwise fun a b => ¬compare a.1 b.1 = .eq :=
    distinct.imp fun differ same => differ (Std.compare_eq_iff_eq.1 same)
  exact Std.ExtTreeMap.getElem?_ofList_of_mem Std.ReflCmp.compare_self apart member

/-- Rules are those of their own entries, in any order. -/
theorem ofEntries_of_perm {rules : Rules} {entries : List (String × List Production)}
    (order : entries.Perm rules.entries) : ofEntries entries = rules := by
  apply ext_stored
  intro name
  have distinct := rules.entries_distinct.perm order.symm fun apart => apart.symm
  apply Option.ext
  intro productions
  rw [stored_ofEntries_iff distinct, order.mem_iff, mem_entries_iff]

/-! ## Insertions and definitions -/

def ofInsertions (run : List Insertion) : Rules :=
  run.foldl (fun rules insertion => rules.insert insertion.1 insertion.2) empty

/-- One more insertion is one more entry. -/
theorem insert_ofEntries (entries : List (String × List Production)) (insertion : Insertion) :
    (ofEntries entries).insert insertion.1 insertion.2 =
      ofEntries (entries ++ [insertion.entry]) := by
  rw [ofEntries, ofEntries, Std.ExtTreeMap.ofList_eq_insertMany_empty,
    Std.ExtTreeMap.ofList_eq_insertMany_empty, Std.ExtTreeMap.insertMany_append]
  exact congrArg Rules.mk Std.ExtTreeMap.insertMany_list_singleton.symm

theorem ofInsertions_eq_ofEntries (run : List Insertion) :
    ofInsertions run = ofEntries (run.map Insertion.entry) := by
  induction run using List.reverseRecOn with
  | nil => rfl
  | append_singleton run insertion ih =>
      rw [ofInsertions, List.foldl_append, ← ofInsertions, ih, List.map_append]
      exact insert_ofEntries _ insertion

theorem ofDefinitions_eq_ofInsertions (definitions : List (List String)) :
    ofDefinitions definitions =
      ofInsertions (definitions.filterMap Insertion.ofDefinition?) := by
  rw [ofDefinitions, ofInsertions]
  generalize empty = rules
  induction definitions generalizing rules with
  | nil => rfl
  | cons definition definitions ih =>
      rw [List.foldl_cons, ih]
      cases definition <;> rfl

def entryOf? (definition : List String) : Option (String × List Production) :=
  (Insertion.ofDefinition? definition).map Insertion.entry

theorem ofDefinitions_eq_ofEntries (definitions : List (List String)) :
    ofDefinitions definitions = ofEntries (definitions.filterMap entryOf?) := by
  rw [ofDefinitions_eq_ofInsertions, ofInsertions_eq_ofEntries, List.map_filterMap]
  rfl

/-- What is stored in rules built from definitions is one of the definitions. -/
theorem exists_definition_of_stored {definitions : List (List String)} {name : String}
    {productions : List Production}
    (stored : (ofDefinitions definitions).stored[name]? = some productions) :
    ∃ first lines, first :: lines ∈ definitions ∧ canonicalName first = name ∧
      lines.map Production.ofLine = productions := by
  rw [ofDefinitions_eq_ofEntries] at stored
  obtain ⟨definition, member, found⟩ := List.mem_filterMap.1 (mem_of_stored_ofEntries stored)
  cases definition with
  | nil => cases found
  | cons first lines =>
      obtain ⟨key, written⟩ := Prod.mk.inj (Option.some.inj found)
      exact ⟨first, lines, member, key, written⟩

end Rules

end RandomSentences
