/-
# Proofs.Accepted -- what is accepted as a document of rules

`Proofs.Document` reads back what was written.  Here is the other direction: a reader is
*exact* when all that it takes from the front of an input is what is written for the value it
answers with (`Exact`).  A reader of sequences is exact when its member reader is, whatever the
bound, and so tokens, productions and entries follow from the inside to the outside.

Together the two directions say which documents are accepted: those whose lexemes are the
lexemes of a list of entries, in any order and with any names, also one name twice
(`ofJson?_eq_some_iff`).  Nothing is made of a name on the way: the names of the rules are the
names of the members as they are written (`mem_names_of_ofJson?`).
-/
import RandomSentences.Proofs.Document

namespace RandomSentences

set_option autoImplicit false

namespace Json

section Exact

variable {α : Type}

/-- Is all that the reader takes what is written for the value that it answers with? -/
structure Exact (reader : Reader α) (write : α → List Lexeme) : Prop where
  took : ∀ {input rest : List Lexeme} {value : α},
    reader input = some (value, rest) → input = write value ++ rest

variable {member : Reader α} {write : α → List Lexeme} {opening closing : Lexeme}

theorem readMembers_exact (exact_ : Exact member write) {bound : Nat} {input rest : List Lexeme}
    {values : List α} (read : readMembers closing member bound input = some (values, rest)) :
    values ≠ [] ∧ input = separated (values.map write) ++ closing :: rest := by
  induction bound generalizing input rest values with
  | zero => cases read
  | succ bound ih =>
      rw [readMembers] at read
      obtain ⟨⟨first, behind⟩, taken, after⟩ := Option.bind_eq_some_iff.1 read
      have front : input = write first ++ behind := exact_.took taken
      dsimp only at after
      -- what stands behind a member decides whether there is a further one
      split at after
      · cases after
      · rename_i tail
        obtain ⟨⟨others, left⟩, more, made⟩ := Option.bind_eq_some_iff.1 after
        cases made
        obtain ⟨some_, shape⟩ := ih more
        obtain ⟨next, others, rfl⟩ := List.exists_cons_of_ne_nil some_
        have joined : separated ((first :: next :: others).map write) =
            write first ++ .comma :: separated ((next :: others).map write) := rfl
        refine ⟨List.cons_ne_nil _ _, ?_⟩
        rw [front, shape, joined, List.append_assoc, List.cons_append]
      · split at after
        · rename_i last
          cases after
          exact ⟨List.cons_ne_nil _ _, by rw [front, last]; rfl⟩
        · cases after

/-- **A reader of sequences is exact when the reader of its members is.** -/
theorem Exact.sequence (exact_ : Exact member write) (bound : Nat) :
    Exact (readSequence opening closing member bound) fun values =>
      writeSequence opening closing (values.map write) where
  took := by
    intro input rest values read
    rw [readSequence.eq_def] at read
    split at read
    · split at read
      · rename_i opens
        split at read
        · rename_i closes
          cases read
          rw [opens, closes]
          rfl
        · obtain ⟨-, shape⟩ := readMembers_exact exact_ read
          simp [opens, shape, writeSequence]
      · cases read
    · cases read

end Exact

end Json

open Json (Exact Lexeme)

theorem Token.exact_read : Exact Token.read Token.lexemes where
  took := by
    intro input rest token read
    rw [Token.read.eq_def] at read
    split at read
    · split at read
      · rename_i terminal
        cases read
        rw [terminal]
        rfl
      · split at read
        · rename_i nonTerminal
          cases read
          rw [nonTerminal]
          rfl
        · cases read
    · cases read

theorem Production.exact_read (bound : Nat) : Exact (Production.read bound) Production.lexemes :=
  Token.exact_read.sequence bound

namespace Rules

theorem exact_readEntry (bound : Nat) : Exact (readEntry bound) entryLexemes where
  took := by
    intro input rest entry read
    rw [readEntry.eq_def] at read
    split at read
    · obtain ⟨⟨productions, behind⟩, taken, made⟩ := Option.bind_eq_some_iff.1 read
      cases made
      rw [((Production.exact_read bound).sequence bound).took taken]
      rfl
    · cases read

/-! ## Documents -/

/-- **A document is accepted when its lexemes are those of some entries**, and the rules are then
the rules of these entries. -/
theorem ofJson?_eq_some_iff {document : String} {rules : Rules} :
    ofJson? document = some rules ↔
      ∃ entries, Json.lex document = some (entriesLexemes entries) ∧ ofEntries entries = rules := by
  constructor
  · intro accepted
    rw [ofJson?] at accepted
    obtain ⟨lexemes, lexed, read⟩ := Option.bind_eq_some_iff.1 accepted
    obtain ⟨⟨entries, rest⟩, taken, made⟩ := Option.bind_eq_some_iff.1 read
    dsimp only at made
    split at made
    · rename_i nothing
      cases made
      have shape := ((exact_readEntry lexemes.length).sequence lexemes.length).took taken
      rw [nothing, List.append_nil] at shape
      exact ⟨entries, lexed.trans (congrArg some shape), rfl⟩
    · cases made
  · rintro ⟨entries, lexed, rfl⟩
    exact ofJson?_of_lex lexed

theorem mem_names_ofEntries {entries : List (String × List Production)} {name : String} :
    name ∈ (ofEntries entries).names ↔ name ∈ entries.map Prod.fst := by
  rw [names, ofEntries, Std.ExtTreeMap.mem_keys, Std.ExtTreeMap.mem_ofList, List.contains_iff_mem]

/-- The names of rules that are read are the names in the document, unchanged. -/
theorem mem_names_of_ofJson? {document : String} {rules : Rules}
    (accepted : ofJson? document = some rules) :
    ∃ lexemes, Json.lex document = some lexemes ∧
      ∀ name, name ∈ rules.names ↔ name ∈ Json.memberNames 0 lexemes := by
  obtain ⟨entries, lexed, rfl⟩ := ofJson?_eq_some_iff.1 accepted
  refine ⟨_, lexed, fun name => ?_⟩
  rw [mem_names_ofEntries, memberNames_entriesLexemes]

end Rules

end RandomSentences
