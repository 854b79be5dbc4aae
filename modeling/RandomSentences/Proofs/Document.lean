/-
# Proofs.Document -- rules written as a JSON document are read back

A value is *readable* from its lexemes when its reader takes exactly those from the front of
any input and they do not start with a closing mark (`Readable`).  A sequence is readable
when its members are and the bound admits their number (`readable_writeSequence`), and a
member never has fewer lexemes than it has members of its own, so the length of the whole
document is bound enough for each sequence in it.  Tokens, productions, entries and rules
follow from the inside to the outside.

The names of the members are the texts in front of a colon within the outermost braces
(`memberNames`).  A value below that level is *nameless*: it adds no name and leaves the
depth as it was, so the names in the document of rules are the stored names in their order.
That order is the order of the code points, which is the order of the bytes in UTF-8
(`Text.bytes_lt_bytes`).
-/
import RandomSentences.Proofs.Lexing
import RandomSentences.Proofs.Rules
import RandomSentences.Proofs.Text
import RandomSentences.Rules.Json

namespace RandomSentences

set_option autoImplicit false

namespace Json

/-! ## Sequences -/

section Readable

variable {α : Type}

/-- Does the reader take the value back from its lexemes, whatever comes behind them? -/
structure Readable (reader : Reader α) (lexemes : List Lexeme) (value : α) : Prop where
  read : ∀ rest, reader (lexemes ++ rest) = some (value, rest)
  starts : ∃ mark rest, lexemes = mark :: rest ∧ mark.isClosing = false

variable {member : Reader α} {write : α → List Lexeme} {closing : Lexeme}

theorem readMembers_separated (closes : closing.isClosing = true) {first : α} {others : List α}
    (readable : ∀ value ∈ first :: others, Readable member (write value) value) {bound : Nat}
    (within : others.length ≤ bound) (rest : List Lexeme) :
    readMembers closing member (bound + 1)
        (separated ((first :: others).map write) ++ closing :: rest) =
      some (first :: others, rest) := by
  induction others generalizing first bound with
  | nil =>
      have taken := (readable first List.mem_cons_self).read (closing :: rest)
      rw [List.map_singleton, separated, readMembers, taken]
      cases closing <;> simp_all [Lexeme.isClosing]
  | cons next others ih =>
      have taken := (readable first List.mem_cons_self).read
        (.comma :: (separated ((next :: others).map write) ++ closing :: rest))
      cases bound with
      | zero => cases within
      | succ bound =>
          have later := ih (fun value member => readable value (List.mem_cons_of_mem first member))
            (Nat.le_of_succ_le_succ within)
          rw [List.map_cons, List.map_cons, separated, List.append_assoc, List.cons_append,
            ← List.map_cons, readMembers, taken]
          simp only [Option.bind_eq_bind, Option.bind_some, later]

theorem readSequence_writeSequence (closes : closing.isClosing = true) (opening : Lexeme)
    {values : List α} (readable : ∀ value ∈ values, Readable member (write value) value)
    {bound : Nat} (within : values.length ≤ bound) (rest : List Lexeme) :
    readSequence opening closing member bound
        (writeSequence opening closing (values.map write) ++ rest) = some (values, rest) := by
  cases values with
  | nil => simp [writeSequence, separated, readSequence]
  | cons first others =>
      cases bound with
      | zero => cases within
      | succ bound =>
          have members := readMembers_separated closes readable (Nat.le_of_succ_le_succ within) rest
          obtain ⟨mark, tail, starts, stays⟩ := (readable first List.mem_cons_self).starts
          have notClosing : mark ≠ closing := by
            rintro rfl
            rw [closes] at stays
            cases stays
          obtain ⟨behind, shape⟩ : ∃ behind,
              separated ((first :: others).map write) ++ closing :: rest = mark :: behind := by
            cases others with
            | nil => exact ⟨_, by rw [List.map_singleton, separated, starts]; rfl⟩
            | cons next others =>
                exact ⟨_, by rw [List.map_cons, List.map_cons, separated, starts]; rfl⟩
          rw [shape] at members
          rw [writeSequence, List.cons_append, List.append_assoc, List.singleton_append, shape,
            readSequence, if_pos rfl, if_neg notClosing, members]

/-- Members without a lexeme apart, there are no more members than lexemes. -/
theorem length_le_separated {members : List (List Lexeme)}
    (written : ∀ member ∈ members, member ≠ []) :
    members.length ≤ (separated members).length := by
  induction members with
  | nil => rfl
  | cons member rest ih =>
      obtain ⟨here, later⟩ := List.forall_mem_cons.1 written
      have positive : 0 < member.length := List.length_pos_iff.2 here
      cases rest with
      | nil => exact positive
      | cons next rest =>
          have := ih later
          rw [separated, List.length_append, List.length_cons, List.length_cons (a := Lexeme.comma)]
          omega

theorem length_le_separated_of_mem {members : List (List Lexeme)} {member : List Lexeme}
    (inside : member ∈ members) : member.length ≤ (separated members).length := by
  induction members with
  | nil => cases inside
  | cons first rest ih =>
      cases rest with
      | nil =>
          rw [List.mem_singleton.1 inside]
          exact Nat.le_refl _
      | cons next rest =>
          rw [separated, List.length_append, List.length_cons]
          rcases List.mem_cons.1 inside with rfl | later
          · omega
          · have := ih later
            omega

/-- **A sequence is readable when its members are**, within a bound on its lexemes. -/
theorem readable_writeSequence {opening : Lexeme} (opens : opening.isClosing = false)
    (closes : closing.isClosing = true) {values : List α} {bound : Nat}
    (readable : ∀ value ∈ values, (write value).length ≤ bound →
      Readable member (write value) value)
    (within : (writeSequence opening closing (values.map write)).length ≤ bound) :
    Readable (readSequence opening closing member bound)
      (writeSequence opening closing (values.map write)) values where
  starts := ⟨opening, _, rfl, opens⟩
  read := by
    have inside : (separated (values.map write)).length ≤ bound := by
      rw [writeSequence, List.length_cons, List.length_append] at within
      omega
    have each : ∀ value ∈ values, Readable member (write value) value := fun value found =>
      readable value found
        ((length_le_separated_of_mem (List.mem_map_of_mem found)).trans inside)
    have written : ∀ lexemes ∈ values.map write, lexemes ≠ [] := by
      intro lexemes found
      obtain ⟨value, member, rfl⟩ := List.mem_map.1 found
      obtain ⟨mark, rest, starts, -⟩ := (each value member).starts
      rw [starts]
      exact List.cons_ne_nil mark rest
    have few := (length_le_separated written).trans inside
    rw [List.length_map] at few
    exact readSequence_writeSequence closes opening each few

end Readable

end Json

/-! ## Tokens, productions, entries and rules -/

open Json (Readable)

theorem Token.readable (token : Token) : Readable Token.read token.lexemes token where
  read := by
    intro rest
    cases token <;> simp [Token.lexemes, Token.read]
  starts := by
    cases token <;> exact ⟨_, _, rfl, rfl⟩

theorem Production.readable {production : Production} {bound : Nat}
    (within : production.lexemes.length ≤ bound) :
    Readable (Production.read bound) production.lexemes production :=
  Json.readable_writeSequence rfl rfl (fun token _ _ => token.readable) within

namespace Rules

theorem readable_entry {entry : String × List Production} {bound : Nat}
    (within : (entryLexemes entry).length ≤ bound) :
    Readable (readEntry bound) (entryLexemes entry) entry where
  starts := ⟨_, _, rfl, rfl⟩
  read := by
    intro rest
    have productions : Readable
        (Json.readSequence .openArray .closeArray (Production.read bound) bound)
        (Json.writeSequence .openArray .closeArray (entry.2.map Production.lexemes)) entry.2 :=
      Json.readable_writeSequence rfl rfl (fun _ _ => Production.readable)
        (Nat.le_of_succ_le (Nat.le_of_succ_le within))
    rw [entryLexemes, List.cons_append, List.cons_append, readEntry, productions.read]
    rfl

def entriesLexemes (entries : List (String × List Production)) : List Json.Lexeme :=
  Json.writeSequence .openObject .closeObject (entries.map entryLexemes)

/-- A document with the lexemes of some entries is read as the rules of these entries. -/
theorem ofJson?_of_lex {document : String} {entries : List (String × List Production)}
    (lexed : Json.lex document = some (entriesLexemes entries)) :
    ofJson? document = some (ofEntries entries) := by
  have readable : Readable
      (Json.readSequence .openObject .closeObject (readEntry (entriesLexemes entries).length)
        (entriesLexemes entries).length) (entriesLexemes entries) entries :=
    Json.readable_writeSequence rfl rfl (fun _ _ => readable_entry) (Nat.le_refl _)
  have read := readable.read []
  rw [List.append_nil] at read
  rw [ofJson?]
  simp only [lexed, Option.bind_eq_bind, Option.bind_some, read, if_pos]

theorem ofJson?_toJson (rules : Rules) : ofJson? rules.toJson = some rules := by
  rw [toJson, ofJson?_of_lex (Json.lex_indented rules.lexemes), ofEntries_of_perm (List.Perm.refl _)]

end Rules

/-! ## The names in a document -/

namespace Json

/-- The texts in front of a colon within the outermost brackets, for lexemes at a depth. -/
def memberNames (depth : Nat) : List Lexeme → List String
  | [] => []
  | .text name :: .colon :: rest =>
      if depth = 1 then name :: memberNames depth rest else memberNames depth rest
  | lexeme :: rest => memberNames (depthAfter depth lexeme) rest

/-- Do the lexemes, below the outermost brackets, add no name and come back to their depth? -/
def Nameless (lexemes : List Lexeme) : Prop :=
  ∀ depth rest, 0 < depth → memberNames depth (lexemes ++ rest) = memberNames depth rest

theorem nameless_separated {members : List (List Lexeme)}
    (nameless : ∀ member ∈ members, Nameless member) : Nameless (separated members) := by
  induction members with
  | nil => exact fun _ _ _ => rfl
  | cons member rest ih =>
      obtain ⟨here, later⟩ := List.forall_mem_cons.1 nameless
      cases rest with
      | nil => exact here
      | cons next rest =>
          intro depth behind deep
          have comma (tail : List Lexeme) :
              memberNames depth (.comma :: tail) = memberNames depth tail := rfl
          rw [separated, List.append_assoc, here _ _ deep, List.cons_append, comma,
            ih later _ _ deep]

theorem nameless_array {members : List (List Lexeme)}
    (nameless : ∀ member ∈ members, Nameless member) :
    Nameless (writeSequence .openArray .closeArray members) := by
  intro depth rest deep
  have opened (tail : List Lexeme) :
      memberNames depth (.openArray :: tail) = memberNames (depth + 1) tail := rfl
  have closed : memberNames (depth + 1) (.closeArray :: rest) = memberNames depth rest := rfl
  rw [writeSequence, List.cons_append, List.append_assoc, opened,
    nameless_separated nameless _ _ (Nat.succ_pos depth), List.singleton_append, closed]

end Json

open Json (memberNames Nameless)

theorem Token.nameless (token : Token) : Nameless token.lexemes := by
  intro depth rest deep
  cases token <;>
    simp [Token.lexemes, memberNames, Json.depthAfter, Json.Lexeme.isOpening,
      Json.Lexeme.isClosing, deep.ne']

theorem Production.nameless (production : Production) : Nameless production.lexemes := by
  apply Json.nameless_array
  intro lexemes member
  obtain ⟨token, -, rfl⟩ := List.mem_map.1 member
  exact token.nameless

namespace Rules

/-- An entry among the members of the outermost object adds its own name. -/
theorem memberNames_entry (entry : String × List Production) (rest : List Json.Lexeme) :
    memberNames 1 (entryLexemes entry ++ rest) = entry.1 :: memberNames 1 rest := by
  have productions : Nameless
      (Json.writeSequence .openArray .closeArray (entry.2.map Production.lexemes)) := by
    apply Json.nameless_array
    intro lexemes member
    obtain ⟨production, -, rfl⟩ := List.mem_map.1 member
    exact production.nameless
  rw [entryLexemes, List.cons_append, List.cons_append, memberNames, if_pos rfl,
    productions 1 rest Nat.one_pos]

theorem memberNames_separated (entries : List (String × List Production))
    (rest : List Json.Lexeme) :
    memberNames 1 (Json.separated (entries.map entryLexemes) ++ rest) =
      entries.map Prod.fst ++ memberNames 1 rest := by
  induction entries with
  | nil => rfl
  | cons entry entries ih =>
      cases entries with
      | nil => exact memberNames_entry entry rest
      | cons next entries =>
          have comma (tail : List Json.Lexeme) :
              memberNames 1 (.comma :: tail) = memberNames 1 tail := rfl
          rw [List.map_cons, List.map_cons, Json.separated, List.append_assoc, memberNames_entry,
            List.cons_append, comma, ← List.map_cons, ih]
          rfl

theorem memberNames_entriesLexemes (entries : List (String × List Production)) :
    memberNames 0 (entriesLexemes entries) = entries.map Prod.fst := by
  have opened (tail : List Json.Lexeme) :
      memberNames 0 (.openObject :: tail) = memberNames 1 tail := rfl
  rw [entriesLexemes, Json.writeSequence, opened, memberNames_separated]
  exact List.append_nil _

theorem memberNames_lexemes (rules : Rules) : memberNames 0 rules.lexemes = rules.names :=
  (memberNames_entriesLexemes rules.entries).trans Std.ExtTreeMap.map_fst_toList_eq_keys

/-! ## Documents and rules -/

/-- **A document of rules is read as the rules it was written from**, so that rules with one
document are the same, and its names are the stored names in the order of their bytes. -/
theorem toJson_reads_back (rules other : Rules) :
    ofJson? rules.toJson = some rules ∧
      (Json.lex rules.toJson).map (memberNames 0) = some rules.names ∧
      rules.names.Pairwise (fun name next => Text.bytes name < Text.bytes next) ∧
      (rules.toJson = other.toJson ↔ rules = other) ∧
      (rules = other ↔ ∀ name : String, rules.stored[name]? = other.stored[name]?) := by
  refine ⟨ofJson?_toJson rules, ?_, ?_, ?_, ?_⟩
  · rw [toJson, Json.lex_indented, Option.map_some, memberNames_lexemes]
  · exact rules.names_sorted.imp Text.bytes_lt_bytes
  · constructor
    · intro same
      have read := ofJson?_toJson rules
      rw [same, ofJson?_toJson] at read
      exact (Option.some.inj read).symm
    · exact fun same => congrArg toJson same
  · exact ⟨fun same name => same ▸ rfl, ext_stored⟩

/-- The members come in the order of their names, whatever the order of the entries. -/
example : (ofEntries [("<b>", [[.terminal "\"\x01"], []]), ("", [])]).toJson =
    "\x7b\n  \"\": [],\n  \"<b>\": [\n    [\n      \x7b\n        \"Terminal\": \"\\\"\\u0001\"\n" ++
      "      \x7d\n    ],\n    []\n  ]\n\x7d" := by decide +kernel

end Rules

end RandomSentences
