/-
# Proofs.Writing -- rules written as a grammar file are read back

`write` puts each entry in a block of its own: the name on a line, then each production
on a line, its words with one space between them and ` ;` behind.  Reading a grammar file
undoes this for rules that are *canonical*: every name is the canonical name of itself and
has single spaces for blanks, every token is a word of the kind that its brackets say, and
none of the characters occurs that the format itself uses (`Grammar.rules_ofText_write`).

A `{` may occur anywhere in them, as an opening brace within a block means nothing.  The
entries may come in any order, since no name is written twice.
-/
import RandomSentences.Grammar
import RandomSentences.Proofs.Rules
import RandomSentences.Proofs.Text

namespace RandomSentences

set_option autoImplicit false

open Text (isBlank IsWord)

/-! ## Canonical rules -/

/-- A name that reading leaves as it is. -/
structure CanonicalName (name : String) : Prop where
  nonempty : name ≠ ""
  fixed : canonicalName name = name
  clean : ∀ c ∈ name.toList, c ≠ '\t' ∧ c ≠ ';' ∧ c ≠ '}' ∧ c ≠ '\n'
  spaced : Text.SingleSpaced name.toList

instance (name : String) : Decidable (CanonicalName name) :=
  haveI : Decidable (∀ c ∈ name.toList, c ≠ '\t' ∧ c ≠ ';' ∧ c ≠ '}' ∧ c ≠ '\n') :=
    List.decidableBAll _ name.toList
  decidable_of_iff (name ≠ "" ∧ canonicalName name = name ∧
      (∀ c ∈ name.toList, c ≠ '\t' ∧ c ≠ ';' ∧ c ≠ '}' ∧ c ≠ '\n') ∧
      Text.SingleSpaced name.toList)
    ⟨fun ⟨nonempty, fixed, clean, spaced⟩ => ⟨nonempty, fixed, clean, spaced⟩,
      fun ⟨nonempty, fixed, clean, spaced⟩ => ⟨nonempty, fixed, clean, spaced⟩⟩

/-- A token that reading its text gives back. -/
structure CanonicalToken (token : Token) : Prop where
  word : IsWord token.text.toList
  clean : ∀ c ∈ token.text.toList, c ≠ ';' ∧ c ≠ '}'
  kind : Token.ofWord token.text = token

instance (token : Token) : Decidable (CanonicalToken token) :=
  haveI : Decidable (∀ c ∈ token.text.toList, c ≠ ';' ∧ c ≠ '}') :=
    List.decidableBAll _ token.text.toList
  decidable_of_iff (IsWord token.text.toList ∧ (∀ c ∈ token.text.toList, c ≠ ';' ∧ c ≠ '}') ∧
      Token.ofWord token.text = token)
    ⟨fun ⟨word, clean, kind⟩ => ⟨word, clean, kind⟩, fun ⟨word, clean, kind⟩ => ⟨word, clean, kind⟩⟩

structure Rules.Canonical (rules : Rules) : Prop where
  name : ∀ entry ∈ rules.entries, CanonicalName entry.1
  token : ∀ entry ∈ rules.entries, ∀ production ∈ entry.2, ∀ token ∈ production,
    CanonicalToken token

instance (rules : Rules) : Decidable rules.Canonical :=
  decidable_of_iff ((∀ entry ∈ rules.entries, CanonicalName entry.1) ∧
      ∀ entry ∈ rules.entries, ∀ production ∈ entry.2, ∀ token ∈ production, CanonicalToken token)
    ⟨fun ⟨name, token⟩ => ⟨name, token⟩, fun ⟨name, token⟩ => ⟨name, token⟩⟩

namespace GrammarFile

/-! ## Writing -/

def writeProduction (production : Production) : String :=
  " ".intercalate (production.map Token.text) ++ " ;\n"

def writeEntry (entry : String × List Production) : String :=
  "\x7b\n" ++ entry.1 ++ "\n" ++ String.join (entry.2.map writeProduction) ++ "\x7d\n"

/-- A grammar file with a block for each entry. -/
def write (entries : List (String × List Production)) : String :=
  String.join (entries.map writeEntry)

example : write [("<a b>", [[.nonTerminal "<c>", .terminal "x"], []]), ("<c>", [])] =
    "\x7b\n<a b>\n<c> x ;\n ;\n\x7d\n\x7b\n<c>\n\x7d\n" := by decide +kernel

/-! ## Blocks -/

/-- Within a block everything up to the next closing brace is read. -/
theorem scanBlocks_reads {piece : List Char} (unclosed : '}' ∉ piece) (read rest : List Char) :
    scanBlocks (some read) (piece ++ rest) = scanBlocks (some (piece.reverse ++ read)) rest := by
  induction piece generalizing read with
  | nil => rfl
  | cons c piece ih =>
      obtain ⟨open_, unclosed⟩ := not_or.1 (mt List.mem_cons.2 unclosed)
      rw [List.cons_append, scanBlocks, if_neg (Ne.symm open_), ih unclosed]
      simp

theorem scanBlocks_inside {body : List Char} (unclosed : '}' ∉ body) (read rest : List Char) :
    scanBlocks (some read) (body ++ '}' :: rest) =
      (read.reverse ++ body) :: scanBlocks none rest := by
  rw [scanBlocks_reads unclosed, scanBlocks, if_pos rfl, List.reverse_append, List.reverse_reverse]

/-- A block is read up to its first closing brace. -/
theorem scanBlocks_block {body : List Char} (unclosed : '}' ∉ body) (rest : List Char) :
    scanBlocks none ('{' :: (body ++ '}' :: rest)) = body :: scanBlocks none rest := by
  rw [scanBlocks, if_pos rfl]
  exact scanBlocks_inside unclosed [] rest

/-- What stands between the braces in the block of an entry. -/
def body (entry : String × List Production) : List Char :=
  '\n' :: (entry.1.toList ++ '\n' :: entry.2.flatMap fun production =>
    (writeProduction production).toList)

theorem toList_writeEntry (entry : String × List Production) :
    (writeEntry entry).toList = '{' :: (body entry ++ '}' :: ['\n']) := by
  have opening : "\x7b\n".toList = ['{', '\n'] := by decide
  have closing : "\x7d\n".toList = ['}', '\n'] := by decide
  have feed : "\n".toList = ['\n'] := by decide
  simp only [writeEntry, body, String.toList_append, String.toList_join, List.flatMap_map, opening,
    closing, feed]
  simp

theorem scanBlocks_write {entries : List (String × List Production)}
    (unclosed : ∀ entry ∈ entries, '}' ∉ body entry) :
    scanBlocks none (write entries).toList = entries.map body := by
  rw [write, String.toList_join, List.flatMap_map]
  induction entries with
  | nil => rfl
  | cons entry entries ih =>
      obtain ⟨here, later⟩ := List.forall_mem_cons.1 unclosed
      rw [List.flatMap_cons, toList_writeEntry, List.cons_append, List.append_assoc,
        List.cons_append, scanBlocks_block here, List.singleton_append, scanBlocks,
        if_neg (by decide), ih later]
      rfl

/-! ## Lines -/

def pieces (production : Production) : List (List Char) :=
  production.map fun token => token.text.toList

def productionLine (production : Production) : List Char :=
  [' '].intercalate (pieces production) ++ [' ', ';']

theorem toList_intercalate_text (production : Production) :
    (" ".intercalate (production.map Token.text)).toList = [' '].intercalate (pieces production) := by
  have space : " ".toList = [' '] := by decide
  rw [String.toList_intercalate, space, List.map_map]
  rfl

theorem toList_writeProduction (production : Production) :
    (writeProduction production).toList = productionLine production ++ ['\n'] := by
  have ending : " ;\n".toList = [' ', ';', '\n'] := by decide
  rw [writeProduction, String.toList_append, toList_intercalate_text, ending, productionLine,
    List.append_assoc]
  rfl

section Canonical

variable {production : Production} (canonical : ∀ token ∈ production, CanonicalToken token)

include canonical

theorem isWord_of_mem_pieces : ∀ piece ∈ pieces production, IsWord piece := by
  intro piece member
  obtain ⟨token, inside, rfl⟩ := List.mem_map.1 member
  exact (canonical token inside).word

theorem ne_of_mem_intercalate {c : Char}
    (member : c ∈ [' '].intercalate (pieces production)) :
    c ≠ '\t' ∧ c ≠ '\n' ∧ c ≠ ';' ∧ c ≠ '}' := by
  rcases Text.mem_intercalate member with rfl | ⟨piece, found, inPiece⟩
  · decide
  · obtain ⟨token, inside, rfl⟩ := List.mem_map.1 found
    obtain ⟨word, clean, -⟩ := canonical token inside
    have solid := word.solid c inPiece
    refine ⟨?_, ?_, clean c inPiece⟩ <;>
      · rintro rfl
        revert solid
        decide

theorem tidyChars_productionLine :
    tidyChars (productionLine production) = [' '].intercalate (pieces production) := by
  have kept : ([' '].intercalate (pieces production)).filter (fun c => !isPadding c) =
      [' '].intercalate (pieces production) := by
    rw [List.filter_eq_self]
    intro c member
    obtain ⟨tab, -, semicolon, -⟩ := ne_of_mem_intercalate canonical member
    simp [isPadding, tab, semicolon]
  have ending : [' ', ';'].filter (fun c => !isPadding c) = [' '] := by decide
  rw [tidyChars, productionLine, List.filter_append, kept, ending,
    Text.trimEnd_append_blanks (List.forall_mem_singleton.2 Text.isBlank_space),
    Text.collapse_trimEnd_intercalate (isWord_of_mem_pieces canonical)]

/-- A production is read back from its words with one space between them. -/
theorem ofLine_intercalate :
    Production.ofLine (" ".intercalate (production.map Token.text)) = production := by
  rw [Production.ofLine, toList_intercalate_text,
    Text.words_intercalate (isWord_of_mem_pieces canonical), pieces, List.map_map]
  simp only [Function.comp_def, String.ofList_toList]
  rw [List.map_congr_left fun token member => (canonical token member).kind, List.map_id']

theorem ofLine_productionLine :
    Production.ofLine (String.ofList (tidyChars (productionLine production))) = production := by
  rw [tidyChars_productionLine canonical, ← toList_intercalate_text, String.ofList_toList,
    ofLine_intercalate canonical]

theorem notMem_productionLine : '\n' ∉ productionLine production ∧ '}' ∉ productionLine production := by
  have apart (c : Char) (other : c ∉ [' ', ';']) (member : c ∈ productionLine production) :
      c ≠ '\n' ∧ c ≠ '}' := by
    rcases List.mem_append.1 member with inWords | atEnd
    · obtain ⟨-, feed, -, brace⟩ := ne_of_mem_intercalate canonical inWords
      exact ⟨feed, brace⟩
    · exact absurd atEnd other
  exact ⟨fun member => (apart _ (by decide) member).1 rfl,
    fun member => (apart _ (by decide) member).2 rfl⟩

end Canonical

theorem lines_productions {productions : List Production}
    (canonical : ∀ production ∈ productions, ∀ token ∈ production, CanonicalToken token) :
    Text.lines (productions.flatMap fun production => (writeProduction production).toList) =
      productions.map productionLine := by
  induction productions with
  | nil => rfl
  | cons production productions ih =>
      obtain ⟨here, later⟩ := List.forall_mem_cons.1 canonical
      have noReturn : (productionLine production).getLast? ≠ some '\r' := by
        simp [productionLine]
      rw [List.flatMap_cons, toList_writeProduction, List.append_assoc, List.singleton_append,
        Text.lines_append_feed (notMem_productionLine here).1 noReturn, ih later]
      rfl

/-! ## Definitions -/

section Entry

variable {entry : String × List Production} (name : CanonicalName entry.1)
  (tokens : ∀ production ∈ entry.2, ∀ token ∈ production, CanonicalToken token)

include name in
theorem tidyChars_name : tidyChars entry.1.toList = entry.1.toList := by
  have kept : entry.1.toList.filter (fun c => !isPadding c) = entry.1.toList := by
    rw [List.filter_eq_self]
    intro c member
    obtain ⟨tab, semicolon, -, -⟩ := name.clean c member
    simp [isPadding, tab, semicolon]
  rw [tidyChars, kept, ← Text.intercalate_words name.spaced]
  exact Text.collapse_trimEnd_intercalate fun _ => Text.isWord_of_mem_words

include name tokens

theorem unclosed_body : '}' ∉ body entry := by
  rw [body]
  simp only [List.mem_cons, List.mem_append, List.mem_flatMap, not_or, not_exists, not_and]
  refine ⟨by decide, fun member => (name.clean _ member).2.2.1 rfl, by decide, ?_⟩
  intro production member inLine
  rw [toList_writeProduction] at inLine
  rcases List.mem_append.1 inLine with before | feed
  · exact (notMem_productionLine (tokens production member)).2 before
  · revert feed
    decide

theorem lines_body :
    Text.lines (body entry) = [] :: entry.1.toList :: entry.2.map productionLine := by
  have noFeed : '\n' ∉ entry.1.toList := fun member => (name.clean _ member).2.2.2 rfl
  have noReturn : entry.1.toList.getLast? ≠ some '\r' := by
    intro last
    have solid := name.spaced.ends '\r' last
    revert solid
    decide
  rw [body, Text.lines, Text.lines_append_feed noFeed noReturn, lines_productions tokens]

/-- **The block of a canonical entry defines that entry.** -/
theorem entryOf?_body :
    Rules.entryOf? (definitionLines (String.ofList (body entry))) = some entry := by
  have nameKept : (!entry.1.toList.isEmpty) = true := by
    simpa using name.nonempty
  have linesKept : (entry.2.map productionLine).filter (fun line => !line.isEmpty) =
      entry.2.map productionLine := by
    rw [List.filter_eq_self]
    intro line member
    obtain ⟨production, -, rfl⟩ := List.mem_map.1 member
    simp [productionLine]
  have read : ((entry.2.map productionLine).map fun line => String.ofList (tidyChars line)).map
      Production.ofLine = entry.2 := by
    rw [List.map_map, List.map_map]
    simp only [Function.comp_def]
    rw [List.map_congr_left fun production member =>
      ofLine_productionLine (tokens production member), List.map_id']
  rw [definitionLines, String.toList_ofList, lines_body name tokens,
    List.filter_cons_of_neg (by decide), List.filter_cons, if_pos nameKept, linesKept,
    List.map_cons, tidyChars_name name, String.ofList_toList, Rules.entryOf?, Insertion.ofDefinition?,
    Option.map_some, Insertion.entry, Insertion.key, read, name.fixed]

end Entry

end GrammarFile

/-! ## Reading what was written -/

/-- **Reading a grammar file undoes writing it**, whatever the order of the entries. -/
theorem Grammar.rules_ofText_write {rules : Rules} (canonical : rules.Canonical)
    {entries : List (String × List Production)} (order : entries.Perm rules.entries) :
    (Grammar.ofText (GrammarFile.write entries)).rules = rules := by
  have name : ∀ entry ∈ entries, CanonicalName entry.1 := fun entry member =>
    canonical.name entry (order.mem_iff.1 member)
  have tokens : ∀ entry ∈ entries, ∀ production ∈ entry.2, ∀ token ∈ production,
      CanonicalToken token := fun entry member => canonical.token entry (order.mem_iff.1 member)
  have blocks : GrammarFile.blocks (GrammarFile.write entries) =
      entries.map fun entry => String.ofList (GrammarFile.body entry) := by
    rw [GrammarFile.blocks, GrammarFile.scanBlocks_write fun entry member =>
      GrammarFile.unclosed_body (name entry member) (tokens entry member), List.map_map]
    rfl
  have read : ∀ entry ∈ entries, Rules.entryOf? (GrammarFile.definitionLines
      (String.ofList (GrammarFile.body entry))) = some entry := fun entry member =>
    GrammarFile.entryOf?_body (name entry member) (tokens entry member)
  have entries_eq : ((GrammarFile.blocks (GrammarFile.write entries)).map
      GrammarFile.definitionLines).filterMap Rules.entryOf? = entries := by
    rw [blocks, List.filterMap_map, List.filterMap_map]
    simp only [Function.comp_def]
    rw [List.filterMap_congr read, List.filterMap_some]
  rw [Grammar.ofText, Rules.ofText, Rules.ofDefinitions_eq_ofEntries, entries_eq]
  exact Rules.ofEntries_of_perm order

/-- Rules with an opening brace in a terminal, an empty production and an empty list of them. -/
def Rules.braces : Rules :=
  ofEntries [("<a b>", [[.terminal "\x7b", .nonTerminal "<c>", .terminal "x\x7b"], []]), ("<c>", [])]

theorem Grammar.rules_ofText_write_braces :
    Rules.braces.Canonical ∧ Rules.braces.entries.reverse.Perm Rules.braces.entries ∧
      (Grammar.ofText (GrammarFile.write Rules.braces.entries.reverse)).rules = Rules.braces := by
  have canonical : Rules.braces.Canonical := by decide +kernel
  have order : Rules.braces.entries.reverse.Perm Rules.braces.entries := List.reverse_perm _
  exact ⟨canonical, order, Grammar.rules_ofText_write canonical order⟩

end RandomSentences
