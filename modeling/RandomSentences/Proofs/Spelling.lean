/-
# Proofs.Spelling -- names and tokens as a grammar file leaves them

Every stage of reading takes something out of the text that the next one no longer meets.  A
block has no closing brace in it, a line no line feed, and a bare line no tab and no semicolon,
so the characters that are left are *plain* (`plain_of_mem_bare`).  Cutting at the blanks then
makes words of them, and collapsing makes names with single spaces.

None of it comes back: lower case writes plain characters only, and neither adds a blank nor
brings two together.  So the rules in any file have names that trimming and lower case leave
alone (`readName_canonicalName`) and tokens that reading gives back, and a production is read
back from its words with one space between them (`Grammar.spelling_ofText`).  Only a name may
be empty.
-/
import RandomSentences.Proofs.CanonicalName
import RandomSentences.Proofs.Reading
import RandomSentences.Proofs.Writing

namespace RandomSentences

set_option autoImplicit false

open Text (IsWord lowerCase words)

namespace GrammarFile

/-! ## Plain characters -/

/-- Is the character none of those that the format of a grammar file uses up? -/
def Plain (c : Char) : Prop :=
  c ≠ '\t' ∧ c ≠ ';' ∧ c ≠ '}' ∧ c ≠ '\n'

theorem plain_space : Plain ' ' := by
  refine ⟨?_, ?_, ?_, ?_⟩ <;> decide

theorem plain_of_mem_lowerCodes {c : Char} (written : c.toNat ∈ Text.lowerCodes) : Plain c := by
  have apart : ∀ code ∈ Text.lowerCodes, code ≠ '\t'.toNat ∧ code ≠ ';'.toNat ∧
      code ≠ '}'.toNat ∧ code ≠ '\n'.toNat := by decide +kernel
  obtain ⟨tab, semicolon, brace, feed⟩ := apart _ written
  exact ⟨mt (congrArg Char.toNat) tab, mt (congrArg Char.toNat) semicolon,
    mt (congrArg Char.toNat) brace, mt (congrArg Char.toNat) feed⟩

/-- A body has no closing brace, whether its start was read before or not. -/
theorem unclosed_of_mem_scanBlocks {state : Option (List Char)} {text : List Char}
    (unclosed : ∀ read ∈ state, '}' ∉ read) : ∀ body ∈ scanBlocks state text, '}' ∉ body := by
  induction text generalizing state with
  | nil => cases state <;> simp [scanBlocks]
  | cons c rest ih =>
      cases state with
      | none =>
          rw [scanBlocks]
          split
          · exact ih (by simp)
          · exact ih (by simp)
      | some read =>
          have before : '}' ∉ read := unclosed read rfl
          rw [scanBlocks]
          split
          · exact List.forall_mem_cons.2 ⟨by simpa using before, ih (by simp)⟩
          · rename_i open_
            exact ih (by simpa [Ne.symm open_] using before)

theorem plain_of_mem_bare {text body : String} (block : body ∈ blocks text) {line : List Char}
    (written : line ∈ writtenLines body) : ∀ c ∈ bare line, Plain c := by
  obtain ⟨chars, scanned, rfl⟩ := List.mem_map.1 block
  have unclosed := unclosed_of_mem_scanBlocks (by simp) chars scanned
  rw [writtenLines, String.toList_ofList] at written
  have inLine := Text.forall_mem_lines (fun c member => ne_of_mem_of_not_mem member unclosed) line
    (List.mem_of_mem_filter written)
  intro c member
  obtain ⟨inside, kept⟩ := List.mem_filter.1 member
  obtain ⟨tab, semicolon⟩ := of_decide_eq_true kept
  obtain ⟨brace, feed⟩ := inLine c inside
  exact ⟨tab, semicolon, brace, feed⟩

/-- Each line of a definition was made tidy from one that is plain when it is bare. -/
theorem exists_plain_of_mem_definitionLines {text body : String} (block : body ∈ blocks text) :
    ∀ written ∈ definitionLines body,
      ∃ line, (∀ c ∈ bare line, Plain c) ∧ String.ofList (tidyChars line) = written := by
  rw [definitionLines_eq]
  intro written member
  obtain ⟨line, found, rfl⟩ := List.mem_map.1 member
  exact ⟨line, plain_of_mem_bare block found, rfl⟩

/-! ## Names -/

/-- A name that reading leaves as it is, empty or not. -/
structure ReadName (name : String) : Prop where
  trimmed : Text.trim name.toList = name.toList
  lower : lowerCase name.toList = name.toList
  plain : ∀ c ∈ name.toList, Plain c
  spaced : Text.SingleSpaced name.toList

theorem toList_canonicalName_tidyChars (line : List Char) :
    (canonicalName (String.ofList (tidyChars line))).toList =
      lowerCase ([' '].intercalate (words (bare line))) := by
  simp only [canonicalName, String.toList_ofList, tidyChars_eq, Text.trim_collapse,
    Text.words_trimEnd]

/-- The name on a line is one that reading leaves as it is. -/
theorem readName_canonicalName {line : List Char} (plain : ∀ c ∈ bare line, Plain c) :
    ReadName (canonicalName (String.ofList (tidyChars line))) := by
  have one : ∀ word ∈ words (bare line), IsWord word := fun _ => Text.isWord_of_mem_words
  have spaced := (Text.singleSpaced_intercalate one).lowerCase
  rw [← toList_canonicalName_tidyChars] at spaced
  refine ⟨spaced.trim_eq, ?_, fun c member => ?_, spaced⟩
  · rw [toList_canonicalName_tidyChars, Text.lowerCase_lowerCase]
  · rw [toList_canonicalName_tidyChars] at member
    rcases Text.mem_lowerCodes_or_mem c member with written | inside
    · exact plain_of_mem_lowerCodes written
    · rcases Text.mem_intercalate inside with rfl | ⟨word, found, inWord⟩
      · exact plain_space
      · exact Text.forall_mem_words plain word found c inWord

/-! ## Tokens -/

theorem ofWord_text (word : String) : (Token.ofWord word).text = word := by
  rw [Token.ofWord]
  split <;> rfl

theorem canonicalToken_of_mem_ofLine {line : List Char} (plain : ∀ c ∈ bare line, Plain c) :
    ∀ token ∈ Production.ofLine (String.ofList (tidyChars line)), CanonicalToken token := by
  intro token member
  rw [Production.ofLine, String.toList_ofList, words_tidyChars] at member
  obtain ⟨word, found, rfl⟩ := List.mem_map.1 member
  refine ⟨?_, ?_, ?_⟩
  · rw [ofWord_text, String.toList_ofList]
    exact Text.isWord_of_mem_words found
  · rw [ofWord_text, String.toList_ofList]
    intro c inside
    obtain ⟨-, semicolon, brace, -⟩ := Text.forall_mem_words plain word found c inside
    exact ⟨semicolon, brace⟩
  · rw [ofWord_text]

end GrammarFile

open GrammarFile (ReadName)

namespace Grammar

/-- **Reading a grammar file leaves nothing to be tidied**, neither in a name nor in a token, and
each production is read back from its words. -/
theorem spelling_ofText (text : String) :
    ∀ entry ∈ (ofText text).rules.entries,
      ReadName entry.1 ∧ ∀ production ∈ entry.2,
        (∀ token ∈ production, CanonicalToken token) ∧
          Production.ofLine (" ".intercalate (production.map Token.text)) = production := by
  rintro ⟨name, productions⟩ member
  obtain ⟨first, others, defined, rfl, rfl⟩ :=
    Rules.exists_definition_of_stored (Rules.mem_entries_iff.1 member)
  obtain ⟨body, block, lines⟩ := List.mem_map.1 defined
  have tidy := GrammarFile.exists_plain_of_mem_definitionLines block
  rw [lines] at tidy
  obtain ⟨⟨line, plain, rfl⟩, later⟩ := List.forall_mem_cons.1 tidy
  refine ⟨GrammarFile.readName_canonicalName plain, fun production produced => ?_⟩
  obtain ⟨written, inside, rfl⟩ := List.mem_map.1 produced
  obtain ⟨line, plain, rfl⟩ := later written inside
  have canonical := GrammarFile.canonicalToken_of_mem_ofLine plain
  exact ⟨canonical, GrammarFile.ofLine_intercalate canonical⟩

/-- A block with a tab in its name, a sigma at the end of a word there, and an opening brace. -/
def ragged : String := "\x7b \u00A0<A\tΣ \u2003 B> ;\r\n\tx\x7b ; <Y>\t\n ;\x7d"

theorem spelling_ofText_ragged :
    ("<aς b>", [[.terminal "x\x7b", .nonTerminal "<Y>"], []]) ∈ (ofText ragged).rules.entries ∧
      ReadName "<aς b>" ∧ Production.ofLine "x\x7b <Y>" = [.terminal "x\x7b", .nonTerminal "<Y>"] := by
  have listed : ("<aς b>", [[.terminal "x\x7b", .nonTerminal "<Y>"], []]) ∈
      (ofText ragged).rules.entries := by decide +kernel
  obtain ⟨name, productions⟩ := spelling_ofText ragged _ listed
  exact ⟨listed, name, (productions _ List.mem_cons_self).2⟩

end Grammar

end RandomSentences
