/-
# Proofs.TidyLine -- the tidy form of a line is canonical

What a line says is its words, once it is bare of tabs and semicolons, and whether there is a blank
in front of the first of them.  The tidy form keeps that and nothing else: it is the words with one
space between them, behind one more space where the line is *indented* (`tidyChars_eq_join`).  Which
blanks there were, and how many, is lost, and so are all blanks at the end, also those that a `;`
had parted from each other.

Neither a tab nor a semicolon is left, so the tidy form is bare.  It has the words of the line and is
indented when the line is; being tidy again, it stays as it is.  Lines with the same words, both
indented or neither, have one tidy form, and no others have (`tidyLine_canonical`).
-/
import RandomSentences.Proofs.Reading

namespace RandomSentences

set_option autoImplicit false

open Text (isBlank startsBlank words)

namespace GrammarFile

/-- The words on a line: what stands between its blanks once it is bare. -/
def wordsOn (line : List Char) : List (List Char) :=
  ((bare line).splitOnP isBlank).filter fun word => word ≠ []

/-- Is there a word on the line, and does the line, once it is bare, start with a blank? -/
def Indented (line : List Char) : Prop :=
  wordsOn line ≠ [] ∧ startsBlank (bare line) = true

instance (line : List Char) : Decidable (Indented line) :=
  inferInstanceAs (Decidable (wordsOn line ≠ [] ∧ startsBlank (bare line) = true))

/-! ## The tidy form -/

theorem wordsOn_eq_words (line : List Char) : wordsOn line = words (bare line) := by
  rw [Text.words_eq_filter_splitOnP, wordsOn, not_isEmpty_eq]

theorem isWord_of_mem_wordsOn {line word : List Char} (member : word ∈ wordsOn line) :
    Text.IsWord word := by
  rw [wordsOn_eq_words] at member
  exact Text.isWord_of_mem_words member

/-- A tidy line is the words of the line with one space between them, and one in front of them if
it is indented. -/
theorem tidyChars_eq_join (line : List Char) :
    tidyChars line = (if Indented line then [' '] else []) ++ [' '].intercalate (wordsOn line) := by
  have lead : (startsBlank (bare line) && !(wordsOn line).isEmpty) = true ↔ Indented line := by
    simp [Indented, and_comm]
  rw [tidyChars_eq, Text.collapse_trimEnd, Text.trimEnd_collapse, ← wordsOn_eq_words,
    if_congr lead rfl rfl]

theorem mem_tidyChars {line : List Char} {c : Char} (member : c ∈ tidyChars line) :
    c = ' ' ∨ c ∈ bare line := by
  rw [tidyChars_eq_join, List.mem_append] at member
  rcases member with lead | joined
  · split at lead
    · exact .inl (List.mem_singleton.1 lead)
    · cases lead
  · rcases Text.mem_intercalate joined with space | ⟨word, found, inWord⟩
    · exact .inl space
    · rw [wordsOn_eq_words] at found
      exact .inr (Text.forall_mem_words (fun _ inside => inside) word found c inWord)

theorem not_padding_of_mem_tidyChars {line : List Char} {c : Char} (member : c ∈ tidyChars line) :
    c ≠ '\t' ∧ c ≠ ';' := by
  rcases mem_tidyChars member with rfl | inside
  · decide
  · exact of_decide_eq_true (List.mem_filter.1 inside).2

/-- A tidy line is bare. -/
theorem bare_tidyChars (line : List Char) : bare (tidyChars line) = tidyChars line :=
  List.filter_eq_self.2 fun _ member => decide_eq_true (not_padding_of_mem_tidyChars member)

theorem wordsOn_tidyChars (line : List Char) : wordsOn (tidyChars line) = wordsOn line := by
  rw [wordsOn_eq_words, bare_tidyChars, words_tidyChars, wordsOn_eq_words]

theorem indented_tidyChars (line : List Char) : Indented (tidyChars line) ↔ Indented line := by
  have starts : startsBlank ([' '].intercalate (wordsOn line)) = false :=
    Text.startsBlank_intercalate fun _ => isWord_of_mem_wordsOn
  rw [Indented, wordsOn_tidyChars, bare_tidyChars, tidyChars_eq_join]
  by_cases indented : Indented line
  · simp [indented, indented.1, startsBlank, Text.isBlank_space]
  · simp [indented, starts]

/-- **Lines have one tidy form when they have the same words and both are indented or neither is.** -/
theorem tidyChars_eq_iff {line other : List Char} :
    tidyChars line = tidyChars other ↔
      wordsOn line = wordsOn other ∧ (Indented line ↔ Indented other) := by
  constructor
  · intro same
    rw [← wordsOn_tidyChars line, ← indented_tidyChars line, same, wordsOn_tidyChars,
      indented_tidyChars]
    exact ⟨rfl, Iff.rfl⟩
  · rintro ⟨same, alike⟩
    rw [tidyChars_eq_join, tidyChars_eq_join, same]
    simp only [alike]

theorem tidyChars_tidyChars (line : List Char) : tidyChars (tidyChars line) = tidyChars line :=
  tidyChars_eq_iff.2 ⟨wordsOn_tidyChars line, indented_tidyChars line⟩

/-- The tidy form of a line without a word is empty. -/
theorem tidyChars_eq_nil_iff {line : List Char} : tidyChars line = [] ↔ wordsOn line = [] := by
  constructor
  · intro empty
    rw [← wordsOn_tidyChars, empty]
    rfl
  · intro none_
    have unindented : ¬Indented line := fun indented => indented.1 none_
    rw [tidyChars_eq_join, if_neg unindented, none_]
    rfl

theorem getLast?_tidyChars (line : List Char) :
    ∀ c ∈ (tidyChars line).getLast?, isBlank c = false := by
  rw [tidyChars_eq, Text.collapse_trimEnd]
  exact Text.getLast?_trimEnd _

/-! ## Lines as texts -/

theorem toList_tidyLine (line : String) : (tidyLine line).toList = tidyChars line.toList :=
  String.toList_ofList

/-- **The tidy form of a line is canonical.**  It is the words of the line with one space between
them, behind one more when the line is indented, and it is empty when there is no word.  It is its
own tidy form, has no tab, no semicolon and no blank at its end, and is parted at its blanks into the
words of the line.  Two lines have the same one exactly if they have the same words and are both
indented or both not. -/
theorem tidyLine_canonical (line : String) :
    (tidyLine line).toList =
        (if Indented line.toList then [' '] else []) ++ [' '].intercalate (wordsOn line.toList) ∧
      (tidyLine line = "" ↔ wordsOn line.toList = []) ∧
      tidyLine (tidyLine line) = tidyLine line ∧
      '\t' ∉ (tidyLine line).toList ∧ ';' ∉ (tidyLine line).toList ∧
      (∀ c ∈ (tidyLine line).toList.getLast?, isBlank c = false) ∧
      words (tidyLine line).toList = wordsOn line.toList ∧
      ∀ other, tidyLine line = tidyLine other ↔
        wordsOn line.toList = wordsOn other.toList ∧
          (Indented line.toList ↔ Indented other.toList) := by
  rw [toList_tidyLine]
  refine ⟨tidyChars_eq_join _, ?_, ?_, fun tab => ?_, fun semicolon => ?_, getLast?_tidyChars _, ?_,
    fun other => ?_⟩
  · rw [← String.toList_inj, toList_tidyLine]
    exact tidyChars_eq_nil_iff
  · rw [← String.toList_inj, toList_tidyLine, toList_tidyLine]
    exact tidyChars_tidyChars _
  · exact (not_padding_of_mem_tidyChars tab).1 rfl
  · exact (not_padding_of_mem_tidyChars semicolon).2 rfl
  · rw [words_tidyChars, wordsOn_eq_words]
  · rw [← String.toList_inj, toList_tidyLine, toList_tidyLine]
    exact tidyChars_eq_iff

/-- A line with a tab and a semicolon within a word, and blanks at its end that they part. -/
def glued : String := " \t\u3000a;\tb\u0085 c ; ;\r"

/-- The tab and the semicolon join what they stand between, and the blanks at the end go. -/
theorem tidyLine_canonical_glued :
    wordsOn glued.toList = ["ab".toList, "c".toList] ∧ Indented glued.toList ∧
      (tidyLine glued).toList = " ab c".toList ∧
      'c' ∈ (tidyLine glued).toList.getLast? ∧ isBlank 'c' = false ∧
      tidyLine glued = tidyLine "\r ab \tc" := by
  obtain ⟨join, -, -, -, -, ends, -, same⟩ := tidyLine_canonical glued
  have words : wordsOn glued.toList = ["ab".toList, "c".toList] := by decide +kernel
  have indented : Indented glued.toList := by decide +kernel
  have written : (tidyLine glued).toList = " ab c".toList := by
    rw [join, words, if_pos indented]
    decide +kernel
  have last : 'c' ∈ (tidyLine glued).toList.getLast? := by
    rw [written]
    decide +kernel
  exact ⟨words, indented, written, last, ends 'c' last, (same _).2 (by decide +kernel)⟩

end GrammarFile

end RandomSentences
