/-
# Proofs.Trimming -- a sentence that is finished stays as it is

To trim a text and to close its gaps are two ways to take blanks out of it, and it does not matter
which comes first (`trim_tightenBetween`).  What stands between the blanks at the two ends of a text
learns nothing from them: a blank neither opens nor closes, and past those blanks there is nothing
that does (`trimStart_tightenBetween`, `trimEnd_tightenBetween`).

A text in which gaps were closed has no blank right before a closing mark and none right after an
opening one (`gapFree_tightenBetween`).  So a sentence that is put through the usual filter and
trimmed has none of either, wherever its terminals come from and whatever is in them, and it is
changed no more by closing its gaps again or by trimming it again (`sentence_stays`).
-/
import RandomSentences.Grammar
import RandomSentences.Proofs.BlankRuns
import RandomSentences.Proofs.Sentence

namespace RandomSentences

set_option autoImplicit false

open Text (isBlank)

namespace Punctuation

/-! ## Both in either order -/

theorem trimStart_tightenBetween (closes : Bool) (text : List Char) :
    Text.trimStart (tightenBetween false closes text) =
      tightenBetween false closes (Text.trimStart text) := by
  induction text with
  | nil => rfl
  | cons c rest ih =>
      rw [tightenBetween]
      by_cases blank : isBlank c = true
      · rw [if_pos blank, Text.trimStart_cons_blank blank, ← ih]
        split
        · rfl
        · exact Text.trimStart_cons_blank blank _
      · have solid : isBlank c = false := Bool.eq_false_iff.2 blank
        rw [if_neg blank, Text.trimStart_cons solid, Text.trimStart_cons solid, tightenBetween,
          if_neg blank]

/-- A last character that is not blank stays the last. -/
theorem getLast?_tightenBetween {text : List Char} (solid : ∀ c ∈ text.getLast?, isBlank c = false)
    (opens closes : Bool) : (tightenBetween opens closes text).getLast? = text.getLast? := by
  rcases List.eq_nil_or_concat text with rfl | ⟨init, last, rfl⟩
  · rfl
  · have here : isBlank last = false := solid last (by simp)
    simp [tightenBetween_append, tightenBetween, here]

theorem trimEnd_tightenBetween (opens : Bool) (text : List Char) :
    Text.trimEnd (tightenBetween opens false text) =
      tightenBetween opens false (Text.trimEnd text) := by
  obtain ⟨blanks, all, whole⟩ := Text.exists_trimEnd_append text
  have solid := Text.getLast?_trimEnd text
  have trailing (before : Bool) : ∀ c ∈ tightenBetween before false blanks, isBlank c = true :=
    fun c member => all c ((tightenBetween_sublist before false blanks).subset member)
  have parted := tightenBetween_append opens false (Text.trimEnd text) blanks
  rw [whole, closesFirst_of_blanks all] at parted
  rw [parted, Text.trimEnd_append_blanks (trailing _)]
  apply Text.trimEnd_of_getLast
  rwa [getLast?_tightenBetween solid]

/-- **To trim a text and to close its gaps are the same in either order.** -/
theorem trim_tightenBetween (text : List Char) :
    Text.trim (tightenBetween false false text) = tightenBetween false false (Text.trim text) := by
  rw [Text.trim, trimStart_tightenBetween, trimEnd_tightenBetween, Text.trim]

theorem trimmed_closeGaps (text : String) :
    Text.trimmed (closeGaps text) = closeGaps (Text.trimmed text) := by
  apply String.toList_inj.1
  rw [Text.trimmed, String.toList_ofList, toList_closeGaps, toList_closeGaps, Text.trimmed,
    String.toList_ofList, trim_tightenBetween]

/-! ## Texts without gaps -/

/-- Has the text no blank right before a closing mark, and none right after an opening one? -/
def GapFree (text : List Char) : Prop :=
  text.IsChain fun c next =>
    ¬(isBlank c = true ∧ next ∈ ['.', ',', '?', '!', ':', ')', '^']) ∧
      ¬(c ∈ ['(', '^'] ∧ isBlank next = true)

theorem gapFree_iff {text : List Char} :
    GapFree text ↔ text.IsChain fun c next =>
      (isBlank c = true → isClosing next = false) ∧
        (isOpening c = true → isBlank next = false) := by
  simp only [GapFree, isClosing_eq, isOpening_eq, List.contains_iff_mem, not_and,
    Bool.not_eq_true, ← Bool.not_eq_true (List.contains _ _)]

/-- A text in which a closing mark does not come first does not start with one. -/
theorem not_isClosing_of_closesFirst {closes : Bool} {c : Char} {rest : List Char}
    (stays : closesFirst closes (c :: rest) = false) : isClosing c = false := by
  by_cases blank : isBlank c = true
  · exact isClosing_of_isBlank blank
  · rwa [closesFirst, if_neg blank] at stays

/-- **A tightened text has no gap**, and behind what opens it does not start with a blank. -/
theorem gapFree_tightenBetween (opens closes : Bool) (text : List Char) :
    (opens = true → ∀ c ∈ (tightenBetween opens closes text).head?, isBlank c = false) ∧
      GapFree (tightenBetween opens closes text) := by
  simp only [gapFree_iff]
  induction text generalizing opens with
  | nil => simp [tightenBetween]
  | cons c rest ih =>
      rw [tightenBetween]
      by_cases blank : isBlank c = true
      · rw [if_pos blank]
        split
        · exact ih opens
        · rename_i goes
          obtain ⟨rfl, stays⟩ := Bool.or_eq_false_iff.1 (Bool.eq_false_of_not_eq_true goes)
          refine ⟨Bool.noConfusion, List.isChain_cons.2 ⟨fun next first => ⟨?_, ?_⟩, (ih false).2⟩⟩
          · intro _
            obtain ⟨tail, shape⟩ := List.head?_eq_some_iff.1 first
            rw [← closesFirst_tightenBetween false closes closes rest, shape] at stays
            exact not_isClosing_of_closesFirst stays
          · intro opening
            rw [isOpening_of_isBlank blank] at opening
            cases opening
      · rw [if_neg blank]
        refine ⟨fun _ d first => ?_, List.isChain_cons.2 ⟨fun next first => ⟨?_, ?_⟩, (ih _).2⟩⟩
        · cases first
          exact Bool.eq_false_of_not_eq_true blank
        · exact fun here => absurd here blank
        · exact fun opening => (ih (isOpening c)).1 opening next first

theorem gapFree_closeGaps (text : String) : GapFree (closeGaps text).toList := by
  rw [toList_closeGaps]
  exact (gapFree_tightenBetween false false text.toList).2

end Punctuation

open Punctuation (closeGaps GapFree)

namespace Grammar

/-! ## Sentences -/

/-- A sentence that is filtered and trimmed may as well be trimmed first. -/
theorem finish_eq_closeGaps {grammar : Grammar} (usual : grammar.filter = Filter.punctuation)
    (trims : grammar.config.trimOutput = true) (text : String) :
    grammar.finish text = closeGaps (Text.trimmed text) := by
  rw [finish, usual, if_pos trims, ← Punctuation.trimmed_closeGaps]
  rfl

/-- **A trimmed sentence stays as it is.**  To trim a text and to close its gaps may be done in
either order.  So whatever the rules are, a sentence that the usual filter has gone over and that is
trimmed is changed by neither any more, and has no blank before a closing mark or after an opening
one. -/
theorem sentence_stays :
    (∀ text, Text.trimmed (closeGaps text) = closeGaps (Text.trimmed text)) ∧
      ∀ grammar : Grammar, grammar.filter = Filter.punctuation → grammar.config.trimOutput = true →
        ∀ limits stream symbol position sentence after,
          grammar.sentenceFrom limits stream symbol position = some (sentence, after) →
            closeGaps sentence = sentence ∧ Text.trimmed sentence = sentence ∧
              GapFree sentence.toList := by
  refine ⟨Punctuation.trimmed_closeGaps, ?_⟩
  intro grammar usual trims limits stream symbol position sentence after made
  rw [sentenceFrom, Option.map_eq_some_iff] at made
  obtain ⟨⟨text, between⟩, -, same⟩ := made
  obtain ⟨rfl, -⟩ := Prod.mk.inj same
  rw [finish_eq_closeGaps usual trims]
  refine ⟨Piecewise.closeGaps.again _, ?_, Punctuation.gapFree_closeGaps _⟩
  rw [Punctuation.trimmed_closeGaps, Text.trimmed_trimmed]

/-- A grammar with terminals that no grammar file can have, of blanks and marks. -/
def untidy : Grammar :=
  { rules := Rules.empty.insert "<s>" [
      [.terminal "\n ( a", .terminal "\t,\u3000(", .terminal " ^ \u00A0"]] }

/-- Blanks at both ends, between two marks that open and before one that closes; one that stays is
before a mark that opens only. -/
theorem sentence_stays_untidy :
    untidy.filter = Filter.punctuation ∧ untidy.config.trimOutput = true ∧
      untidy.sentenceFrom ⟨1, 1⟩ (WordStream.ofList []) "<s>" 0 = some ("(a,\u3000(^", 1) ∧
      closeGaps "(a,\u3000(^" = "(a,\u3000(^" ∧ Text.trimmed "(a,\u3000(^" = "(a,\u3000(^" ∧
      GapFree "(a,\u3000(^".toList := by
  have made : untidy.sentenceFrom ⟨1, 1⟩ (WordStream.ofList []) "<s>" 0 =
      some ("(a,\u3000(^", 1) := by decide +kernel
  exact ⟨rfl, rfl, made, sentence_stays.2 untidy rfl rfl _ _ _ _ _ _ made⟩

end Grammar

end RandomSentences
