/-
# Proofs.Lexing -- a document gives back the lexemes that were laid out

The lexer is a machine that goes over one character at a time, so a run over a text in two
parts is a run over the first and then over the second (`run_append`).  Three facts say what
it does over what a layout puts down: over the spelling of a character within quotes it
takes up that character (`run_escapeChar`), over the spelling of a lexeme it takes up that
lexeme (`run_spelling`), and over the blanks between two lexemes it stays as it is
(`run_gap`).  So the lexemes of a layout are found again whatever its depth
(`run_indentFrom`), and an indented document is read as it was written (`lex_indented`).

Nothing here asks that the lexemes make up a value: brackets need not match.
-/
import RandomSentences.Json.Lexeme
import RandomSentences.Json.Lexer
import Mathlib.Data.List.Basic

namespace RandomSentences.Json

set_option autoImplicit false

namespace Lexer

/-! ## Runs -/

def run (lexer : Lexer) (text : List Char) : Option Lexer :=
  text.foldlM Lexer.step lexer

theorem run_cons (lexer : Lexer) (c : Char) (text : List Char) :
    lexer.run (c :: text) = (lexer.step c).bind fun next => next.run text :=
  List.foldlM_cons

theorem run_append (lexer : Lexer) (text rest : List Char) :
    lexer.run (text ++ rest) = (lexer.run text).bind fun next => next.run rest :=
  List.foldlM_append

variable (found : List Lexeme)

/-! ## Texts -/

theorem hexValue?_digitChar : ∀ digit < 16, hexValue? (Nat.digitChar digit) = some digit := by
  decide

/-- A control is read back from its number in hexadecimal. -/
theorem run_escapeControl (read : List Char) {c : Char} (control : c < ' ') :
    (Lexer.mk (.quoted read) found).run ['\\', 'u', '0', '0', Nat.digitChar (c.toNat / 16),
      Nat.digitChar (c.toNat % 16)] = some ⟨.quoted (c :: read), found⟩ := by
  have small : c.toNat < 32 := control
  have first := hexValue?_digitChar (c.toNat / 16) (by omega)
  have second := hexValue?_digitChar (c.toNat % 16) (by omega)
  have zero : hexValue? '0' = some 0 := by decide
  have value : c.toNat / 16 * 16 + c.toNat % 16 = c.toNat := Nat.div_add_mod' _ _
  have leading : isLeading c.toNat = false := by
    simp only [isLeading, Bool.and_eq_false_iff, decide_eq_false_iff_not]
    omega
  have trailing : isTrailing c.toNat = false := by
    simp only [isTrailing, Bool.and_eq_false_iff, decide_eq_false_iff_not]
    omega
  simp [run, step, zero, first, second, value, afterDigits, leading, trailing]

theorem run_escapeChar (read : List Char) (c : Char) :
    (Lexer.mk (.quoted read) found).run (escapeChar c) = some ⟨.quoted (c :: read), found⟩ := by
  unfold escapeChar
  split_ifs with quote solidus back form feed return_ tab control
  · subst quote; rfl
  · subst solidus; rfl
  · subst back; rfl
  · subst form; rfl
  · subst feed; rfl
  · subst return_; rfl
  · subst tab; rfl
  · exact run_escapeControl found read control
  · simp [run, step, quote, solidus, control]

theorem run_escape (read text : List Char) :
    (Lexer.mk (.quoted read) found).run (text.flatMap escapeChar) =
      some ⟨.quoted (text.reverse ++ read), found⟩ := by
  induction text generalizing read with
  | nil => rfl
  | cons c text ih =>
      rw [List.flatMap_cons, run_append, run_escapeChar, Option.bind_some, ih, List.reverse_cons,
        List.append_assoc, List.singleton_append]

/-! ## Lexemes and gaps -/

theorem run_spelling (lexeme : Lexeme) :
    (Lexer.mk .between found).run lexeme.spelling = some ⟨.between, lexeme :: found⟩ := by
  cases lexeme with
  | text content =>
      have opened : (Lexer.mk .between found).step '"' = some ⟨.quoted [], found⟩ := rfl
      rw [Lexeme.spelling, run_cons, opened, Option.bind_some, run_append, run_escape,
        Option.bind_some, List.append_nil]
      simp [run, step]
  | _ => rfl

theorem isGap_of_mem_gap {depth : Nat} {lexeme next : Lexeme} :
    ∀ c ∈ gap depth lexeme next, isGap c = true := by
  have inBreak (depth : Nat) : ∀ c ∈ lineBreak depth, isGap c = true := by
    intro c member
    rcases List.mem_cons.1 member with rfl | indented
    · rfl
    · rw [List.eq_of_mem_replicate indented]
      rfl
  unfold gap
  split_ifs
  · simp
  · exact inBreak depth
  · exact inBreak depth
  · simp [isGap]
  · exact inBreak (depth - 1)
  · simp

theorem run_gap {text : List Char} (blank : ∀ c ∈ text, isGap c = true) :
    (Lexer.mk .between found).run text = some ⟨.between, found⟩ := by
  induction text with
  | nil => rfl
  | cons c text ih =>
      obtain ⟨here, later⟩ := List.forall_mem_cons.1 blank
      have stays : (Lexer.mk .between found).step c = some ⟨.between, found⟩ := by
        simp [step, here]
      rw [run_cons, stays, Option.bind_some, ih later]

/-! ## Layouts -/

theorem run_indentFrom (depth : Nat) (lexemes : List Lexeme) :
    (Lexer.mk .between found).run (indentFrom depth lexemes) =
      some ⟨.between, lexemes.reverse ++ found⟩ := by
  induction lexemes generalizing depth found with
  | nil => rfl
  | cons lexeme rest ih =>
      cases rest with
      | nil => exact run_spelling found lexeme
      | cons next rest =>
          rw [indentFrom, run_append, run_append, run_spelling, Option.bind_some,
            run_gap _ isGap_of_mem_gap, Option.bind_some, ih, List.reverse_cons (a := lexeme),
            List.append_assoc, List.singleton_append]

end Lexer

/-- **An indented document is read as the lexemes it was laid out from.** -/
theorem lex_indented (lexemes : List Lexeme) : lex (indented lexemes) = some lexemes := by
  have laid := Lexer.run_indentFrom [] 0 lexemes
  rw [Lexer.run] at laid
  rw [lex, indented, String.toList_ofList, laid, List.append_nil]
  simp

end RandomSentences.Json
