/-
# Proofs.Rewritten -- texts in which each character is written in a way of its own

A text may be *rewritten* character by character, where what a character may be written as does
not hang on what is around it, and there may be more than one way (`Rewritten`).  As long as braces
are written as they are, and nothing else is written with a brace in it, the scan opens and closes
its blocks at the same places.  So the rewritten text has the same blocks, one by one, each with its
body rewritten (`blocks_rewritten`).
-/
import RandomSentences.Proofs.Concatenation
import Mathlib.Data.List.Forall2

namespace RandomSentences

set_option autoImplicit false

namespace GrammarFile

/-- Is the other text the text with each of its characters written in one of the ways it may be? -/
inductive Rewritten (writes : Char → List Char → Prop) : List Char → List Char → Prop
  | nil : Rewritten writes [] []
  | cons {c : Char} {piece text other : List Char} (here : writes c piece)
      (behind : Rewritten writes text other) : Rewritten writes (c :: text) (piece ++ other)

/-- Are braces written as they are, and nothing else with a brace? -/
structure KeepsBraces (writes : Char → List Char → Prop) : Prop where
  opening : ∀ piece, writes '{' piece → piece = ['{']
  closing : ∀ piece, writes '}' piece → piece = ['}']
  unopened : ∀ c piece, writes c piece → c ≠ '{' → '{' ∉ piece
  unclosed : ∀ c piece, writes c piece → c ≠ '}' → '}' ∉ piece

section Writes

variable {writes : Char → List Char → Prop}

theorem Rewritten.concat {text other piece : List Char} {c : Char}
    (rewritten : Rewritten writes text other) (here : writes c piece) :
    Rewritten writes (text ++ [c]) (other ++ piece) := by
  induction rewritten with
  | nil => simpa using Rewritten.cons here .nil
  | cons first _ ih =>
      rw [List.cons_append, List.append_assoc]
      exact .cons first ih

/-- Where there is one way to write each character, the text is rewritten in one way. -/
theorem rewritten_iff_flatMap {write : Char → List Char} {text other : List Char} :
    Rewritten (fun c piece => piece = write c) text other ↔ other = text.flatMap write := by
  constructor
  · intro rewritten
    induction rewritten with
    | nil => rfl
    | cons here _ ih => rw [List.flatMap_cons, here, ih]
  · rintro rfl
    induction text with
    | nil => exact .nil
    | cons c text ih => exact .cons rfl ih

/-! ## Blocks -/

/-- The scans of a text and of a rewritten text go on together, both outside of any block or both
inside of one. -/
theorem scanBlocks_rewritten (keeps : KeepsBraces writes) {text other : List Char}
    (rewritten : Rewritten writes text other) :
    List.Forall₂ (Rewritten writes) (scanBlocks none text) (scanBlocks none other) ∧
      ∀ read read', Rewritten writes read.reverse read'.reverse →
        List.Forall₂ (Rewritten writes) (scanBlocks (some read) text)
          (scanBlocks (some read') other) := by
  induction rewritten with
  | nil => exact ⟨.nil, fun _ _ _ => .nil⟩
  | @cons c piece text other here _ ih =>
      obtain ⟨outside, inside⟩ := ih
      constructor
      · by_cases opens : c = '{'
        · subst opens
          rw [keeps.opening piece here, List.singleton_append, scanBlocks, scanBlocks, if_pos rfl]
          exact inside [] [] .nil
        · rw [scanBlocks, if_neg opens, scanBlocks_prose (keeps.unopened c piece here opens)]
          exact outside
      · intro read read' before
        by_cases closes : c = '}'
        · subst closes
          rw [keeps.closing piece here, List.singleton_append, scanBlocks, scanBlocks, if_pos rfl]
          exact .cons before outside
        · rw [scanBlocks, if_neg closes, scanBlocks_reads (keeps.unclosed c piece here closes)]
          apply inside
          rw [List.reverse_cons, List.reverse_append, List.reverse_reverse]
          exact before.concat here

/-- **A rewritten text has the same blocks, rewritten.** -/
theorem blocks_rewritten (keeps : KeepsBraces writes) {text other : String}
    (rewritten : Rewritten writes text.toList other.toList) :
    List.Forall₂ (fun body body' => Rewritten writes body.toList body'.toList) (blocks text)
      (blocks other) := by
  simp only [blocks, List.forall₂_map_left_iff, List.forall₂_map_right_iff, String.toList_ofList]
  exact (scanBlocks_rewritten keeps rewritten).1

end Writes

end GrammarFile

end RandomSentences
