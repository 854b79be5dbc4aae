/-
# Proofs.LineEnds -- carriage returns in front of the line feeds

A carriage return right in front of a line feed belongs to the end of the line, so a text that has
none has the same lines when one is put in front of each of its line feeds (`lines_writeReturns`).
A block may end within a line, but never between the two characters: they are written for one, and
so the blocks of the text are those of the other with their ends of lines written in the same way
(`blocks_withReturns`).

Blocks with the same lines are the same definition, whatever is on the lines, and so the rules are
the same (`Grammar.rules_withReturns`).
-/
import RandomSentences.Proofs.Rewritten

namespace RandomSentences

set_option autoImplicit false

namespace Text

def writeReturn (c : Char) : List Char :=
  if c = '\n' then ['\r', '\n'] else [c]

/-- The lines are the same with a carriage return at the end of each. -/
theorem lines_writeReturns {text : List Char} (noReturn : '\r' ∉ text) :
    lines (text.flatMap writeReturn) = lines text := by
  induction text with
  | nil => rfl
  | cons c rest ih =>
      obtain ⟨notReturn, later⟩ := not_or.1 (mt List.mem_cons.2 noReturn)
      by_cases feed : c = '\n'
      · subst feed
        show lines ('\r' :: '\n' :: rest.flatMap writeReturn) = lines ('\n' :: rest)
        rw [lines, lines, ih later]
      · rw [List.flatMap_cons, writeReturn, if_neg feed, List.singleton_append,
          lines_cons feed fun same => absurd same.symm notReturn,
          lines_cons feed fun same => absurd same.symm notReturn, ih later]

end Text

open Text (writeReturn)

namespace GrammarFile

/-- The text with a carriage return in front of each line feed. -/
def withReturns (text : String) : String :=
  String.ofList (text.toList.flatMap writeReturn)

theorem keepsBraces_writeReturn : KeepsBraces fun c piece => piece = writeReturn c where
  opening := by
    rintro piece rfl
    decide
  closing := by
    rintro piece rfl
    decide
  unopened := by
    rintro c piece rfl other
    by_cases feed : c = '\n' <;> simp [writeReturn, feed, Ne.symm other]
  unclosed := by
    rintro c piece rfl other
    by_cases feed : c = '\n' <;> simp [writeReturn, feed, Ne.symm other]

theorem subset_of_mem_blocks {text body : String} (block : body ∈ blocks text) :
    body.toList ⊆ text.toList := by
  obtain ⟨scanned, member, rfl⟩ := List.mem_map.1 block
  obtain ⟨parts, rest, parted⟩ := exists_parted text.toList
  rw [scanBlocks_parted parted] at member
  obtain ⟨part, inParts, rfl⟩ := List.mem_map.1 member
  intro c inside
  rw [String.toList_ofList] at inside
  rw [parted.whole]
  exact List.mem_append_left _ (List.mem_flatMap.2 ⟨part, inParts, by simp [inside]⟩)

/-- The blocks of a text that is given carriage returns are its blocks, given them too. -/
theorem blocks_withReturns (text : String) :
    blocks (withReturns text) = (blocks text).map withReturns := by
  have rewritten : Rewritten (fun c piece => piece = writeReturn c) text.toList
      (withReturns text).toList :=
    rewritten_iff_flatMap.2 String.toList_ofList
  have same := (blocks_rewritten keepsBraces_writeReturn rewritten).imp fun body body' written =>
    show withReturns body = body' by
      rw [withReturns, ← rewritten_iff_flatMap.1 written, String.ofList_toList]
  rw [← List.forall₂_map_left_iff, List.forall₂_eq_eq_eq] at same
  exact same.symm

theorem definitionLines_withReturns {body : String} (noReturn : '\r' ∉ body.toList) :
    definitionLines (withReturns body) = definitionLines body := by
  rw [definitionLines, definitionLines, withReturns, String.toList_ofList,
    Text.lines_writeReturns noReturn]

end GrammarFile

open GrammarFile (blocks definitionLines withReturns)

namespace Grammar

/-- **Carriage returns at the ends of lines change no rule.**  A text without any has the same
blocks, each with the same lines, when every line feed is given one. -/
theorem rules_withReturns (text : String) (noReturn : '\r' ∉ text.toList) :
    blocks (withReturns text) = (blocks text).map withReturns ∧
      (blocks (withReturns text)).map definitionLines = (blocks text).map definitionLines ∧
      (ofText (withReturns text)).rules = (ofText text).rules := by
  have definitions : (blocks (withReturns text)).map definitionLines =
      (blocks text).map definitionLines := by
    rw [GrammarFile.blocks_withReturns, List.map_map]
    apply List.map_congr_left
    intro body block
    rw [Function.comp_apply]
    exact GrammarFile.definitionLines_withReturns fun inBody =>
      noReturn (GrammarFile.subset_of_mem_blocks block inBody)
  refine ⟨GrammarFile.blocks_withReturns text, definitions, ?_⟩
  rw [ofText, ofText, Rules.ofText, Rules.ofText, definitions]

/-- Two blocks, with an empty line, a line of blanks, a lone semicolon and a last line that has no
end. -/
def unended : String := "a\n\x7b\n<s>\n\nx <t> ;\n \n;\ny\x7d\n\x7b<t>\n\x7d"

/-- The empty line stays empty, and the last lines of the blocks stay as they are. -/
theorem rules_withReturns_unended :
    '\r' ∉ unended.toList ∧
      blocks (withReturns unended) = ["\r\n<s>\r\n\r\nx <t> ;\r\n \r\n;\r\ny", "<t>\r\n"] ∧
      (ofText (withReturns unended)).rules.get? "<s>" =
        some [[.terminal "x", .nonTerminal "<t>"], [], [], [.terminal "y"]] ∧
      (ofText (withReturns unended)).rules.get? "<t>" = some [] := by
  have noReturn : '\r' ∉ unended.toList := by decide +kernel
  obtain ⟨written, -, same⟩ := rules_withReturns unended noReturn
  refine ⟨noReturn, written.trans (by decide +kernel), ?_, ?_⟩
  · rw [same]
    decide +kernel
  · rw [same]
    decide +kernel

/-- A carriage return that is given to a line that ends in one stays on it: the empty line comes to
be a production. -/
example : (ofText (withReturns "\x7b<s>\r\n\r\n\x7d")).rules.get? "<s>" = some [[]] ∧
    (ofText "\x7b<s>\r\n\r\n\x7d").rules.get? "<s>" = some [] := by decide +kernel

end Grammar

end RandomSentences
