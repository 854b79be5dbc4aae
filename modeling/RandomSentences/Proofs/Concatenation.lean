/-
# Proofs.Concatenation -- one grammar file behind another

The blocks of a grammar file part it.  Each block with the prose in front of it is a *part*,
and behind the last part there is a rest in which no block closes (`Parted`).  Every text can be
parted (`exists_parted`), and its blocks are the bodies of its parts (`scanBlocks_parted`).

Behind a whole part the scan stands where it stood at the start of the text, outside of any
block (`scanBlocks_parts`).  So prose may be put in there without being read, and where the rest
of a file is prose, the blocks of another file may follow and are read as if they stood alone.
Whatever braces the prose and the bodies have in them, the parts tell which of them count.

The definitions of the second file come later than those of the first, so a symbol that both
define is the second file's (`Grammar.composes`).
-/
import RandomSentences.Proofs.Insertions
import RandomSentences.Proofs.Writing

namespace RandomSentences

set_option autoImplicit false

namespace GrammarFile

/-! ## Parts -/

/-- A block with the prose in front of it. -/
structure Part where
  prose : List Char
  body : List Char
  unopened : '{' ∉ prose
  unclosed : '}' ∉ body

def chars (parts : List Part) : List Char :=
  parts.flatMap fun part => part.prose ++ '{' :: (part.body ++ ['}'])

def bodies (parts : List Part) : List (List Char) :=
  parts.map Part.body

/-- Is the text made up of the parts and of a rest in which no block closes? -/
structure Parted (text : List Char) (parts : List Part) (rest : List Char) : Prop where
  whole : text = chars parts ++ rest
  ended : ¬['{', '}'].Sublist rest

theorem chars_append (parts later : List Part) : chars (parts ++ later) = chars parts ++ chars later :=
  List.flatMap_append

theorem chars_cons (part : Part) (parts : List Part) :
    chars (part :: parts) = part.prose ++ '{' :: (part.body ++ '}' :: chars parts) := by
  simp [chars]

/-- Every text can be parted. -/
theorem exists_parted (text : List Char) : ∃ parts rest, Parted text parts rest := by
  by_cases opened : '{' ∈ text
  · obtain ⟨prose, behind, split_, unopened⟩ := List.eq_append_cons_of_mem opened
    by_cases closed : '}' ∈ behind
    · obtain ⟨body, later, split', unclosed⟩ := List.eq_append_cons_of_mem closed
      have shorter : later.length < text.length := by
        rw [split_, split']
        simp
        omega
      obtain ⟨parts, rest, whole, ended⟩ := exists_parted later
      refine ⟨⟨prose, body, unopened, unclosed⟩ :: parts, rest, ?_, ended⟩
      rw [split_, split', chars_cons, whole]
      simp
    · refine ⟨[], text, rfl, fun closes => ?_⟩
      rw [split_] at closes
      obtain ⟨first, second, braces, inProse, later⟩ := List.sublist_append_iff.1 closes
      -- no brace opens in the prose, and none closes behind the first that opens
      cases first with
      | nil =>
          rw [List.nil_append] at braces
          rw [← braces, List.cons_sublist_cons, List.singleton_sublist] at later
          exact closed later
      | cons brace others =>
          obtain ⟨rfl, -⟩ := List.cons.inj braces
          exact unopened (inProse.subset List.mem_cons_self)
  · exact ⟨[], text, rfl, fun closes => opened (closes.subset List.mem_cons_self)⟩
termination_by text.length

/-! ## The scan -/

/-- Prose is not read. -/
theorem scanBlocks_prose {prose : List Char} (unopened : '{' ∉ prose) (rest : List Char) :
    scanBlocks none (prose ++ rest) = scanBlocks none rest := by
  induction prose with
  | nil => rfl
  | cons c prose ih =>
      obtain ⟨plain, unopened⟩ := not_or.1 (mt List.mem_cons.2 unopened)
      rw [List.cons_append, scanBlocks, if_neg (Ne.symm plain), ih unopened]

/-- Behind parts the scan goes on as from the start of a text. -/
theorem scanBlocks_parts (parts : List Part) (rest : List Char) :
    scanBlocks none (chars parts ++ rest) = bodies parts ++ scanBlocks none rest := by
  induction parts with
  | nil => rfl
  | cons part parts ih =>
      rw [chars_cons, List.append_assoc, scanBlocks_prose part.unopened, List.cons_append,
        List.append_assoc, List.cons_append, scanBlocks_block part.unclosed, ih]
      rfl

theorem scanBlocks_unclosed {text : List Char} (unclosed : '}' ∉ text) (read : List Char) :
    scanBlocks (some read) text = [] := by
  have reads := scanBlocks_reads unclosed read []
  rwa [List.append_nil] at reads

theorem scanBlocks_rest {rest : List Char} (ended : ¬['{', '}'].Sublist rest) :
    scanBlocks none rest = [] := by
  induction rest with
  | nil => rfl
  | cons c rest ih =>
      rw [scanBlocks]
      split
      · rename_i opens
        subst opens
        apply scanBlocks_unclosed
        rwa [List.cons_sublist_cons, List.singleton_sublist] at ended
      · exact ih fun closes => ended (closes.cons c)

/-- **The blocks of a text are the bodies of its parts.** -/
theorem scanBlocks_parted {text rest : List Char} {parts : List Part}
    (parted : Parted text parts rest) : scanBlocks none text = bodies parts := by
  rw [parted.whole, scanBlocks_parts, scanBlocks_rest parted.ended, List.append_nil]

/-- Behind a file whose rest is prose, another one is read as if it stood alone. -/
theorem scanBlocks_append {text rest : List Char} {parts : List Part}
    (parted : Parted text parts rest) (prose : '{' ∉ rest) (other : List Char) :
    scanBlocks none (text ++ other) = scanBlocks none text ++ scanBlocks none other := by
  rw [scanBlocks_parted parted, parted.whole, List.append_assoc, scanBlocks_parts,
    scanBlocks_prose prose]

/-- Prose may be put in behind any number of whole parts. -/
theorem scanBlocks_noted {text rest : List Char} {before behind : List Part}
    (parted : Parted text (before ++ behind) rest) {note : List Char} (prose : '{' ∉ note) :
    scanBlocks none (chars before ++ note ++ (chars behind ++ rest)) = scanBlocks none text := by
  rw [parted.whole, chars_append, List.append_assoc, List.append_assoc, scanBlocks_parts,
    scanBlocks_prose prose, scanBlocks_parts before]

end GrammarFile

open GrammarFile (Parted blocks chars bodies)

namespace Grammar

theorem rules_eq_of_blocks {text other : String} (same : blocks text = blocks other) :
    (ofText text).rules = (ofText other).rules := by
  rw [ofText, ofText, Rules.ofText, Rules.ofText, same]

/-- **Grammar files compose.**  A text can be parted, and its blocks are the bodies of its parts.
Where its rest is prose, the blocks of any other text may follow, and of a symbol that is in both
texts the productions are those of the second.  Prose at its start, or behind any part of it, is
not read. -/
theorem composes (text : String) :
    (∃ parts rest, Parted text.toList parts rest) ∧
      ∀ parts rest, Parted text.toList parts rest →
        blocks text = (bodies parts).map String.ofList ∧
        ('{' ∉ rest → ∀ other,
          blocks (text ++ other) = blocks text ++ blocks other ∧
            ∀ name, (ofText (text ++ other)).rules.get? name =
              ((ofText other).rules.get? name).or ((ofText text).rules.get? name)) ∧
        ∀ before behind, parts = before ++ behind → ∀ note, '{' ∉ note → ∀ noted : String,
          noted.toList = chars before ++ note ++ (chars behind ++ rest) →
            blocks noted = blocks text ∧ (ofText noted).rules = (ofText text).rules := by
  refine ⟨GrammarFile.exists_parted text.toList, fun parts rest parted => ⟨?_, ?_, ?_⟩⟩
  · rw [blocks, GrammarFile.scanBlocks_parted parted]
  · intro prose other
    have joined : blocks (text ++ other) = blocks text ++ blocks other := by
      rw [blocks, String.toList_append, GrammarFile.scanBlocks_append parted prose, List.map_append]
      rfl
    refine ⟨joined, fun name => ?_⟩
    simp only [ofText, Rules.ofText, joined, List.map_append, Rules.get?_ofDefinitions_append]
  · rintro before behind rfl note prose noted written
    have same : blocks noted = blocks text := by
      rw [blocks, written, GrammarFile.scanBlocks_noted parted prose, blocks]
    exact ⟨same, rules_eq_of_blocks same⟩

def strayParts : List GrammarFile.Part := [
    ⟨"\x7da".toList, "<s>\nx\x7b;".toList, by decide, by decide⟩,
    ⟨"b\x7d".toList, "<t>\n;".toList, by decide, by decide⟩]

/-- A file with stray braces, in its prose and within a block. -/
def strayText : String := "\x7da\x7b<s>\nx\x7b;\x7db\x7d\x7b<t>\n;\x7d c"

theorem parted_strayText : Parted strayText.toList strayParts " c".toList :=
  ⟨by decide +kernel, by decide⟩

/-- A second definition of `<s>` in another file, and a note with a stray brace behind a part. -/
theorem composes_stray :
    Parted strayText.toList strayParts " c".toList ∧
      blocks strayText = ["<s>\nx\x7b;", "<t>\n;"] ∧
      blocks (strayText ++ "\x7b<S>\ny\x7d\x7b") =
        blocks strayText ++ blocks "\x7b<S>\ny\x7d\x7b" ∧
      (ofText (strayText ++ "\x7b<S>\ny\x7d\x7b")).rules.get? "<s>" = some [[.terminal "y"]] ∧
      (ofText (strayText ++ "\x7b<S>\ny\x7d\x7b")).rules.get? "<t>" = some [[]] ∧
      (ofText "\x7da\x7b<s>\nx\x7b;\x7d note\x7d b\x7d\x7b<t>\n;\x7d c").rules =
        (ofText strayText).rules := by
  obtain ⟨-, parted⟩ := composes strayText
  obtain ⟨read, append, insert⟩ := parted strayParts " c".toList parted_strayText
  obtain ⟨joined, found⟩ := append (by decide) "\x7b<S>\ny\x7d\x7b"
  refine ⟨parted_strayText, read.trans (by decide +kernel), joined, ?_, ?_, ?_⟩
  · rw [found]
    decide +kernel
  · rw [found]
    decide +kernel
  · exact (insert (strayParts.take 1) (strayParts.drop 1) rfl " note\x7d ".toList
      (by decide) _ (by decide +kernel)).2

end Grammar

end RandomSentences
