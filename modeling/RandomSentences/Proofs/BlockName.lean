/-
# Proofs.BlockName -- the line that names a block

A block defines the symbol on its first written line, and a line is written as soon as it has a
character.  It need not have a word: a line of blanks, of tabs or of semicolons only is written, and
what it says is nothing.  Among the productions such a line is the production without tokens; in
front of the name it takes the place of the name.

So a block is named by its first line with a word exactly when the lines in front of that one are
empty (`Rules.named_by_first_word`).  Otherwise it defines the symbol with the empty name, and the
line with the first word is one of its productions.
-/
import RandomSentences.Proofs.CanonicalName
import RandomSentences.Proofs.TidyLine

namespace RandomSentences

set_option autoImplicit false

open Text (isBlank lowerCase words)

namespace GrammarFile

/-! ## Names on lines -/

/-- Is there anything but blanks on the line once it is bare? -/
def HasWord (line : List Char) : Prop :=
  ∃ c ∈ bare line, isBlank c = false

instance (line : List Char) : Decidable (HasWord line) :=
  List.decidableBEx _ (bare line)

/-- The name on a line: bare, collapsed, trimmed and in lower case. -/
def nameOn (line : List Char) : String :=
  canonicalName (String.ofList (Text.collapse (bare line)))

theorem hasWord_iff {line : List Char} : HasWord line ↔ wordsOn line ≠ [] := by
  rw [wordsOn_eq_words, ne_eq, Text.words_eq_nil_iff]
  simp [HasWord]

theorem toList_nameOn (line : List Char) :
    (nameOn line).toList = lowerCase ([' '].intercalate (wordsOn line)) := by
  simp only [nameOn, canonicalName, String.toList_ofList, Text.trim_collapse, wordsOn_eq_words]

/-- The name on a line is empty when there is no word on it. -/
theorem nameOn_eq_empty_iff {line : List Char} : nameOn line = "" ↔ ¬HasWord line := by
  rw [hasWord_iff, not_not, ← String.toList_inj, toList_nameOn]
  constructor
  · intro empty
    cases found : wordsOn line with
    | nil => rfl
    | cons word rest =>
        have one : Text.IsWord word := isWord_of_mem_wordsOn (found ▸ List.mem_cons_self)
        rw [found] at empty
        exact absurd empty (Text.lowerFrom_ne_nil (Text.intercalate_ne_nil one rest) false)
  · intro none_
    rw [none_]
    rfl

theorem canonicalName_nameOn (line : List Char) : canonicalName (nameOn line) = nameOn line :=
  canonicalName_canonicalName _

/-! ## The first written line -/

section Written

variable {body : String} {first : List Char} {rest : List (List Char)}
  (written : writtenLines body = first :: rest)
include written

theorem definedName?_of_writtenLines : definedName? body = some (nameOn first) := by
  rw [definedName?, written]
  rfl

theorem productionsIn_of_writtenLines : productionsIn body = rest.map productionOf := by
  rw [productionsIn, written, List.tail_cons]

end Written

/-- The first line of a block with a word on it, with the lines in front of it and behind it. -/
structure FirstWord (body : String) (before : List (List Char)) (first : List Char)
    (behind : List (List Char)) : Prop where
  parted : Text.lines body.toList = before ++ first :: behind
  unworded : ∀ line ∈ before, ¬HasWord line
  worded : HasWord first

theorem exists_firstWord {body : String} (worded : ∃ line ∈ Text.lines body.toList, HasWord line) :
    ∃ before first behind, FirstWord body before first behind := by
  have isSome : ((Text.lines body.toList).find? fun line => HasWord line).isSome = true := by
    simpa using worded
  obtain ⟨first, found⟩ := Option.isSome_iff_exists.1 isSome
  obtain ⟨named, before, behind, parted, unworded⟩ := List.find?_eq_some_iff_append.1 found
  exact ⟨before, first, behind, parted, by simpa using unworded, of_decide_eq_true named⟩

namespace FirstWord

variable {body : String} {first : List Char} {before behind : List (List Char)}
  (found : FirstWord body before first behind)
include found

theorem nameOn_ne : nameOn first ≠ "" :=
  fun empty => nameOn_eq_empty_iff.1 empty found.worded

theorem ne_nil : first ≠ [] := by
  rintro rfl
  obtain ⟨c, inside, -⟩ := found.worded
  cases inside

/-- Behind empty lines the first line with a word is the first that is written. -/
theorem writtenLines_of_empty (empty : ∀ line ∈ before, line = []) :
    writtenLines body = first :: behind.filter fun line => line ≠ [] := by
  have none_ : (before.filter fun line => line ≠ []) = [] :=
    List.filter_eq_nil_iff.2 fun line member => by simp [empty line member]
  rw [writtenLines, found.parted, List.filter_append, none_, List.nil_append,
    List.filter_cons_of_pos (by simpa using found.ne_nil)]

/-- Behind a line that is written, the first line with a word is one of the others. -/
theorem exists_writtenLines (written : ∃ line ∈ before, line ≠ []) :
    ∃ taking ∈ before, ∃ rest, writtenLines body = taking :: rest ∧ first ∈ rest := by
  obtain ⟨line, member, some_⟩ := written
  have inWritten : line ∈ before.filter fun line => line ≠ [] :=
    List.mem_filter.2 ⟨member, decide_eq_true some_⟩
  obtain ⟨taking, rest, shape⟩ := List.exists_cons_of_ne_nil (List.ne_nil_of_mem inWritten)
  have inBefore : taking ∈ before :=
    List.mem_of_mem_filter (shape ▸ List.mem_cons_self : taking ∈ before.filter _)
  refine ⟨taking, inBefore, rest ++ first :: behind.filter fun line => line ≠ [], ?_, by simp⟩
  rw [writtenLines, found.parted, List.filter_append, shape,
    List.filter_cons_of_pos (by simpa using found.ne_nil), List.cons_append]

end FirstWord

end GrammarFile

namespace Rules

open GrammarFile

def ofBlock (body : String) : Rules := ofDefinitions [definitionLines body]

section OneName

variable {body name : String} (defined : definedName? body = some name)
include defined

theorem stored_ofBlock (other : String) :
    (ofBlock body).stored[other]? = if name = other then some (productionsIn body) else none := by
  rw [ofBlock, ← List.map_singleton, ofDefinitions_definitionLines, stored_ofEntries]
  simp [entryIn?, defined]

theorem names_ofBlock : (ofBlock body).names = [name] := by
  apply (names_sorted _).eq_of_mem_iff (List.pairwise_singleton _ name)
  intro other
  rw [mem_names_iff, stored_ofBlock defined, List.mem_singleton]
  by_cases same : name = other
  · simp [same]
  · simp [same, Ne.symm same]

theorem get?_ofBlock (symbol : String) :
    (ofBlock body).get? symbol =
      if name = canonicalName symbol then some (productionsIn body) else none := by
  rw [get?, stored_ofBlock defined]

end OneName

/-! ## The first line with a word -/

section FirstWord

variable {body : String} {first : List Char} {before behind : List (List Char)}
  (found : FirstWord body before first behind)
include found

/-- Behind empty lines the first line with a word is the name, and what is written behind it are the
productions. -/
theorem ofBlock_of_empty (empty : ∀ line ∈ before, line = []) :
    (ofBlock body).names = [nameOn first] ∧
      (ofBlock body).get? (nameOn first) =
        some ((behind.filter fun line => line ≠ []).map productionOf) := by
  have written := found.writtenLines_of_empty empty
  have defined := definedName?_of_writtenLines written
  refine ⟨names_ofBlock defined, ?_⟩
  rw [get?_ofBlock defined, canonicalName_nameOn, if_pos rfl,
    productionsIn_of_writtenLines written]

/-- Behind a line that is written and has no word, the first line with a word is a production of the
symbol with the empty name. -/
theorem ofBlock_of_written (written : ∃ line ∈ before, line ≠ []) :
    (ofBlock body).names = [""] ∧ (ofBlock body).get? (nameOn first) = none ∧
      ∃ productions, (ofBlock body).get? "" = some productions ∧
        productionOf first ∈ productions := by
  obtain ⟨taking, inBefore, rest, shape, later⟩ := found.exists_writtenLines written
  have defined : definedName? body = some "" := by
    rw [definedName?_of_writtenLines shape, nameOn_eq_empty_iff.2 (found.unworded taking inBefore)]
  have empty : canonicalName "" = "" := by decide +kernel
  refine ⟨names_ofBlock defined, ?_, rest.map productionOf, ?_, List.mem_map_of_mem later⟩
  · rw [get?_ofBlock defined, canonicalName_nameOn, if_neg found.nameOn_ne.symm]
  · rw [get?_ofBlock defined, empty, if_pos rfl, productionsIn_of_writtenLines shape]

end FirstWord

/-- **A block is named by its first line with a word exactly when the lines in front of that one are
empty.**  Every line behind it that is written is then a production.  A line in front of it that is
written takes the place of the name: the block defines the symbol with the empty name and nothing
else, and the first line with a word is a production of that symbol. -/
theorem named_by_first_word (body : String) :
    ((∃ line ∈ Text.lines body.toList, HasWord line) →
        ∃ before first behind, FirstWord body before first behind) ∧
      ∀ before first behind, FirstWord body before first behind →
        nameOn first ≠ "" ∧
        ((ofBlock body).names = [nameOn first] ↔ ∀ line ∈ before, line = []) ∧
        ((∀ line ∈ before, line = []) →
          (ofBlock body).get? (nameOn first) =
            some ((behind.filter fun line => line ≠ []).map productionOf)) ∧
        ((∃ line ∈ before, line ≠ []) →
          (ofBlock body).names = [""] ∧ (ofBlock body).get? (nameOn first) = none ∧
            ∃ productions, (ofBlock body).get? "" = some productions ∧
              productionOf first ∈ productions) := by
  refine ⟨exists_firstWord, fun before first behind found => ⟨found.nameOn_ne, ⟨?_, ?_⟩, ?_, ?_⟩⟩
  · intro names
    by_contra written
    push Not at written
    obtain ⟨others, -⟩ := ofBlock_of_written found written
    rw [names, List.singleton_inj] at others
    exact found.nameOn_ne others
  · exact fun empty => (ofBlock_of_empty found empty).1
  · exact fun empty => (ofBlock_of_empty found empty).2
  · exact ofBlock_of_written found

/-- A block with two empty lines in front of its name, and lines without a word behind it. -/
def apart : String := "\n\r\n \u00A0<A;\t  ΣΑΣ>\r\n \n\nx;\n;"

theorem firstWord_apart :
    FirstWord apart [[], []] " \u00A0<A;\t  ΣΑΣ>".toList
      [" ".toList, [], "x;".toList, ";".toList] :=
  ⟨by decide +kernel, by decide +kernel, by decide +kernel⟩

/-- A block with a blank behind its opening brace, and its name on the next line. -/
def blankBehindBrace : String := " \n<a>\nx ;\n"

theorem firstWord_blankBehindBrace :
    FirstWord blankBehindBrace [[' ']] "<a>".toList ["x ;".toList] :=
  ⟨by decide +kernel, by decide +kernel, by decide +kernel⟩

theorem named_by_first_word_apart :
    FirstWord apart [[], []] " \u00A0<A;\t  ΣΑΣ>".toList
        [" ".toList, [], "x;".toList, ";".toList] ∧
      (ofBlock apart).names = ["<a σας>"] ∧
      (ofBlock apart).get? "<a σας>" = some [[], [.terminal "x"], []] ∧
      FirstWord blankBehindBrace [[' ']] "<a>".toList ["x ;".toList] ∧
      (ofBlock blankBehindBrace).names = [""] ∧
      (ofBlock blankBehindBrace).get? "<a>" = none := by
  have name : nameOn " \u00A0<A;\t  ΣΑΣ>".toList = "<a σας>" := by decide +kernel
  have other : nameOn "<a>".toList = "<a>" := by decide +kernel
  obtain ⟨-, named, productions, -⟩ := (named_by_first_word apart).2 _ _ _ firstWord_apart
  obtain ⟨-, -, -, taken⟩ :=
    (named_by_first_word blankBehindBrace).2 _ _ _ firstWord_blankBehindBrace
  obtain ⟨empty, none_, -⟩ := taken (by decide)
  rw [name] at named productions
  rw [other] at none_
  refine ⟨firstWord_apart, named.2 (by decide), ?_, firstWord_blankBehindBrace, empty, none_⟩
  rw [productions (by decide)]
  decide +kernel

/-- **A blank takes the place of the name.** -/
theorem blank_takes_name :
    ¬∀ body before first behind, FirstWord body before first behind →
      nameOn first ∈ (ofBlock body).names ∧ "" ∉ (ofBlock body).names := by
  intro named
  have empty : (ofBlock blankBehindBrace).names = [""] := by decide +kernel
  obtain ⟨-, none_⟩ := named _ _ _ _ firstWord_blankBehindBrace
  rw [empty] at none_
  exact none_ List.mem_cons_self

end Rules

end RandomSentences
