/-
# Proofs.Reading -- what a grammar file says of a symbol, block by block

A grammar file is read in passes: into blocks, into lines, each line made tidy, then into
words and tokens, and the definitions are stored one over the other.  What comes of it can be
said without the passes (`Grammar.productions_of_last_block`).  The *written* lines of a block
are those that have a character.  The first of them names the symbol, and each further one is
a production, in order: the words of the line once it is *bare* of tabs and semicolons, with
what stands in angle brackets for a reference.  Of the blocks that name a symbol the last one
counts, and nothing else in the file does.

The words of a line are told here by cutting it at its blanks and dropping the empty pieces.
Making a line tidy does not change them (`words_tidyChars`), and of the name only blanks go
that would have been trimmed in any case (`canonicalName_tidyChars`).
-/
import RandomSentences.Grammar
import RandomSentences.Proofs.Rules
import RandomSentences.Proofs.Text

namespace RandomSentences

set_option autoImplicit false

namespace GrammarFile

/-! ## The blocks of a file -/

/-- The line without its tabs and semicolons. -/
def bare (line : List Char) : List Char :=
  line.filter fun c => c ≠ '\t' ∧ c ≠ ';'

/-- The lines of a block that have a character. -/
def writtenLines (body : String) : List (List Char) :=
  (Text.lines body.toList).filter fun line => line ≠ []

/-- The canonical name of the symbol that a block defines, if it has a written line. -/
def definedName? (body : String) : Option String :=
  (writtenLines body).head?.map fun first =>
    canonicalName (String.ofList (Text.collapse (bare first)))

/-- The token of a word: a reference when it is two brackets with anything between them. -/
def tokenOf (word : List Char) : Token :=
  if ['<'] <+: word ∧ ['>'] <:+ word ∧ 2 ≤ word.length then .nonTerminal (String.ofList word)
  else .terminal (String.ofList word)

/-- The production on a line: the tokens of what stands between its blanks. -/
def productionOf (line : List Char) : Production :=
  (((bare line).splitOnP Text.isBlank).filter fun word => word ≠ []).map tokenOf

def productionsIn (body : String) : List Production :=
  (writtenLines body).tail.map productionOf

/-! ## Tidy lines -/

theorem not_isEmpty_eq :
    (fun text : List Char => !text.isEmpty) = fun text => decide (text ≠ []) := by
  funext text
  cases text <;> rfl

theorem tidyChars_eq (line : List Char) :
    tidyChars line = Text.collapse (Text.trimEnd (bare line)) := by
  have same : (fun c => !isPadding c) = fun c => decide (c ≠ '\t' ∧ c ≠ ';') := by
    funext c
    simp [isPadding, Bool.beq_eq_decide_eq]
  rw [tidyChars, bare, same]

theorem words_tidyChars (line : List Char) :
    Text.words (tidyChars line) = Text.words (bare line) := by
  rw [tidyChars_eq, Text.words_collapse, Text.words_trimEnd]

theorem canonicalName_tidyChars (line : List Char) :
    canonicalName (String.ofList (tidyChars line)) =
      canonicalName (String.ofList (Text.collapse (bare line))) := by
  simp only [canonicalName, String.toList_ofList, tidyChars_eq, Text.trim_collapse,
    Text.words_trimEnd]

theorem isReference_ofList (word : List Char) :
    Token.isReference (String.ofList word) = true ↔
      ['<'] <+: word ∧ ['>'] <:+ word ∧ 2 ≤ word.length := by
  rw [Token.isReference, String.toList_ofList]
  cases word with
  | nil => simp
  | cons c rest =>
      by_cases opens : c = '<'
      · subst opens
        -- behind the opening bracket it is the last character that decides
        change (rest.getLast? == some '>') = true ↔ _
        rw [List.singleton_suffix_iff_getLast?_eq_some, beq_iff_eq]
        cases rest <;> simp
      · simp [opens, Ne.symm opens]

theorem ofWord_eq_tokenOf (word : List Char) :
    Token.ofWord (String.ofList word) = tokenOf word := by
  by_cases reference : Token.isReference (String.ofList word) = true
  · rw [Token.ofWord, if_pos reference, tokenOf, if_pos ((isReference_ofList word).1 reference)]
  · rw [Token.ofWord, if_neg reference, tokenOf, if_neg (mt (isReference_ofList word).2 reference)]

theorem ofLine_tidyChars (line : List Char) :
    Production.ofLine (String.ofList (tidyChars line)) = productionOf line := by
  rw [Production.ofLine, String.toList_ofList, words_tidyChars, Text.words_eq_filter_splitOnP,
    productionOf, not_isEmpty_eq]
  exact List.map_congr_left fun word _ => ofWord_eq_tokenOf word

/-! ## Definitions -/

theorem definitionLines_eq (body : String) :
    definitionLines body = (writtenLines body).map fun line => String.ofList (tidyChars line) := by
  rw [definitionLines, writtenLines, not_isEmpty_eq]

def entryIn? (body : String) : Option (String × List Production) :=
  (definedName? body).map fun name => (name, productionsIn body)

theorem entryOf?_definitionLines (body : String) :
    Rules.entryOf? (definitionLines body) = entryIn? body := by
  rw [definitionLines_eq, entryIn?, definedName?, productionsIn]
  cases writtenLines body with
  | nil => rfl
  | cons first rest =>
      have productions : (rest.map fun line => String.ofList (tidyChars line)).map
          Production.ofLine = rest.map productionOf := by
        rw [List.map_map]
        exact List.map_congr_left fun line _ => ofLine_tidyChars line
      have name := canonicalName_tidyChars first
      simp [Rules.entryOf?, Insertion.ofDefinition?, Insertion.entry, Insertion.key, productions, name]

/-- Rules read from blocks are those of what the blocks define. -/
theorem ofDefinitions_definitionLines (bodies : List String) :
    Rules.ofDefinitions (bodies.map definitionLines) =
      Rules.ofEntries (bodies.filterMap entryIn?) := by
  rw [Rules.ofDefinitions_eq_ofEntries, List.filterMap_map]
  exact congrArg Rules.ofEntries (List.filterMap_congr fun body _ => entryOf?_definitionLines body)

theorem filter_entryIn? (bodies : List String) (key : String) :
    ((bodies.filterMap entryIn?).filter fun entry => entry.1 = key) =
      (bodies.filter fun body => definedName? body = some key).map fun body =>
        (key, productionsIn body) := by
  induction bodies with
  | nil => rfl
  | cons body bodies ih =>
      cases name : definedName? body with
      | none => simpa [entryIn?, name] using ih
      | some other =>
          by_cases same : other = key
          · simpa [entryIn?, name, same] using ih
          · simpa [entryIn?, name, same] using ih

end GrammarFile

namespace Grammar

/-- **The last block that names a symbol gives its productions**, one for each further written
line, and a symbol that no block names has none. -/
theorem productions_of_last_block (text name : String) :
    (ofText text).rules.get? name =
      ((GrammarFile.blocks text).filter fun body =>
        GrammarFile.definedName? body = some (canonicalName name)).getLast?.map
          GrammarFile.productionsIn := by
  rw [ofText, Rules.ofText, GrammarFile.ofDefinitions_definitionLines, Rules.get?,
    Rules.stored_ofEntries, GrammarFile.filter_entryIn?, List.getLast?_map, Option.map_map]
  rfl

example :
    (ofText ("\x7b<s>\nlost ;\x7d \x7b\r\n \t<S> ;\n;\n\n" ++
        "<a\tb> < x>;y\r\n\x7d \x7b\n\x7d")).rules.get? " <s> " =
      some [[], [.nonTerminal "<ab>", .terminal "<", .terminal "x>y"]] := by decide +kernel

end Grammar

end RandomSentences
