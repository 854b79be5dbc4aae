/-
# Proofs.Sentence -- a sentence, word by word

The words that a grammar file can put into a sentence are not empty and have no blank in
them, so the text of an expansion has one space behind each word of its derivation and no
other blank.  On such a text the two passes over the punctuation come to this: the gap
between two words is closed when the first ends in an opening mark or the second starts
with a closing one, and the space behind the last word goes when that word ends in an
opening mark (`tighten_spaced`).  It does not matter which production a word came from,
nor what was expanded to nothing between two words.

Trimming then takes the last space and nothing else, as a sentence starts and ends with
characters of its words (`sentenceFrom_eq_join`).
-/
import RandomSentences.Grammar
import RandomSentences.Proofs.Derivation
import RandomSentences.Proofs.Rules
import RandomSentences.Proofs.Text

namespace RandomSentences

set_option autoImplicit false

open Text (isBlank IsWord)

/-! ## Words set in a line -/

namespace Punctuation

def opensAtEnd (word : String) : Bool :=
  word.toList.getLast?.any fun c => ['(', '^'].contains c

def closesAtStart (word : String) : Bool :=
  word.toList.head?.any fun c => ['.', ',', '?', '!', ':', ')', '^'].contains c

/-- What stands between two words. -/
def gap (word next : String) : String :=
  if opensAtEnd word || closesAtStart next then "" else " "

/-- The words with the gaps between them. -/
def join : List String → String
  | [] => ""
  | [word] => word
  | word :: next :: rest => word ++ gap word next ++ join (next :: rest)

/-- What stands behind the last word before a sentence is trimmed. -/
def lastGap (words : List String) : String :=
  match words.getLast? with
  | none => ""
  | some word => if opensAtEnd word then "" else " "

/-! ## The two passes on words -/

theorem tightenClosing_append {word : List Char} (solid : ∀ c ∈ word, isBlank c = false)
    (rest : List Char) : tightenClosing (word ++ rest) = word ++ tightenClosing rest := by
  induction word with
  | nil => rfl
  | cons c word ih =>
      obtain ⟨here, later⟩ := List.forall_mem_cons.1 solid
      rw [List.cons_append, tightenClosing, here, Bool.false_and, ih later]
      rfl

theorem tightenOpening_append {word : List Char} (one : IsWord word) (afterOpening : Bool)
    (rest : List Char) :
    tightenOpening afterOpening (word ++ rest) =
      word ++ tightenOpening (word.getLast?.any isOpening) rest := by
  obtain ⟨nonempty, solid⟩ := one
  induction word generalizing afterOpening with
  | nil => exact absurd rfl nonempty
  | cons c word ih =>
      obtain ⟨here, later⟩ := List.forall_mem_cons.1 solid
      rw [List.cons_append, tightenOpening, here, Bool.and_false]
      cases word with
      | nil => rfl
      | cons b word =>
          rw [if_neg Bool.false_ne_true, ih _ (List.cons_ne_nil b word) later,
            List.getLast?_cons_cons]
          rfl

theorem isOpening_eq (c : Char) : isOpening c = ['(', '^'].contains c := by
  simp [isOpening, Bool.beq_eq_decide_eq]

theorem isClosing_eq (c : Char) :
    isClosing c = ['.', ',', '?', '!', ':', ')', '^'].contains c := by
  simp [isClosing, Bool.beq_eq_decide_eq, Bool.or_assoc]

theorem opensAtEnd_eq (word : String) :
    opensAtEnd word = word.toList.getLast?.any isOpening := by
  rw [opensAtEnd, funext isOpening_eq]

theorem startsClosing_append {word : String} (one : IsWord word.toList) (rest : List Char) :
    startsClosing (word.toList ++ rest) = closesAtStart word := by
  rw [closesAtStart]
  cases shape : word.toList with
  | nil => exact absurd shape one.nonempty
  | cons c tail => exact isClosing_eq c

/-- **Both passes over words with a space behind each of them.** -/
theorem tighten_spaced {words : List String} (one : ∀ word ∈ words, IsWord word.toList)
    (afterOpening : Bool) :
    tightenOpening afterOpening
        (tightenClosing (words.flatMap fun word => word.toList ++ [' '])) =
      (join words ++ lastGap words).toList := by
  induction words generalizing afterOpening with
  | nil => rfl
  | cons word rest ih =>
      obtain ⟨here, later⟩ := List.forall_mem_cons.1 one
      rw [List.flatMap_cons, List.append_assoc, tightenClosing_append here.solid,
        tightenOpening_append here, ← opensAtEnd_eq, List.singleton_append, tightenClosing,
        Text.isBlank_space, Bool.true_and]
      cases rest with
      | nil => cases opens : opensAtEnd word <;> simp [tightenClosing, startsClosing,
          tightenOpening, Text.isBlank_space, join, lastGap, opens]
      | cons next rest =>
          have after : lastGap (word :: next :: rest) = lastGap (next :: rest) := by
            rw [lastGap, lastGap, List.getLast?_cons_cons]
          have starts : startsClosing (tightenClosing
              ((next :: rest).flatMap fun word => word.toList ++ [' '])) = closesAtStart next := by
            have one := later next List.mem_cons_self
            rw [List.flatMap_cons, List.append_assoc, tightenClosing_append one.solid,
              startsClosing_append one]
          have parts : (join (word :: next :: rest) ++ lastGap (word :: next :: rest)).toList =
              word.toList ++ ((gap word next).toList ++
                (join (next :: rest) ++ lastGap (next :: rest)).toList) := by
            simp only [join, after, String.toList_append, List.append_assoc]
          rw [starts, parts, gap]
          congr 1
          cases closes : closesAtStart next with
          | true =>
              rw [if_pos rfl, Bool.or_true, if_pos rfl, ih later]
              rfl
          | false =>
              rw [if_neg Bool.false_ne_true, Bool.or_false, tightenOpening, Text.isBlank_space,
                Bool.and_true]
              cases opensAtEnd word with
              | true => exact ih later true
              | false => exact congrArg (' ' :: ·) (ih later (isOpening ' '))

/-! ## Trimming -/

theorem join_ne_nil {word : String} (one : IsWord word.toList) (rest : List String) :
    (join (word :: rest)).toList ≠ [] := by
  cases rest with
  | nil => exact one.nonempty
  | cons next rest =>
      rw [join, String.toList_append, String.toList_append]
      simp [one.nonempty]

theorem head?_join {words : List String} (one : ∀ word ∈ words, IsWord word.toList) :
    ∀ c ∈ (join words).toList.head?, isBlank c = false := by
  intro c first
  cases words with
  | nil => simp [join] at first
  | cons word rest =>
      have here := one word List.mem_cons_self
      apply here.solid
      cases rest with
      | nil => exact List.mem_of_mem_head? first
      | cons next rest =>
          rw [join, String.toList_append, String.toList_append, List.append_assoc,
            List.head?_append_of_ne_nil _ here.nonempty] at first
          exact List.mem_of_mem_head? first

theorem getLast?_join {words : List String} (one : ∀ word ∈ words, IsWord word.toList) :
    ∀ c ∈ (join words).toList.getLast?, isBlank c = false := by
  induction words with
  | nil => simp [join]
  | cons word rest ih =>
      obtain ⟨here, later⟩ := List.forall_mem_cons.1 one
      cases rest with
      | nil => exact fun c last => here.solid c (List.mem_of_getLast? last)
      | cons next rest =>
          intro c last
          rw [join, String.toList_append, List.getLast?_append_of_ne_nil _
            (join_ne_nil (later next List.mem_cons_self) rest)] at last
          exact ih later c last

theorem trim_join {words : List String} (one : ∀ word ∈ words, IsWord word.toList) :
    Text.trim (join words ++ lastGap words).toList = (join words).toList := by
  cases words with
  | nil => rfl
  | cons word rest =>
      have nonempty := join_ne_nil (one word List.mem_cons_self) rest
      have first : ∀ c ∈ (join (word :: rest) ++ lastGap (word :: rest)).toList.head?,
          isBlank c = false := by
        rw [String.toList_append, List.head?_append_of_ne_nil _ nonempty]
        exact head?_join one
      have last := Text.trimEnd_of_getLast (getLast?_join one)
      rw [Text.trim, Text.trimStart_of_head first, String.toList_append, lastGap]
      split
      · simpa using last
      · split
        · simpa using last
        · exact (Text.trimEnd_append_blanks (List.forall_mem_singleton.2 Text.isBlank_space) _).trans last

end Punctuation

/-! ## The words of a grammar file -/

def Rules.Wordy (rules : Rules) : Prop :=
  ∀ symbol, ∀ production ∈ rules.productions symbol, ∀ text,
    Token.terminal text ∈ production → IsWord text.toList

theorem isWord_of_mem_ofLine {line text : String}
    (member : Token.terminal text ∈ Production.ofLine line) : IsWord text.toList := by
  obtain ⟨word, found, same⟩ := List.mem_map.1 member
  rw [Token.ofWord] at same
  split at same
  · cases same
  · cases same
    rw [String.toList_ofList]
    exact Text.isWord_of_mem_words found

theorem Rules.wordy_ofDefinitions (definitions : List (List String)) :
    (ofDefinitions definitions).Wordy := by
  intro symbol production member text terminal
  rw [productions, get?] at member
  cases stored : (ofDefinitions definitions).stored[canonicalName symbol]? with
  | none => simp [stored] at member
  | some found =>
      rw [stored] at member
      obtain ⟨first, lines, -, -, rfl⟩ := exists_definition_of_stored stored
      obtain ⟨line, -, rfl⟩ := List.mem_map.1 member
      exact isWord_of_mem_ofLine terminal

mutual

theorem Derivation.isWord_of_mem_words {rules : Rules} (wordy : rules.Wordy) :
    ∀ {symbol : String} (tree : Derivation rules symbol), ∀ word ∈ tree.words, IsWord word.toList
  | _, .silent _ => by simp [Derivation.words]
  | symbol, .choice index row =>
      row.isWord_of_mem_words wordy (wordy symbol _ (List.getElem_mem index.isLt))

theorem Row.isWord_of_mem_words {rules : Rules} (wordy : rules.Wordy) :
    ∀ {tokens : Production} (row : Row rules tokens),
      (∀ text, Token.terminal text ∈ tokens → IsWord text.toList) →
        ∀ word ∈ row.words, IsWord word.toList
  | _, .nil, _ => by simp [Row.words]
  | _, .word text rest, one => by
      rw [Row.words, List.forall_mem_cons]
      exact ⟨one text List.mem_cons_self,
        rest.isWord_of_mem_words wordy fun text later => one text (List.mem_cons_of_mem _ later)⟩
  | _, .tree tree rest, one => by
      rw [Row.words, List.forall_mem_append]
      exact ⟨tree.isWord_of_mem_words wordy,
        rest.isWord_of_mem_words wordy fun text later => one text (List.mem_cons_of_mem _ later)⟩

end

/-! ## Sentences -/

namespace Grammar

theorem sentenceFrom_eq_derive (grammar : Grammar) (limits : Limits) (stream : WordStream)
    (symbol : String) (position : Nat) :
    grammar.sentenceFrom limits stream symbol position =
      (grammar.rules.derive limits stream symbol position).map fun (tree, after) =>
        (grammar.finish tree.yield, after) := by
  rw [sentenceFrom, Rules.expand_eq_derive, Option.map_map]
  rfl

theorem closeGaps_yield {rules : Rules} (wordy : rules.Wordy) {symbol : String}
    (tree : Derivation rules symbol) :
    Punctuation.closeGaps tree.yield =
      Punctuation.join tree.words ++ Punctuation.lastGap tree.words := by
  rw [Punctuation.closeGaps, Punctuation.tighten, tree.toList_yield,
    Punctuation.tighten_spaced (tree.isWord_of_mem_words wordy), String.ofList_toList]

theorem finish_yield {grammar : Grammar} (usual : grammar.filter = Filter.punctuation)
    (wordy : grammar.rules.Wordy) {symbol : String} (tree : Derivation grammar.rules symbol) :
    grammar.finish tree.yield =
      if grammar.config.trimOutput then Punctuation.join tree.words
      else Punctuation.join tree.words ++ Punctuation.lastGap tree.words := by
  simp only [finish, Text.trimmed, usual, Filter.punctuation, closeGaps_yield wordy,
    Punctuation.trim_join (tree.isWord_of_mem_words wordy), String.ofList_toList]

theorem sentenceFrom_eq_of_wordy {grammar : Grammar} (usual : grammar.filter = Filter.punctuation)
    (wordy : grammar.rules.Wordy) (limits : Limits) (stream : WordStream) (symbol : String)
    (position : Nat) :
    grammar.sentenceFrom limits stream symbol position =
      (grammar.rules.derive limits stream symbol position).map fun (tree, after) =>
        (if grammar.config.trimOutput then Punctuation.join tree.words
          else Punctuation.join tree.words ++ Punctuation.lastGap tree.words, after) := by
  rw [sentenceFrom_eq_derive]
  simp only [finish_yield usual wordy]

/-- **A sentence of a grammar file is the words of its derivation with the gaps between them**,
and before it is trimmed a gap behind the last. -/
theorem sentenceFrom_eq_join (text symbol : String) (config : Config) (limits : Limits)
    (stream : WordStream) (position : Nat) :
    ({ ofText text with config := config } : Grammar).sentenceFrom limits stream symbol position =
      ((Rules.ofText text).derive limits stream symbol position).map fun (tree, after) =>
        (if config.trimOutput then Punctuation.join tree.words
          else Punctuation.join tree.words ++ Punctuation.lastGap tree.words, after) :=
  sentenceFrom_eq_of_wordy rfl (Rules.wordy_ofDefinitions _) limits stream symbol position

example : Punctuation.join ["call", "(", "x", "^", "2)", "now", "^", "."] = "call (x^2) now^." ∧
    Punctuation.lastGap ["a", "b("] = "" := by decide +kernel

end Grammar

end RandomSentences
