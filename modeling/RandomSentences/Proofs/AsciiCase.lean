/-
# Proofs.AsciiCase -- the case of ASCII letters in a grammar does not matter

The lower case of a letter may hang on its neighbours, since a sigma is final behind a cased
letter only.  Lower case asks few things of a character, and the two cases of an ASCII letter
give the same answer to each (`SameKind`): both are cased, neither is case-ignorable, and both
have the same lower case.  That is a fact about 128 code points, checked one by one.  So texts
with the same ASCII letters but for case have the same lower case, whatever else is in them, and
names of that kind are spellings of one symbol (`sameSymbol_of_asciiAlike`).

Definitions that are alike in this way, in their names and in their references, store the same
under the same names but for the spelling of references (`respelled_ofDefinitions`).  One
definition keeps this up, also where it replaces an earlier one (`Respelled.define`).  What is
left is that spelling does not matter to an expansion.
-/
import RandomSentences.GrammarFile
import RandomSentences.Proofs.Bisimulation

namespace RandomSentences

set_option autoImplicit false

namespace Text

/-! ## Characters -/

/-- Are two characters the same to trimming and to lower case, whatever is around them? -/
structure SameKind (c d : Char) : Prop where
  blank : isBlank c = isBlank d
  cased : isCased c = isCased d
  ignorable : isCaseIgnorable c = isCaseIgnorable d
  lower : lowerChar c = lowerChar d
  dotted : c = 'İ' ↔ d = 'İ'
  sigma : c = 'Σ' ↔ d = 'Σ'

instance (c d : Char) : Decidable (SameKind c d) :=
  decidable_of_iff (isBlank c = isBlank d ∧ isCased c = isCased d ∧
      isCaseIgnorable c = isCaseIgnorable d ∧ lowerChar c = lowerChar d ∧
      (c = 'İ' ↔ d = 'İ') ∧ (c = 'Σ' ↔ d = 'Σ'))
    ⟨fun ⟨blank, cased, ignorable, lower, dotted, sigma⟩ =>
        ⟨blank, cased, ignorable, lower, dotted, sigma⟩,
      fun ⟨blank, cased, ignorable, lower, dotted, sigma⟩ =>
        ⟨blank, cased, ignorable, lower, dotted, sigma⟩⟩

theorem sameKind_toLower_ascii :
    ∀ code < 128, SameKind (Char.ofNat code).toLower (Char.ofNat code) := by decide +kernel

theorem toLower_of_le {c : Char} (high : 128 ≤ c.toNat) : c.toLower = c := by
  refine dif_neg ?_
  rintro ⟨-, below⟩
  have : c.toNat ≤ 'Z'.toNat := below
  have : 'Z'.toNat = 90 := by decide
  omega

theorem sameKind_toLower (c : Char) : SameKind c.toLower c := by
  by_cases low : c.toNat < 128
  · have checked := sameKind_toLower_ascii c.toNat low
    rwa [Char.ofNat_toNat] at checked
  · rw [toLower_of_le (Nat.le_of_not_lt low)]
    exact ⟨rfl, rfl, rfl, rfl, .rfl, .rfl⟩

/-! ## Texts -/

theorem startsCased_map_toLower (text : List Char) :
    startsCased (text.map Char.toLower) = startsCased text :=
  startsCased_map (fun c => (sameKind_toLower c).ignorable) (fun c => (sameKind_toLower c).cased)
    text

theorem lowerAt_toLower (afterCased : Bool) (c : Char) (rest : List Char) :
    lowerAt afterCased c.toLower (rest.map Char.toLower) = lowerAt afterCased c rest := by
  have kind := sameKind_toLower c
  simp only [lowerAt, kind.dotted, kind.sigma, kind.lower, startsCased_map_toLower]

/-- The case of ASCII letters does not show in the lower case, nor in that of a sigma near them. -/
theorem lowerFrom_map_toLower (afterCased : Bool) (text : List Char) :
    lowerFrom afterCased (text.map Char.toLower) = lowerFrom afterCased text := by
  induction text generalizing afterCased with
  | nil => rfl
  | cons c rest ih =>
      have kind := sameKind_toLower c
      rw [List.map_cons, lowerFrom, lowerFrom, lowerAt_toLower, kind.ignorable, kind.cased, ih]

theorem lowerCase_trim_map_toLower (text : List Char) :
    lowerCase (trim (text.map Char.toLower)) = lowerCase (trim text) := by
  rw [trim_map fun c => (sameKind_toLower c).blank, lowerCase, lowerFrom_map_toLower]
  rfl

/-- Do two texts differ in the case of ASCII letters at most? -/
def AsciiAlike (text other : List Char) : Prop :=
  text.map Char.toLower = other.map Char.toLower

instance (text other : List Char) : Decidable (AsciiAlike text other) :=
  inferInstanceAs (Decidable (text.map Char.toLower = other.map Char.toLower))

end Text

open Text (AsciiAlike)

/-- **Names that differ in the case of ASCII letters at most are spellings of one symbol.** -/
theorem Rules.sameSymbol_of_asciiAlike {name other : String}
    (alike : AsciiAlike name.toList other.toList) : SameSymbol name other := by
  have same := congrArg (fun text => Text.lowerCase (Text.trim text)) alike
  simp only [Text.lowerCase_trim_map_toLower] at same
  exact congrArg String.ofList same

/-! ## Definitions -/

namespace GrammarFile

/-- Are two words the same, or both references that differ in the case of ASCII letters? -/
def WordAlike (word other : List Char) : Prop :=
  word = other ∨ (Token.isReference (String.ofList word) = true ∧
    Token.isReference (String.ofList other) = true ∧ AsciiAlike word other)

instance (word other : List Char) : Decidable (WordAlike word other) :=
  inferInstanceAs (Decidable (_ ∨ _))

def LineAlike (line other : String) : Prop :=
  List.Forall₂ WordAlike (Text.words line.toList) (Text.words other.toList)

instance (line other : String) : Decidable (LineAlike line other) :=
  inferInstanceAs (Decidable (List.Forall₂ _ _ _))

/-- Have two definitions alike names and alike lines in the same order, or no line at all? -/
def DefinitionAlike : List String → List String → Prop
  | [], [] => True
  | name :: lines, other :: others =>
      AsciiAlike name.toList other.toList ∧ List.Forall₂ LineAlike lines others
  | _, _ => False

instance : ∀ definition other, Decidable (DefinitionAlike definition other)
  | [], [] => inferInstanceAs (Decidable True)
  | _ :: _, _ :: _ => inferInstanceAs (Decidable (_ ∧ _))
  | [], _ :: _ => inferInstanceAs (Decidable False)
  | _ :: _, [] => inferInstanceAs (Decidable False)

end GrammarFile

open GrammarFile (WordAlike LineAlike DefinitionAlike)

theorem Token.matches_ofWord {word other : List Char} (alike : WordAlike word other) :
    (Token.ofWord (String.ofList word)).Matches Rules.SameSymbol
      (Token.ofWord (String.ofList other)) := by
  rcases alike with rfl | ⟨reference, reference', alike⟩
  · exact Token.Matches.refl fun name _ => rfl
  · rw [Token.ofWord, Token.ofWord, if_pos reference, if_pos reference']
    refine .nonTerminal (Rules.sameSymbol_of_asciiAlike ?_)
    rwa [String.toList_ofList, String.toList_ofList]

theorem Production.matches_ofLine {line other : String} (alike : LineAlike line other) :
    (Production.ofLine line).Matches Rules.SameSymbol (Production.ofLine other) := by
  rw [Production.ofLine, Production.ofLine, Production.Matches, List.forall₂_map_left_iff,
    List.forall₂_map_right_iff]
  exact alike.imp fun _ _ => Token.matches_ofWord

namespace Rules

/-- Is the same stored under every name, but for the spelling of references? -/
def Respelled (rules other : Rules) : Prop :=
  ∀ name : String, Option.Rel (List.Forall₂ (Production.Matches SameSymbol)) rules.stored[name]?
    other.stored[name]?

variable {rules other : Rules}

/-- One definition keeps the rules respelled, whatever it replaces. -/
theorem Respelled.define (respelled : Respelled rules other) {definition another : List String}
    (alike : DefinitionAlike definition another) :
    Respelled (rules.define definition) (other.define another) := by
  match definition, another, alike with
  | [], [], _ => exact respelled
  | name :: lines, next :: others, ⟨names, linesAlike⟩ =>
      intro key
      have same : canonicalName name = canonicalName next := sameSymbol_of_asciiAlike names
      simp only [Rules.define, insert, Std.ExtTreeMap.getElem?_insert, same]
      split
      · refine .some ?_
        rw [List.forall₂_map_left_iff, List.forall₂_map_right_iff]
        exact linesAlike.imp fun _ _ => Production.matches_ofLine
      · exact respelled key

theorem respelled_ofDefinitions {definitions others : List (List String)}
    (alike : List.Forall₂ DefinitionAlike definitions others) :
    Respelled (ofDefinitions definitions) (ofDefinitions others) := by
  have run : ∀ rules other, Respelled rules other →
      Respelled (definitions.foldl define rules) (others.foldl define other) := by
    induction alike with
    | nil => exact fun _ _ respelled => respelled
    | cons first _ ih => exact fun _ _ respelled => ih _ _ (respelled.define first)
  refine run empty empty fun name => ?_
  rw [empty, Std.ExtTreeMap.getElem?_empty]
  exact .none

theorem Respelled.names_eq (respelled : Respelled rules other) : rules.names = other.names := by
  apply names_eq_of_isSome
  intro name
  have matched := respelled name
  generalize rules.stored[name]? = found at matched ⊢
  generalize other.stored[name]? = found' at matched ⊢
  cases matched <;> rfl

theorem Respelled.productions (respelled : Respelled rules other) (name : String) :
    List.Forall₂ (Production.Matches SameSymbol) (rules.productions name)
      (other.productions name) := by
  have matched := respelled (canonicalName name)
  rw [Rules.productions, Rules.productions, get?, get?]
  generalize rules.stored[canonicalName name]? = found at matched ⊢
  generalize other.stored[canonicalName name]? = found' at matched ⊢
  cases matched with
  | some productions => exact productions
  | none => exact .nil

/-- **The case of ASCII letters in names and references does not matter**, neither to the names
that are listed nor to an expansion from any spelling of a symbol. -/
theorem expandsAlike_of_asciiAlike {definitions others : List (List String)}
    (alike : List.Forall₂ DefinitionAlike definitions others) :
    (ofDefinitions definitions).names = (ofDefinitions others).names ∧
      ∀ symbol next : String, AsciiAlike symbol.toList next.toList →
        (ofDefinitions definitions).ExpandsAlike symbol (ofDefinitions others) next := by
  have respelled := respelled_ofDefinitions alike
  exact ⟨respelled.names_eq, fun symbol next same =>
    expandsAlike_of_respelled respelled.productions (sameSymbol_of_asciiAlike same)⟩

/-- Definitions with a sigma behind a capital letter. -/
def capitals : List (List String) :=
  [["<B>", "lost"], [], ["<AΣ\u0307>", "x  <B> Y", ""], ["<b>", "<Aσ\u0307>"]]

/-- The same with other cases of their ASCII letters. -/
def smalls : List (List String) :=
  [["<b>", "lost"], [], ["<aΣ\u0307>", " x <b> Y", ""], ["<B>", "<aσ\u0307>"]]

theorem expandsAlike_of_asciiAlike_sigma :
    List.Forall₂ DefinitionAlike capitals smalls ∧
      (ofDefinitions capitals).names = (ofDefinitions smalls).names ∧
      (ofDefinitions capitals).ExpandsAlike "<AΣ\u0307>" (ofDefinitions smalls) "<aΣ\u0307>" := by
  have alike : List.Forall₂ DefinitionAlike capitals smalls := by decide +kernel
  obtain ⟨names, expands⟩ := expandsAlike_of_asciiAlike alike
  exact ⟨alike, names, expands "<AΣ\u0307>" "<aΣ\u0307>" (by decide)⟩

end Rules

end RandomSentences
