/-
# Proofs.LetterCase -- names that differ in the case of their letters

Two texts differ in case only when their characters, place by place, have the same lower-case
form of a single character (`CaseAlike`).  Lower case asks of a character whether it is cased,
whether it is case-ignorable and, before that, whether it is blank, and characters that differ in
case only give the same answers (`isCased_simpleLower` and its like): every letter that the table
replaces, and every one that it writes, is cased, and neither case-ignorable nor blank.  So the
same ends of words lie at the same places of both texts.

That is not enough for the texts to have the same lower case.  A capital sigma at the end of a
word is written as a final sigma, and a small one there stays as it is; a dotted capital I is
written as two characters, and every other letter as one.  Nothing else stands in the way
(`lowerCase_eq_iff`): the lower case is the same when the capital sigmas at the ends of words and
the dotted capitals stand at the same places (`SameMarks`), and different when they do not.

So a rule in one case is found by a name in another when the two have the same marks, and by no
name with other marks (`found_iff_sameMarks`).  The pole `finalSigma` is a rule that is not found.
-/
import RandomSentences.Proofs.Insertions
import RandomSentences.Proofs.Text

namespace RandomSentences

set_option autoImplicit false

namespace Text

/-! ## Intervals of code points -/

def rangeBits (ranges : List (Nat × Nat)) : Nat :=
  ranges.foldr (fun range set => (1 <<< (range.2 + 1 - range.1) - 1) <<< range.1 ||| set) 0

theorem testBit_rangeBits {ranges : List (Nat × Nat)} {code : Nat} :
    (rangeBits ranges).testBit code = true ↔ ∃ range ∈ ranges, range.1 ≤ code ∧ code ≤ range.2 := by
  induction ranges with
  | nil => simp [rangeBits]
  | cons range ranges ih =>
      have split_ : rangeBits (range :: ranges) =
          (1 <<< (range.2 + 1 - range.1) - 1) <<< range.1 ||| rangeBits ranges := rfl
      rw [split_, Nat.one_shiftLeft, Nat.testBit_or, Bool.or_eq_true, ih, Nat.testBit_shiftLeft,
        Nat.testBit_two_pow_sub_one, List.exists_mem_cons_iff]
      apply or_congr_left
      simp only [Bool.and_eq_true, decide_eq_true_iff]
      omega

/-- The first of sorted intervals is not empty and lies below all others. -/
theorem of_rangesSorted {range : Nat × Nat} {ranges : List (Nat × Nat)}
    (sorted : rangesSorted (range :: ranges) = true) :
    range.1 ≤ range.2 ∧ rangesSorted ranges = true ∧ ∀ later ∈ ranges, range.2 < later.1 := by
  induction ranges generalizing range with
  | nil => simpa [rangesSorted] using sorted
  | cons next ranges ih =>
      simp only [rangesSorted, Bool.and_eq_true, decide_eq_true_iff] at sorted
      obtain ⟨⟨nonempty, apart⟩, rest⟩ := sorted
      obtain ⟨nonempty', -, beyond⟩ := ih rest
      refine ⟨nonempty, rest, fun later member => ?_⟩
      rcases List.mem_cons.1 member with rfl | member
      · exact apart
      · have := beyond later member
        omega

/-- In sorted intervals the search finds every member. -/
theorem inRanges_of_testBit {ranges : List (Nat × Nat)} (sorted : rangesSorted ranges = true)
    {code : Nat} (member : (rangeBits ranges).testBit code = true) : inRanges code ranges = true := by
  induction ranges with
  | nil => simp [rangeBits] at member
  | cons range ranges ih =>
      obtain ⟨nonempty, rest, beyond⟩ := of_rangesSorted sorted
      rw [testBit_rangeBits, List.exists_mem_cons_iff] at member
      rw [inRanges]
      rcases member with ⟨above, below⟩ | ⟨other, found, above, below⟩
      · rw [if_neg (by omega), if_pos below]
      · have := beyond other found
        rw [if_neg (by omega), if_neg (by omega)]
        exact ih rest (testBit_rangeBits.2 ⟨other, found, above, below⟩)

theorem testBit_of_inRanges {ranges : List (Nat × Nat)} {code : Nat}
    (found : inRanges code ranges = true) : (rangeBits ranges).testBit code = true := by
  rw [testBit_rangeBits]
  induction ranges with
  | nil => simp [inRanges] at found
  | cons range ranges ih =>
      rw [inRanges] at found
      split at found
      · cases found
      · rename_i above
        split at found
        · rename_i below
          exact ⟨range, List.mem_cons_self, by omega, below⟩
        · obtain ⟨other, member, between⟩ := ih found
          exact ⟨other, List.mem_cons_of_mem range member, between⟩

/-! ## Letters -/

/-- The code points of the letters that lower case replaces, and of those that it writes. -/
def caseCodes : List Nat :=
  'İ'.toNat :: lowerRuns.flatMap CaseRun.members ++ lowerRuns.flatMap CaseRun.images

theorem caseCodes_cased : bits caseCodes &&& rangeBits casedRanges = bits caseCodes := by
  decide +kernel

theorem caseCodes_notIgnorable : bits caseCodes &&& rangeBits caseIgnorableRanges = 0 := by
  decide +kernel

theorem caseCodes_notBlank : bits caseCodes &&& bits blankCodes = 0 := by decide +kernel

/-- Is the character a letter to lower case: cased, and neither case-ignorable nor blank? -/
structure IsLetter (c : Char) : Prop where
  cased : isCased c = true
  notIgnorable : isCaseIgnorable c = false
  solid : isBlank c = false

theorem isLetter_of_mem_caseCodes {c : Char} (member : c.toNat ∈ caseCodes) : IsLetter c := by
  have inBits : (bits caseCodes).testBit c.toNat = true := testBit_bits.2 member
  refine ⟨inRanges_of_testBit casedRanges_sorted ?_, ?_, ?_⟩
  · rw [← caseCodes_cased, Nat.testBit_and, Bool.and_eq_true] at inBits
    exact inBits.2
  · refine Bool.eq_false_iff.2 fun ignorable => ?_
    have absent := testBit_of_and_eq_zero caseCodes_notIgnorable inBits
    rw [testBit_of_inRanges ignorable] at absent
    cases absent
  · exact Bool.eq_false_iff.2 fun blank =>
      notMem_of_bits caseCodes_notBlank member (mem_blankCodes blank)

def simpleLower (c : Char) : Char :=
  if c = 'İ' then 'i' else lowerChar c

theorem simpleLower_sigma : simpleLower 'Σ' = 'σ' := by decide +kernel

/-- A character is its own lower-case form, or both are letters. -/
theorem simpleLower_eq_or (c : Char) :
    simpleLower c = c ∨ (IsLetter c ∧ IsLetter (simpleLower c)) := by
  rw [simpleLower]
  split
  · rename_i dotted
    subst dotted
    right
    constructor <;> exact isLetter_of_mem_caseCodes (by decide +kernel)
  · rw [lowerChar]
    by_cases replaced : c.toNat ∈ lowerRuns.flatMap CaseRun.members
    · rcases applyRuns_eq_or_mem c.toNat lowerRuns with same | image
      · left
        rw [same, Char.ofNat_toNat]
      · right
        rw [Char.ofNat, dif_pos (images_valid _ image)]
        exact ⟨isLetter_of_mem_caseCodes
            (List.mem_append_left _ (List.mem_cons_of_mem _ replaced)),
          isLetter_of_mem_caseCodes (List.mem_append_right _ image)⟩
    · left
      rw [applyRuns_of_notMem replaced, Char.ofNat_toNat]

theorem isBlank_simpleLower (c : Char) : isBlank (simpleLower c) = isBlank c := by
  rcases simpleLower_eq_or c with same | ⟨letter, written⟩
  · rw [same]
  · rw [letter.solid, written.solid]

theorem isCased_simpleLower (c : Char) : isCased (simpleLower c) = isCased c := by
  rcases simpleLower_eq_or c with same | ⟨letter, written⟩
  · rw [same]
  · rw [letter.cased, written.cased]

theorem isCaseIgnorable_simpleLower (c : Char) :
    isCaseIgnorable (simpleLower c) = isCaseIgnorable c := by
  rcases simpleLower_eq_or c with same | ⟨letter, written⟩
  · rw [same]
  · rw [letter.notIgnorable, written.notIgnorable]

/-! ## Texts that differ in case only -/

/-- Do two texts differ in nothing but the case of their characters? -/
def CaseAlike (text other : List Char) : Prop :=
  text.map simpleLower = other.map simpleLower

instance (text other : List Char) : Decidable (CaseAlike text other) :=
  inferInstanceAs (Decidable (text.map simpleLower = other.map simpleLower))

/-- Is a place at the end of a word: case-ignorable characters skipped, is the character before it
cased and the one behind it not? -/
def EndsWord (text : List Char) (place : Nat) : Prop :=
  startsCased (text.take place).reverse = true ∧ startsCased (text.drop (place + 1)) = false

/-- Do two texts have the dotted capitals at the same places, and at the ends of words the capital
sigmas? -/
structure SameMarks (text other : List Char) : Prop where
  dotted : ∀ place : Nat, text[place]? = some 'İ' ↔ other[place]? = some 'İ'
  sigma : ∀ place : Nat, EndsWord text place → (text[place]? = some 'Σ' ↔ other[place]? = some 'Σ')

/-- What the scan knows behind a text: is the last character that is not case-ignorable cased? -/
def casedAfter (afterCased : Bool) (text : List Char) : Bool :=
  text.foldl (fun before c => if isCaseIgnorable c then before else isCased c) afterCased

theorem startsCased_reverse (text : List Char) :
    startsCased text.reverse = casedAfter false text := by
  induction text using List.reverseRecOn with
  | nil => rfl
  | append_singleton text c ih =>
      rw [List.reverse_append, List.reverse_singleton, List.singleton_append, startsCased, ih,
        casedAfter, casedAfter, List.foldl_append]
      rfl

/-- The end of a word in a text that follows a cased character, or does not. -/
def endsWordAfter (afterCased : Bool) (text : List Char) (place : Nat) : Bool :=
  casedAfter afterCased (text.take place) && !startsCased (text.drop (place + 1))

theorem endsWord_iff {text : List Char} {place : Nat} :
    EndsWord text place ↔ endsWordAfter false text place = true := by
  rw [EndsWord, endsWordAfter, startsCased_reverse, Bool.and_eq_true, Bool.not_eq_true']

theorem endsWordAfter_zero (afterCased : Bool) (c : Char) (rest : List Char) :
    endsWordAfter afterCased (c :: rest) 0 = (afterCased && !startsCased rest) := rfl

/-! ## The lower case of texts that differ in case only -/

theorem lowerAt_of_ne_dotted (afterCased : Bool) {c : Char} (notDotted : c ≠ 'İ')
    (rest : List Char) :
    lowerAt afterCased c rest =
      [if c = 'Σ' ∧ (afterCased && !startsCased rest) = true then 'ς' else simpleLower c] := by
  rw [lowerAt, if_neg notDotted]
  by_cases sigma : c = 'Σ'
  · subst sigma
    rw [if_pos rfl, simpleLower_sigma]
    simp only [true_and]
  · rw [if_neg sigma, if_neg (fun final => sigma final.1), simpleLower, if_neg notDotted]

theorem lowerFrom_cons (afterCased : Bool) (c : Char) (rest : List Char) :
    lowerFrom afterCased (c :: rest) =
      lowerAt afterCased c rest ++ lowerFrom (casedAfter afterCased [c]) rest := rfl

theorem casedAfter_singleton {c d : Char} (same : simpleLower c = simpleLower d)
    (afterCased : Bool) : casedAfter afterCased [c] = casedAfter afterCased [d] := by
  have cased : isCased c = isCased d := by
    rw [← isCased_simpleLower c, same, isCased_simpleLower]
  have ignorable : isCaseIgnorable c = isCaseIgnorable d := by
    rw [← isCaseIgnorable_simpleLower c, same, isCaseIgnorable_simpleLower]
  simp only [casedAfter, List.foldl_cons, List.foldl_nil, cased, ignorable]

theorem CaseAlike.startsCased_eq {text other : List Char} (alike : CaseAlike text other) :
    startsCased text = startsCased other := by
  have kept := startsCased_map isCaseIgnorable_simpleLower isCased_simpleLower
  rw [← kept text, alike, kept]

/-- The dot that is written for a dotted capital is not made up for further on. -/
theorem dot_cons_lowerFrom_ne {text other : List Char} (alike : CaseAlike text other)
    (afterCased : Bool) : '\u0307' :: lowerFrom afterCased text ≠ lowerFrom afterCased other := by
  induction other generalizing text afterCased with
  | nil => simp [lowerFrom]
  | cons d others ih =>
      intro equal
      cases text with
      | nil => cases alike
      | cons c rest =>
          obtain ⟨same, later⟩ := List.cons.inj alike
          rw [lowerFrom_cons afterCased d] at equal
          by_cases dotted : d = 'İ'
          · rw [lowerAt, if_pos dotted] at equal
            exact absurd (List.cons.inj equal).1 (by decide)
          · rw [lowerAt_of_ne_dotted afterCased dotted] at equal
            obtain ⟨head, tail⟩ := List.cons.inj equal
            -- the other text has the dot itself here, and so has this one
            have dot : simpleLower c = '\u0307' := by
              split at head
              · exact absurd head (by decide)
              · exact same.trans head.symm
            have notDotted : c ≠ 'İ' := by
              rintro rfl
              exact absurd dot (by decide)
            have notSigma : c ≠ 'Σ' := by
              rintro rfl
              exact absurd dot (by decide +kernel)
            rw [lowerFrom_cons, lowerAt_of_ne_dotted afterCased notDotted,
              if_neg (fun final => notSigma final.1), dot, casedAfter_singleton same] at tail
            exact ih later _ tail

/-- What is written for two letters that differ in case only is the same when their marks are. -/
theorem lowerAt_append_eq_iff {c d : Char} {rest others left right : List Char}
    (same : simpleLower c = simpleLower d) (alike : CaseAlike rest others) (afterCased : Bool)
    (apart : '\u0307' :: left ≠ right) (apart' : '\u0307' :: right ≠ left) :
    lowerAt afterCased c rest ++ left = lowerAt afterCased d others ++ right ↔
      ((c = 'İ' ↔ d = 'İ') ∧ ((afterCased && !startsCased rest) = true → (c = 'Σ' ↔ d = 'Σ'))) ∧
        left = right := by
  by_cases dotted : c = 'İ'
  · by_cases dotted' : d = 'İ'
    · simp [lowerAt, dotted, dotted']
    · rw [lowerAt_of_ne_dotted afterCased dotted', lowerAt, if_pos dotted]
      simp [dotted, dotted', apart]
  · by_cases dotted' : d = 'İ'
    · rw [lowerAt_of_ne_dotted afterCased dotted, lowerAt, if_pos dotted']
      simp [dotted, dotted', apart'.symm]
    · rw [lowerAt_of_ne_dotted afterCased dotted, lowerAt_of_ne_dotted afterCased dotted',
        ← alike.startsCased_eq, same, List.singleton_append, List.singleton_append, List.cons.injEq]
      have apart_ : ('σ' : Char) ≠ 'ς' := by decide
      by_cases sigma : c = 'Σ'
      · by_cases sigma' : d = 'Σ'
        · simp [sigma, sigma']
        · rw [← same, sigma, simpleLower_sigma]
          simp [sigma', dotted', apart_.symm]
      · by_cases sigma' : d = 'Σ'
        · rw [sigma', simpleLower_sigma]
          simp [sigma, dotted, apart_]
        · simp [dotted, dotted', sigma, sigma']

/-- From the same place on, texts that differ in case only are written alike when their marks are
the same. -/
theorem lowerFrom_eq_iff {text other : List Char} (alike : CaseAlike text other)
    (afterCased : Bool) :
    lowerFrom afterCased text = lowerFrom afterCased other ↔
      ∀ place : Nat, (text[place]? = some 'İ' ↔ other[place]? = some 'İ') ∧
        (endsWordAfter afterCased text place = true →
          (text[place]? = some 'Σ' ↔ other[place]? = some 'Σ')) := by
  induction text generalizing other afterCased with
  | nil =>
      cases List.map_eq_nil_iff.1 (show other.map simpleLower = [] from alike.symm)
      simp
  | cons c rest ih =>
      cases other with
      | nil => cases alike
      | cons d others =>
          obtain ⟨same, later⟩ := List.cons.inj alike
          have equal := casedAfter_singleton same afterCased
          rw [lowerFrom_cons, lowerFrom_cons, ← equal,
            lowerAt_append_eq_iff same later afterCased (dot_cons_lowerFrom_ne later _)
              (dot_cons_lowerFrom_ne (Eq.symm later) _),
            ih later]
          constructor
          · rintro ⟨here, further⟩ (_ | place)
            · simpa [endsWordAfter_zero] using here
            · exact further place
          · intro marks
            exact ⟨by simpa [endsWordAfter_zero] using marks 0, fun place => marks (place + 1)⟩

/-- **The lower case of texts that differ in case only is the same exactly when they have the same
marks.** -/
theorem lowerCase_eq_iff {text other : List Char} (alike : CaseAlike text other) :
    lowerCase text = lowerCase other ↔ SameMarks text other := by
  rw [lowerCase, lowerCase, lowerFrom_eq_iff alike]
  simp only [← endsWord_iff]
  exact ⟨fun marks => ⟨fun place => (marks place).1, fun place => (marks place).2⟩,
    fun marks place => ⟨marks.dotted place, marks.sigma place⟩⟩

theorem CaseAlike.trim {text other : List Char} (alike : CaseAlike text other) :
    CaseAlike (trim text) (trim other) := by
  rw [CaseAlike, ← trim_map isBlank_simpleLower, ← trim_map isBlank_simpleLower, alike]

end Text

open Text (CaseAlike EndsWord SameMarks)

/-! ## Names that differ in case only -/

theorem canonicalName_eq_iff {name other : String} (alike : CaseAlike name.toList other.toList) :
    canonicalName name = canonicalName other ↔
      SameMarks (Text.trim name.toList) (Text.trim other.toList) := by
  rw [canonicalName, canonicalName, String.ofList_inj, Text.lowerCase_eq_iff alike.trim]

namespace Rules

/-- **Names that differ in case only find the same in all rules when they have the same marks.**
When they do not, what is stored under the one is never found by the other. -/
theorem found_iff_sameMarks {name other : String} (alike : CaseAlike name.toList other.toList) :
    (SameMarks (Text.trim name.toList) (Text.trim other.toList) →
        ∀ rules : Rules, rules.get? name = rules.get? other ∧
          rules.contains name = rules.contains other) ∧
      (¬ SameMarks (Text.trim name.toList) (Text.trim other.toList) →
        ∀ (rules : Rules) (productions : List Production),
          (rules.insert name productions).get? other = rules.get? other ∧
            (rules.insert name productions).contains other = rules.contains other) := by
  rw [← canonicalName_eq_iff alike]
  constructor
  · intro same rules
    have found : rules.get? name = rules.get? other := by rw [get?, get?, same]
    exact ⟨found, congrArg Option.isSome found⟩
  · intro unlike rules productions
    have kept : (rules.insert name productions).get? other = rules.get? other := by
      rw [get?_insert, if_neg unlike]
    exact ⟨kept, congrArg Option.isSome kept⟩

/-- A name with a sigma at the end of its word, in capitals and in small letters. -/
def finalSigma : String × String := ("<ΑΣ>", "<ασ>")

theorem finalSigma_notSameMarks :
    ¬ SameMarks (Text.trim finalSigma.1.toList) (Text.trim finalSigma.2.toList) := by
  intro marks
  have ends : EndsWord (Text.trim finalSigma.1.toList) 2 := by
    constructor <;> decide +kernel
  have small : (Text.trim finalSigma.2.toList)[2]? = some 'Σ' :=
    (marks.sigma 2 ends).1 (by decide +kernel)
  exact absurd small (by decide +kernel)

theorem found_iff_sameMarks_finalSigma :
    CaseAlike finalSigma.1.toList finalSigma.2.toList ∧
      CaseAlike finalSigma.1.toList "<αΣ>".toList ∧
      (∀ rules : Rules, rules.get? finalSigma.1 = rules.get? "<αΣ>") ∧
      ∀ (rules : Rules) (productions : List Production),
        (rules.insert finalSigma.1 productions).get? finalSigma.2 = rules.get? finalSigma.2 := by
  have alike : CaseAlike finalSigma.1.toList finalSigma.2.toList := by decide +kernel
  have alike' : CaseAlike finalSigma.1.toList "<αΣ>".toList := by decide +kernel
  have marks : SameMarks (Text.trim finalSigma.1.toList) (Text.trim "<αΣ>".toList) :=
    (canonicalName_eq_iff alike').1 (by decide +kernel)
  exact ⟨alike, alike', fun rules => ((found_iff_sameMarks alike').1 marks rules).1,
    fun rules productions =>
      ((found_iff_sameMarks alike).2 finalSigma_notSameMarks rules productions).1⟩

/-- **A rule in capitals is not found by its name in small letters.** -/
theorem finalSigma_not_found :
    ¬ ∀ (run : List Insertion) (name other : String), CaseAlike name.toList other.toList →
      (ofInsertions run).get? name = (ofInsertions run).get? other := by
  intro finds
  have same := finds [(finalSigma.1, [[.terminal "x"]])] finalSigma.1 finalSigma.2
    (by decide +kernel)
  exact absurd same (by decide +kernel)

end Rules

end RandomSentences
