/-
# Proofs.CanonicalName -- a canonical name is the canonical name of itself

A symbol is stored under the lower case of its trimmed name.  Looking that up again gives the
symbol only if neither step does anything more to a name that has been through both, in all of
Unicode (`canonicalName_canonicalName`).

Lower case writes characters that it leaves as they are, wherever they stand (`IsLower`).  That
is a property of the table: nothing that is written for a character is a member of a run, nor
one of the two exceptions, `İ` and `Σ` (`lowerCodes_apart`).  No blank is written either, so the
ends of a trimmed name stay as solid as they were, and trimming has nothing to take.

The table has too many members to compare each with each.  A set of code points is therefore
held as the bits of one number, and two sets are apart when their numbers have no bit in common.
-/
import RandomSentences.Proofs.Text
import RandomSentences.Rules.Basic

namespace RandomSentences

set_option autoImplicit false

namespace Text

/-! ## Sets of code points -/

/-- The set of code points as the bits of a number. -/
def bits (codes : List Nat) : Nat :=
  codes.foldr (fun code set => 1 <<< code ||| set) 0

theorem testBit_bits {codes : List Nat} {code : Nat} :
    (bits codes).testBit code = true ↔ code ∈ codes := by
  induction codes with
  | nil => simp [bits]
  | cons first rest ih =>
      have split_ : bits (first :: rest) = 1 <<< first ||| bits rest := rfl
      rw [split_, Nat.testBit_or, Bool.or_eq_true, ih, Nat.one_shiftLeft, Nat.testBit_two_pow,
        decide_eq_true_iff, List.mem_cons, eq_comm]

theorem testBit_of_and_eq_zero {set other code : Nat} (apart : set &&& other = 0)
    (member : set.testBit code = true) : other.testBit code = false := by
  have both := congrArg (·.testBit code) apart
  simpa only [Nat.testBit_and, Nat.zero_testBit, member, Bool.true_and] using both

theorem notMem_of_bits {codes others : List Nat} (apart : bits codes &&& bits others = 0)
    {code : Nat} (member : code ∈ codes) : code ∉ others := by
  have absent := testBit_of_and_eq_zero apart (testBit_bits.2 member)
  rwa [Bool.eq_false_iff, ne_eq, testBit_bits] at absent

/-! ## The members of a run and their images -/

/-- How far the members of a run are from the first of them. -/
def CaseRun.offsets (run : CaseRun) : List Nat :=
  (List.range ((run.last - run.first) / run.step + 1)).map (· * run.step)

def CaseRun.members (run : CaseRun) : List Nat :=
  run.offsets.map (run.first + ·)

def CaseRun.images (run : CaseRun) : List Nat :=
  run.offsets.map (run.target + ·)

theorem CaseRun.mem_offsets {run : CaseRun} {code : Nat} (below : code ≤ run.last)
    (stepped : (code - run.first) % run.step = 0) : code - run.first ∈ run.offsets := by
  refine List.mem_map.2 ⟨(code - run.first) / run.step, List.mem_range.2 ?_,
    Nat.div_mul_cancel (Nat.dvd_of_mod_eq_zero stepped)⟩
  have := Nat.div_le_div_right (c := run.step) (Nat.sub_le_sub_right below run.first)
  omega

/-- A code point that a run does not map stays as it is. -/
theorem applyRuns_of_notMem {code : Nat} {runs : List CaseRun}
    (outside : code ∉ runs.flatMap CaseRun.members) : applyRuns code runs = code := by
  induction runs with
  | nil => rfl
  | cons run runs ih =>
      obtain ⟨here, later⟩ := not_or.1 (mt List.mem_append.2 outside)
      rw [applyRuns]
      split
      · rfl
      · rename_i reached
        split
        · rename_i below
          split
          · rename_i stepped
            refine absurd (List.mem_map.2 ⟨_, CaseRun.mem_offsets below stepped, ?_⟩) here
            omega
          · rfl
        · exact ih later

theorem applyRuns_eq_or_mem (code : Nat) (runs : List CaseRun) :
    applyRuns code runs = code ∨ applyRuns code runs ∈ runs.flatMap CaseRun.images := by
  induction runs with
  | nil => exact .inl rfl
  | cons run runs ih =>
      rw [List.flatMap_cons, List.mem_append, applyRuns]
      split
      · exact .inl rfl
      · split
        · rename_i below
          split
          · rename_i stepped
            exact .inr (.inl (List.mem_map.2 ⟨_, CaseRun.mem_offsets below stepped, rfl⟩))
          · exact .inl rfl
        · exact ih.imp id .inr

/-! ## The table of lower case -/

def blankCodes : List Nat :=
  List.range' 0x9 5 ++ List.range' 0x2000 11 ++
    [0x20, 0x85, 0xA0, 0x1680, 0x2028, 0x2029, 0x202F, 0x205F, 0x3000]

theorem mem_blankCodes {c : Char} (blank : isBlank c = true) : c.toNat ∈ blankCodes := by
  simp only [isBlank, Bool.or_eq_true, Bool.and_eq_true, decide_eq_true_eq, beq_iff_eq,
    ← Char.toNat_inj, Char.le_def, UInt32.le_iff_toNat_le, Char.toNat_val, Char.reduceToNat] at blank
  simp only [blankCodes, List.mem_append, List.mem_range'_1, List.mem_cons]
  omega

/-- The code points that lower case writes: the images of the table, and what stands for `İ` and
for `Σ`. -/
def lowerCodes : List Nat :=
  'i'.toNat :: '\u0307'.toNat :: 'σ'.toNat :: 'ς'.toNat :: lowerRuns.flatMap CaseRun.images

/-- The code points that lower case does not write: what it replaces, and the blanks. -/
def replacedCodes : List Nat :=
  'İ'.toNat :: 'Σ'.toNat :: blankCodes ++ lowerRuns.flatMap CaseRun.members

theorem lowerCodes_apart : bits lowerCodes &&& bits replacedCodes = 0 := by decide +kernel

theorem images_valid :
    ∀ image ∈ lowerRuns.flatMap CaseRun.images, image.isValidChar := by decide +kernel

/-- Is the character one that lower case leaves as it is, wherever it stands? -/
structure IsLower (c : Char) : Prop where
  fixed : lowerChar c = c
  notDotted : c ≠ 'İ'
  notSigma : c ≠ 'Σ'

/-- What lower case writes is in lower case and not blank. -/
theorem isLower_of_mem_lowerCodes {c : Char} (written : c.toNat ∈ lowerCodes) :
    IsLower c ∧ isBlank c = false := by
  have apart := notMem_of_bits lowerCodes_apart written
  simp only [replacedCodes, List.cons_append, List.mem_cons, List.mem_append, not_or] at apart
  obtain ⟨notDotted, notSigma, notBlank, notMember⟩ := apart
  refine ⟨⟨?_, mt (congrArg Char.toNat) notDotted, mt (congrArg Char.toNat) notSigma⟩, ?_⟩
  · rw [lowerChar, applyRuns_of_notMem notMember, Char.ofNat_toNat]
  · exact Bool.eq_false_iff.2 fun blank => notBlank (mem_blankCodes blank)

theorem lowerChar_eq_or_mem (c : Char) : lowerChar c = c ∨ (lowerChar c).toNat ∈ lowerCodes := by
  rw [lowerChar]
  rcases applyRuns_eq_or_mem c.toNat lowerRuns with same | image
  · exact .inl (by rw [same, Char.ofNat_toNat])
  · right
    rw [Char.ofNat, dif_pos (images_valid _ image)]
    exact List.mem_append_right ['i'.toNat, '\u0307'.toNat, 'σ'.toNat, 'ς'.toNat] image

/-! ## The lower case of a text -/

theorem startsCased_map {f : Char → Char}
    (ignorable : ∀ c, isCaseIgnorable (f c) = isCaseIgnorable c)
    (cased : ∀ c, isCased (f c) = isCased c) (text : List Char) :
    startsCased (text.map f) = startsCased text := by
  induction text with
  | nil => rfl
  | cons c rest ih => rw [List.map_cons, startsCased, startsCased, ignorable, cased, ih]

theorem mem_lowerCodes_or_eq {afterCased : Bool} {c d : Char} {rest : List Char}
    (member : d ∈ lowerAt afterCased c rest) : d.toNat ∈ lowerCodes ∨ (d = c ∧ IsLower c) := by
  rw [lowerAt] at member
  split at member
  · rcases List.mem_pair.1 member with rfl | rfl <;> exact .inl (by simp [lowerCodes])
  · rename_i notDotted
    split at member
    · obtain rfl := List.mem_singleton.1 member
      left
      split <;> simp [lowerCodes]
    · rename_i notSigma
      obtain rfl := List.mem_singleton.1 member
      exact (lowerChar_eq_or_mem c).symm.imp_right fun same => ⟨same, same, notDotted, notSigma⟩

/-- What is written for a character is in lower case, and not blank unless the character is. -/
theorem isLower_of_mem_lowerAt {afterCased : Bool} {c : Char} {rest : List Char} :
    ∀ d ∈ lowerAt afterCased c rest, IsLower d ∧ (isBlank c = false → isBlank d = false) := by
  intro d member
  rcases mem_lowerCodes_or_eq member with written | ⟨rfl, lower⟩
  · exact (isLower_of_mem_lowerCodes written).imp_right fun solid _ => solid
  · exact ⟨lower, id⟩

theorem lowerAt_ne_nil (afterCased : Bool) (c : Char) (rest : List Char) :
    lowerAt afterCased c rest ≠ [] := by
  rw [lowerAt]
  split_ifs <;> exact List.cons_ne_nil _ _

theorem isLower_of_mem_lowerFrom {afterCased : Bool} {text : List Char} :
    ∀ c ∈ lowerFrom afterCased text, IsLower c := by
  induction text generalizing afterCased with
  | nil => simp [lowerFrom]
  | cons c rest ih =>
      rw [lowerFrom, List.forall_mem_append]
      exact ⟨fun d member => (isLower_of_mem_lowerAt d member).1, ih⟩

theorem lowerFrom_of_isLower {text : List Char} (lower : ∀ c ∈ text, IsLower c)
    (afterCased : Bool) : lowerFrom afterCased text = text := by
  induction text generalizing afterCased with
  | nil => rfl
  | cons c rest ih =>
      obtain ⟨⟨fixed, notDotted, notSigma⟩, later⟩ := List.forall_mem_cons.1 lower
      rw [lowerFrom, ih later, lowerAt, if_neg notDotted, if_neg notSigma, fixed]
      rfl

theorem lowerCase_lowerCase (text : List Char) : lowerCase (lowerCase text) = lowerCase text :=
  lowerFrom_of_isLower isLower_of_mem_lowerFrom false

theorem head?_lowerFrom {afterCased : Bool} {text : List Char}
    (solid : ∀ c ∈ text.head?, isBlank c = false) :
    ∀ c ∈ (lowerFrom afterCased text).head?, isBlank c = false := by
  intro c first
  cases text with
  | nil => cases first
  | cons b rest =>
      rw [lowerFrom, List.head?_append_of_ne_nil _ (lowerAt_ne_nil afterCased b rest)] at first
      exact (isLower_of_mem_lowerAt c (List.mem_of_mem_head? first)).2 (solid b rfl)

theorem lowerFrom_ne_nil {text : List Char} (nonempty : text ≠ []) (afterCased : Bool) :
    lowerFrom afterCased text ≠ [] := by
  cases text with
  | nil => exact absurd rfl nonempty
  | cons c rest => simp [lowerFrom, lowerAt_ne_nil]

theorem getLast?_lowerFrom {afterCased : Bool} {text : List Char}
    (solid : ∀ c ∈ text.getLast?, isBlank c = false) :
    ∀ c ∈ (lowerFrom afterCased text).getLast?, isBlank c = false := by
  induction text generalizing afterCased with
  | nil => simp [lowerFrom]
  | cons b rest ih =>
      intro c last
      rw [lowerFrom] at last
      cases rest with
      | nil =>
          rw [lowerFrom, List.append_nil] at last
          exact (isLower_of_mem_lowerAt c (List.mem_of_getLast? last)).2 (solid b rfl)
      | cons d rest =>
          have written := lowerFrom_ne_nil (List.cons_ne_nil d rest)
          rw [List.getLast?_append_of_ne_nil _ (written _)] at last
          exact ih (fun e found => solid e (by rwa [List.getLast?_cons_cons])) c last

theorem trim_lowerCase_trim (text : List Char) :
    trim (lowerCase (trim text)) = lowerCase (trim text) := by
  have starts : ∀ c ∈ (trim text).head?, isBlank c = false := fun c first =>
    head?_trimStart text c (head?_trimEnd first)
  have ends : ∀ c ∈ (trim text).getLast?, isBlank c = false := getLast?_trimEnd _
  rw [lowerCase, trim, trimStart_of_head (head?_lowerFrom starts),
    trimEnd_of_getLast (getLast?_lowerFrom ends)]

/-! ## Single spaces -/

theorem mem_lowerCodes_or_mem {afterCased : Bool} {text : List Char} :
    ∀ c ∈ lowerFrom afterCased text, c.toNat ∈ lowerCodes ∨ c ∈ text := by
  induction text generalizing afterCased with
  | nil => simp [lowerFrom]
  | cons b rest ih =>
      intro c member
      rw [lowerFrom, List.mem_append] at member
      rcases member with here | later
      · exact (mem_lowerCodes_or_eq here).imp_right fun ⟨same, _⟩ => same ▸ List.mem_cons_self
      · exact (ih c later).imp_right (List.mem_cons_of_mem b)

/-- What is written for one character has no blank in front of another character. -/
theorem isChain_lowerAt (afterCased : Bool) (c : Char) (rest : List Char) :
    (lowerAt afterCased c rest).IsChain fun b d => isBlank b = true → isBlank d = false := by
  have solid : isBlank 'i' = false := by decide
  rw [lowerAt]
  split_ifs <;> simp [solid]

theorem isChain_lowerFrom {afterCased : Bool} {text : List Char}
    (single : text.IsChain fun b d => isBlank b = true → isBlank d = false) :
    (lowerFrom afterCased text).IsChain fun b d => isBlank b = true → isBlank d = false := by
  induction text generalizing afterCased with
  | nil => simp [lowerFrom]
  | cons c rest ih =>
      obtain ⟨next, later⟩ := List.isChain_cons.1 single
      rw [lowerFrom, List.isChain_append]
      refine ⟨isChain_lowerAt afterCased c rest, ih later, fun b last d first blank => ?_⟩
      -- only a blank writes a blank, and behind it no blank was written before
      have fromBlank : isBlank c = true := by
        by_contra notBlank
        have solid := (isLower_of_mem_lowerAt b (List.mem_of_getLast? last)).2 (by simpa using notBlank)
        simp [solid] at blank
      exact head?_lowerFrom (fun e head => next e head fromBlank) d first

/-- Lower case keeps single spaces. -/
theorem SingleSpaced.lowerCase {text : List Char} (spaced : SingleSpaced text) :
    SingleSpaced (lowerCase text) where
  space := by
    intro c member blank
    rcases mem_lowerCodes_or_mem c member with written | inside
    · simp [(isLower_of_mem_lowerCodes written).2] at blank
    · exact spaced.space c inside blank
  single := isChain_lowerFrom spaced.single
  starts := head?_lowerFrom spaced.starts
  ends := getLast?_lowerFrom spaced.ends

end Text

/-- **The canonical name of a symbol is its own canonical name.** -/
@[simp] theorem canonicalName_canonicalName (name : String) :
    canonicalName (canonicalName name) = canonicalName name := by
  simp only [canonicalName, String.toList_ofList, Text.trim_lowerCase_trim,
    Text.lowerCase_lowerCase]

end RandomSentences
