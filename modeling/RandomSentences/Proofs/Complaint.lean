/-
# Proofs.Complaint -- complaints that are given as texts

A text is cut at the last place of a mark, and that place is the only one that counts: where the mark
stands nowhere further on, the text is cut there whatever is in front of it (`cutLast?_append`).  A
position has digits in it and its two marks, and neither digits nor what is left of the marks start
the mark of the line again.  So a complaint that is spelled with its position is read back, however
many zeros stand in front of the two numbers (`ofText_spelled`), and a text that is not spelled so has
no position (`ofText_of_not_spelled`).

A text is therefore written back as it was given but for two things: zeros in front of the numbers
go, and a position in line zero goes (`message_ofText`).
-/
import RandomSentences.Fault
import Mathlib.Data.List.Chain
import Mathlib.Data.List.Induction
import Mathlib.Data.List.Infix

namespace RandomSentences

set_option autoImplicit false

namespace Text

/-! ## The last place of a mark -/

/-- The parts of a text make up the text with the mark between them. -/
theorem eq_of_cutLast? {mark text before rest : List Char}
    (found : cutLast? mark text = some (before, rest)) : text = before ++ mark ++ rest := by
  induction text generalizing before with
  | nil =>
      obtain ⟨rest', atStart, same⟩ := Option.map_eq_some_iff.1 found
      obtain ⟨rfl, rfl⟩ := Prod.mk.inj same
      exact (List.isPrefixOf?_eq_some_iff_append_eq.1 atStart).symm
  | cons c text ih =>
      rw [cutLast?] at found
      split at found
      · rename_i before' rest' later
        obtain ⟨rfl, rfl⟩ := Prod.mk.inj (Option.some.inj found)
        rw [ih later, List.cons_append, List.cons_append]
      · obtain ⟨rest', atStart, same⟩ := Option.map_eq_some_iff.1 found
        obtain ⟨rfl, rfl⟩ := Prod.mk.inj same
        exact (List.isPrefixOf?_eq_some_iff_append_eq.1 atStart).symm

theorem cutLast?_eq_none {mark text : List Char} (absent : ¬mark <:+: text) :
    cutLast? mark text = none := by
  cases found : cutLast? mark text with
  | none => rfl
  | some parts => exact absurd ⟨parts.1, parts.2, (eq_of_cutLast? found).symm⟩ absent

/-- Where the mark stands nowhere further on, the text is cut there. -/
theorem cutLast?_append {c : Char} {mark rest : List Char} (absent : ¬(c :: mark) <:+: mark ++ rest)
    (before : List Char) :
    cutLast? (c :: mark) (before ++ (c :: mark) ++ rest) = some (before, rest) := by
  induction before with
  | nil =>
      have here : (c :: mark).isPrefixOf? (c :: (mark ++ rest)) = some rest :=
        List.isPrefixOf?_eq_some_iff_append_eq.2 rfl
      rw [List.nil_append, List.cons_append, cutLast?, cutLast?_eq_none absent]
      exact congrArg (Option.map _) here
  | cons b before ih =>
      rw [List.cons_append, List.cons_append, cutLast?, ih]

/-! ## Digits -/

theorem digit_lt {c : Char} (digit : c.isDigit = true) : c.toNat - '0'.toNat < 10 := by
  obtain ⟨low, high⟩ := Char.isDigit_iff_toNat.1 digit
  have nine : '9'.toNat = '0'.toNat + 9 := rfl
  omega

theorem toDigits_of_isDigit {c : Char} (digit : c.isDigit = true) :
    Nat.toDigits 10 (c.toNat - '0'.toNat) = [c] := by
  rw [Nat.toDigits_of_lt_base (digit_lt digit), List.singleton_inj, ← Char.toNat_inj,
    Nat.toNat_digitChar_of_lt_ten (digit_lt digit)]
  exact Nat.add_sub_cancel' (Char.isDigit_iff_toNat.1 digit).1

/-- A run of digits is zeros, and then its number as it is written. -/
theorem exists_replicate_append_toDigits {text : List Char} (nonempty : text ≠ [])
    (all : ∀ c ∈ text, c.isDigit = true) :
    ∃ zeros, text =
      List.replicate zeros '0' ++ Nat.toDigits 10 (Nat.ofDigitChars 10 text 0) := by
  induction text using List.reverseRecOn with
  | nil => exact absurd rfl nonempty
  | append_singleton text c ih =>
      have digit : c.isDigit = true := all c (by simp)
      have last : Nat.toDigits 10 (c.toNat - '0'.toNat) = [c] := toDigits_of_isDigit digit
      have value : Nat.ofDigitChars 10 (text ++ [c]) 0 =
          10 * Nat.ofDigitChars 10 text 0 + (c.toNat - '0'.toNat) := by
        rw [Nat.ofDigitChars_append, Nat.ofDigitChars_cons, Nat.ofDigitChars_nil]
      rw [value]
      by_cases more : text = []
      · subst more
        exact ⟨0, by rw [Nat.ofDigitChars_nil, Nat.mul_zero, Nat.zero_add, last]; rfl⟩
      · obtain ⟨zeros, shape⟩ := ih more fun c member => all c (by simp [member])
        generalize Nat.ofDigitChars 10 text 0 = before at shape ⊢
        subst shape
        rcases Nat.eq_zero_or_pos before with rfl | positive
        · refine ⟨zeros + 1, ?_⟩
          rw [Nat.mul_zero, Nat.zero_add, last, List.replicate_succ']
          rfl
        · refine ⟨zeros, ?_⟩
          rw [← Nat.toDigits_append_toDigits (by decide) positive (digit_lt digit), last,
            List.append_assoc]

theorem digits?_eq_some_iff {text : List Char} {value : Nat} :
    digits? text = some value ↔
      ∃ zeros, text = List.replicate zeros '0' ++ Nat.toDigits 10 value := by
  constructor
  · intro read
    rw [digits?] at read
    split at read
    · cases read
    · rename_i good
      obtain rfl := Option.some.inj read
      rw [Bool.or_eq_true, not_or, Bool.not_eq_true', Bool.not_eq_false, List.all_eq_true,
        List.isEmpty_iff] at good
      exact exists_replicate_append_toDigits good.1 good.2
  · rintro ⟨zeros, rfl⟩
    have all : (List.replicate zeros '0' ++ Nat.toDigits 10 value).all Char.isDigit = true := by
      rw [List.all_append, Bool.and_eq_true, List.all_replicate, List.all_eq_true]
      exact ⟨by simp, fun c member => Nat.isDigit_of_mem_toDigits (by decide) (by decide) member⟩
    rw [digits?, all, Nat.ofDigitChars_append, Nat.ofDigitChars_replicate_zero, Nat.mul_zero,
      Nat.ofDigitChars_toDigits (by decide) (by decide)]
    simp

end Text

namespace Json.Complaint

open Text (cutLast? digits? digits?_eq_some_iff)

/-! ## Complaints with their positions -/

/-- A number with zeros in front. -/
def padded (zeros number : Nat) : String :=
  String.ofList (List.replicate zeros '0') ++ toString number

/-- The complaint with its position behind it, and zeros in front of the two numbers. -/
def spelled (complaint : Complaint) (zeros zeros' : Nat) : String :=
  complaint.text ++ lineMark ++ padded zeros complaint.line ++ columnMark ++
    padded zeros' complaint.column

structure Bounded (complaint : Complaint) : Prop where
  line : complaint.line < positionBound
  column : complaint.column < positionBound

theorem toList_padded (zeros number : Nat) :
    (padded zeros number).toList = List.replicate zeros '0' ++ Nat.toDigits 10 number := by
  rw [padded, String.toList_append, String.toList_ofList, Nat.toString_eq_repr, Nat.toList_repr]

theorem isDigit_of_mem_padded {zeros number : Nat} {c : Char}
    (member : c ∈ (padded zeros number).toList) : c.isDigit = true := by
  rw [toList_padded, List.mem_append] at member
  rcases member with zero | digit
  · rw [List.eq_of_mem_replicate zero]
    rfl
  · exact Nat.isDigit_of_mem_toDigits (by decide) (by decide) digit

theorem number?_eq_some_iff {text : List Char} {value : Nat} :
    number? text = some value ↔
      value < positionBound ∧ ∃ zeros, text = (padded zeros value).toList := by
  simp only [number?, Option.filter_eq_some_iff, digits?_eq_some_iff, toList_padded,
    decide_eq_true_eq, and_comm]

/-- A position is read where two numbers stand, with the mark of the column between them. -/
theorem position?_eq_some_iff {text : List Char} {line column : Nat} :
    position? text = some (line, column) ↔
      line < positionBound ∧ column < positionBound ∧ ∃ zeros zeros',
        text = (padded zeros line).toList ++ columnMark.toList ++ (padded zeros' column).toList := by
  constructor
  · intro read
    simp only [position?, Option.bind_eq_bind, Option.bind_eq_some_iff, Option.some_inj,
      Prod.mk.injEq] at read
    obtain ⟨rest, mark, _, first, _, second, rfl, rfl⟩ := read
    obtain ⟨lineBelow, zeros, digits⟩ := number?_eq_some_iff.1 first
    obtain ⟨columnBelow, zeros', digits'⟩ := number?_eq_some_iff.1 second
    refine ⟨lineBelow, columnBelow, zeros, zeros', ?_⟩
    rw [← digits, ← digits', List.append_assoc, List.isPrefixOf?_eq_some_iff_append_eq.1 mark,
      List.takeWhile_append_dropWhile]
  · rintro ⟨lineBelow, columnBelow, zeros, zeros', rfl⟩
    have all : ∀ c ∈ (padded zeros line).toList, c.isDigit = true := fun _ => isDigit_of_mem_padded
    have mark : columnMark.toList = ' ' :: "column ".toList := rfl
    have digits : ((padded zeros line).toList ++ (columnMark.toList ++
        (padded zeros' column).toList)).takeWhile Char.isDigit = (padded zeros line).toList := by
      rw [List.takeWhile_append_of_pos all, mark, List.cons_append,
        List.takeWhile_cons_of_neg (by decide), List.append_nil]
    have behind : ((padded zeros line).toList ++ (columnMark.toList ++
        (padded zeros' column).toList)).dropWhile Char.isDigit =
          columnMark.toList ++ (padded zeros' column).toList := by
      rw [List.dropWhile_append_of_pos all, mark, List.cons_append,
        List.dropWhile_cons_of_neg (by decide)]
    have rest : columnMark.toList.isPrefixOf? (columnMark.toList ++ (padded zeros' column).toList) =
        some (padded zeros' column).toList := List.isPrefixOf?_eq_some_iff_append_eq.2 rfl
    have first := number?_eq_some_iff.2 ⟨lineBelow, zeros, rfl⟩
    have second := number?_eq_some_iff.2 ⟨columnBelow, zeros', rfl⟩
    simp only [position?, List.append_assoc, digits, behind, rest, first, second,
      Option.bind_eq_bind, Option.bind_some]

/-! ## Reading a position -/

/-- Is no space in front of an `a`, as the one is with which the mark of the line starts? -/
def Calm (text : List Char) : Prop :=
  text.IsChain fun b c => b = ' ' → c ≠ 'a'

instance (text : List Char) : Decidable (Calm text) :=
  inferInstanceAs (Decidable (text.IsChain fun b c => b = ' ' → c ≠ 'a'))

theorem calm_padded (zeros number : Nat) : Calm (padded zeros number).toList := by
  apply List.Pairwise.isChain
  apply List.pairwise_of_forall_mem_list
  rintro b inDigits - - rfl
  exact absurd (isDigit_of_mem_padded inDigits) (by decide)

/-- A number goes behind anything, as it does not start with an `a`. -/
theorem Calm.append_padded {text : List Char} (calm : Calm text) (zeros number : Nat) :
    Calm (text ++ (padded zeros number).toList) := by
  refine List.isChain_append.2 ⟨calm, calm_padded zeros number, ?_⟩
  rintro b - c first - rfl
  exact absurd (isDigit_of_mem_padded (List.mem_of_head? first)) (by decide)

/-- In a position the mark of the line does not start again. -/
theorem lineMark_absent (zeros zeros' line column : Nat) :
    ¬lineMark.toList <:+: "at line ".toList ++ ((padded zeros line).toList ++ columnMark.toList ++
      (padded zeros' column).toList) := by
  have first : Calm ("at line ".toList ++ (padded zeros line).toList) :=
    Calm.append_padded (by decide +kernel) zeros line
  have marked : Calm ("at line ".toList ++ (padded zeros line).toList ++ columnMark.toList) := by
    refine List.isChain_append.2 ⟨first, by decide +kernel, ?_⟩
    rintro b - c start - rfl
    exact absurd start (by decide)
  rintro ⟨before, behind, same⟩
  have calm := marked.append_padded zeros' column
  rw [List.append_assoc, List.append_assoc, ← List.append_assoc (padded zeros line).toList,
    ← same] at calm
  have again : Calm lineMark.toList := List.IsChain.right_of_append calm.left_of_append
  revert again
  decide +kernel

/-- **A complaint is read back from its spelling**, with its position. -/
theorem ofText_spelled {complaint : Complaint} (bounded : complaint.Bounded) (zeros zeros' : Nat) :
    ofText (complaint.spelled zeros zeros') = complaint := by
  have text : (complaint.spelled zeros zeros').toList = complaint.text.toList ++ lineMark.toList ++
      ((padded zeros complaint.line).toList ++ columnMark.toList ++
        (padded zeros' complaint.column).toList) := by
    simp only [spelled, String.toList_append, List.append_assoc]
  have cut : cutLast? lineMark.toList (complaint.spelled zeros zeros').toList =
      some (complaint.text.toList, (padded zeros complaint.line).toList ++ columnMark.toList ++
        (padded zeros' complaint.column).toList) := by
    rw [text]
    exact Text.cutLast?_append (lineMark_absent _ _ _ _) _
  have position := position?_eq_some_iff.2 ⟨bounded.line, bounded.column, zeros, zeros', rfl⟩
  simp only [ofText, cut, position, String.ofList_toList]

/-- A text that is not spelled with a position has none. -/
theorem ofText_of_not_spelled {text : String}
    (never : ∀ complaint : Complaint, complaint.Bounded → ∀ zeros zeros',
      text ≠ complaint.spelled zeros zeros') : ofText text = ⟨text, 0, 0⟩ := by
  rw [ofText]
  split
  · rfl
  · rename_i before rest cut
    split
    · rfl
    · rename_i line column position
      obtain ⟨lineBelow, columnBelow, zeros, zeros', rfl⟩ := position?_eq_some_iff.1 position
      refine absurd (String.toList_inj.1 ?_)
        (never ⟨String.ofList before, line, column⟩ ⟨lineBelow, columnBelow⟩ zeros zeros')
      rw [Text.eq_of_cutLast? cut]
      simp only [spelled, String.toList_append, String.toList_ofList, List.append_assoc]

/-! ## Writing it back -/

theorem message_eq (complaint : Complaint) :
    complaint.message = if complaint.line = 0 then complaint.text else complaint.spelled 0 0 := by
  have plain (number : Nat) : padded 0 number = toString number := String.empty_append
  rw [message, spelled, plain, plain]

/-- A complaint that is somewhere is read back from its message. -/
theorem ofText_message {complaint : Complaint} (bounded : complaint.Bounded)
    (somewhere : complaint.line ≠ 0) : ofText complaint.message = complaint := by
  rw [message_eq, if_neg somewhere, ofText_spelled bounded]

/-- **A text is written back as it was given**, but that zeros in front of the numbers of its position
go, and that a position in line zero goes. -/
theorem message_ofText (text : String) :
    (ofText text).message = text ∨
      ∃ complaint : Complaint, complaint.Bounded ∧
        (∃ zeros zeros', text = complaint.spelled zeros zeros') ∧
        (ofText text).message =
          if complaint.line = 0 then complaint.text else complaint.spelled 0 0 := by
  by_cases ends : ∃ complaint : Complaint, complaint.Bounded ∧
      ∃ zeros zeros', text = complaint.spelled zeros zeros'
  · obtain ⟨complaint, bounded, zeros, zeros', rfl⟩ := ends
    refine .inr ⟨complaint, bounded, ⟨zeros, zeros', rfl⟩, ?_⟩
    rw [ofText_spelled bounded, message_eq]
  · left
    rw [ofText_of_not_spelled fun complaint bounded zeros zeros' spelled =>
      ends ⟨complaint, bounded, zeros, zeros', spelled⟩]
    rfl

example : (ofText "x at line 007 column 010").message = "x at line 7 column 10" ∧
    (ofText "x  at line 0 column 5").message = "x " ∧
    (ofText "x at line +1 column 2").message = "x at line +1 column 2" := by decide +kernel

end Json.Complaint

end RandomSentences
