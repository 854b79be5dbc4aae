/-
# Proofs.Choice -- which words make which choice, and how many do

A *pick* is one choice that was made: the number of alternatives, and the one that
was taken.  `choose` takes the alternative of the first word that counts, after any
number of words that do not (`choose_eq_some_iff`), so a list of picks is *read*
off a stream by choosing one after the other (`Reads`).  Zero always counts, so on a
list with zeros behind it every choice is made (`decides_ofList`).

The words that select one alternative among `count` are an interval of numbers: the
first at or above `index * 2³² / count`, and then `2 ^ leadingZeros count` of them
(`ncard_selectedBy`).  That number has no mention of the alternative.  Every pick of
a list costs at least one word, and when it costs no more, word by word each pick is
selected at once (`reads_ofList_iff`); so the scripts of a list of picks are counted
by a product (`ncard_scripts`).
-/
import RandomSentences.Random
import Mathlib.Algebra.Order.Floor.Div
import Mathlib.Data.Set.Card
import Mathlib.Order.Interval.Set.Nat

namespace RandomSentences

set_option autoImplicit false

namespace Choice

/-! ## One choice -/

/-- A choice that was made: among how many alternatives, and which of them was taken. -/
structure Pick where
  count : Nat
  index : Fin count

def Pick.SelectedBy (pick : Pick) (word : UInt32) : Prop :=
  accepts pick.count word = true ∧ Choice.index pick.count word = pick.index

/-- A choice takes the alternative of the first word that counts; the words before it are skipped. -/
theorem choose_eq_some_iff {stream : WordStream} {count draws position chosen after : Nat} :
    choose stream count draws position = some (chosen, after) ↔
      ∃ skipped < draws, after = position + skipped + 1 ∧
        (∀ k < skipped, accepts count (stream (position + k)) = false) ∧
        accepts count (stream (position + skipped)) = true ∧
        index count (stream (position + skipped)) = chosen := by
  induction draws generalizing position with
  | zero => simp [choose]
  | succ draws ih =>
      have shift (k : Nat) : position + (k + 1) = position + 1 + k := by omega
      rw [choose]
      split
      · rename_i accepted
        simp only [Option.some.injEq, Prod.mk.injEq]
        constructor
        · rintro ⟨selected, rfl⟩
          exact ⟨0, Nat.succ_pos draws, rfl, fun k none_ => absurd none_ (Nat.not_lt_zero k),
            accepted, selected⟩
        · rintro ⟨skipped, -, rfl, refused, -, selected⟩
          have first : skipped = 0 := by
            by_contra later
            have := refused 0 (Nat.pos_of_ne_zero later)
            simp [accepted] at this
          subst first
          exact ⟨selected, rfl⟩
      · rename_i refusedFirst
        rw [ih]
        constructor
        · rintro ⟨skipped, within, rfl, refused, accepted, selected⟩
          refine ⟨skipped + 1, by omega, by omega, fun k before => ?_, ?_, ?_⟩
          · cases k with
            | zero => simpa using refusedFirst
            | succ k =>
                rw [shift]
                exact refused k (by omega)
          · rwa [shift]
          · rwa [shift]
        · rintro ⟨skipped, within, rfl, refused, accepted, selected⟩
          cases skipped with
          | zero => exact absurd accepted refusedFirst
          | succ skipped =>
              rw [shift] at accepted selected
              refine ⟨skipped, by omega, by omega, fun k before => ?_, accepted, selected⟩
              rw [← shift]
              exact refused (k + 1) (by omega)

/-- With more words to try, a choice that was made stays as it is. -/
theorem choose_mono {stream : WordStream} {count draws more position : Nat} {made : Nat × Nat}
    (within : draws ≤ more) (chosen : choose stream count draws position = some made) :
    choose stream count more position = some made := by
  obtain ⟨skipped, before, rest⟩ := choose_eq_some_iff.1 chosen
  exact choose_eq_some_iff.2 ⟨skipped, by omega, rest⟩

theorem lt_of_choose {stream : WordStream} {count draws position chosen after : Nat}
    (positive : 0 < count)
    (made : choose stream count draws position = some (chosen, after)) : chosen < count := by
  obtain ⟨skipped, -, -, -, -, rfl⟩ := choose_eq_some_iff.1 made
  exact index_lt _ positive

/-! ## Streams that do not refuse for ever -/

/-- Is every choice among some alternatives made within that many words, wherever it starts? -/
def Decides (stream : WordStream) (draws : Nat) : Prop :=
  ∀ count position, 0 < count → ∃ made, choose stream count draws position = some made

theorem accepts_zero {count : Nat} (positive : 0 < count) : accepts count 0 = true := by
  have window : 0 < count <<< leadingZeros count := by
    rw [Nat.shiftLeft_eq]
    exact Nat.mul_pos positive (Nat.two_pow_pos _)
  simpa [accepts] using window

/-- A list has no more words to refuse than it is long, and the zeros behind it all count. -/
theorem decides_ofList (words : List UInt32) :
    Decides (WordStream.ofList words) (words.length + 1) := by
  intro count position positive
  have last : accepts count (WordStream.ofList words (position + words.length)) = true := by
    rw [WordStream.ofList, List.getElem?_eq_none (Nat.le_add_left _ _)]
    exact accepts_zero positive
  have counts : ∃ skipped, accepts count (WordStream.ofList words (position + skipped)) = true :=
    ⟨words.length, last⟩
  classical
  have bound : Nat.find counts ≤ words.length := Nat.find_min' counts last
  refine ⟨_, choose_eq_some_iff.2 ⟨Nat.find counts, Nat.lt_succ_of_le bound, rfl, ?_,
    Nat.find_spec counts, rfl⟩⟩
  intro k before
  exact Bool.eq_false_of_not_eq_true (Nat.find_min counts before)

/-! ## The words that select an alternative -/

/-- The shift is the number of leading zeros of the 32-bit number. -/
theorem leadingZeros_eq_clz {count : Nat} (positive : 0 < count) (small : count < 2 ^ 32) :
    leadingZeros count = (BitVec.ofNat 32 count).clz.toNat := by
  have same : (BitVec.ofNat 32 count).toNat = count := by
    rw [BitVec.toNat_ofNat, Nat.mod_eq_of_lt small]
  have nonzero : BitVec.ofNat 32 count ≠ 0#32 := by
    intro zero
    rw [zero] at same
    exact positive.ne same
  have lower := BitVec.two_pow_sub_clz_le_toNat_of_ne_zero (by decide) nonzero
  have upper := @BitVec.toNat_lt_two_pow_sub_clz 32 (BitVec.ofNat 32 count)
  rw [same] at lower upper
  have top : 2 ^ count.log2 ≤ count := Nat.log2_self_le positive.ne'
  have high := (Nat.pow_lt_pow_iff_right (by decide)).1 (lower.trans_lt Nat.lt_log2_self)
  have low := (Nat.pow_lt_pow_iff_right (by decide)).1 (top.trans_lt upper)
  rw [leadingZeros]
  omega

theorem mul_two_pow_leadingZeros_le {count : Nat} (small : count < 2 ^ 32) :
    count * 2 ^ leadingZeros count ≤ 2 ^ 32 := by
  rcases Nat.eq_zero_or_pos count with rfl | positive
  · simp
  · have short : count.log2 < 32 := (Nat.log2_lt positive.ne').2 small
    calc count * 2 ^ leadingZeros count
        ≤ 2 ^ (count.log2 + 1) * 2 ^ leadingZeros count :=
          Nat.mul_le_mul_right _ Nat.lt_log2_self.le
      _ = 2 ^ 32 := by rw [← Nat.pow_add, leadingZeros]; congr 1; omega

theorem accepts_iff {count : Nat} {word : UInt32} :
    accepts count word = true ↔ word.toNat * count % 2 ^ 32 < count * 2 ^ leadingZeros count := by
  simp [accepts, UInt32.size, Nat.shiftLeft_eq]

theorem index_eq_div (count : Nat) (word : UInt32) :
    index count word = word.toNat * count / 2 ^ 32 := rfl

/-- A word counts and selects an alternative when its product lies in the window above the
multiple of 2³² that belongs to the alternative. -/
theorem selects_iff {count chosen : Nat} (small : count < 2 ^ 32) (word : UInt32) :
    (accepts count word = true ∧ index count word = chosen) ↔
      chosen * 2 ^ 32 ≤ count * word.toNat ∧
        count * word.toNat < chosen * 2 ^ 32 + count * 2 ^ leadingZeros count := by
  have zone := mul_two_pow_leadingZeros_le small
  have parts := Nat.div_add_mod (word.toNat * count) (2 ^ 32)
  have below := Nat.mod_lt (word.toNat * count) (Nat.two_pow_pos 32)
  rw [accepts_iff, index_eq_div, Nat.mul_comm count word.toNat]
  constructor
  · rintro ⟨low, rfl⟩
    omega
  · rintro ⟨above, under⟩
    have high : word.toNat * count / 2 ^ 32 = chosen := by
      rw [Nat.div_eq_iff (Nat.two_pow_pos 32)]
      omega
    rw [high] at parts
    exact ⟨by omega, high⟩

/-- The multiples of a number in a window of `width` steps are as many as there are steps. -/
theorem window_iff {count low width x : Nat} (positive : 0 < count) :
    (low ≤ count * x ∧ count * x < low + count * width) ↔
      low ⌈/⌉ count ≤ x ∧ x < low ⌈/⌉ count + width := by
  have start (y : Nat) : low ⌈/⌉ count ≤ y ↔ low ≤ count * y := ceilDiv_le_iff_le_mul positive
  rw [start, and_congr_right_iff]
  intro above
  constructor
  · intro below
    by_contra beyond
    have := (start (x - width)).1 (by omega)
    rw [Nat.mul_sub] at this
    have : count * width ≤ count * x := Nat.mul_le_mul_left count (by omega)
    omega
  · intro inside
    by_contra beyond
    have wide : width ≤ x := Nat.le_of_mul_le_mul_left (by omega : count * width ≤ count * x) positive
    have := (start (x - width)).2 (by rw [Nat.mul_sub]; omega)
    omega

/-- Below the end of a window there are 32-bit words only. -/
theorem lt_two_pow_of_window {count chosen x : Nat} (small : count < 2 ^ 32)
    (inside : chosen < count)
    (under : count * x < chosen * 2 ^ 32 + count * 2 ^ leadingZeros count) : x < 2 ^ 32 := by
  have scaled : count * x < count * 2 ^ 32 :=
    calc count * x
        < chosen * 2 ^ 32 + count * 2 ^ leadingZeros count := under
      _ ≤ chosen * 2 ^ 32 + 2 ^ 32 := Nat.add_le_add_left (mul_two_pow_leadingZeros_le small) _
      _ = (chosen + 1) * 2 ^ 32 := (Nat.succ_mul _ _).symm
      _ ≤ count * 2 ^ 32 := Nat.mul_le_mul_right _ inside
  exact Nat.lt_of_mul_lt_mul_left scaled

/-- **Every alternative is selected by equally many words.** -/
theorem ncard_selectedBy (pick : Pick) (small : pick.count < 2 ^ 32) :
    {word : UInt32 | pick.SelectedBy word}.ncard = 2 ^ leadingZeros pick.count := by
  have positive : 0 < pick.count := pick.index.pos
  let first := (pick.index.val * 2 ^ 32) ⌈/⌉ pick.count
  have interval : (fun word : UInt32 => word.toNat) '' {word | pick.SelectedBy word} =
      Set.Ico first (first + 2 ^ leadingZeros pick.count) := by
    ext x
    simp only [Set.mem_image, Set.mem_ofPred_eq, Set.mem_Ico, Pick.SelectedBy, selects_iff small,
      window_iff positive]
    constructor
    · rintro ⟨word, inside, rfl⟩
      exact inside
    · intro inside
      have under := ((window_iff positive).2 inside).2
      have fits : x < 2 ^ 32 := lt_two_pow_of_window small pick.index.isLt under
      have same : (UInt32.ofNat x).toNat = x := UInt32.toNat_ofNat_of_lt' (fits.trans_eq (by decide))
      exact ⟨UInt32.ofNat x, by rwa [same], same⟩
  rw [← Set.ncard_image_of_injective _ (fun _ _ => UInt32.toNat_inj.1 :
    Function.Injective fun word : UInt32 => word.toNat), interval, Set.ncard_Ico_nat,
    Nat.add_sub_cancel_left]

theorem exists_selectedBy (pick : Pick) (small : pick.count < 2 ^ 32) :
    ∃ word, pick.SelectedBy word := by
  have some_ : {word : UInt32 | pick.SelectedBy word}.ncard ≠ 0 := by
    rw [ncard_selectedBy pick small]
    exact (Nat.two_pow_pos _).ne'
  exact Set.nonempty_of_ncard_ne_zero some_

/-! ## Choices one after the other -/

/-- Are the picks made one after the other from one position of the stream to another, with at
most the given number of words tried for each? -/
def Reads (stream : WordStream) (draws : Nat) : List Pick → Nat → Nat → Prop
  | [], position, after => position = after
  | pick :: rest, position, after =>
      ∃ between, choose stream pick.count draws position = some (pick.index.val, between) ∧
        Reads stream draws rest between after

theorem reads_append {stream : WordStream} {draws : Nat} {first second : List Pick}
    {position after : Nat} :
    Reads stream draws (first ++ second) position after ↔
      ∃ between, Reads stream draws first position between ∧
        Reads stream draws second between after := by
  induction first generalizing position with
  | nil => simp [Reads]
  | cons pick first ih =>
      simp only [List.cons_append, Reads, ih]
      constructor
      · rintro ⟨next, made, between, left, right⟩
        exact ⟨between, ⟨next, made, left⟩, right⟩
      · rintro ⟨between, ⟨next, made, left⟩, right⟩
        exact ⟨next, made, between, left, right⟩

theorem Reads.mono {stream : WordStream} {draws more : Nat} (within : draws ≤ more)
    {picks : List Pick} {position after : Nat} (reads : Reads stream draws picks position after) :
    Reads stream more picks position after := by
  induction picks generalizing position with
  | nil => exact reads
  | cons pick picks ih =>
      obtain ⟨between, made, rest⟩ := reads
      exact ⟨between, choose_mono within made, ih rest⟩

/-- Every pick costs a word. -/
theorem Reads.length_le {stream : WordStream} {draws : Nat} {picks : List Pick}
    {position after : Nat} (reads : Reads stream draws picks position after) :
    position + picks.length ≤ after := by
  induction picks generalizing position with
  | nil => exact Nat.le_of_eq reads
  | cons pick picks ih =>
      obtain ⟨between, made, rest⟩ := reads
      obtain ⟨skipped, -, later, -⟩ := choose_eq_some_iff.1 made
      have := ih rest
      rw [List.length_cons]
      omega

/-- When the picks cost one word each, every word selects its pick. -/
theorem reads_length_iff {stream : WordStream} {draws : Nat} {picks : List Pick} {position : Nat} :
    Reads stream (draws + 1) picks position (position + picks.length) ↔
      ∀ k (inside : k < picks.length), picks[k].SelectedBy (stream (position + k)) := by
  induction picks generalizing position with
  | nil => simp [Reads]
  | cons pick picks ih =>
      have shift : position + (pick :: picks).length = position + 1 + picks.length := by
        rw [List.length_cons]
        omega
      have step (k : Nat) : position + (k + 1) = position + 1 + k := by omega
      rw [shift, Reads]
      constructor
      · rintro ⟨between, made, rest⟩ k inside
        obtain ⟨skipped, -, rfl, -, selected⟩ := choose_eq_some_iff.1 made
        have none_ : skipped = 0 := by
          have := rest.length_le
          omega
        subst none_
        cases k with
        | zero => exact selected
        | succ k =>
            rw [step]
            exact ih.1 rest k (by simpa using inside)
      · intro selected
        refine ⟨position + 1, choose_eq_some_iff.2 ⟨0, Nat.succ_pos draws, rfl, ?_, ?_⟩, ih.2 ?_⟩
        · exact fun k none_ => absurd none_ (Nat.not_lt_zero k)
        · exact selected 0 (Nat.succ_pos _)
        · intro k inside
          rw [← step]
          exact selected (k + 1) (Nat.succ_lt_succ inside)

/-- As many words as there are picks make the picks just when each word selects its own. -/
theorem reads_ofList_iff {draws : Nat} {picks : List Pick} {words : List UInt32}
    (same : words.length = picks.length) :
    Reads (WordStream.ofList words) (draws + 1) picks 0 picks.length ↔
      List.Forall₂ Pick.SelectedBy picks words := by
  have word (k : Nat) (inside : k < words.length) :
      WordStream.ofList words (0 + k) = words[k] := by
    simp [WordStream.ofList, inside]
  have counted := @reads_length_iff (WordStream.ofList words) draws picks 0
  rw [Nat.zero_add] at counted
  rw [counted, List.forall₂_iff_get]
  constructor
  · intro selected
    refine ⟨by omega, fun k inside inside' => ?_⟩
    have := selected k inside
    rwa [word k inside'] at this
  · rintro ⟨-, selected⟩ k inside
    rw [word k (by omega)]
    exact selected k inside (by omega)

/-! ## The scripts of a list of picks -/

/-- **As many scripts make a list of picks as the product of the words for each.** -/
theorem ncard_scripts (picks : List Pick) (small : ∀ pick ∈ picks, pick.count < 2 ^ 32) :
    {words | List.Forall₂ Pick.SelectedBy picks words}.ncard =
      (picks.map fun pick => 2 ^ leadingZeros pick.count).prod := by
  induction picks with
  | nil => simp
  | cons pick picks ih =>
      have product : {words | List.Forall₂ Pick.SelectedBy (pick :: picks) words} =
          (fun script : UInt32 × List UInt32 => script.1 :: script.2) ''
            ({word | pick.SelectedBy word} ×ˢ {words | List.Forall₂ Pick.SelectedBy picks words}) := by
        ext words
        simp only [Set.mem_ofPred_eq, List.forall₂_cons_left_iff, Set.mem_image, Set.mem_prod,
          Prod.exists]
        constructor
        · rintro ⟨word, rest, selected, others, rfl⟩
          exact ⟨word, rest, ⟨selected, others⟩, rfl⟩
        · rintro ⟨word, rest, ⟨selected, others⟩, rfl⟩
          exact ⟨word, rest, selected, others, rfl⟩
      have apart : Function.Injective fun script : UInt32 × List UInt32 => script.1 :: script.2 :=
        fun _ _ same => Prod.ext (List.cons.inj same).1 (List.cons.inj same).2
      rw [product, Set.ncard_image_of_injective _ apart, Set.ncard_prod,
        ncard_selectedBy pick (small pick List.mem_cons_self),
        ih fun other later => small other (List.mem_cons_of_mem _ later), List.map_cons,
        List.prod_cons]

theorem exists_script (picks : List Pick) (small : ∀ pick ∈ picks, pick.count < 2 ^ 32) :
    ∃ words, List.Forall₂ Pick.SelectedBy picks words := by
  induction picks with
  | nil => exact ⟨[], .nil⟩
  | cons pick picks ih =>
      obtain ⟨word, selected⟩ := exists_selectedBy pick (small pick List.mem_cons_self)
      obtain ⟨words, others⟩ := ih fun other later => small other (List.mem_cons_of_mem _ later)
      exact ⟨word :: words, .cons selected others⟩

end Choice

end RandomSentences
