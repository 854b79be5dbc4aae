/-
# Proofs.BlankRuns -- the gaps of a text are whole runs of blanks, and they go all at once

A *run* is a piece of a text in which all is blank, with nothing blank right before or behind it
(`Run`).  It is a *gap* when the character right before it opens, or the one right behind it
closes (`Run.IsGap`).  To close the gaps of a text is to take the characters of its gaps out of
it, as the text stands at first, and to leave every other character where it is
(`tighten_eq_without`).

A pass over a text replaces a pattern from left to right (`Replaces`).  A match is used up, and
the search for the next one goes on behind it, so two matches never share a mark.  Nothing is
skipped by that: what the two passes write is determined (`replaces_closing_iff`,
`replaces_opening_iff`), in either order (`tightenClosing_tightenOpening`).
-/
import RandomSentences.Proofs.Gaps
import Mathlib.Data.List.DropRight

namespace RandomSentences

set_option autoImplicit false

open Text (isBlank)

namespace Punctuation

/-! ## Runs of blanks -/

/-- A piece of a text that is blank, and that nothing blank stands next to. -/
structure Run where
  before : List Char
  blanks : List Char
  behind : List Char
  nonempty : blanks ≠ []
  blank : ∀ c ∈ blanks, isBlank c = true
  starts : ∀ c ∈ before.getLast?, isBlank c = false
  ends : ∀ c ∈ behind.head?, isBlank c = false

namespace Run

def whole (run : Run) : List Char :=
  run.before ++ (run.blanks ++ run.behind)

/-- Does an opening mark stand right before the run, or a closing one right behind it? -/
def IsGap (run : Run) : Prop :=
  (∃ c ∈ run.before.getLast?, isOpening c = true) ∨ ∃ c ∈ run.behind.head?, isClosing c = true

end Run

def InGap (text : List Char) (position : Nat) : Prop :=
  ∃ run : Run, run.whole = text ∧ run.IsGap ∧ run.before.length ≤ position ∧
    position < run.before.length + run.blanks.length

/-- The text without the characters at some of its positions. -/
def without (gone : Nat → Prop) [DecidablePred gone] (text : List Char) : List Char :=
  (text.zipIdx.filter fun (_, position) => ¬gone position).map Prod.fst

/-! ## What stands around a blank -/

theorem opensLast_append (opens : Bool) (left right : List Char) :
    opensLast opens (left ++ right) = opensLast (opensLast opens left) right := by
  induction left generalizing opens with
  | nil => rfl
  | cons c left ih =>
      rw [List.cons_append, opensLast, opensLast, ih, ih]
      split <;> rfl

theorem opensLast_of_blanks {blanks : List Char} (all : ∀ c ∈ blanks, isBlank c = true)
    (opens : Bool) : opensLast opens blanks = opens := by
  induction blanks with
  | nil => rfl
  | cons c blanks ih =>
      obtain ⟨here, later⟩ := List.forall_mem_cons.1 all
      rw [opensLast, if_pos here, ih later]

theorem closesFirst_of_blanks {blanks : List Char} (all : ∀ c ∈ blanks, isBlank c = true)
    (closes : Bool) : closesFirst closes blanks = closes := by
  induction blanks with
  | nil => rfl
  | cons c blanks ih =>
      obtain ⟨here, later⟩ := List.forall_mem_cons.1 all
      rw [closesFirst, if_pos here, ih later]

/-- Where no blank is last, the last character alone says whether an opening mark is. -/
theorem opensLast_iff {text : List Char} (solid : ∀ c ∈ text.getLast?, isBlank c = false) :
    opensLast false text = true ↔ ∃ c ∈ text.getLast?, isOpening c = true := by
  rcases List.eq_nil_or_concat text with rfl | ⟨init, last, rfl⟩
  · simp [opensLast]
  · have here : isBlank last = false := solid last (by simp)
    simp [opensLast_append, opensLast, here]

/-- Where no blank is first, the first character alone says whether a closing mark is. -/
theorem closesFirst_iff {text : List Char} (solid : ∀ c ∈ text.head?, isBlank c = false) :
    closesFirst false text = true ↔ ∃ c ∈ text.head?, isClosing c = true := by
  cases text with
  | nil => simp [closesFirst]
  | cons first rest =>
      have here : isBlank first = false := solid first rfl
      simp [closesFirst, here]

theorem Run.isGap_iff (run : Run) :
    run.IsGap ↔ opensLast false run.before = true ∨ closesFirst false run.behind = true := by
  rw [IsGap, opensLast_iff run.starts, closesFirst_iff run.ends]

/-- What is left of a text behind its first blanks does not start with a blank. -/
theorem solid_of_mem_head?_dropWhile {text : List Char} :
    ∀ c ∈ (text.dropWhile isBlank).head?, isBlank c = false := by
  intro c first
  have solid := List.head?_dropWhile_not isBlank text
  rwa [Option.mem_def.1 first] at solid

theorem startsBlank_dropWhile (text : List Char) :
    Text.startsBlank (text.dropWhile isBlank) = false := by
  cases shape : text.dropWhile isBlank with
  | nil => rfl
  | cons c rest => exact solid_of_mem_head?_dropWhile c (by rw [shape]; rfl)

/-- What is left of a text before its last blanks does not end with a blank. -/
theorem solid_of_mem_getLast?_rdropWhile {text : List Char} :
    ∀ c ∈ (text.rdropWhile isBlank).getLast?, isBlank c = false := by
  rw [List.rdropWhile, List.getLast?_reverse]
  exact solid_of_mem_head?_dropWhile

/-- A blank between what opens on its left and what closes on its right lies in a gap, and one of
the two is enough. -/
theorem inGap_of_blank {before rest : List Char} {c : Char} (blank : isBlank c = true)
    (goes : opensLast false before = true ∨ closesFirst false rest = true) :
    InGap (before ++ c :: rest) before.length := by
  have left : before.rdropWhile isBlank ++ before.rtakeWhile isBlank = before :=
    List.rdropWhile_append_rtakeWhile
  have right : rest.takeWhile isBlank ++ rest.dropWhile isBlank = rest :=
    List.takeWhile_append_dropWhile
  have lead (d : Char) (member : d ∈ before.rtakeWhile isBlank) : isBlank d = true :=
    List.mem_rtakeWhile_imp member
  have trail (d : Char) (member : d ∈ rest.takeWhile isBlank) : isBlank d = true :=
    List.mem_takeWhile_imp member
  let run : Run := {
    before := before.rdropWhile isBlank
    blanks := before.rtakeWhile isBlank ++ c :: rest.takeWhile isBlank
    behind := rest.dropWhile isBlank
    nonempty := by simp
    blank := List.forall_mem_append.2 ⟨lead, List.forall_mem_cons.2 ⟨blank, trail⟩⟩
    starts := solid_of_mem_getLast?_rdropWhile
    ends := solid_of_mem_head?_dropWhile }
  have whole : run.whole = before ++ c :: rest := by
    show before.rdropWhile isBlank ++ (before.rtakeWhile isBlank ++ c :: rest.takeWhile isBlank ++
      rest.dropWhile isBlank) = before ++ c :: rest
    rw [List.append_assoc, List.cons_append, right, ← List.append_assoc, left]
  have length : run.before.length + (before.rtakeWhile isBlank).length = before.length := by
    rw [← List.length_append, left]
  refine ⟨run, whole, run.isGap_iff.2 ?_, by omega, ?_⟩
  · rw [← left, opensLast_append, opensLast_of_blanks lead] at goes
    rw [← right, closesFirst_append, closesFirst_of_blanks trail] at goes
    exact goes
  · have blanks : run.blanks.length =
        (before.rtakeWhile isBlank).length + ((rest.takeWhile isBlank).length + 1) := by
      simp [run]
    omega

/-- What stands before and behind a position within a piece of a text. -/
theorem exists_inside {left piece right before rest : List Char} {c : Char}
    (same : left ++ (piece ++ right) = before ++ c :: rest) (starts : left.length ≤ before.length)
    (ends : before.length < left.length + piece.length) :
    ∃ lead trail, before = left ++ lead ∧ piece = lead ++ c :: trail ∧ rest = trail ++ right := by
  have first : left <+: before :=
    List.prefix_of_prefix_length_le (List.prefix_append left _) (same ▸ List.prefix_append before _)
      starts
  obtain ⟨lead, rfl⟩ := first
  rw [List.append_assoc, List.append_cancel_left_eq] at same
  rw [List.length_append] at ends
  have second : lead ++ [c] <+: piece := by
    apply List.prefix_of_prefix_length_le _ (List.prefix_append piece right)
    · simp only [List.length_append, List.length_singleton]
      omega
    · exact ⟨rest, by rw [same, List.append_assoc, List.singleton_append]⟩
  obtain ⟨trail, rfl⟩ := second
  simp only [List.append_assoc, List.cons_append, List.append_cancel_left_eq, List.cons.injEq,
    true_and] at same
  exact ⟨lead, trail, rfl, by simp, same.symm⟩

/-- A character of a run is blank, and has around it what opens and closes the run. -/
theorem Run.around (run : Run) {before rest : List Char} {c : Char}
    (whole : run.whole = before ++ c :: rest) (starts : run.before.length ≤ before.length)
    (ends : before.length < run.before.length + run.blanks.length) :
    isBlank c = true ∧ opensLast false before = opensLast false run.before ∧
      closesFirst false rest = closesFirst false run.behind := by
  obtain ⟨lead, trail, rfl, blanks, rfl⟩ := exists_inside whole starts ends
  have blank := run.blank
  rw [blanks, List.forall_mem_append, List.forall_mem_cons] at blank
  obtain ⟨leading, here, trailing⟩ := blank
  rw [opensLast_append, opensLast_of_blanks leading, closesFirst_append,
    closesFirst_of_blanks trailing]
  exact ⟨here, rfl, rfl⟩

theorem inGap_iff {before rest : List Char} {c : Char} :
    InGap (before ++ c :: rest) before.length ↔
      isBlank c = true ∧ (opensLast false before = true ∨ closesFirst false rest = true) := by
  constructor
  · rintro ⟨run, whole, gap, starts, ends⟩
    obtain ⟨blank, left, right⟩ := run.around whole starts ends
    rw [left, right]
    exact ⟨blank, run.isGap_iff.1 gap⟩
  · rintro ⟨blank, goes⟩
    exact inGap_of_blank blank goes

theorem InGap.lt_length {text : List Char} {position : Nat} (inGap : InGap text position) :
    position < text.length := by
  obtain ⟨run, rfl, -, -, ends⟩ := inGap
  rw [Run.whole, List.length_append, List.length_append]
  omega

/-- The text parted at one of its characters. -/
theorem parted_at {text : List Char} {position : Nat} (inside : position < text.length) :
    text.take position ++ text[position] :: text.drop (position + 1) = text ∧
      (text.take position).length = position := by
  rw [List.getElem_cons_drop, List.take_append_drop]
  exact ⟨rfl, List.length_take_of_le (Nat.le_of_lt inside)⟩

theorem inGap_at_iff {text : List Char} {position : Nat} (inside : position < text.length) :
    InGap text position ↔ isBlank text[position] = true ∧
      (opensLast false (text.take position) = true ∨
        closesFirst false (text.drop (position + 1)) = true) := by
  obtain ⟨whole, length⟩ := parted_at inside
  have here := @inGap_iff (text.take position) (text.drop (position + 1)) text[position]
  rwa [whole, length] at here

instance (text : List Char) : DecidablePred (InGap text) := fun position =>
  if inside : position < text.length then decidable_of_iff _ (inGap_at_iff inside).symm
  else isFalse fun inGap => inside inGap.lt_length

/-- A run is in the gaps of its text as a whole, or no character of it is. -/
theorem Run.inGap_iff (run : Run) {position : Nat} (starts : run.before.length ≤ position)
    (ends : position < run.before.length + run.blanks.length) :
    InGap run.whole position ↔ run.IsGap := by
  have inside : position < run.whole.length := by
    rw [whole, List.length_append, List.length_append]
    omega
  obtain ⟨parted, length⟩ := parted_at inside
  rw [← length] at starts ends
  obtain ⟨blank, left, right⟩ := run.around parted.symm starts ends
  rw [inGap_at_iff inside, left, right, run.isGap_iff]
  exact and_iff_right blank

/-! ## All gaps at once -/

/-- The text behind another one, tightened for what that one shows of itself, is the text without
the characters in gaps of both together. -/
theorem tightenBetween_eq_without (before text : List Char) :
    tightenBetween (opensLast false before) false text =
      ((text.zipIdx before.length).filter fun (_, position) =>
        ¬InGap (before ++ text) position).map Prod.fst := by
  induction text generalizing before with
  | nil => rfl
  | cons c rest ih =>
      have later := ih (before ++ [c])
      rw [opensLast_append, List.length_append, List.length_singleton, List.append_assoc,
        List.singleton_append] at later
      rw [tightenBetween, List.zipIdx_cons]
      by_cases blank : isBlank c = true
      · simp only [opensLast, blank, if_true] at later
        by_cases goes : opensLast false before = true ∨ closesFirst false rest = true
        · have inGap : InGap (before ++ c :: rest) before.length := inGap_iff.2 ⟨blank, goes⟩
          rw [if_pos blank, if_pos (by simpa using goes), later, List.filter_cons_of_neg (by simpa)]
        · have outside : ¬InGap (before ++ c :: rest) before.length := fun inGap =>
            goes (inGap_iff.1 inGap).2
          rw [if_pos blank, if_neg (by simpa using goes), later,
            List.filter_cons_of_pos (by simpa), List.map_cons]
      · have outside : ¬InGap (before ++ c :: rest) before.length := fun inGap =>
          blank (inGap_iff.1 inGap).1
        simp only [opensLast, blank, Bool.false_eq_true, if_false] at later
        rw [if_neg blank, later, List.filter_cons_of_pos (by simpa), List.map_cons]

/-- **To tighten a text is to take its gaps out of it, all at once.** -/
theorem tighten_eq_without (text : List Char) : tighten text = without (InGap text) text := by
  rw [tighten_eq]
  exact tightenBetween_eq_without [] text

theorem solid_tightenBetween (opens closes : Bool) (text : List Char) :
    (tightenBetween opens closes text).filter (fun c => !isBlank c) =
      text.filter fun c => !isBlank c := by
  induction text generalizing opens with
  | nil => rfl
  | cons c rest ih =>
      rw [tightenBetween]
      by_cases blank : isBlank c = true
      · rw [if_pos blank, List.filter_cons_of_neg (by simp [blank])]
        split
        · exact ih opens
        · rw [List.filter_cons_of_neg (by simp [blank]), ih]
      · rw [if_neg blank, List.filter_cons_of_pos (by simp [blank]),
          List.filter_cons_of_pos (by simp [blank]), ih]

/-! ## The passes in the other order -/

theorem closesFirst_tightenOpening (afterOpening closes : Bool) (text : List Char) :
    closesFirst closes (tightenOpening afterOpening text) = closesFirst closes text := by
  induction text generalizing afterOpening with
  | nil => rfl
  | cons c rest ih =>
      rw [tightenOpening, closesFirst]
      by_cases blank : isBlank c = true
      · rw [if_pos blank]
        split
        · exact ih true
        · rw [closesFirst, if_pos blank, ih]
      · rw [if_neg (by simp [blank]), closesFirst, if_neg blank, if_neg blank]

/-- **The passes may be made in either order.** -/
theorem tightenClosing_tightenOpening (afterOpening : Bool) (text : List Char) :
    tightenClosing (tightenOpening afterOpening text) = tightenBetween afterOpening false text := by
  induction text generalizing afterOpening with
  | nil => rfl
  | cons c rest ih =>
      rw [tightenOpening, tightenBetween]
      by_cases blank : isBlank c = true
      · cases afterOpening with
        | true => simpa [blank] using ih true
        | false =>
            have starts : startsClosing (tightenBetween false false rest) =
                closesFirst false rest := by
              rw [← ih, startsClosing_tightenClosing, closesFirst_tightenOpening]
            simp only [Bool.false_and, Bool.false_or, Bool.false_eq_true, if_false, blank, if_true,
              Bool.true_and, tightenClosing, isOpening_of_isBlank blank, ih, starts]
      · simp [blank, tightenClosing, ih]

/-! ## Passes from left to right -/

/-- The replacement of a pattern in a text, from left to right.  `Found text mark rest` says that
the text starts with a match, of which the mark is written, and with what the search goes on. -/
inductive Replaces (Found : List Char → Char → List Char → Prop) : List Char → List Char → Prop
  | nil : Replaces Found [] []
  | found {text : List Char} {mark : Char} {rest written : List Char} (found : Found text mark rest)
      (later : Replaces Found rest written) : Replaces Found text (mark :: written)
  | kept {c : Char} {rest written : List Char} (none_ : ∀ mark after, ¬Found (c :: rest) mark after)
      (later : Replaces Found rest written) : Replaces Found (c :: rest) (c :: written)

/-- Blanks, as many as there are, and then a closing mark. -/
def ClosingFound (text : List Char) (mark : Char) (rest : List Char) : Prop :=
  isClosing mark = true ∧ ∃ blanks, blanks ≠ [] ∧ (∀ c ∈ blanks, isBlank c = true) ∧
    text = blanks ++ mark :: rest

/-- An opening mark, and then blanks, as many as there are. -/
def OpeningFound (text : List Char) (mark : Char) (rest : List Char) : Prop :=
  isOpening mark = true ∧ ∃ blanks, blanks ≠ [] ∧ (∀ c ∈ blanks, isBlank c = true) ∧
    Text.startsBlank rest = false ∧ text = mark :: (blanks ++ rest)

theorem solid_of_isClosing {mark : Char} (closing : isClosing mark = true) :
    isBlank mark = false := by
  apply Bool.eq_false_of_not_eq_true
  intro blank
  rw [isClosing_of_isBlank blank] at closing
  cases closing

theorem closesFirst_eq_true_iff {text : List Char} :
    closesFirst false text = true ↔ ∃ blanks mark rest, (∀ c ∈ blanks, isBlank c = true) ∧
      isClosing mark = true ∧ text = blanks ++ mark :: rest := by
  constructor
  · intro closes
    rw [← List.takeWhile_append_dropWhile (p := isBlank) (l := text),
      closesFirst_append, closesFirst_of_blanks fun c => List.mem_takeWhile_imp,
      closesFirst_iff solid_of_mem_head?_dropWhile] at closes
    obtain ⟨mark, first, closing⟩ := closes
    obtain ⟨rest, shape⟩ := List.head?_eq_some_iff.1 first
    exact ⟨text.takeWhile isBlank, mark, rest, fun c => List.mem_takeWhile_imp, closing, by
      rw [← shape, List.takeWhile_append_dropWhile]⟩
  · rintro ⟨blanks, mark, rest, all, closing, rfl⟩
    rw [closesFirst_append, closesFirst_of_blanks all, closesFirst, solid_of_isClosing closing]
    simpa using closing

/-- A pattern whose matches use something up can be replaced in every text. -/
theorem exists_replaces {Found : List Char → Char → List Char → Prop}
    (shorter : ∀ text mark rest, Found text mark rest → rest.length < text.length)
    (text : List Char) : ∃ written, Replaces Found text written := by
  by_cases some_ : ∃ mark rest, Found text mark rest
  · obtain ⟨mark, rest, found⟩ := some_
    have := shorter text mark rest found
    obtain ⟨written, later⟩ := exists_replaces shorter rest
    exact ⟨mark :: written, .found found later⟩
  · push Not at some_
    cases text with
    | nil => exact ⟨[], .nil⟩
    | cons c rest =>
        obtain ⟨written, later⟩ := exists_replaces shorter rest
        exact ⟨c :: written, .kept some_ later⟩
termination_by text.length

/-- A pass that writes what the replacement writes, where that comes to an end, is the replacement. -/
theorem replaces_iff {Found : List Char → Char → List Char → Prop} {pass : List Char → List Char}
    (shorter : ∀ text mark rest, Found text mark rest → rest.length < text.length)
    (made : ∀ {text written}, Replaces Found text written → written = pass text)
    {text written : List Char} : Replaces Found text written ↔ written = pass text := by
  refine ⟨made, ?_⟩
  rintro rfl
  obtain ⟨written, replaces⟩ := exists_replaces shorter text
  exact made replaces ▸ replaces

theorem tightenClosing_blanks {blanks : List Char} (all : ∀ c ∈ blanks, isBlank c = true)
    {mark : Char} (closing : isClosing mark = true) (rest : List Char) :
    tightenClosing (blanks ++ mark :: rest) = mark :: tightenClosing rest := by
  induction blanks with
  | nil => simp [tightenClosing, solid_of_isClosing closing]
  | cons c blanks ih =>
      obtain ⟨here, later⟩ := List.forall_mem_cons.1 all
      rw [List.cons_append, tightenClosing, ih later]
      simp [here, startsClosing, closing]

theorem tightenOpening_blanks {blanks : List Char} (all : ∀ c ∈ blanks, isBlank c = true)
    (rest : List Char) : tightenOpening true (blanks ++ rest) = tightenOpening true rest := by
  induction blanks with
  | nil => rfl
  | cons c blanks ih =>
      obtain ⟨here, later⟩ := List.forall_mem_cons.1 all
      rw [List.cons_append, tightenOpening, if_pos (by simp [here]), ih later]

/-- An opening mark before a text shows only where the text starts with a blank. -/
theorem tightenOpening_of_startsBlank {text : List Char} (solid : Text.startsBlank text = false)
    (afterOpening : Bool) : tightenOpening afterOpening text = tightenOpening false text := by
  cases text with
  | nil => rfl
  | cons c rest =>
      have here : isBlank c = false := solid
      simp [tightenOpening, here]

/-- **The first pass is the replacement of the blanks before closing marks.** -/
theorem replaces_closing_iff {text written : List Char} :
    Replaces ClosingFound text written ↔ written = tightenClosing text := by
  apply replaces_iff
  · rintro _ mark rest ⟨-, blanks, -, -, rfl⟩
    simp only [List.length_append, List.length_cons]
    omega
  · intro text written replaces
    induction replaces with
    | nil => rfl
    | found found _ ih =>
        obtain ⟨closing, blanks, -, all, rfl⟩ := found
        rw [tightenClosing_blanks all closing, ih]
    | kept none_ _ ih =>
        rw [tightenClosing, startsClosing_tightenClosing, ih, if_neg]
        intro goes
        obtain ⟨here, closes⟩ := Bool.and_eq_true_iff.1 goes
        obtain ⟨blanks, mark, after, all, closing, rfl⟩ := closesFirst_eq_true_iff.1 closes
        exact none_ mark after ⟨closing, _ :: blanks, List.cons_ne_nil _ blanks,
          List.forall_mem_cons.2 ⟨here, all⟩, rfl⟩

/-- **The second pass is the replacement of the blanks after opening marks.** -/
theorem replaces_opening_iff {text written : List Char} :
    Replaces OpeningFound text written ↔ written = tightenOpening false text := by
  apply replaces_iff
  · rintro _ mark rest ⟨-, blanks, -, -, -, rfl⟩
    simp only [List.length_append, List.length_cons]
    omega
  · intro text written replaces
    induction replaces with
    | nil => rfl
    | found found _ ih =>
        obtain ⟨opening, blanks, -, all, solid, rfl⟩ := found
        rw [tightenOpening, Bool.false_and, if_neg Bool.false_ne_true, opening,
          tightenOpening_blanks all, tightenOpening_of_startsBlank solid, ih]
    | @kept c rest _ none_ _ ih =>
        rw [tightenOpening, Bool.false_and, if_neg Bool.false_ne_true, ih]
        cases opening : isOpening c with
        | false => rfl
        | true =>
            cases rest with
            | nil => rfl
            | cons d rest =>
                have solid : Text.startsBlank (d :: rest) = false := by
                  apply Bool.eq_false_of_not_eq_true
                  intro blank
                  exact none_ c (rest.dropWhile isBlank) ⟨opening, d :: rest.takeWhile isBlank,
                    List.cons_ne_nil d _,
                    List.forall_mem_cons.2 ⟨blank, fun _ => List.mem_takeWhile_imp⟩,
                    startsBlank_dropWhile rest, by
                      rw [List.cons_append, List.takeWhile_append_dropWhile]⟩
                rw [tightenOpening_of_startsBlank solid true]

/-! ## The text without its gaps -/

/-- **Closing gaps takes whole runs of blanks out of a text, all at once.**  A run goes if it is a
gap and stays if not; nothing else goes.  The two passes write that text and no other, whichever
of them is made first. -/
theorem closeGaps_takes_runs (text : String) :
    (closeGaps text).toList = without (InGap text.toList) text.toList ∧
      (∀ run : Run, run.whole = text.toList → ∀ position, run.before.length ≤ position →
        position < run.before.length + run.blanks.length →
          (InGap text.toList position ↔ run.IsGap)) ∧
      (closeGaps text).toList.filter (fun c => !isBlank c) =
        text.toList.filter (fun c => !isBlank c) ∧
      (∀ written, (∃ between, Replaces ClosingFound text.toList between ∧
        Replaces OpeningFound between written) ↔ written = (closeGaps text).toList) ∧
      ∀ written, (∃ between, Replaces OpeningFound text.toList between ∧
        Replaces ClosingFound between written) ↔ written = (closeGaps text).toList := by
  have whole : (closeGaps text).toList = tighten text.toList := String.toList_ofList
  refine ⟨whole.trans (tighten_eq_without text.toList), ?_, ?_, ?_, ?_⟩
  · intro run same position starts ends
    rw [← same]
    exact run.inGap_iff starts ends
  · rw [whole, tighten_eq]
    exact solid_tightenBetween false false text.toList
  · intro written
    rw [whole, tighten]
    simp only [replaces_closing_iff, replaces_opening_iff, exists_eq_left]
  · intro written
    rw [whole, tighten_eq, ← tightenClosing_tightenOpening]
    simp only [replaces_closing_iff, replaces_opening_iff, exists_eq_left]

/-- A run behind a word and in front of a mark that opens. -/
def leadingRun : Run where
  before := "a".toList
  blanks := " \t".toList
  behind := "( ^ ) b".toList
  nonempty := by decide
  blank := List.all_eq_true.1 (by decide)
  starts := by rintro c ⟨⟩; decide
  ends := by rintro c ⟨⟩; decide

/-- Marks with one run between each two of them, all gaps, and runs on both sides that stay. -/
theorem closeGaps_takes_runs_marks :
    leadingRun.whole = "a \t( ^ ) b".toList ∧ ¬leadingRun.IsGap ∧
      ¬InGap "a \t( ^ ) b".toList 2 ∧ closeGaps "a \t( ^ ) b" = "a \t(^) b" := by
  obtain ⟨closed, asWhole, -⟩ := closeGaps_takes_runs "a \t( ^ ) b"
  have stays : ¬leadingRun.IsGap := by
    rw [Run.isGap_iff]
    decide
  refine ⟨by decide, stays, ?_, ?_⟩
  · rw [asWhole leadingRun (by decide) 2 (by decide) (by decide)]
    exact stays
  · apply String.toList_inj.1
    rw [closed]
    decide +kernel

end Punctuation

end RandomSentences
