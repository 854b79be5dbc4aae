/-
# Proofs.Gaps -- gaps may be closed at every level of an expansion

The two passes over the punctuation come to one.  A blank goes when the last character before
it that is not blank is an opening mark, or the first one behind it is a closing mark, and
every other character stays (`tighten_eq`).  No blank that goes hangs on another blank that
does, so that one bit from each side is all that a text has to know of what stands around it
(`tightenBetween`):

* a text in two parts is tightened part by part, each part told what the other shows of itself
  (`tightenBetween_append`);
* a tight text shows the same of itself as before, and to tighten it again with as much told,
  or more, is to tighten it once (`tightenBetween_tightenBetween`).

So it does not matter whether the parts of a text were tightened before they were put together
(`closeGaps_append`), and by induction on the depth an expansion may close the gaps in the text
of each symbol that it comes by (`expandEach_of_piecewise`).
-/
import RandomSentences.Filter
import RandomSentences.Proofs.Derivation

namespace RandomSentences

set_option autoImplicit false

open Text (isBlank)

namespace Punctuation

/-! ## One pass -/

/-- Does a closing mark come before any other character that is not blank?  Where there is none,
what stands behind the text decides. -/
def closesFirst (closes : Bool) : List Char → Bool
  | [] => closes
  | c :: rest => if isBlank c then closesFirst closes rest else isClosing c

/-- Is an opening mark the last character that is not blank?  Where there is none, what stands
before the text decides. -/
def opensLast (opens : Bool) : List Char → Bool
  | [] => opens
  | c :: rest => if isBlank c then opensLast opens rest else opensLast (isOpening c) rest

/-- The text without the blanks before closing and after opening marks, between what opens on its
left, or does not, and what closes on its right, or does not. -/
def tightenBetween (opens closes : Bool) : List Char → List Char
  | [] => []
  | c :: rest =>
      if isBlank c then
        if opens || closesFirst closes rest then tightenBetween opens closes rest
        else c :: tightenBetween opens closes rest
      else c :: tightenBetween (isOpening c) closes rest

theorem isClosing_of_isBlank {c : Char} (blank : isBlank c = true) : isClosing c = false := by
  apply Bool.eq_false_of_not_eq_true
  intro closing
  have marks : ['.', ',', '?', '!', ':', ')', '^'].all (!isBlank ·) = true := by decide
  have solid := List.all_eq_true.1 marks c (by simpa [isClosing, or_assoc] using closing)
  simp [blank] at solid

theorem isOpening_of_isBlank {c : Char} (blank : isBlank c = true) : isOpening c = false := by
  apply Bool.eq_false_of_not_eq_true
  intro opening
  have marks : ['(', '^'].all (!isBlank ·) = true := by decide
  have solid := List.all_eq_true.1 marks c (by simpa [isOpening] using opening)
  simp [blank] at solid

theorem startsClosing_tightenClosing (text : List Char) :
    startsClosing (tightenClosing text) = closesFirst false text := by
  induction text with
  | nil => rfl
  | cons c rest ih =>
      rw [tightenClosing, closesFirst, ih]
      cases blank : isBlank c with
      | true =>
          cases goes : closesFirst false rest with
          | true => simpa [goes] using ih
          | false => simpa [startsClosing] using isClosing_of_isBlank blank
      | false => simp [startsClosing]

theorem tightenOpening_tightenClosing (afterOpening : Bool) (text : List Char) :
    tightenOpening afterOpening (tightenClosing text) = tightenBetween afterOpening false text := by
  induction text generalizing afterOpening with
  | nil => rfl
  | cons c rest ih =>
      rw [tightenClosing, tightenBetween, startsClosing_tightenClosing]
      cases blank : isBlank c with
      | true =>
          cases goes : closesFirst false rest with
          | true => simpa using ih afterOpening
          | false =>
              cases afterOpening with
              | true => simpa [tightenOpening, blank] using ih true
              | false => simpa [tightenOpening, isOpening_of_isBlank blank] using ih false
      | false => simpa [tightenOpening, blank] using ih (isOpening c)

/-- **Both passes are one**, in which nothing stands around the text. -/
theorem tighten_eq (text : List Char) : tighten text = tightenBetween false false text :=
  tightenOpening_tightenClosing false text

/-! ## Texts in two parts -/

theorem closesFirst_append (closes : Bool) (left right : List Char) :
    closesFirst closes (left ++ right) = closesFirst (closesFirst closes right) left := by
  induction left with
  | nil => rfl
  | cons c left ih => rw [List.cons_append, closesFirst, closesFirst, ih]

theorem tightenBetween_append (opens closes : Bool) (left right : List Char) :
    tightenBetween opens closes (left ++ right) =
      tightenBetween opens (closesFirst closes right) left ++
        tightenBetween (opensLast opens left) closes right := by
  induction left generalizing opens with
  | nil => rfl
  | cons c left ih =>
      rw [List.cons_append, tightenBetween, tightenBetween, opensLast, closesFirst_append, ih, ih]
      split
      · split <;> rfl
      · rfl

theorem closesFirst_tightenBetween (opens closes outer : Bool) (text : List Char) :
    closesFirst outer (tightenBetween opens closes text) = closesFirst outer text := by
  induction text generalizing opens with
  | nil => rfl
  | cons c rest ih =>
      rw [tightenBetween, closesFirst]
      by_cases blank : isBlank c = true
      · rw [if_pos blank, if_pos blank]
        split
        · exact ih opens
        · rw [closesFirst, if_pos blank, ih opens]
      · rw [if_neg blank, if_neg blank, closesFirst, if_neg blank]

theorem opensLast_tightenBetween (opens closes outer : Bool) (text : List Char) :
    opensLast outer (tightenBetween opens closes text) = opensLast outer text := by
  induction text generalizing opens outer with
  | nil => rfl
  | cons c rest ih =>
      rw [tightenBetween, opensLast]
      by_cases blank : isBlank c = true
      · rw [if_pos blank, if_pos blank]
        split
        · exact ih opens outer
        · rw [opensLast, if_pos blank, ih opens outer]
      · rw [if_neg blank, if_neg blank, opensLast, if_neg blank, ih]

theorem closesFirst_mono {closes more : Bool} (told : closes = true → more = true)
    {text : List Char} (first : closesFirst closes text = true) : closesFirst more text = true := by
  induction text with
  | nil => exact told first
  | cons c rest ih =>
      rw [closesFirst] at first ⊢
      split at first
      · rename_i blank
        rw [if_pos blank]
        exact ih first
      · rename_i solid
        rwa [if_neg solid]

/-- **To tighten a tight text is to tighten it once**, with no less told of what stands around it
than before. -/
theorem tightenBetween_tightenBetween {opens closes opened closed : Bool}
    (left : opened = true → opens = true) (right : closed = true → closes = true)
    (text : List Char) :
    tightenBetween opens closes (tightenBetween opened closed text) =
      tightenBetween opens closes text := by
  induction text generalizing opens opened with
  | nil => rfl
  | cons c rest ih =>
      have again := ih left
      cases blank : isBlank c with
      | true =>
          cases goes : opened || closesFirst closed rest with
          | true =>
              -- what goes with less told goes with more
              have goesToo : (opens || closesFirst closes rest) = true := by
                rcases Bool.or_eq_true_iff.1 goes with before | behind
                · rw [left before, Bool.true_or]
                · rw [closesFirst_mono right behind, Bool.or_true]
              simp only [tightenBetween, blank, goes, goesToo, if_true, again]
          | false =>
              simp only [tightenBetween, blank, goes, if_true, Bool.false_eq_true, if_false,
                closesFirst_tightenBetween, again]
      | false =>
          have later : tightenBetween (isOpening c) closes
              (tightenBetween (isOpening c) closed rest) =
                tightenBetween (isOpening c) closes rest := ih fun opening => opening
          simp only [tightenBetween, blank, Bool.false_eq_true, if_false, later]

theorem tightenBetween_sublist (opens closes : Bool) (text : List Char) :
    (tightenBetween opens closes text).Sublist text := by
  induction text generalizing opens with
  | nil => exact .slnil
  | cons c rest ih =>
      rw [tightenBetween]
      split
      · split
        · exact (ih opens).cons c
        · exact (ih opens).cons_cons c
      · exact (ih _).cons_cons c

theorem toList_closeGaps (text : String) :
    (closeGaps text).toList = tightenBetween false false text.toList := by
  rw [closeGaps, String.toList_ofList, tighten_eq]

/-- **The parts of a text may be tightened before they are put together.** -/
theorem closeGaps_append (left right : String) :
    closeGaps (closeGaps left ++ closeGaps right) = closeGaps (left ++ right) := by
  apply String.toList_inj.1
  have less {told : Bool} : false = true → told = true := fun impossible => by cases impossible
  simp only [toList_closeGaps, String.toList_append, tightenBetween_append,
    closesFirst_tightenBetween, opensLast_tightenBetween,
    tightenBetween_tightenBetween less less]

/-- Blanks on both sides of the cut, which go only for what the other side shows. -/
example : closeGaps "x ( " = "x (" ∧ closeGaps " \t" = " \t" ∧ closeGaps "\n, y" = ", y" ∧
    closeGaps ("x (" ++ " \t") = "x (" ∧ closeGaps (" \t" ++ ", y") = ", y" := by decide +kernel

end Punctuation

open Punctuation (closeGaps)

/-! ## Texts finished at every level -/

/-- May the parts of a text be finished before they are put together and finished? -/
structure Piecewise (finish : String → String) : Prop where
  nothing : finish "" = ""
  append : ∀ left right, finish (finish left ++ finish right) = finish (left ++ right)

namespace Piecewise

theorem closeGaps : Piecewise closeGaps :=
  ⟨by decide, Punctuation.closeGaps_append⟩

theorem id : Piecewise id :=
  ⟨rfl, fun _ _ => rfl⟩

variable {finish : String → String} (piecewise : Piecewise finish)

include piecewise

theorem again (text : String) : finish (finish text) = finish text := by
  simpa only [piecewise.nothing, String.append_empty] using piecewise.append text ""

theorem congr {left right other another : String} (same : finish left = finish other)
    (same' : finish right = finish another) : finish (left ++ right) = finish (other ++ another) := by
  rw [← piecewise.append, same, same', piecewise.append]

end Piecewise

def finished (finish : String → String) (drawn : Option (String × Nat)) : Option (String × Nat) :=
  drawn.map fun (text, after) => (finish text, after)

theorem finished_id (drawn : Option (String × Nat)) : finished id drawn = drawn := by
  cases drawn <;> rfl

/-- What is done with a text that is drawn does not tell whether the text was finished. -/
theorem finished_bind {finish : String → String} {drawn other : Option (String × Nat)}
    {next following : String × Nat → Option (String × Nat)}
    (same : finished finish drawn = finished finish other)
    (go : ∀ text another after, finish text = finish another →
      finished finish (next (text, after)) = finished finish (following (another, after))) :
    finished finish (drawn.bind next) = finished finish (other.bind following) := by
  cases drawn with
  | none =>
      cases other with
      | none => rfl
      | some made => cases same
  | some made =>
      cases other with
      | none => cases same
      | some made' =>
          obtain ⟨texts, positions⟩ := Prod.mk.inj (Option.some.inj same)
          obtain ⟨text, after⟩ := made
          obtain ⟨another, after'⟩ := made'
          obtain rfl : after = after' := positions
          exact go text another after texts

namespace Piecewise

variable {finish : String → String} (piecewise : Piecewise finish)

include piecewise

theorem finished_finished (drawn : Option (String × Nat)) :
    finished finish (finished finish drawn) = finished finish drawn := by
  cases drawn with
  | none => rfl
  | some made => simp only [finished, Option.map_some, piecewise.again]

/-- The text of a production, finished, is the same whether those of its references were. -/
theorem finished_expandTokens {expandSymbol expandOther : String → Nat → Option (String × Nat)}
    (same : ∀ name position,
      finished finish (expandOther name position) = finished finish (expandSymbol name position))
    (tokens : Production) (position : Nat) :
    finished finish (expandTokens expandOther tokens position) =
      finished finish (expandTokens expandSymbol tokens position) := by
  induction tokens generalizing position with
  | nil => rfl
  | cons token tokens ih =>
      cases token with
      | terminal text =>
          rw [expandTokens, expandTokens]
          apply finished_bind (ih position)
          intro after after' _ tail
          simp only [finished, Option.map_some, piecewise.congr rfl tail]
      | nonTerminal name =>
          rw [expandTokens, expandTokens]
          apply finished_bind (same name position)
          intro here here' between head
          apply finished_bind (ih between)
          intro after after' _ tail
          simp only [finished, Option.map_some, piecewise.congr head tail]

end Piecewise

namespace Rules

/-- Expands a symbol down to the given depth, and finishes the text of each symbol on the way. -/
def expandEachTo (finish : String → String) (rules : Rules) (stream : WordStream) (draws : Nat) :
    Nat → String → Nat → Option (String × Nat)
  | 0, _, _ => none
  | depth + 1, symbol, position =>
      match rules.get? symbol with
      | none => some (finish "", position)
      | some [] => some (finish "", position)
      | some productions => do
          let (choice, position) ← Choice.choose stream productions.length draws position
          let production ← productions[choice]?
          let (text, position) ←
            expandTokens (expandEachTo finish rules stream draws depth) production position
          some (finish text, position)

def expandEach (finish : String → String) (rules : Rules) (limits : Limits) (stream : WordStream)
    (symbol : String) (position : Nat) : Option (String × Nat) :=
  expandEachTo finish rules stream limits.draws limits.depth symbol position

theorem expandEachTo_of_piecewise {finish : String → String} (piecewise : Piecewise finish)
    (rules : Rules) (stream : WordStream) (draws depth : Nat) (symbol : String) (position : Nat) :
    expandEachTo finish rules stream draws depth symbol position =
      finished finish (rules.expandTo stream draws depth symbol position) := by
  induction depth generalizing symbol position with
  | zero => rfl
  | succ depth ih =>
      have same (name : String) (position : Nat) :
          finished finish (expandEachTo finish rules stream draws depth name position) =
            finished finish (rules.expandTo stream draws depth name position) := by
        rw [ih, piecewise.finished_finished]
      rw [expandEachTo, expandTo]
      cases rules.get? symbol with
      | none => rfl
      | some productions =>
          cases productions with
          | nil => rfl
          | cons first others =>
              simp only [Option.bind_eq_bind]
              cases Choice.choose stream (first :: others).length draws position with
              | none => rfl
              | some made =>
                  simp only [Option.bind_some]
                  cases (first :: others)[made.1]? with
                  | none => rfl
                  | some production =>
                      rw [Option.bind_some, Option.bind_some,
                        ← piecewise.finished_expandTokens same production made.2]
                      cases expandTokens _ production made.2 <;> rfl

/-- **What may be done to the parts of a text first may be done at every level of an expansion**,
on the same words. -/
theorem expandEach_of_piecewise {finish : String → String} (piecewise : Piecewise finish)
    (rules : Rules) (limits : Limits) (stream : WordStream) (symbol : String) (position : Nat) :
    rules.expandEach finish limits stream symbol position =
      finished finish (rules.expand limits stream symbol position) :=
  expandEachTo_of_piecewise piecewise rules stream limits.draws limits.depth symbol position

theorem expandEach_id (rules : Rules) : rules.expandEach id = rules.expand := by
  funext limits stream symbol position
  rw [expandEach_of_piecewise .id, finished_id]

/-- **Gaps may be closed at every level.**  A text may be tightened in two parts first, and an
expansion that tightens the text of every symbol is the expansion with its text tightened, on the
same words; where the outermost text is left as it is, it may be tightened at the end. -/
theorem closeGaps_at_every_level (rules : Rules) :
    (∀ left right, closeGaps (closeGaps left ++ closeGaps right) = closeGaps (left ++ right)) ∧
      (∀ text, closeGaps (closeGaps text) = closeGaps text) ∧
      rules.expandEach id = rules.expand ∧
      (∀ limits stream symbol position,
        rules.expandEach closeGaps limits stream symbol position =
          (rules.expand limits stream symbol position).map fun (text, after) =>
            (closeGaps text, after)) ∧
      ∀ limits stream production position,
        (expandTokens (rules.expandEach closeGaps limits stream) production position).map
            (fun (text, after) => (closeGaps text, after)) =
          (rules.expandWithin limits stream production position).map fun (text, after) =>
            (closeGaps text, after) := by
  refine ⟨Punctuation.closeGaps_append, Piecewise.closeGaps.again, expandEach_id rules,
    expandEach_of_piecewise .closeGaps rules, fun limits stream production position => ?_⟩
  apply Piecewise.closeGaps.finished_expandTokens
  intro name position
  rw [expandEach_of_piecewise .closeGaps, Piecewise.closeGaps.finished_finished]

end Rules

end RandomSentences
