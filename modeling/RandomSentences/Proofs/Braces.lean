/-
# Proofs.Braces -- a text has its blocks in one way only

A text can be parted into blocks with the prose in front of them and a rest in which no block
closes, and there is one way to do it (`Parted.unique`).  Prose ends at the first `{` there is,
since it has none of its own, and a body at the first `}` behind that.  Where the parts end is not
free either: a rest has no `{` with a `}` behind it, and a part has.

A search from left to right for a `{`, as many characters as there are that are no `}`, and a `}`
comes to the same (`finds_iff`).  A `{` from which no such match starts has no `}` anywhere behind
it, so the search has found all blocks there are, and passing over that one `{` loses nothing.
-/
import RandomSentences.Proofs.Concatenation

namespace RandomSentences

set_option autoImplicit false

namespace GrammarFile

/-! ## One parting -/

/-- What stands in front of the first occurrence of a character, and what stands behind it, is
determined. -/
theorem eq_of_firsts {c : Char} {left other right behind : List Char} (fresh : c ∉ left)
    (fresh' : c ∉ other) (same : left ++ c :: right = other ++ c :: behind) :
    left = other ∧ right = behind := by
  induction left generalizing other with
  | nil =>
      cases other with
      | nil => exact ⟨rfl, (List.cons.inj same).2⟩
      | cons d other =>
          obtain ⟨rfl, -⟩ := List.cons.inj same
          exact absurd List.mem_cons_self fresh'
  | cons d left ih =>
      cases other with
      | nil =>
          obtain ⟨rfl, -⟩ := List.cons.inj same
          exact absurd List.mem_cons_self fresh
      | cons e other =>
          obtain ⟨rfl, later⟩ := List.cons.inj same
          obtain ⟨rfl, rfl⟩ := ih (fun inside => fresh (.tail _ inside))
            (fun inside => fresh' (.tail _ inside)) later
          exact ⟨rfl, rfl⟩

/-- A text with a part in front has a block that closes. -/
theorem closes_of_part (part : Part) (parts : List Part) (rest : List Char) :
    ['{', '}'].Sublist (chars (part :: parts) ++ rest) := by
  have closes : ['}'].Sublist (part.body ++ '}' :: chars parts) :=
    List.singleton_sublist.2 (List.mem_append_right _ List.mem_cons_self)
  rw [chars_cons]
  exact ((closes.cons_cons '{').trans (List.sublist_append_right part.prose _)).trans
    (List.sublist_append_left _ rest)

/-- **A text is parted in one way.** -/
theorem Parted.unique {text rest other : List Char} {parts others : List Part}
    (parted : Parted text parts rest) (parted' : Parted text others other) :
    parts = others ∧ rest = other := by
  obtain ⟨whole, ended⟩ := parted
  obtain ⟨whole', ended'⟩ := parted'
  subst whole
  induction parts generalizing others with
  | nil =>
      cases others with
      | nil => exact ⟨rfl, whole'⟩
      | cons part others =>
          -- one text has a block that closes and the other has none
          have here : rest = chars (part :: others) ++ other := whole'
          exact absurd (here ▸ closes_of_part part others other) ended
  | cons part parts ih =>
      cases others with
      | nil =>
          have here : chars (part :: parts) ++ rest = other := whole'
          exact absurd (here ▸ closes_of_part part parts rest) ended'
      | cons part' others =>
          obtain ⟨prose, body, unopened, unclosed⟩ := part
          obtain ⟨prose', body', unopened', unclosed'⟩ := part'
          simp only [chars_cons, List.append_assoc, List.cons_append] at whole'
          obtain ⟨rfl, opened⟩ := eq_of_firsts unopened unopened' whole'
          obtain ⟨rfl, behind⟩ := eq_of_firsts unclosed unclosed' opened
          obtain ⟨rfl, rfl⟩ := ih behind
          exact ⟨rfl, rfl⟩

/-! ## The search from left to right -/

/-- Is there a match at the start of the text, with that body and the rest behind it? -/
def Found (text body rest : List Char) : Prop :=
  '}' ∉ body ∧ text = '{' :: (body ++ '}' :: rest)

/-- The bodies of the matches in a text.  Where one starts the search goes on behind it, and
elsewhere behind the character there. -/
inductive Finds : List Char → List (List Char) → Prop
  | nil : Finds [] []
  | found {text body rest : List Char} {later : List (List Char)} (found : Found text body rest)
      (behind : Finds rest later) : Finds text (body :: later)
  | passed {c : Char} {rest : List Char} {later : List (List Char)}
      (none_ : ∀ body after, ¬Found (c :: rest) body after) (behind : Finds rest later) :
      Finds (c :: rest) later

/-- Nothing closes behind a brace from which no match starts. -/
theorem unclosed_of_not_found {rest : List Char}
    (none_ : ∀ body after, ¬Found ('{' :: rest) body after) : '}' ∉ rest := by
  intro closed
  obtain ⟨body, after, parted, unclosed⟩ := List.eq_append_cons_of_mem closed
  exact none_ body after ⟨unclosed, by rw [parted]⟩

theorem Finds.eq_scanBlocks {text : List Char} {found : List (List Char)}
    (finds : Finds text found) : found = scanBlocks none text := by
  induction finds with
  | nil => rfl
  | found found _ ih =>
      obtain ⟨unclosed, rfl⟩ := found
      rw [scanBlocks_block unclosed, ih]
  | @passed c rest _ none_ _ ih =>
      rw [ih, scanBlocks]
      split
      · rename_i opens
        subst opens
        -- the scan is inside of a block now, where the search is not; neither finds another one
        have unclosed := unclosed_of_not_found none_
        rw [scanBlocks_unclosed unclosed]
        exact scanBlocks_rest fun closes => unclosed (closes.subset (by simp))
      · rfl

theorem exists_finds (text : List Char) : ∃ found, Finds text found := by
  by_cases some_ : ∃ body rest, Found text body rest
  · obtain ⟨body, rest, found⟩ := some_
    have shorter : rest.length < text.length := by
      rw [found.2, List.length_cons, List.length_append, List.length_cons]
      omega
    obtain ⟨later, behind⟩ := exists_finds rest
    exact ⟨body :: later, .found found behind⟩
  · push Not at some_
    cases text with
    | nil => exact ⟨[], .nil⟩
    | cons c rest =>
        obtain ⟨later, behind⟩ := exists_finds rest
        exact ⟨later, .passed some_ behind⟩
termination_by text.length

/-- **The search finds what the scan reads.** -/
theorem finds_iff {text : List Char} {found : List (List Char)} :
    Finds text found ↔ found = scanBlocks none text := by
  refine ⟨Finds.eq_scanBlocks, ?_⟩
  rintro rfl
  obtain ⟨found, finds⟩ := exists_finds text
  exact finds.eq_scanBlocks ▸ finds

/-! ## The blocks -/

theorem toList_blocks (text : String) :
    (blocks text).map String.toList = scanBlocks none text.toList := by
  rw [blocks, List.map_map]
  exact List.map_id'' (fun _ => String.toList_ofList) _

/-- **The blocks of a text are the bodies of its one parting**, character by character and in their
order, and they are what a search for braces finds from left to right. -/
theorem existsUnique_parted (text : String) :
    (∃! parting : List Part × List Char, Parted text.toList parting.1 parting.2) ∧
      (∀ parts rest, Parted text.toList parts rest →
        (blocks text).map String.toList = bodies parts) ∧
      ∀ found, Finds text.toList found ↔ found = (blocks text).map String.toList := by
  refine ⟨?_, fun parts rest parted => ?_, fun found => ?_⟩
  · obtain ⟨parts, rest, parted⟩ := exists_parted text.toList
    refine ⟨(parts, rest), parted, fun other parted' => ?_⟩
    obtain ⟨same, same'⟩ := Parted.unique parted' parted
    exact Prod.ext same same'
  · rw [toList_blocks, scanBlocks_parted parted]
  · rw [toList_blocks, finds_iff]

/-- A text with a stray brace of each kind and an empty block, and one that is not closed. -/
def nestedText : String := "a\x7d\x7b\u00fc\x7b\n\x7d\x7b\x7d b\x7bc"

def nestedParts : List Part := [
    ⟨"a\x7d".toList, "\u00fc\x7b\n".toList, by decide, by decide⟩,
    ⟨"".toList, "".toList, by decide, by decide⟩]

/-- The brace that is never closed, and what stands around it, is the rest. -/
theorem existsUnique_parted_nested :
    Parted nestedText.toList nestedParts " b\x7bc".toList ∧
      (blocks nestedText).map String.toList = ["\u00fc\x7b\n".toList, []] ∧
      Finds nestedText.toList ["\u00fc\x7b\n".toList, []] := by
  have parted : Parted nestedText.toList nestedParts " b\x7bc".toList :=
    ⟨by decide +kernel, by decide⟩
  obtain ⟨-, read, finds⟩ := existsUnique_parted nestedText
  have bodies := read nestedParts " b\x7bc".toList parted
  exact ⟨parted, bodies, (finds _).2 bodies.symm⟩

end GrammarFile

end RandomSentences
