/-
# Proofs.Text -- words, blanks and lines of texts put together from parts

A text cut at a blank has the words of its two sides (`words_append_blank`); everything
about `words` follows from that and from the words of a text without blanks.  So words
written with one space between them are read back (`words_intercalate`), and trimming and
collapsing leave them alone (`collapse_trimEnd_intercalate`).  Text in which every blank is
a single space is of that kind (`intercalate_words`).  Neither trimming nor collapsing
changes the words of a text (`words_trimEnd`, `words_collapse`), and nothing but the words
is left of a text after both (`trim_collapse`).  At its end a text may be trimmed before or after
it is collapsed (`collapse_trimEnd`).

A line that does not end in a carriage return is read back from in front of a line feed
(`lines_append_feed`).

Texts are ordered by their code points, and so are their bytes (`bytes_lt_bytes`).
-/
import RandomSentences.Text.Basic
import Mathlib.Data.List.Chain
import Mathlib.Data.List.DropRight

namespace RandomSentences.Text

set_option autoImplicit false

theorem isBlank_space : isBlank ' ' = true := by decide

/-! ## Words -/

/-- Text that is one word: it is not empty, and nothing in it is blank. -/
structure IsWord (word : List Char) : Prop where
  nonempty : word ≠ []
  solid : ∀ c ∈ word, isBlank c = false

instance (word : List Char) : Decidable (IsWord word) :=
  haveI : Decidable (∀ c ∈ word, isBlank c = false) := List.decidableBAll _ word
  decidable_of_iff (word ≠ [] ∧ ∀ c ∈ word, isBlank c = false)
    ⟨fun ⟨nonempty, solid⟩ => ⟨nonempty, solid⟩, fun ⟨nonempty, solid⟩ => ⟨nonempty, solid⟩⟩

@[simp] theorem extendFirst_nil (c : Char) : extendFirst c [] = [[c]] := rfl

@[simp] theorem extendFirst_cons (c : Char) (piece : List Char) (pieces : List (List Char)) :
    extendFirst c (piece :: pieces) = (c :: piece) :: pieces := rfl

theorem isWord_of_mem_words {text word : List Char} (member : word ∈ words text) : IsWord word := by
  induction text generalizing word with
  | nil => simp [words] at member
  | cons c rest ih =>
      rw [words] at member
      split at member
      · exact ih member
      · rename_i solid
        have single : IsWord [c] := ⟨List.cons_ne_nil c [], by simpa using solid⟩
        split at member
        · rcases List.mem_cons.1 member with rfl | later
          · exact single
          · exact ih later
        · cases found : words rest with
          | nil =>
              rw [found, extendFirst_nil, List.mem_singleton] at member
              exact member ▸ single
          | cons piece pieces =>
              rw [found] at member ih
              rcases List.mem_cons.1 member with rfl | later
              · exact ⟨List.cons_ne_nil c piece,
                  List.forall_mem_cons.2 ⟨by simpa using solid, (ih List.mem_cons_self).solid⟩⟩
              · exact ih (List.mem_cons_of_mem _ later)

/-- What holds of the first character and of those of the pieces holds of those that are put
together. -/
theorem forall_mem_extendFirst {P : Char → Prop} {c : Char} {pieces : List (List Char)} (here : P c)
    (all : ∀ piece ∈ pieces, ∀ d ∈ piece, P d) : ∀ piece ∈ extendFirst c pieces, ∀ d ∈ piece, P d := by
  cases pieces with
  | nil => simpa using here
  | cons piece pieces =>
      obtain ⟨first, later⟩ := List.forall_mem_cons.1 all
      exact List.forall_mem_cons.2 ⟨List.forall_mem_cons.2 ⟨here, first⟩, later⟩

theorem forall_mem_words {P : Char → Prop} {text : List Char} (all : ∀ c ∈ text, P c) :
    ∀ word ∈ words text, ∀ c ∈ word, P c := by
  induction text with
  | nil => simp [words]
  | cons c rest ih =>
      obtain ⟨here, later⟩ := List.forall_mem_cons.1 all
      rw [words]
      split_ifs
      · exact ih later
      · exact List.forall_mem_cons.2 ⟨by simpa using here, ih later⟩
      · exact forall_mem_extendFirst here (ih later)

theorem words_cons_blank {c : Char} (blank : isBlank c = true) (rest : List Char) :
    words (c :: rest) = words rest := by
  rw [words, if_pos blank]

theorem words_cons_ne_nil {c : Char} (solid : isBlank c = false) (rest : List Char) :
    words (c :: rest) ≠ [] := by
  rw [words, if_neg (by simp [solid])]
  split
  · exact List.cons_ne_nil _ _
  · cases words rest <;> exact List.cons_ne_nil _ _

theorem extendFirst_append {pieces : List (List Char)} (some_ : pieces ≠ []) (c : Char)
    (others : List (List Char)) :
    extendFirst c (pieces ++ others) = extendFirst c pieces ++ others := by
  cases pieces with
  | nil => exact absurd rfl some_
  | cons piece pieces => rfl

/-- **A blank parts the words before it from those after it.** -/
theorem words_append_blank {c : Char} (blank : isBlank c = true) (left right : List Char) :
    words (left ++ c :: right) = words left ++ words right := by
  induction left with
  | nil => exact words_cons_blank blank right
  | cons b left ih =>
      rw [List.cons_append, words, words, ih]
      by_cases solid : isBlank b = true
      · rw [if_pos solid, if_pos solid]
      · rw [if_neg solid, if_neg solid]
        cases left with
        | nil => simp [startsBlank, blank, words]
        | cons a left =>
            have same : startsBlank (a :: left ++ c :: right) = startsBlank (a :: left) := rfl
            rw [same]
            by_cases here : startsBlank (a :: left) = true
            · rw [if_pos here, if_pos here, List.cons_append]
            · rw [if_neg here, if_neg here]
              exact extendFirst_append (words_cons_ne_nil (Bool.eq_false_iff.2 here) left) b _

theorem words_of_isWord {word : List Char} (one : IsWord word) : words word = [word] := by
  obtain ⟨nonempty, solid⟩ := one
  induction word with
  | nil => exact absurd rfl nonempty
  | cons c rest ih =>
      obtain ⟨here, later⟩ := List.forall_mem_cons.1 solid
      rw [words, if_neg (by simp [here])]
      cases rest with
      | nil => rfl
      | cons b rest =>
          have notBlank : startsBlank (b :: rest) = false := later b List.mem_cons_self
          rw [notBlank, ih (List.cons_ne_nil b rest) later]
          rfl

/-- Words written with one space between them are read back. -/
theorem words_intercalate {pieces : List (List Char)} (one : ∀ piece ∈ pieces, IsWord piece) :
    words ([' '].intercalate pieces) = pieces := by
  induction pieces with
  | nil => rfl
  | cons piece rest ih =>
      obtain ⟨here, later⟩ := List.forall_mem_cons.1 one
      cases rest with
      | nil => rw [List.intercalate_singleton, words_of_isWord here]
      | cons next rest =>
          rw [List.intercalate_cons_cons, List.append_assoc, List.singleton_append,
            words_append_blank isBlank_space, words_of_isWord here, ih later]
          rfl

/-- The words of a text are what stands between its blanks, where something does. -/
theorem words_eq_filter_splitOnP (text : List Char) :
    words text = (text.splitOnP isBlank).filter fun piece => !piece.isEmpty := by
  induction text with
  | nil => rfl
  | cons c rest ih =>
      rw [List.splitOnP_cons_eq_if_modifyHead]
      by_cases blank : isBlank c = true
      · rw [words_cons_blank blank, ih, if_pos blank]
        rfl
      · rw [words, if_neg blank, ih, if_neg blank]
        cases rest with
        | nil => rfl
        | cons b rest =>
            rw [List.splitOnP_cons_eq_if_modifyHead, startsBlank]
            by_cases next : isBlank b = true
            · rw [if_pos next, if_pos next]
              rfl
            · obtain ⟨piece, pieces, shape⟩ :=
                List.exists_cons_of_ne_nil (List.splitOnP_ne_nil isBlank rest)
              rw [if_neg next, if_neg next, shape]
              rfl

/-! ## Single spaces -/

/-- Text with single spaces for blanks, each between two characters that are not blank. -/
structure SingleSpaced (text : List Char) : Prop where
  space : ∀ c ∈ text, isBlank c = true → c = ' '
  single : text.IsChain fun b c => isBlank b = true → isBlank c = false
  starts : ∀ c ∈ text.head?, isBlank c = false
  ends : ∀ c ∈ text.getLast?, isBlank c = false

instance (text : List Char) : Decidable (SingleSpaced text) :=
  haveI : Decidable (∀ c ∈ text, isBlank c = true → c = ' ') := List.decidableBAll _ text
  haveI (end_ : Option Char) : Decidable (∀ c ∈ end_, isBlank c = false) :=
    Option.decidableForallMem end_
  decidable_of_iff ((∀ c ∈ text, isBlank c = true → c = ' ') ∧
      text.IsChain (fun b c => isBlank b = true → isBlank c = false) ∧
      (∀ c ∈ text.head?, isBlank c = false) ∧ ∀ c ∈ text.getLast?, isBlank c = false)
    ⟨fun ⟨space, single, starts, ends⟩ => ⟨space, single, starts, ends⟩,
      fun ⟨space, single, starts, ends⟩ => ⟨space, single, starts, ends⟩⟩

theorem intercalate_extendFirst {pieces : List (List Char)} (some_ : pieces ≠ []) (c : Char) :
    [' '].intercalate (extendFirst c pieces) = c :: [' '].intercalate pieces := by
  cases pieces with
  | nil => exact absurd rfl some_
  | cons piece rest => cases rest <;> simp [List.intercalate_cons_cons]

theorem SingleSpaced.of_append (left : List Char) {c : Char} {right : List Char}
    (spaced : SingleSpaced (left ++ c :: right)) (solid : isBlank c = false) :
    SingleSpaced (c :: right) where
  space := fun d member => spaced.space d (List.mem_append_right left member)
  single := spaced.single.right_of_append
  starts := fun d first => Option.some.inj first ▸ solid
  ends := by
    intro d last
    apply spaced.ends
    rwa [List.getLast?_append_of_ne_nil _ (List.cons_ne_nil c right)]

/-- Text with single spaces is its words with one space between them. -/
theorem intercalate_words : ∀ {text : List Char}, SingleSpaced text →
    [' '].intercalate (words text) = text
  | [], _ => rfl
  | [c], spaced => by
      have solid : isBlank c = false := spaced.starts c rfl
      simp [words, solid, startsBlank]
  | c :: b :: rest, spaced => by
      have solid : isBlank c = false := spaced.starts c rfl
      by_cases blank : isBlank b = true
      · have space : b = ' ' := spaced.space b (by simp) blank
        subst space
        cases rest with
        | nil => exact absurd (spaced.ends ' ' rfl) (by simp [blank])
        | cons d rest =>
            have next : isBlank d = false := (List.isChain_cons_cons.1 spaced.single).2.rel blank
            have ih := intercalate_words (spaced.of_append [c, ' '] next)
            have parted : words (c :: ' ' :: d :: rest) = [c] :: words (d :: rest) := by
              rw [words, if_neg (by simp [solid]), startsBlank, if_pos blank, words_cons_blank blank]
            cases found : words (d :: rest) with
            | nil => exact absurd found (words_cons_ne_nil next rest)
            | cons piece pieces =>
                rw [parted, found, List.intercalate_cons_cons, ← found, ih]
                rfl
      · have next : isBlank b = false := by simpa using blank
        have ih := intercalate_words (spaced.of_append [c] next)
        rw [words, if_neg (by simp [solid]), startsBlank, if_neg blank,
          intercalate_extendFirst (words_cons_ne_nil next rest), ih]

/-! ## Trimming -/

theorem trimStart_cons_blank {c : Char} (blank : isBlank c = true) (rest : List Char) :
    trimStart (c :: rest) = trimStart rest :=
  List.dropWhile_cons_of_pos blank

theorem trimStart_cons {c : Char} (solid : isBlank c = false) (rest : List Char) :
    trimStart (c :: rest) = c :: rest :=
  List.dropWhile_cons_of_neg (by simp [solid])

theorem trimStart_of_head {text : List Char} (solid : ∀ c ∈ text.head?, isBlank c = false) :
    trimStart text = text := by
  cases text with
  | nil => rfl
  | cons c rest => exact trimStart_cons (solid c rfl) rest

/-- The end of a text is trimmed as its start is, from the other side. -/
theorem trimEnd_eq_reverse (text : List Char) : trimEnd text = (trimStart text.reverse).reverse := rfl

theorem trimEnd_of_getLast {text : List Char} (solid : ∀ c ∈ text.getLast?, isBlank c = false) :
    trimEnd text = text := by
  rw [trimEnd_eq_reverse, trimStart_of_head (by rwa [List.head?_reverse]), List.reverse_reverse]

theorem SingleSpaced.trim_eq {text : List Char} (spaced : SingleSpaced text) : trim text = text := by
  rw [trim, trimStart_of_head spaced.starts, trimEnd_of_getLast spaced.ends]

theorem head?_trimStart (text : List Char) : ∀ c ∈ (trimStart text).head?, isBlank c = false := by
  intro c first
  have solid := List.head?_dropWhile_not isBlank text
  rwa [← trimStart, Option.mem_def.1 first] at solid

theorem getLast?_trimEnd (text : List Char) :
    ∀ c ∈ (trimEnd text).getLast?, isBlank c = false := by
  rw [trimEnd_eq_reverse, List.getLast?_reverse]
  exact head?_trimStart text.reverse

/-- What trimming takes from the end of a text is blank. -/
theorem exists_trimEnd_append (text : List Char) :
    ∃ blanks, (∀ c ∈ blanks, isBlank c = true) ∧ trimEnd text ++ blanks = text :=
  ⟨text.rtakeWhile isBlank, fun _ => List.mem_rtakeWhile_imp, List.rdropWhile_append_rtakeWhile⟩

theorem head?_trimEnd {text : List Char} {c : Char} (first : c ∈ (trimEnd text).head?) :
    c ∈ text.head? := by
  obtain ⟨blanks, -, whole⟩ := exists_trimEnd_append text
  rw [← whole, List.head?_append, Option.mem_def.1 first]
  rfl

theorem trimEnd_append (left right : List Char) :
    trimEnd (left ++ right) =
      if trimEnd right = [] then trimEnd left else left ++ trimEnd right := by
  simp only [trimEnd, List.reverse_append, List.dropWhile_append, List.isEmpty_iff,
    List.reverse_eq_nil_iff]
  split
  · rfl
  · rw [List.reverse_append, List.reverse_reverse]

theorem trimEnd_eq_nil_iff {text : List Char} : trimEnd text = [] ↔ ∀ c ∈ text, isBlank c = true :=
  List.rdropWhile_eq_nil_iff

theorem trimEnd_append_blanks {blanks : List Char} (all : ∀ c ∈ blanks, isBlank c = true)
    (text : List Char) : trimEnd (text ++ blanks) = trimEnd text := by
  rw [trimEnd_append, if_pos (trimEnd_eq_nil_iff.2 all)]

theorem trimEnd_cons {c : Char} (solid : isBlank c = false) (rest : List Char) :
    trimEnd (c :: rest) = c :: trimEnd rest := by
  have alone : trimEnd [c] = [c] := trimEnd_of_getLast (by simpa using solid)
  rw [← List.singleton_append, trimEnd_append, alone]
  split
  · rename_i none_
    rw [none_]
  · rfl

/-- Trimming may start at either end. -/
theorem trim_eq_trimStart_trimEnd (text : List Char) : trim text = trimStart (trimEnd text) := by
  rw [trim]
  induction text with
  | nil => rfl
  | cons c rest ih =>
      by_cases blank : isBlank c = true
      · have alone : trimEnd [c] = [] := trimEnd_eq_nil_iff.2 (by simpa using blank)
        rw [trimStart_cons_blank blank, ih, ← List.singleton_append, trimEnd_append, alone]
        split
        · rename_i none_
          rw [none_]
        · exact (trimStart_cons_blank blank _).symm
      · have solid : isBlank c = false := Bool.eq_false_iff.2 blank
        rw [trimStart_cons solid, trimEnd_cons solid, trimStart_cons solid]

/-- Trimming looks at nothing but which characters are blank. -/
theorem trim_map {f : Char → Char} (kept : ∀ c, isBlank (f c) = isBlank c) (text : List Char) :
    trim (text.map f) = (trim text).map f := by
  have same : isBlank ∘ f = isBlank := funext kept
  simp only [trim, trimEnd, trimStart, ← List.map_reverse, List.dropWhile_map, same]

theorem trim_sublist (text : List Char) : (trim text).Sublist text :=
  (List.rdropWhile_prefix isBlank _).sublist.trans (List.dropWhile_suffix isBlank).sublist

theorem trim_trim (text : List Char) : trim (trim text) = trim text := by
  have starts : ∀ c ∈ (trim text).head?, isBlank c = false := fun c first =>
    head?_trimStart text c (head?_trimEnd first)
  rw [trim, trimStart_of_head starts]
  exact trimEnd_of_getLast (getLast?_trimEnd (trimStart text))

theorem trimmed_trimmed (text : String) : trimmed (trimmed text) = trimmed text := by
  rw [trimmed, trimmed, String.toList_ofList, trim_trim]

theorem words_of_blanks {blanks : List Char} (all : ∀ c ∈ blanks, isBlank c = true) :
    words blanks = [] := by
  induction blanks with
  | nil => rfl
  | cons c rest ih =>
      obtain ⟨here, later⟩ := List.forall_mem_cons.1 all
      rw [words_cons_blank here, ih later]

theorem words_eq_nil_iff {text : List Char} : words text = [] ↔ ∀ c ∈ text, isBlank c = true := by
  refine ⟨fun none_ => ?_, words_of_blanks⟩
  induction text with
  | nil => simp
  | cons c rest ih =>
      by_cases blank : isBlank c = true
      · rw [words_cons_blank blank] at none_
        exact List.forall_mem_cons.2 ⟨blank, ih none_⟩
      · exact absurd none_ (words_cons_ne_nil (Bool.eq_false_iff.2 blank) rest)

theorem words_trimEnd (text : List Char) : words (trimEnd text) = words text := by
  obtain ⟨blanks, all, whole⟩ := exists_trimEnd_append text
  cases blanks with
  | nil =>
      rw [List.append_nil] at whole
      rw [whole]
  | cons c blanks =>
      obtain ⟨here, later⟩ := List.forall_mem_cons.1 all
      have parted := words_append_blank here (trimEnd text) blanks
      rw [whole, words_of_blanks later, List.append_nil] at parted
      exact parted.symm

/-! ## Words in a line -/

theorem startsBlank_append {word : List Char} (one : IsWord word) (rest : List Char) :
    startsBlank (word ++ rest) = false := by
  cases word with
  | nil => exact absurd rfl one.nonempty
  | cons c word => exact one.solid c List.mem_cons_self

/-- Words with one space between them start with the first of them. -/
theorem startsBlank_intercalate {pieces : List (List Char)} (one : ∀ piece ∈ pieces, IsWord piece) :
    startsBlank ([' '].intercalate pieces) = false := by
  cases pieces with
  | nil => rfl
  | cons piece rest =>
      have first := one piece List.mem_cons_self
      cases rest with
      | nil => simpa using startsBlank_append first []
      | cons next rest =>
          rw [List.intercalate_cons_cons, List.append_assoc]
          exact startsBlank_append first _

theorem collapse_append {word : List Char} (solid : ∀ c ∈ word, isBlank c = false)
    (rest : List Char) : collapse (word ++ rest) = word ++ collapse rest := by
  induction word with
  | nil => rfl
  | cons c word ih =>
      obtain ⟨here, later⟩ := List.forall_mem_cons.1 solid
      rw [List.cons_append, collapse, if_neg (by simp [here]), ih later]
      rfl

theorem intercalate_ne_nil {piece : List Char} (one : IsWord piece) (pieces : List (List Char)) :
    [' '].intercalate (piece :: pieces) ≠ [] := by
  have := one.nonempty
  cases pieces <;> simp [List.intercalate_cons_cons, this]

/-- The last character of words with one space between them is that of a word. -/
theorem getLast?_intercalate {pieces : List (List Char)} (one : ∀ piece ∈ pieces, IsWord piece) :
    ∀ c ∈ ([' '].intercalate pieces).getLast?, isBlank c = false := by
  induction pieces with
  | nil => simp
  | cons piece rest ih =>
      obtain ⟨here, later⟩ := List.forall_mem_cons.1 one
      cases rest with
      | nil =>
          rw [List.intercalate_singleton]
          exact fun c last => here.solid c (List.mem_of_getLast? last)
      | cons next rest =>
          intro c last
          have nonempty := intercalate_ne_nil (later next List.mem_cons_self) rest
          rw [List.intercalate_cons_cons, List.getLast?_append_of_ne_nil _ nonempty] at last
          exact ih later c last

/-- A character of words with one space between them is that space or is in a word. -/
theorem mem_intercalate {c : Char} {words : List (List Char)}
    (member : c ∈ [' '].intercalate words) : c = ' ' ∨ ∃ word ∈ words, c ∈ word := by
  induction words with
  | nil => simp at member
  | cons word rest ih =>
      cases rest with
      | nil =>
          rw [List.intercalate_singleton] at member
          exact .inr ⟨word, List.mem_cons_self, member⟩
      | cons next rest =>
          rw [List.intercalate_cons_cons, List.mem_append, List.mem_append,
            List.mem_singleton] at member
          rcases member with (inWord | space) | later
          · exact .inr ⟨word, List.mem_cons_self, inWord⟩
          · exact .inl space
          · rcases ih later with space | ⟨other, member, inOther⟩
            · exact .inl space
            · exact .inr ⟨other, List.mem_cons_of_mem _ member, inOther⟩

/-- Words with one space between them are single spaced. -/
theorem singleSpaced_intercalate {pieces : List (List Char)}
    (one : ∀ piece ∈ pieces, IsWord piece) : SingleSpaced ([' '].intercalate pieces) where
  space := by
    intro c member blank
    rcases mem_intercalate member with space | ⟨word, found, inside⟩
    · exact space
    · simp [(one word found).solid c inside] at blank
  single := by
    induction pieces with
    | nil => simp
    | cons piece rest ih =>
        obtain ⟨here, later⟩ := List.forall_mem_cons.1 one
        have solid : piece.IsChain fun b c => isBlank b = true → isBlank c = false := by
          apply List.Pairwise.isChain
          exact List.pairwise_of_forall_mem_list fun _ _ c member _ => here.solid c member
        cases rest with
        | nil => rwa [List.intercalate_singleton]
        | cons next rest =>
            have starts := startsBlank_intercalate later
            rw [List.intercalate_cons_cons, List.append_assoc, List.singleton_append,
              List.isChain_append, List.isChain_cons]
            refine ⟨solid, ⟨fun c first _ => ?_, ih later⟩, fun b last c _ blank => ?_⟩
            · obtain ⟨tail, shape⟩ := List.head?_eq_some_iff.1 first
              rwa [shape] at starts
            · simp [here.solid b (List.mem_of_getLast? last)] at blank
  starts := by
    intro c first
    obtain ⟨tail, shape⟩ := List.head?_eq_some_iff.1 first
    have starts := startsBlank_intercalate one
    rwa [shape] at starts
  ends := getLast?_intercalate one

/-- Trimming and collapsing leave words with one space between them as they are. -/
theorem collapse_trimEnd_intercalate {pieces : List (List Char)}
    (one : ∀ piece ∈ pieces, IsWord piece) :
    collapse (trimEnd ([' '].intercalate pieces)) = [' '].intercalate pieces := by
  rw [trimEnd_of_getLast (getLast?_intercalate one)]
  induction pieces with
  | nil => rfl
  | cons piece rest ih =>
      obtain ⟨here, later⟩ := List.forall_mem_cons.1 one
      cases rest with
      | nil => rw [List.intercalate_singleton, ← List.append_nil piece, collapse_append here.solid,
          collapse]
      | cons next rest =>
          rw [List.intercalate_cons_cons, List.append_assoc, collapse_append here.solid,
            List.singleton_append, collapse, if_pos isBlank_space, startsBlank_intercalate later,
            ih later]
          rfl

/-! ## Collapsing -/

theorem startsBlank_collapse (text : List Char) : startsBlank (collapse text) = startsBlank text := by
  induction text with
  | nil => rfl
  | cons c rest ih =>
      rw [collapse]
      split
      · rename_i blank
        split
        · rename_i more
          rw [ih, more]
          exact blank.symm
        · exact isBlank_space.trans blank.symm
      · rfl

theorem words_collapse (text : List Char) : words (collapse text) = words text := by
  induction text with
  | nil => rfl
  | cons c rest ih =>
      rw [collapse]
      split
      · rename_i blank
        rw [words_cons_blank blank]
        split
        · exact ih
        · rw [words_cons_blank isBlank_space, ih]
      · rw [words, words, ih, startsBlank_collapse]

/-- **Collapsed text is its words with one space between them** once its end is trimmed, with one
more space in front where the text starts blank. -/
theorem trimEnd_collapse (text : List Char) :
    trimEnd (collapse text) =
      (if startsBlank text && !(words text).isEmpty then [' '] else []) ++
        [' '].intercalate (words text) := by
  induction text with
  | nil => rfl
  | cons c rest ih =>
      rw [collapse]
      by_cases blank : isBlank c = true
      · have first : startsBlank (c :: rest) = true := blank
        rw [if_pos blank, words_cons_blank blank, first]
        by_cases more : startsBlank rest = true
        · rw [if_pos more, ih, more]
        · have space : trimEnd [' '] = [] := by decide
          rw [if_neg more, ← List.singleton_append, trimEnd_append, ih, space,
            Bool.eq_false_iff.2 more]
          cases found : words rest with
          | nil => simp
          | cons piece pieces =>
              have one : IsWord piece := isWord_of_mem_words (found ▸ List.mem_cons_self)
              simp [intercalate_ne_nil one pieces]
      · have solid : isBlank c = false := Bool.eq_false_iff.2 blank
        have first : startsBlank (c :: rest) = false := solid
        rw [if_neg blank, trimEnd_cons solid, ih, first, words, if_neg blank]
        cases startsBlank rest <;> cases words rest <;> simp [List.intercalate_cons_cons]

theorem collapse_ne_nil {text : List Char} (some_ : text ≠ []) : collapse text ≠ [] := by
  induction text with
  | nil => exact absurd rfl some_
  | cons c rest ih =>
      rw [collapse]
      split
      · split
        · rename_i more
          apply ih
          rintro rfl
          simp [startsBlank] at more
        · exact List.cons_ne_nil _ _
      · exact List.cons_ne_nil _ _

theorem startsBlank_trimEnd {text : List Char} (some_ : trimEnd text ≠ []) :
    startsBlank (trimEnd text) = startsBlank text := by
  obtain ⟨blanks, -, whole⟩ := exists_trimEnd_append text
  obtain ⟨c, rest, shape⟩ := List.exists_cons_of_ne_nil some_
  conv_rhs => rw [← whole, shape]
  rw [shape]
  rfl

/-- Trimming the end and collapsing may be done in either order. -/
theorem collapse_trimEnd (text : List Char) : collapse (trimEnd text) = trimEnd (collapse text) := by
  induction text with
  | nil => rfl
  | cons c rest ih =>
      rw [← List.singleton_append, trimEnd_append]
      by_cases gone : trimEnd rest = []
      · have gone' : trimEnd (collapse rest) = [] := by rw [← ih, gone, collapse]
        rw [if_pos gone, List.singleton_append, collapse]
        by_cases blank : isBlank c = true
        · have alone : trimEnd [c] = [] := trimEnd_eq_nil_iff.2 (by simpa using blank)
          have space : trimEnd [' '] = [] := by decide
          rw [if_pos blank, alone, collapse]
          split
          · exact gone'.symm
          · rw [← List.singleton_append, trimEnd_append, if_pos gone', space]
        · have solid : isBlank c = false := Bool.eq_false_iff.2 blank
          rw [if_neg blank, trimEnd_cons solid, trimEnd_cons solid, gone']
          simp [trimEnd, collapse, blank]
      · have gone' : trimEnd (collapse rest) ≠ [] := ih ▸ collapse_ne_nil gone
        have kept (d : Char) : trimEnd (d :: collapse rest) = d :: trimEnd (collapse rest) := by
          rw [← List.singleton_append, trimEnd_append, if_neg gone', List.singleton_append]
        rw [if_neg gone, List.singleton_append, List.singleton_append, collapse, collapse,
          startsBlank_trimEnd gone, ih]
        split_ifs
        · rfl
        · rw [kept]
        · rw [kept]

theorem trimStart_of_startsBlank {text : List Char} (solid : startsBlank text = false) :
    trimStart text = text := by
  apply trimStart_of_head
  intro c first
  obtain ⟨rest, rfl⟩ := List.head?_eq_some_iff.1 first
  exact solid

/-- Trimmed and collapsed, a text is its words with one space between them. -/
theorem trim_collapse (text : List Char) :
    trim (collapse text) = [' '].intercalate (words text) := by
  have starts := trimStart_of_startsBlank
    (startsBlank_intercalate fun piece (member : piece ∈ words text) => isWord_of_mem_words member)
  rw [trim_eq_trimStart_trimEnd, trimEnd_collapse]
  split
  · rw [List.singleton_append, trimStart_cons_blank isBlank_space, starts]
  · exact starts

/-! ## Lines -/

theorem lines_cons {c : Char} {rest : List Char} (notFeed : c ≠ '\n')
    (notReturn : c = '\r' → rest.head? ≠ some '\n') :
    lines (c :: rest) = extendFirst c (lines rest) := by
  rw [lines.eq_def]
  split
  · rename_i same
    cases same
  · rename_i same
    cases same
    exact absurd rfl notFeed
  · rename_i same
    cases same
    exact absurd rfl (notReturn rfl)
  · rename_i same
    cases same
    rfl

theorem forall_mem_lines {P : Char → Prop} {text : List Char} (all : ∀ c ∈ text, P c) :
    ∀ line ∈ lines text, ∀ c ∈ line, P c ∧ c ≠ '\n' := by
  fun_induction lines text with
  | case1 => simp
  | case2 rest ih =>
      exact List.forall_mem_cons.2 ⟨by simp, ih (List.forall_mem_cons.1 all).2⟩
  | case3 rest ih =>
      obtain ⟨-, later⟩ := List.forall_mem_cons.1 all
      exact List.forall_mem_cons.2 ⟨by simp, ih (List.forall_mem_cons.1 later).2⟩
  | case4 c rest notFeed _ ih =>
      obtain ⟨here, later⟩ := List.forall_mem_cons.1 all
      exact forall_mem_extendFirst ⟨here, notFeed⟩ (ih later)

/-- A line in front of a line feed is read back, unless it ends in a carriage return. -/
theorem lines_append_feed {line : List Char} (noFeed : '\n' ∉ line)
    (noReturn : line.getLast? ≠ some '\r') (rest : List Char) :
    lines (line ++ '\n' :: rest) = line :: lines rest := by
  induction line with
  | nil => rfl
  | cons c line ih =>
      obtain ⟨notFeed, noFeed⟩ := not_or.1 (mt List.mem_cons.2 noFeed)
      cases line with
      | nil =>
          have notReturn : c ≠ '\r' := fun same => noReturn (congrArg some same)
          rw [List.singleton_append, lines_cons (Ne.symm notFeed) fun same => absurd same notReturn]
          rfl
      | cons b line =>
          rw [List.getLast?_cons_cons] at noReturn
          rw [List.cons_append, lines_cons (Ne.symm notFeed), ih noFeed noReturn]
          · rfl
          · intro _ feed
            exact noFeed (List.mem_cons.2 (.inl (Option.some.inj feed).symm))

/-! ## Bytes -/

def bytes (text : String) : List UInt8 :=
  text.toUTF8.data.toList

theorem bytes_eq_flatMap (text : String) :
    bytes text = text.toList.flatMap String.utf8EncodeChar := by
  rw [bytes, String.toUTF8_eq_toByteArray, ← String.utf8Encode_toList, List.utf8Encode,
    List.data_toByteArray]

/-- The lower of two characters has the lower bytes, whatever comes behind them. -/
theorem utf8EncodeChar_lt {c d : Char} (below : c < d) (left right : List UInt8) :
    String.utf8EncodeChar c ++ left < String.utf8EncodeChar d ++ right := by
  have below : c.val.toNat < d.val.toNat := below
  have bound : d.val.toNat < 0x110000 := by
    rcases d.valid with low | ⟨-, high⟩
    · exact Nat.lt_trans low (by decide)
    · exact high
  -- All bytes but the first are digits to the base 64.
  have third (x : Nat) : x / 4096 = x / 64 / 64 := (Nat.div_div_eq_div_mul x 64 64).symm
  have fourth (x : Nat) : x / 262144 = x / 64 / 64 / 64 := by omega
  simp only [String.utf8EncodeChar]
  generalize c.val.toNat = m at *
  generalize d.val.toNat = n at *
  split_ifs <;>
    simp (disch := omega) only [List.cons_append, List.nil_append, List.cons_lt_cons_iff,
      UInt8.lt_iff_toNat_lt, ← UInt8.toNat_inj, UInt8.toNat_ofNat', Nat.mod_eq_of_lt, third,
      fourth] <;>
    omega

theorem flatMap_utf8EncodeChar_lt {left right : List Char} (below : left < right) :
    left.flatMap String.utf8EncodeChar < right.flatMap String.utf8EncodeChar := by
  induction below with
  | @nil c rest =>
      obtain ⟨byte, bytes, encoded⟩ :=
        List.exists_cons_of_ne_nil (String.utf8EncodeChar_ne_nil (c := c))
      rw [List.flatMap_nil, List.flatMap_cons, encoded]
      exact List.nil_lt_cons byte _
  | cons _ ih => exact List.append_left_lt ih
  | rel first => exact utf8EncodeChar_lt first _ _

/-- **The order of texts by code points is their order by bytes.** -/
theorem bytes_lt_bytes {text other : String} (below : text < other) : bytes text < bytes other := by
  rw [bytes_eq_flatMap, bytes_eq_flatMap]
  exact flatMap_utf8EncodeChar_lt below

end RandomSentences.Text
