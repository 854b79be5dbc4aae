/-
# Proofs.Tabs -- tabs written as spaces

A tab is deleted from its line before the line is parted at its blanks.  So a tab beside a blank, or
at either end of the line, is as good as a space, and so it is among other tabs and semicolons that
are deleted with it.  Only a tab *within a word* is not: what stands on its two sides is joined when
it goes, and a space in its place parts it (`PartsWord`).

Writing some tabs as spaces never makes a line have fewer words.  It has the same words when none of
these tabs is within a word (`words_bare_eq`), and more when one is (`length_words_bare_lt`), also
on the line that is the name: a name has one space less than it has words, and lower case neither
takes a space away nor brings one.  So a block defines the same exactly when its lines keep their
words (`entryIn?_eq_iff`), and a file has the same rules when all of its blocks do
(`Grammar.tabs_as_spaces`).
-/
import RandomSentences.Proofs.BlockName
import RandomSentences.Proofs.Rewritten

namespace RandomSentences

set_option autoImplicit false

open Text (isBlank lowerCase words)

namespace Text

/-! ## Texts that meet -/

def startsSolid (text : List Char) : Bool :=
  text.head?.any fun c => !isBlank c

def endsSolid (text : List Char) : Bool :=
  text.getLast?.any fun c => !isBlank c

theorem words_append_of_startsSolid {left right : List Char} (starts : startsSolid right = false) :
    words (left ++ right) = words left ++ words right := by
  cases right with
  | nil => simp [words]
  | cons c rest =>
      have blank : isBlank c = true := by simpa [startsSolid] using starts
      rw [words_append_blank blank, words_cons_blank blank]

theorem words_append_of_endsSolid {left right : List Char} (ends : endsSolid left = false) :
    words (left ++ right) = words left ++ words right := by
  rcases List.eq_nil_or_concat left with rfl | ⟨init, c, rfl⟩
  · rfl
  · have blank : isBlank c = true := by simpa [endsSolid] using ends
    rw [List.concat_eq_append, List.append_assoc, List.singleton_append, words_append_blank blank,
      words_append_blank blank, words, List.append_nil]

theorem endsSolid_append (left : List Char) {right : List Char} (ends : endsSolid right = true) :
    endsSolid (left ++ right) = true := by
  rw [endsSolid, List.getLast?_append]
  cases last : right.getLast? with
  | none => simp [endsSolid, last] at ends
  | some c => simpa [endsSolid, last] using ends

/-- One more word ends at a character that is not blank if none goes on behind it. -/
theorem length_words_cons (c : Char) (rest : List Char) :
    (words (c :: rest)).length =
      (words rest).length + if isBlank c = false ∧ startsSolid rest = false then 1 else 0 := by
  rw [words]
  by_cases blank : isBlank c = true
  · simp [blank]
  · cases rest with
    | nil => simp [blank, startsBlank, startsSolid, words]
    | cons b rest =>
        by_cases next : isBlank b = true
        · simp [blank, startsBlank, startsSolid, next]
        · have some_ := words_cons_ne_nil (Bool.eq_false_of_not_eq_true next) rest
          obtain ⟨word, others, found⟩ := List.exists_cons_of_ne_nil some_
          simp [blank, startsBlank, startsSolid, next, found]

/-- Where two texts meet within a word, that word is one and not two. -/
theorem length_words_append_of_solid {left right : List Char} (ends : endsSolid left = true)
    (starts : startsSolid right = true) :
    (words (left ++ right)).length + 1 = (words left).length + (words right).length := by
  induction left with
  | nil => simp [endsSolid] at ends
  | cons c rest ih =>
      cases rest with
      | nil =>
          have solid : isBlank c = false := by simpa [endsSolid] using ends
          have one : (words [c]).length = 1 := by simp [words, solid, startsBlank]
          rw [List.singleton_append, length_words_cons, one, if_neg (by simp [starts])]
          omega
      | cons b rest =>
          have ih := ih (by simpa [endsSolid] using ends)
          have same : startsSolid (b :: rest ++ right) = startsSolid (b :: rest) := rfl
          rw [List.cons_append, length_words_cons, same, length_words_cons c (b :: rest)]
          omega

theorem length_words_append_le (left right : List Char) :
    (words (left ++ right)).length ≤ (words left).length + (words right).length := by
  by_cases ends : endsSolid left = true
  · by_cases starts : startsSolid right = true
    · have := length_words_append_of_solid ends starts
      omega
    · rw [words_append_of_startsSolid (Bool.eq_false_of_not_eq_true starts), List.length_append]
  · rw [words_append_of_endsSolid (Bool.eq_false_of_not_eq_true ends), List.length_append]

/-! ## Spaces -/

theorem count_space_lowerAt (afterCased : Bool) (c : Char) (rest : List Char) :
    (lowerAt afterCased c rest).count ' ' = [c].count ' ' := by
  have kept : lowerChar ' ' = ' ' := by decide +kernel
  rw [lowerAt]
  split_ifs with dotted sigma final
  · simp [dotted]
  · simp [sigma]
  · simp [sigma]
  · by_cases space : c = ' '
    · rw [space, kept]
    · have other : lowerChar c ≠ ' ' := by
        rcases lowerChar_eq_or_mem c with same | written
        · rwa [same]
        · intro same
          have solid := (isLower_of_mem_lowerCodes written).2
          rw [same, isBlank_space] at solid
          cases solid
      simp [space, other]

/-- Lower case leaves every space and writes no other. -/
theorem count_space_lowerFrom (afterCased : Bool) (text : List Char) :
    (lowerFrom afterCased text).count ' ' = text.count ' ' := by
  induction text generalizing afterCased with
  | nil => rfl
  | cons c rest ih =>
      rw [lowerFrom, List.count_append, ih, count_space_lowerAt, ← List.count_append,
        List.singleton_append]

theorem count_space_of_isWord {word : List Char} (one : IsWord word) : word.count ' ' = 0 := by
  refine List.count_eq_zero.2 fun space => ?_
  have solid := one.solid ' ' space
  rw [isBlank_space] at solid
  cases solid

/-- There is one space less than there are words. -/
theorem count_space_intercalate {word : List Char} {others : List (List Char)}
    (one : ∀ piece ∈ word :: others, IsWord piece) :
    ([' '].intercalate (word :: others)).count ' ' = others.length := by
  induction others generalizing word with
  | nil => simpa using count_space_of_isWord (one word List.mem_cons_self)
  | cons next others ih =>
      obtain ⟨here, later⟩ := List.forall_mem_cons.1 one
      rw [List.intercalate_cons_cons, List.count_append, List.count_append, ih later,
        count_space_of_isWord here, List.length_cons]
      simp
      omega

end Text

open Text (endsSolid startsSolid)

namespace GrammarFile

/-! ## Tabs written as spaces -/

/-- A character as it is, or a space for a tab. -/
def WritesTab (c : Char) (piece : List Char) : Prop :=
  piece = [c] ∨ (c = '\t' ∧ piece = [' '])

/-- Is the other text the text with a space in place of some of its tabs? -/
abbrev Respaced (text other : List Char) : Prop := Rewritten WritesTab text other

theorem respaced_cons_iff {c : Char} {text other : List Char} :
    Respaced (c :: text) other ↔
      ∃ d behind, other = d :: behind ∧ (d = c ∨ (c = '\t' ∧ d = ' ')) ∧ Respaced text behind := by
  constructor
  · rintro (_ | ⟨here, behind⟩)
    rcases here with rfl | ⟨rfl, rfl⟩
    · exact ⟨c, _, rfl, .inl rfl, behind⟩
    · exact ⟨' ', _, rfl, .inr ⟨rfl, rfl⟩, behind⟩
  · rintro ⟨d, behind, rfl, rfl | ⟨rfl, rfl⟩, later⟩
    · exact .cons (.inl rfl) later
    · exact .cons (.inr ⟨rfl, rfl⟩) later

theorem respaced_cons_cons_iff {c d : Char} {text other : List Char} :
    Respaced (c :: text) (d :: other) ↔ (d = c ∨ (c = '\t' ∧ d = ' ')) ∧ Respaced text other := by
  rw [respaced_cons_iff]
  constructor
  · rintro ⟨e, behind, same, here, later⟩
    obtain ⟨rfl, rfl⟩ := List.cons.inj same
    exact ⟨here, later⟩
  · rintro ⟨here, later⟩
    exact ⟨d, other, rfl, here, later⟩

theorem eq_nil_iff_of_respaced {text other : List Char} (respaced : Respaced text other) :
    text = [] ↔ other = [] := by
  cases text with
  | nil =>
      cases respaced
      rfl
  | cons c rest =>
      obtain ⟨d, behind, rfl, -, -⟩ := respaced_cons_iff.1 respaced
      simp

instance respacedDecidable : (text other : List Char) → Decidable (Respaced text other)
  | [], [] => isTrue .nil
  | [], _ :: _ => isFalse fun respaced => by simpa using eq_nil_iff_of_respaced respaced
  | _ :: _, [] => isFalse fun respaced => by simpa using eq_nil_iff_of_respaced respaced
  | _ :: text, _ :: other =>
      haveI := respacedDecidable text other
      decidable_of_iff _ respaced_cons_cons_iff.symm

theorem keepsBraces_writesTab : KeepsBraces WritesTab where
  opening := by
    rintro piece (rfl | ⟨tab, -⟩)
    · rfl
    · exact absurd tab (by decide)
  closing := by
    rintro piece (rfl | ⟨tab, -⟩)
    · rfl
    · exact absurd tab (by decide)
  unopened := by
    rintro c piece (rfl | ⟨-, rfl⟩) other
    · simpa using other.symm
    · decide
  unclosed := by
    rintro c piece (rfl | ⟨-, rfl⟩) other
    · simpa using other.symm
    · decide

/-- Behind what was read of a line, does the line have a tab, with a space in its place on the other
line, that is within a word once the line is bare? -/
def PartsWordBehind (read line other : List Char) : Prop :=
  ∃ left right left' right', line = left ++ '\t' :: right ∧ other = left' ++ ' ' :: right' ∧
    Respaced left left' ∧ Respaced right right' ∧
    endsSolid (read ++ bare left) = true ∧ startsSolid (bare right) = true

/-- Does the line have a tab, with a space in its place on the other line, that is within a word once
the line is bare? -/
def PartsWord (line other : List Char) : Prop := PartsWordBehind [] line other

theorem bare_cons (c : Char) (rest : List Char) : bare (c :: rest) = bare [c] ++ bare rest :=
  List.filter_append [c] rest

theorem bare_append_tab (left right : List Char) :
    bare (left ++ '\t' :: right) = bare left ++ bare right :=
  List.filter_append left ('\t' :: right)

theorem bare_append_space (left right : List Char) :
    bare (left ++ ' ' :: right) = bare left ++ ' ' :: bare right :=
  List.filter_append left (' ' :: right)

theorem PartsWordBehind.cons {read line other : List Char} {c : Char}
    (parts : PartsWordBehind (read ++ bare [c]) line other) :
    PartsWordBehind read (c :: line) (c :: other) := by
  obtain ⟨left, right, left', right', rfl, rfl, before, behind, ends, starts⟩ := parts
  refine ⟨c :: left, right, c :: left', right', rfl, rfl, .cons (.inl rfl) before, behind, ?_, starts⟩
  rwa [bare_cons, ← List.append_assoc]

theorem PartsWordBehind.cons_tab {line other : List Char} (parts : PartsWordBehind [] line other)
    (read : List Char) : PartsWordBehind read ('\t' :: line) (' ' :: other) := by
  obtain ⟨left, right, left', right', rfl, rfl, before, behind, ends, starts⟩ := parts
  exact ⟨'\t' :: left, right, ' ' :: left', right', rfl, rfl, .cons (.inr ⟨rfl, rfl⟩) before, behind,
    Text.endsSolid_append read ends, starts⟩

/-! ## The words of a line -/

/-- A bare line has no fewer words when some of its tabs are written as spaces. -/
theorem length_words_bare_le {line other : List Char} (respaced : Respaced line other)
    (read : List Char) :
    (words (read ++ bare line)).length ≤ (words (read ++ bare other)).length := by
  induction respaced generalizing read with
  | nil => exact le_rfl
  | @cons c piece line other here _ ih =>
      rcases here with rfl | ⟨rfl, rfl⟩
      · rw [List.singleton_append, bare_cons, bare_cons c other, ← List.append_assoc,
          ← List.append_assoc]
        exact ih (read ++ bare [c])
      · have meet := Text.length_words_append_le read (bare line)
        have later : (words (bare line)).length ≤ (words (bare other)).length := ih []
        have parted := Text.words_append_blank Text.isBlank_space read (bare other)
        change (words (read ++ bare line)).length ≤ (words (read ++ ' ' :: bare other)).length
        rw [parted, List.length_append]
        omega

/-- Where no tab that is written as a space is within a word, the words stay. -/
theorem words_bare_eq {line other : List Char} (respaced : Respaced line other) {read : List Char}
    (keeps : ¬PartsWordBehind read line other) :
    words (read ++ bare other) = words (read ++ bare line) := by
  induction respaced generalizing read with
  | nil => rfl
  | @cons c piece line other here behind ih =>
      rcases here with rfl | ⟨rfl, rfl⟩
      · rw [List.singleton_append, bare_cons, bare_cons c line, ← List.append_assoc,
          ← List.append_assoc]
        exact ih fun parts => keeps parts.cons
      · have later : words (bare other) = words (bare line) :=
          ih fun parts => keeps (parts.cons_tab read)
        have meet : words (read ++ bare line) = words read ++ words (bare line) := by
          by_cases ends : endsSolid read = true
          · have starts : ¬startsSolid (bare line) = true := fun starts =>
              keeps ⟨[], line, [], other, rfl, rfl, .nil, behind, by simpa [bare] using ends, starts⟩
            exact Text.words_append_of_startsSolid (Bool.eq_false_of_not_eq_true starts)
          · exact Text.words_append_of_endsSolid (Bool.eq_false_of_not_eq_true ends)
        change words (read ++ ' ' :: bare other) = words (read ++ bare line)
        rw [Text.words_append_blank Text.isBlank_space, later, meet]

/-- A tab within a word joins what a space in its place parts. -/
theorem length_words_bare_lt {line other : List Char} (parts : PartsWord line other) :
    (words (bare line)).length < (words (bare other)).length := by
  obtain ⟨left, right, left', right', rfl, rfl, before, behind, ends, starts⟩ := parts
  have joined := Text.length_words_append_of_solid ends starts
  have first : (words (bare left)).length ≤ (words (bare left')).length :=
    length_words_bare_le before []
  have second : (words (bare right)).length ≤ (words (bare right')).length :=
    length_words_bare_le behind []
  rw [List.nil_append] at joined
  rw [bare_append_tab, bare_append_space, Text.words_append_blank Text.isBlank_space,
    List.length_append]
  omega

theorem not_partsWord_of_length {line other : List Char}
    (same : (wordsOn other).length = (wordsOn line).length) : ¬PartsWord line other := by
  intro parts
  have more := length_words_bare_lt parts
  rw [wordsOn_eq_words, wordsOn_eq_words] at same
  omega

/-- **A line keeps its words exactly when no tab that is written as a space is within a word.** -/
theorem wordsOn_eq_iff {line other : List Char} (respaced : Respaced line other) :
    wordsOn other = wordsOn line ↔ ¬PartsWord line other := by
  refine ⟨fun same => not_partsWord_of_length (congrArg List.length same), fun keeps => ?_⟩
  rw [wordsOn_eq_words, wordsOn_eq_words]
  exact words_bare_eq respaced keeps

theorem length_wordsOn {line : List Char} (worded : HasWord line) :
    (wordsOn line).length = (nameOn line).toList.count ' ' + 1 := by
  obtain ⟨word, others, found⟩ := List.exists_cons_of_ne_nil (hasWord_iff.1 worded)
  have one : ∀ piece ∈ word :: others, Text.IsWord piece := by
    rw [← found]
    exact fun _ => isWord_of_mem_wordsOn
  rw [toList_nameOn, lowerCase, Text.count_space_lowerFrom, found, Text.count_space_intercalate one,
    List.length_cons]

/-- Lines with the same name on them have equally many words. -/
theorem length_wordsOn_of_nameOn {line other : List Char} (same : nameOn line = nameOn other) :
    (wordsOn line).length = (wordsOn other).length := by
  by_cases worded : HasWord line
  · have worded' : HasWord other := by
      by_contra none_
      rw [nameOn_eq_empty_iff.2 none_] at same
      exact nameOn_eq_empty_iff.1 same worded
    rw [length_wordsOn worded, length_wordsOn worded', same]
  · have worded' : ¬HasWord other := nameOn_eq_empty_iff.1 (same ▸ nameOn_eq_empty_iff.2 worded)
    rw [not_not.1 (mt hasWord_iff.2 worded), not_not.1 (mt hasWord_iff.2 worded')]

theorem nameOn_eq_iff {line other : List Char} (respaced : Respaced line other) :
    nameOn other = nameOn line ↔ ¬PartsWord line other := by
  refine ⟨fun same => not_partsWord_of_length (length_wordsOn_of_nameOn same), fun keeps => ?_⟩
  rw [← String.toList_inj, toList_nameOn, toList_nameOn, (wordsOn_eq_iff respaced).2 keeps]

theorem productionOf_eq_iff {line other : List Char} (respaced : Respaced line other) :
    productionOf other = productionOf line ↔ ¬PartsWord line other := by
  have tokens (line : List Char) : productionOf line = (wordsOn line).map tokenOf := rfl
  rw [tokens, tokens]
  refine ⟨fun same => not_partsWord_of_length ?_, fun keeps => ?_⟩
  · simpa using congrArg List.length same
  · rw [(wordsOn_eq_iff respaced).2 keeps]

/-! ## Lines and blocks -/

theorem forall₂_extendFirst {c d : Char} (here : d = c ∨ (c = '\t' ∧ d = ' '))
    {pieces others : List (List Char)} (behind : List.Forall₂ Respaced pieces others) :
    List.Forall₂ Respaced (Text.extendFirst c pieces) (Text.extendFirst d others) := by
  cases behind with
  | nil => exact .cons (respaced_cons_iff.2 ⟨d, [], rfl, here, .nil⟩) .nil
  | cons first later => exact .cons (respaced_cons_iff.2 ⟨d, _, rfl, here, first⟩) later

theorem feed_of_respaced {text other : List Char} (respaced : Respaced text other)
    (feed : other.head? = some '\n') : ∃ rest, text = '\n' :: rest := by
  cases text with
  | nil =>
      cases respaced
      cases feed
  | cons c rest =>
      obtain ⟨d, behind, rfl, rfl | ⟨-, rfl⟩, -⟩ := respaced_cons_iff.1 respaced
      · exact ⟨rest, by rw [Option.some.inj feed]⟩
      · exact absurd (Option.some.inj feed) (by decide)

/-- Lines end at the same places whether tabs are written as spaces or not. -/
theorem forall₂_lines {text other : List Char} (respaced : Respaced text other) :
    List.Forall₂ Respaced (Text.lines text) (Text.lines other) := by
  fun_induction Text.lines text generalizing other with
  | case1 =>
      cases respaced
      exact .nil
  | case2 rest ih =>
      obtain ⟨d, behind, rfl, rfl | ⟨tab, -⟩, later⟩ := respaced_cons_iff.1 respaced
      · exact .cons .nil (ih later)
      · exact absurd tab (by decide)
  | case3 rest ih =>
      obtain ⟨d, behind, rfl, rfl | ⟨tab, -⟩, later⟩ := respaced_cons_iff.1 respaced
      · obtain ⟨e, rest', rfl, rfl | ⟨tab, -⟩, last⟩ := respaced_cons_iff.1 later
        · exact .cons .nil (ih last)
        · exact absurd tab (by decide)
      · exact absurd tab (by decide)
  | case4 c rest notFeed notReturn ih =>
      obtain ⟨d, behind, rfl, here, later⟩ := respaced_cons_iff.1 respaced
      have notFeed' : d ≠ '\n' := by
        rcases here with rfl | ⟨-, rfl⟩
        · exact notFeed
        · decide
      have notReturn' : d = '\r' → behind.head? ≠ some '\n' := by
        rintro rfl feed
        obtain ⟨tail, shape⟩ := feed_of_respaced later feed
        rcases here with same | ⟨-, space⟩
        · exact notReturn tail same.symm shape
        · exact absurd space (by decide)
      rw [Text.lines_cons notFeed' notReturn']
      exact forall₂_extendFirst here (ih later)

theorem forall₂_writtenLines {body other : String} (respaced : Respaced body.toList other.toList) :
    List.Forall₂ Respaced (writtenLines body) (writtenLines other) := by
  apply List.rel_filter _ (forall₂_lines respaced)
  intro line line' same
  simp [eq_nil_iff_of_respaced same]

/-- Where it is told of each pair whether its images are equal, it is told of the lists. -/
theorem map_eq_iff_forall₂ {α β : Type} {Related Same : α → α → Prop} {f : α → β}
    (same_iff : ∀ a b, Related a b → (f b = f a ↔ Same a b)) {list other : List α}
    (related : List.Forall₂ Related list other) :
    other.map f = list.map f ↔ List.Forall₂ Same list other := by
  induction related with
  | nil => simp
  | cons here _ ih => rw [List.map_cons, List.map_cons, List.cons.injEq, same_iff _ _ here, ih,
      List.forall₂_cons]

/-- Is no tab that is written as a space within a word of a line that is read? -/
def KeepsWords (text other : String) : Prop :=
  List.Forall₂ (fun body body' =>
    List.Forall₂ (fun line line' => ¬PartsWord line line') (writtenLines body) (writtenLines body'))
    (blocks text) (blocks other)

/-- **A block defines the same exactly when its lines keep their words.** -/
theorem entryIn?_eq_iff {body other : String} (respaced : Respaced body.toList other.toList) :
    entryIn? other = entryIn? body ↔
      List.Forall₂ (fun line line' => ¬PartsWord line line') (writtenLines body)
        (writtenLines other) := by
  have related := forall₂_writtenLines respaced
  rw [entryIn?, entryIn?, definedName?, definedName?, productionsIn, productionsIn]
  generalize writtenLines body = lines at related ⊢
  generalize writtenLines other = others at related ⊢
  cases related with
  | nil => simp
  | @cons first first' rest rest' name later =>
      have productions := map_eq_iff_forall₂
        (fun line line' (same : Respaced line line') => productionOf_eq_iff same) later
      show some (nameOn first', rest'.map productionOf) =
        some (nameOn first, rest.map productionOf) ↔ _
      rw [Option.some_inj, Prod.mk.injEq, nameOn_eq_iff name, productions, List.forall₂_cons]

end GrammarFile

open GrammarFile

namespace Grammar

/-- The rules in a text are told by what its blocks define, one by one. -/
theorem rules_ofText (text : String) :
    (ofText text).rules = Rules.ofEntries (((blocks text).map entryIn?).filterMap id) := by
  rw [ofText, Rules.ofText, ofDefinitions_definitionLines, List.filterMap_map]
  rfl

/-- **A tab may be written as a space, except within a word.**  The tabs of a text that are written as
spaces change neither where its blocks are nor where the lines end.  Each block then defines what it
did, its name and its productions, exactly when none of these tabs is within a word of a line that
is read; and if that holds of all blocks, the rules are the same. -/
theorem tabs_as_spaces (text other : String) (respaced : Respaced text.toList other.toList) :
    List.Forall₂ (fun body body' =>
        List.Forall₂ Respaced (writtenLines body) (writtenLines body')) (blocks text)
        (blocks other) ∧
      ((blocks other).map entryIn? = (blocks text).map entryIn? ↔ KeepsWords text other) ∧
      (KeepsWords text other → (ofText other).rules = (ofText text).rules) := by
  have related := blocks_rewritten keepsBraces_writesTab respaced
  have entries : (blocks other).map entryIn? = (blocks text).map entryIn? ↔
      KeepsWords text other := by
    rw [KeepsWords]
    exact map_eq_iff_forall₂ (fun body body'
      (same : Respaced body.toList body'.toList) => entryIn?_eq_iff same) related
  refine ⟨related.imp fun _ _ same => forall₂_writtenLines same, entries, fun keeps => ?_⟩
  rw [rules_ofText, rules_ofText, entries.2 keeps]

/-- A file with tabs in its prose, in front of lines and behind them, and beside spaces and
semicolons. -/
def tabbed : String := "a\tb\x7b\n\t<a;\t >\t\n<a\t >\t\t;\n\t\nx \t;y\t\n\x7d"

/-- The same file with spaces in place of most of the tabs, also of the one in its prose. -/
def untabbed : String := "a b\x7b\n <a;  >\t\n<a  >\t ;\n \nx  ;y \n\x7d"

theorem tabs_as_spaces_untabbed :
    Respaced tabbed.toList untabbed.toList ∧ KeepsWords tabbed untabbed ∧
      (ofText untabbed).rules = (ofText tabbed).rules ∧
      (ofText untabbed).rules.get? "<A >" =
        some [[.terminal "<a", .terminal ">"], [], [.terminal "x", .terminal "y"]] := by
  have respaced : Respaced tabbed.toList untabbed.toList := by decide +kernel
  obtain ⟨-, entries, rules⟩ := tabs_as_spaces tabbed untabbed respaced
  have keeps : KeepsWords tabbed untabbed := entries.1 (by decide +kernel)
  exact ⟨respaced, keeps, rules keeps, by decide +kernel⟩

/-- **A tab within a word joins what a space parts.** -/
theorem tab_joins_words :
    ¬∀ text other : String, Respaced text.toList other.toList →
      (ofText other).rules = (ofText text).rules := by
  intro same
  have rules := same "\x7b<s>\na\tb\n\x7d" "\x7b<s>\na b\n\x7d" (by decide +kernel)
  have joined : (ofText "\x7b<s>\na\tb\n\x7d").rules.get? "<s>" = some [[.terminal "ab"]] := by
    decide +kernel
  have parted : (ofText "\x7b<s>\na b\n\x7d").rules.get? "<s>" =
      some [[.terminal "a", .terminal "b"]] := by decide +kernel
  rw [rules, joined] at parted
  exact absurd parted (by decide)

end Grammar

end RandomSentences
