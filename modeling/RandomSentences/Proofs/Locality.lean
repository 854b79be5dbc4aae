/-
# Proofs.Locality -- which words of a stream an expansion looks at, and which it skips

A *draw* is a word taken off the stream for a choice, with the number of alternatives of that
choice.  The draws behind an expansion are a list: for each of its picks, in their order, those
that are refused and then the one that selects the alternative (`Makes`).  A list of draws says
all about the stream that the picks depend on, as reading them off a stream is to find the words
of such a list in it (`exists_reads_iff`).  The words behind the last draw are never looked at.

A refused draw makes no pick.  So one more of them may stand before any draw for the same choice
(`Makes.insert`), and the words of the longer list are found where a word is put into the stream
(`Shows.insert`).  The draws that are not refused are as many as the picks
(`Makes.length_eq`), one for every symbol of the derivation that has productions
(`Derivation.length_picks`).
-/
import RandomSentences.Proofs.Language

namespace RandomSentences

set_option autoImplicit false

open Choice (Pick Reads)

namespace WordStream

variable {stream : WordStream} {place position : Nat} {word : UInt32}

/-- The stream with one more word at a place, and the words from there on behind it. -/
def insertAt (stream : WordStream) (place : Nat) (word : UInt32) : WordStream :=
  fun position =>
    if position < place then stream position
    else if position = place then word
    else stream (position - 1)

theorem insertAt_of_lt (before : position < place) :
    stream.insertAt place word position = stream position := if_pos before

theorem insertAt_self : stream.insertAt place word place = word := by
  rw [insertAt, if_neg (Nat.lt_irrefl place), if_pos rfl]

theorem insertAt_succ_of_le (behind : place ≤ position) :
    stream.insertAt place word (position + 1) = stream position := by
  rw [insertAt, if_neg (by omega), if_neg (by omega), Nat.add_sub_cancel]

end WordStream

namespace Choice

/-! ## Draws -/

deriving instance DecidableEq for Pick

instance (pick : Pick) : DecidablePred pick.SelectedBy := fun word =>
  inferInstanceAs (Decidable (accepts pick.count word = true ∧
    Choice.index pick.count word = pick.index))

/-- A word that is drawn, and the number of alternatives of the choice it is drawn for. -/
structure Draw where
  count : Nat
  word : UInt32
deriving DecidableEq

/-- Is the word skipped, and another one drawn for the same choice? -/
def Draw.refused (draw : Draw) : Bool :=
  !accepts draw.count draw.word

/-- Do the draws make the picks, one pick after the other? -/
inductive Makes : List Pick → List Draw → Prop
  | nil : Makes [] []
  | refused {pick : Pick} {picks : List Pick} {word : UInt32} {draws : List Draw}
      (refused : accepts pick.count word = false) (later : Makes (pick :: picks) draws) :
      Makes (pick :: picks) (⟨pick.count, word⟩ :: draws)
  | taken {pick : Pick} {picks : List Pick} {word : UInt32} {draws : List Draw}
      (selected : pick.SelectedBy word) (later : Makes picks draws) :
      Makes (pick :: picks) (⟨pick.count, word⟩ :: draws)

/-- Are the words of the draws those of the stream from a position on? -/
def Shows (stream : WordStream) (position : Nat) (draws : List Draw) : Prop :=
  ∀ k (inside : k < draws.length), stream (position + k) = draws[k].word

instance (stream : WordStream) (position : Nat) (draws : List Draw) :
    Decidable (Shows stream position draws) :=
  inferInstanceAs (Decidable (∀ k (inside : k < draws.length),
    stream (position + k) = draws[k].word))

theorem shows_nil (stream : WordStream) (position : Nat) : Shows stream position [] :=
  fun _ inside => absurd inside (Nat.not_lt_zero _)

theorem shows_cons {stream : WordStream} {position : Nat} {draw : Draw} {draws : List Draw} :
    Shows stream position (draw :: draws) ↔
      stream position = draw.word ∧ Shows stream (position + 1) draws := by
  have step (k : Nat) : position + (k + 1) = position + 1 + k := by omega
  constructor
  · intro shows
    refine ⟨shows 0 (Nat.succ_pos _), fun k inside => ?_⟩
    rw [← step]
    exact shows (k + 1) (Nat.succ_lt_succ inside)
  · rintro ⟨first, later⟩ k inside
    cases k with
    | zero => exact first
    | succ k =>
        rw [step]
        exact later k (Nat.lt_of_succ_lt_succ inside)

/-- The words of the draws are the same in a stream that agrees as far as they go. -/
theorem Shows.agree {stream other : WordStream} {position : Nat} {draws : List Draw}
    (shows : Shows stream position draws)
    (agree : ∀ place, position ≤ place → place < position + draws.length →
      other place = stream place) : Shows other position draws := by
  intro k inside
  rw [agree (position + k) (Nat.le_add_right position k) (by omega)]
  exact shows k inside

/-- A word put into the stream before a draw is found before that draw. -/
theorem Shows.insert {stream : WordStream} {position : Nat} {before later : List Draw}
    (shows : Shows stream position (before ++ later)) (count : Nat) (word : UInt32) :
    Shows (stream.insertAt (position + before.length) word) position
      (before ++ ⟨count, word⟩ :: later) := by
  intro k inside
  rcases Nat.lt_trichotomy k before.length with left | rfl | right
  · rw [WordStream.insertAt_of_lt (by omega), List.getElem_append_left left,
      shows k (by simp; omega), List.getElem_append_left left]
  · simp [WordStream.insertAt_self]
  · obtain ⟨m, rfl⟩ : ∃ m, k = before.length + (m + 1) := ⟨k - before.length - 1, by omega⟩
    have old := shows (before.length + m) (by simp at inside ⊢; omega)
    rw [List.getElem_append_right (Nat.le_add_right _ _)] at old
    rw [← Nat.add_assoc, ← Nat.add_assoc, WordStream.insertAt_succ_of_le (by omega), Nat.add_assoc,
      old]
    simp

/-! ## Picks and the draws that make them -/

/-- The draws of a choice come before those of the choices after it. -/
theorem exists_makes_of_choose {stream : WordStream} {pick : Pick} {picks : List Pick}
    {draws : List Draw} {limit position between : Nat}
    (made : choose stream pick.count limit position = some (pick.index.val, between))
    (later : Makes picks draws) (shows : Shows stream between draws) :
    ∃ all, Makes (pick :: picks) all ∧ Shows stream position all ∧
      position + all.length = between + draws.length := by
  induction limit generalizing position with
  | zero => cases made
  | succ limit ih =>
      rw [choose] at made
      split at made
      · rename_i accepted
        simp only [Option.some.injEq, Prod.mk.injEq] at made
        obtain ⟨selected, rfl⟩ := made
        refine ⟨⟨pick.count, stream position⟩ :: draws, .taken ⟨accepted, selected⟩ later,
          shows_cons.2 ⟨rfl, shows⟩, ?_⟩
        rw [List.length_cons]
        omega
      · rename_i refused
        obtain ⟨all, makes, shows, length⟩ := ih made
        refine ⟨⟨pick.count, stream position⟩ :: all,
          .refused (Bool.eq_false_of_not_eq_true refused) makes, shows_cons.2 ⟨rfl, shows⟩, ?_⟩
        rw [List.length_cons]
        omega

theorem Reads.exists_makes {stream : WordStream} {limit : Nat} {picks : List Pick}
    {position after : Nat} (reads : Reads stream limit picks position after) :
    ∃ draws, Makes picks draws ∧ Shows stream position draws ∧
      after = position + draws.length := by
  induction picks generalizing position with
  | nil => exact ⟨[], .nil, shows_nil stream position, Eq.symm reads⟩
  | cons pick picks ih =>
      obtain ⟨between, made, rest⟩ := reads
      obtain ⟨draws, makes, shows, rfl⟩ := ih rest
      obtain ⟨all, makes, shows, length⟩ := exists_makes_of_choose made makes shows
      exact ⟨all, makes, shows, length.symm⟩

theorem Makes.exists_reads {stream : WordStream} {picks : List Pick} {draws : List Draw}
    (makes : Makes picks draws) {position : Nat} (shows : Shows stream position draws) :
    ∃ limit, Reads stream limit picks position (position + draws.length) := by
  induction makes generalizing position with
  | nil => exact ⟨0, rfl⟩
  | @refused pick picks word draws refused _ ih =>
      obtain ⟨here, later⟩ := shows_cons.1 shows
      -- The same choice is made from the next word on, with one word less to try.
      obtain ⟨limit, between, made, rest⟩ := ih later
      refine ⟨limit + 1, between, ?_, ?_⟩
      · rwa [choose, if_neg (by simp [here, refused])]
      · rw [List.length_cons, Nat.add_comm draws.length, ← Nat.add_assoc]
        exact rest.mono (Nat.le_succ limit)
  | @taken pick picks word draws selected _ ih =>
      obtain ⟨here, later⟩ := shows_cons.1 shows
      obtain ⟨limit, rest⟩ := ih later
      refine ⟨limit + 1, position + 1, ?_, ?_⟩
      · rw [choose, here, if_pos selected.1, selected.2]
      · rw [List.length_cons, Nat.add_comm draws.length, ← Nat.add_assoc]
        exact rest.mono (Nat.le_succ limit)

/-- **Picks are read off a stream where it shows the words of draws that make them.** -/
theorem exists_reads_iff {stream : WordStream} {picks : List Pick} {position after : Nat} :
    (∃ limit, Reads stream limit picks position after) ↔
      ∃ draws, Makes picks draws ∧ Shows stream position draws ∧
        after = position + draws.length := by
  constructor
  · rintro ⟨limit, reads⟩
    exact reads.exists_makes
  · rintro ⟨draws, makes, shows, rfl⟩
    exact makes.exists_reads shows

/-- **One more refused draw makes no other picks**, before whichever draw for the same choice. -/
theorem Makes.insert {picks : List Pick} {before later : List Draw} {draw : Draw}
    (makes : Makes picks (before ++ draw :: later)) {word : UInt32}
    (refused : accepts draw.count word = false) :
    Makes picks (before ++ ⟨draw.count, word⟩ :: draw :: later) := by
  induction before generalizing picks with
  | nil =>
      cases makes with
      | refused again rest => exact .refused refused (.refused again rest)
      | taken selected rest => exact .refused refused (.taken selected rest)
  | cons first before ih =>
      cases makes with
      | refused again rest => exact .refused again (ih rest)
      | taken selected rest => exact .taken selected (ih rest)

/-- Every pick costs one draw, and every refused draw is one more. -/
theorem Makes.length_eq {picks : List Pick} {draws : List Draw} (makes : Makes picks draws) :
    draws.length = picks.length + draws.countP Draw.refused := by
  induction makes with
  | nil => rfl
  | refused refused _ ih =>
      rw [List.countP_cons_of_pos (by simp [Draw.refused, refused]), List.length_cons, ih]
      omega
  | taken selected _ ih =>
      rw [List.countP_cons_of_neg (by simp [Draw.refused, selected.1]), List.length_cons,
        List.length_cons, ih]
      omega

end Choice

open Choice (Draw Makes Shows)

variable {rules : Rules}

/-! ## Symbols with productions -/

def Rules.isProductive (rules : Rules) (symbol : String) : Bool :=
  !(rules.productions symbol).isEmpty

mutual

/-- There is one pick for every symbol with productions, wherever it is expanded. -/
theorem Derivation.length_picks : ∀ {symbol : String} (tree : Derivation rules symbol),
    tree.picks.length = tree.symbols.countP rules.isProductive
  | symbol, .silent none_ => by
      simp [Derivation.picks, Derivation.symbols, Rules.isProductive, none_]
  | symbol, .choice index row => by
      have some_ : rules.productions symbol ≠ [] := List.ne_nil_of_length_pos index.pos
      rw [Derivation.picks, Derivation.symbols, List.length_cons, row.length_picks,
        List.countP_cons_of_pos (by simp [Rules.isProductive, some_])]

theorem Row.length_picks : ∀ {tokens : Production} (row : Row rules tokens),
    row.picks.length = row.symbols.countP rules.isProductive
  | _, .nil => rfl
  | _, .word _ rest => rest.length_picks
  | _, .tree tree rest => by
      rw [Row.picks, Row.symbols, List.length_append, List.countP_append, tree.length_picks,
        rest.length_picks]

end

/-! ## The draws behind an expansion -/

/-- Is the derivation read off the stream from a position on, by those draws? -/
structure Derivation.DrawnBy {symbol : String} (tree : Derivation rules symbol)
    (stream : WordStream) (position : Nat) (draws : List Draw) : Prop where
  makes : Makes tree.picks draws
  shows : Shows stream position draws

namespace Rules

theorem expands_iff_drawnBy {stream : WordStream} {symbol : String} {position : Nat}
    {text : String} {after : Nat} :
    rules.Expands stream symbol position text after ↔
      ∃ (tree : Derivation rules symbol) (draws : List Draw),
        tree.DrawnBy stream position draws ∧ tree.yield = text ∧
          after = position + draws.length := by
  rw [expands_iff]
  apply exists_congr
  intro tree
  rw [Choice.exists_reads_iff]
  constructor
  · rintro ⟨yields, draws, makes, shows, length⟩
    exact ⟨draws, ⟨makes, shows⟩, yields, length⟩
  · rintro ⟨draws, ⟨makes, shows⟩, yields, length⟩
    exact ⟨yields, draws, makes, shows, length⟩

theorem expands_of_drawnBy {stream : WordStream} {symbol : String} {position : Nat}
    {tree : Derivation rules symbol} {draws : List Draw}
    (drawn : tree.DrawnBy stream position draws) :
    rules.Expands stream symbol position tree.yield (position + draws.length) :=
  expands_iff_drawnBy.2 ⟨tree, draws, drawn, rfl, rfl⟩

theorem Expands.agree {stream other : WordStream} {symbol : String} {position : Nat}
    {text : String} {after : Nat} (ends : rules.Expands stream symbol position text after)
    (agree : ∀ place, position ≤ place → place < after → other place = stream place) :
    rules.Expands other symbol position text after := by
  obtain ⟨tree, draws, drawn, rfl, rfl⟩ := expands_iff_drawnBy.1 ends
  exact expands_of_drawnBy ⟨drawn.makes, drawn.shows.agree agree⟩

theorem expands_of_silent {stream : WordStream} {symbol : String} {position : Nat}
    {text : String} {after : Nat} (none_ : rules.productions symbol = []) :
    rules.Expands stream symbol position text after ↔ text = "" ∧ after = position := by
  have nothing : rules.Expands stream symbol position "" position :=
    ⟨⟨1, 0⟩, expandTo_of_silent none_⟩
  constructor
  · exact fun ends => ends.unique nothing
  · rintro ⟨rfl, rfl⟩
    exact nothing

/-- **An expansion looks at the words it draws and at no others, and skips those that are refused.**
The words behind are free.  The draws are one for each symbol with productions, wherever it is
expanded, and those that are refused; before any of them another refused word may be put into the
stream.  A symbol without productions draws nothing. -/
theorem expands_local {stream : WordStream} {symbol : String} {position : Nat} {text : String}
    {after : Nat} (ends : rules.Expands stream symbol position text after) :
    (∀ other : WordStream, (∀ place, position ≤ place → place < after →
        other place = stream place) → rules.Expands other symbol position text after) ∧
      (∃ (tree : Derivation rules symbol) (draws : List Draw),
        tree.DrawnBy stream position draws) ∧
      (∀ (tree : Derivation rules symbol) (draws : List Draw),
        tree.DrawnBy stream position draws →
          tree.yield = text ∧ after = position + draws.length ∧
          draws.length =
            tree.symbols.countP rules.isProductive + draws.countP Draw.refused ∧
          ∀ before draw later word, draws = before ++ draw :: later →
            Choice.accepts draw.count word = false →
              rules.Expands (stream.insertAt (position + before.length) word) symbol position
                text (after + 1)) ∧
      ∀ (other : WordStream) (silent : String), rules.productions silent = [] →
        ∀ place written behind, rules.Expands other silent place written behind ↔
          written = "" ∧ behind = place := by
  refine ⟨fun other agree => ends.agree agree, ?_, ?_, fun _ _ none_ _ _ _ =>
    expands_of_silent none_⟩
  · obtain ⟨tree, draws, drawn, -⟩ := expands_iff_drawnBy.1 ends
    exact ⟨tree, draws, drawn⟩
  · intro tree draws drawn
    obtain ⟨rfl, rfl⟩ := (expands_of_drawnBy drawn).unique ends
    refine ⟨rfl, rfl, ?_, ?_⟩
    · rw [drawn.makes.length_eq, tree.length_picks]
    · rintro before draw later word rfl refused
      have inserted : tree.DrawnBy (stream.insertAt (position + before.length) word) position
          (before ++ ⟨draw.count, word⟩ :: draw :: later) :=
        ⟨drawn.makes.insert refused, drawn.shows.insert draw.count word⟩
      have length : (before ++ ⟨draw.count, word⟩ :: draw :: later).length =
          (before ++ draw :: later).length + 1 := by
        simp only [List.length_append, List.length_cons]
        omega
      have longer := expands_of_drawnBy inserted
      rwa [length, ← Nat.add_assoc] at longer

/-- Two references of a chain are followed, with one refused word between them; what comes behind
the last word may change, and another word is refused before that one. -/
theorem expands_local_chain :
    let stream := WordStream.ofList [0, 0xFFFFFFFF, 0, 0x80000000]
    chain.Expands stream "<a>" 0 "x x " 4 ∧
      (∀ other : WordStream, (∀ place < 4, other place = stream place) →
        chain.Expands other "<a>" 0 "x x " 4) ∧
      chain.Expands (stream.insertAt 3 0x40000000) "<a>" 0 "x x " 5 := by
  intro stream
  let draws : List Draw := [⟨2, 0⟩, ⟨2, 0xFFFFFFFF⟩, ⟨2, 0⟩, ⟨2, 0x80000000⟩]
  have run : (chain.derive ⟨9, 9⟩ stream "<a>" 0).map (fun (tree, _) => (tree.yield, tree.picks)) =
      some ("x x ", [⟨2, 0⟩, ⟨2, 0⟩, ⟨2, 1⟩]) := by decide +kernel
  obtain ⟨⟨tree, after⟩, -, same⟩ := Option.map_eq_some_iff.1 run
  obtain ⟨yields, picks⟩ := Prod.mk.inj same
  have makes : Makes tree.picks draws := by
    rw [picks]
    exact .taken (by decide) (.refused (by decide) (.taken (by decide) (.taken (by decide) .nil)))
  have drawn : tree.DrawnBy stream 0 draws := ⟨makes, by decide⟩
  have ends : chain.Expands stream "<a>" 0 "x x " 4 := yields ▸ expands_of_drawnBy drawn
  obtain ⟨agree, -, counted, -⟩ := expands_local ends
  obtain ⟨-, -, -, insert⟩ := counted tree draws drawn
  exact ⟨ends, fun other same => agree other fun place _ before => same place before,
    insert [⟨2, 0⟩, ⟨2, 0xFFFFFFFF⟩, ⟨2, 0⟩] ⟨2, 0x80000000⟩ [] 0x40000000 rfl (by decide)⟩

end Rules

end RandomSentences
