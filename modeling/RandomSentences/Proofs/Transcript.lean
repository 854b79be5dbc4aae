/-
# Proofs.Transcript -- what the runs of one seed write

A grammar and a stream have one sequence of sentences, each drawn from where the one before it
stopped.  Limits decide how much of it is seen and never what it is, so it is stated without them:
the grammar *tells* sentences from one position up to another (`Tells`).  What is told from a
position is told in one way only (`Tells.unique`), and in two parts if at all (`tells_append`).

A run with a seed whose arguments ask for sentences comes to an end just when the grammar tells as
many as are asked for, and writes those (`Asks.ends_iff`).  The blanks of a sentence from a grammar
file are spaces, since the words of a line hold no blank and an expansion puts nothing but spaces
between them (`space_of_blank`).  So each sentence is a line, and runs of one seed differ in how
many of the same lines they write (`seeded_runs`).
-/
import RandomSentences.CommandLine.Run
import RandomSentences.Proofs.Gaps
import RandomSentences.Proofs.Sentence

namespace RandomSentences

set_option autoImplicit false

open Text (trimmed)

/-! ## The sentences of a stream -/

namespace Grammar

variable {grammar : Grammar} {stream : WordStream}

/-- Does a sentence from a position on come to an end, as that one and after that position? -/
def Draws (grammar : Grammar) (stream : WordStream) (sentence : String) (position after : Nat) :
    Prop :=
  ∃ limits, grammar.sentence limits stream position = some (sentence, after)

/-- Are those the sentences one after the other, from a position on up to another? -/
def Tells (grammar : Grammar) (stream : WordStream) : List String → Nat → Nat → Prop
  | [], position, after => position = after
  | sentence :: later, position, after =>
      ∃ between, grammar.Draws stream sentence position between ∧
        Tells grammar stream later between after

theorem draws_iff {sentence : String} {position after : Nat} :
    grammar.Draws stream sentence position after ↔
      ∃ text, grammar.rules.Expands stream grammar.config.startSymbol position text after ∧
        grammar.finish text = sentence := by
  simp only [Draws, Grammar.sentence, sentenceFrom, Rules.Expands, Option.map_eq_some_iff, Prod.exists,
    Prod.mk.injEq]
  constructor
  · rintro ⟨limits, text, _, found, finished, rfl⟩
    exact ⟨text, ⟨limits, found⟩, finished⟩
  · rintro ⟨text, ⟨limits, found⟩, finished⟩
    exact ⟨limits, text, after, found, finished, rfl⟩

theorem Draws.unique {sentence other : String} {position after later : Nat}
    (drawn : grammar.Draws stream sentence position after)
    (drawn' : grammar.Draws stream other position later) : sentence = other ∧ after = later := by
  obtain ⟨text, expands, rfl⟩ := draws_iff.1 drawn
  obtain ⟨text', expands', rfl⟩ := draws_iff.1 drawn'
  obtain ⟨rfl, rfl⟩ := expands.unique expands'
  exact ⟨rfl, rfl⟩

theorem tells_append {first second : List String} {position after : Nat} :
    grammar.Tells stream (first ++ second) position after ↔
      ∃ between, grammar.Tells stream first position between ∧
        grammar.Tells stream second between after := by
  induction first generalizing position with
  | nil => simp [Tells]
  | cons sentence first ih =>
      simp only [List.cons_append, Tells, ih]
      constructor
      · rintro ⟨next, drawn, between, tells, tells'⟩
        exact ⟨between, ⟨next, drawn, tells⟩, tells'⟩
      · rintro ⟨between, ⟨next, drawn, tells⟩, tells'⟩
        exact ⟨next, drawn, between, tells, tells'⟩

/-- **As many sentences are told in one way only.** -/
theorem Tells.unique {told other : List String} {position after later : Nat}
    (tells : grammar.Tells stream told position after)
    (tells' : grammar.Tells stream other position later) (same : told.length = other.length) :
    told = other ∧ after = later := by
  induction told generalizing other position with
  | nil =>
      cases List.eq_nil_of_length_eq_zero same.symm
      exact ⟨rfl, Eq.trans (Eq.symm tells) tells'⟩
  | cons sentence told ih =>
      cases other with
      | nil => cases same
      | cons next other =>
          obtain ⟨between, drawn, tells⟩ := tells
          obtain ⟨_, drawn', tells'⟩ := tells'
          obtain ⟨rfl, rfl⟩ := drawn.unique drawn'
          obtain ⟨rfl, rfl⟩ := ih tells tells' (Nat.succ.inj same)
          exact ⟨rfl, rfl⟩

theorem Tells.take {told : List String} {position after : Nat}
    (tells : grammar.Tells stream told position after) (count : Nat) :
    ∃ between, grammar.Tells stream (told.take count) position between := by
  rw [← List.take_append_drop count told, tells_append] at tells
  obtain ⟨between, tells, -⟩ := tells
  exact ⟨between, tells⟩

theorem Tells.forall_mem {property : String → Prop} {told : List String} {position after : Nat}
    (tells : grammar.Tells stream told position after)
    (each : ∀ sentence position after, grammar.Draws stream sentence position after →
      property sentence) : ∀ sentence ∈ told, property sentence := by
  induction told generalizing position with
  | nil => simp
  | cons sentence told ih =>
      obtain ⟨between, drawn, tells⟩ := tells
      exact List.forall_mem_cons.2 ⟨each _ _ _ drawn, ih tells⟩

theorem sentence_mono {limits wider : Limits} (deeper : limits.depth ≤ wider.depth)
    (longer : limits.draws ≤ wider.draws) {position : Nat} {answer : String × Nat}
    (found : grammar.sentence limits stream position = some answer) :
    grammar.sentence wider stream position = some answer := by
  obtain ⟨made, expanded, finished⟩ := Option.map_eq_some_iff.1 found
  exact Option.map_eq_some_iff.2 ⟨made, Rules.expand_mono deeper longer expanded, finished⟩

theorem sentencesFrom_mono {limits wider : Limits} (deeper : limits.depth ≤ wider.depth)
    (longer : limits.draws ≤ wider.draws) {count position : Nat} {made all : List String}
    (found : grammar.sentencesFrom limits stream count position made = some all) :
    grammar.sentencesFrom wider stream count position made = some all := by
  induction count generalizing position made with
  | zero => exact found
  | succ count ih =>
      rw [sentencesFrom] at found ⊢
      cases said : grammar.sentence limits stream position with
      | none => simp [said] at found
      | some answer =>
          rw [said] at found
          rw [sentence_mono deeper longer said]
          exact ih found

/-- Sentences are made under some limits, behind those already made, just when they are told. -/
theorem exists_sentencesFrom_iff {count position : Nat} {made all : List String} :
    (∃ limits, grammar.sentencesFrom limits stream count position made = some all) ↔
      ∃ told after, told.length = count ∧ grammar.Tells stream told position after ∧
        all = made.reverse ++ told := by
  constructor
  · rintro ⟨limits, found⟩
    induction count generalizing position made with
    | zero =>
        cases found
        exact ⟨[], position, rfl, rfl, (List.append_nil _).symm⟩
    | succ count ih =>
        rw [sentencesFrom] at found
        cases said : grammar.sentence limits stream position with
        | none => simp [said] at found
        | some answer =>
            rw [said] at found
            obtain ⟨told, after, rfl, tells, rfl⟩ := ih found
            exact ⟨answer.1 :: told, after, rfl, ⟨answer.2, ⟨limits, said⟩, tells⟩,
              by simp⟩
  · rintro ⟨told, after, rfl, tells, rfl⟩
    induction told generalizing position made with
    | nil => exact ⟨⟨0, 0⟩, by simp [sentencesFrom]⟩
    | cons sentence told ih =>
        obtain ⟨between, drawn, tells⟩ := tells
        obtain ⟨limits, said⟩ := drawn
        have later : ∃ limits, grammar.sentencesFrom limits stream told.length between
            (sentence :: made) = some ((sentence :: made).reverse ++ told) := ih tells
        obtain ⟨limits', found⟩ := later
        let wider : Limits := ⟨max limits.depth limits'.depth, max limits.draws limits'.draws⟩
        have here : grammar.sentence wider stream position = some (sentence, between) :=
          sentence_mono (le_max_left _ _) (le_max_left _ _) said
        have further : grammar.sentencesFrom wider stream told.length between (sentence :: made) =
            some ((sentence :: made).reverse ++ told) :=
          sentencesFrom_mono (le_max_right _ _) (le_max_right _ _) found
        refine ⟨wider, ?_⟩
        rw [List.length_cons, sentencesFrom, here]
        simpa using further

theorem exists_sentences_iff {count : Nat} {all : List String} :
    (∃ limits, grammar.sentences limits stream count = some all) ↔
      all.length = count ∧ ∃ after, grammar.Tells stream all 0 after := by
  simp only [sentences, exists_sentencesFrom_iff, List.reverse_nil, List.nil_append]
  constructor
  · rintro ⟨told, after, counted, tells, rfl⟩
    exact ⟨counted, after, tells⟩
  · rintro ⟨counted, after, tells⟩
    exact ⟨all, after, counted, tells, rfl⟩

/-! ## Trimmed sentences, and those with their blanks -/

def withTrim (grammar : Grammar) (trimOutput : Bool) : Grammar :=
  { grammar with config := { grammar.config with trimOutput := trimOutput } }

theorem draws_withTrim_iff {sentence : String} {position after : Nat} :
    (grammar.withTrim true).Draws stream sentence position after ↔
      ∃ untrimmed, (grammar.withTrim false).Draws stream untrimmed position after ∧
        trimmed untrimmed = sentence := by
  simp only [draws_iff]
  constructor
  · rintro ⟨text, expands, finished⟩
    exact ⟨_, ⟨text, expands, rfl⟩, finished⟩
  · rintro ⟨_, ⟨text, expands, rfl⟩, finished⟩
    exact ⟨text, expands, finished⟩

/-- **The trimmed sentences are the untrimmed ones trimmed**, one by one and on the same words. -/
theorem tells_withTrim_iff {told : List String} {position after : Nat} :
    (grammar.withTrim true).Tells stream told position after ↔
      ∃ untrimmed, (grammar.withTrim false).Tells stream untrimmed position after ∧
        untrimmed.map trimmed = told := by
  induction told generalizing position with
  | nil => simp [Tells]
  | cons sentence told ih =>
      simp only [Tells, draws_withTrim_iff, ih]
      constructor
      · rintro ⟨between, ⟨first, drawn, rfl⟩, untrimmed, tells, rfl⟩
        exact ⟨first :: untrimmed, ⟨between, drawn, tells⟩, rfl⟩
      · rintro ⟨untrimmed, tells, same⟩
        cases untrimmed with
        | nil => cases same
        | cons first untrimmed =>
            obtain ⟨between, drawn, tells⟩ := tells
            obtain ⟨here, later⟩ := List.cons.inj same
            exact ⟨between, ⟨first, drawn, here⟩, untrimmed, tells, later⟩

/-! ## The blanks of a sentence -/

theorem finish_subset (usual : grammar.filter = Filter.punctuation) (text : String) :
    (grammar.finish text).toList ⊆ text.toList := by
  have closed : (Punctuation.closeGaps text).toList ⊆ text.toList := by
    rw [Punctuation.toList_closeGaps]
    exact (Punctuation.tightenBetween_sublist false false text.toList).subset
  rw [finish, usual]
  dsimp only [Filter.punctuation]
  split
  · rw [trimmed, String.toList_ofList]
    exact List.Subset.trans (Text.trim_sublist _).subset closed
  · exact closed

/-- Every blank of a sentence from a grammar file is a space. -/
theorem space_of_blank (usual : grammar.filter = Filter.punctuation) (wordy : grammar.rules.Wordy)
    {sentence : String} {position after : Nat}
    (drawn : grammar.Draws stream sentence position after) :
    ∀ c ∈ sentence.toList, Text.isBlank c = true → c = ' ' := by
  obtain ⟨text, expands, rfl⟩ := draws_iff.1 drawn
  obtain ⟨tree, rfl, -⟩ := Rules.expands_iff.1 expands
  intro c member blank
  have inYield := finish_subset usual _ member
  rw [tree.toList_yield] at inYield
  obtain ⟨word, found, inWord⟩ := List.mem_flatMap.1 inYield
  rcases List.mem_append.1 inWord with inWord | space
  · have solid := (tree.isWord_of_mem_words wordy word found).2 c inWord
    simp [solid] at blank
  · exact List.mem_singleton.1 space

end Grammar

namespace CommandLine

/-! ## The sentences as they are written -/

theorem writeSentences_one {told : List String} (some_ : 1 ≤ told.length) :
    some (writeSentences 1 (told.take 1)) = told.head? := by
  cases told with
  | nil => cases some_
  | cons sentence told => simp [writeSentences]

theorem writeSentences_of_ne_one {count : Nat} (notOne : count ≠ 1) (sentences : List String) :
    writeSentences count sentences = String.join (sentences.map (· ++ "\n")) := by
  rw [writeSentences]
  exact notOne

/-- Fewer sentences are written as the start of more. -/
theorem writeSentences_take {few many : Nat} (fewer : few ≤ many) {told : List String}
    (enough : many ≤ told.length) :
    ∃ more, writeSentences many (told.take many) = writeSentences few (told.take few) ++ more := by
  by_cases one : many = 1
  · subst one
    obtain rfl | rfl : few = 0 ∨ few = 1 := by omega
    · exact ⟨writeSentences 1 (told.take 1), by simp [writeSentences]⟩
    · exact ⟨"", by simp⟩
  · rw [writeSentences_of_ne_one one]
    have parted : told.take many = told.take few ++ (told.drop few).take (many - few) := by
      rw [← List.take_add, Nat.add_sub_cancel' fewer]
    rw [parted, List.map_append, String.join_append]
    by_cases single : few = 1
    · subst single
      cases told with
      | nil => exact absurd (fewer.trans enough) (by decide)
      | cons sentence told =>
          refine ⟨"\n" ++ String.join (((told.take (many - 1)).map (· ++ "\n"))), ?_⟩
          simp [writeSentences, String.append_assoc]
    · rw [writeSentences_of_ne_one single]
      exact ⟨_, rfl⟩

/-- Sentences with no blanks but spaces are read back as lines. -/
theorem lines_join_feed {sentences : List String}
    (spaced : ∀ sentence ∈ sentences, ∀ c ∈ sentence.toList, Text.isBlank c = true → c = ' ') :
    Text.lines (String.join (sentences.map (· ++ "\n"))).toList =
      sentences.map String.toList := by
  induction sentences with
  | nil => rfl
  | cons sentence sentences ih =>
      obtain ⟨here, later⟩ := List.forall_mem_cons.1 spaced
      have noFeed : '\n' ∉ sentence.toList := fun member =>
        absurd (here '\n' member (by decide)) (by decide)
      have noReturn : sentence.toList.getLast? ≠ some '\r' := fun last =>
        absurd (here '\r' (List.mem_of_getLast? last) (by decide)) (by decide)
      have feed : ("\n" : String).toList = ['\n'] := rfl
      rw [List.map_cons, String.join_cons, String.toList_append, String.toList_append,
        List.append_assoc, feed, List.singleton_append, Text.lines_append_feed noFeed noReturn,
        ih later, List.map_cons]

/-! ## Runs with a seed -/

namespace Options

def name (options : Options) (input : String) : String :=
  options.grammar.getD (typedName input)

/-- The grammar that the options make of the text of its file. -/
def grammarOf (options : Options) (text : String) : Grammar :=
  { Grammar.ofText text with config := options.config }

/-- Are those the first sentences of the seed? -/
def Tells (options : Options) (text : String) (seed : Nat) (told : List String) : Prop :=
  ∃ after, (options.grammarOf text).Tells (Seed.stream (UInt64.ofNat seed)) told 0 after

def loaded (options : Options) (name text : String) : String :=
  if options.verbose then
    "Loading grammar from " ++ options.config.pathOf name ++ "...\n" ++ "Loaded " ++
      toString (Grammar.ofText text).rules.size ++ " rules.\n"
  else ""

/-- What is written on the standard error beside the sentences. -/
def status (options : Options) (input text : String) : String :=
  (if options.grammar.isNone then prompt else "") ++ options.loaded (options.name input) text

end Options

/-- Does the run come to an end, and with that outcome? -/
def Ends (entropy : WordStream) (files : String → Except Fault String) (input : String)
    (arguments : List String) (outcome : Outcome) : Prop :=
  ∃ limits, run limits entropy files input arguments = some outcome

/-- Do the arguments ask for sentences of the seed, and is that the text of the grammar's file? -/
structure Asks (files : String → Except Fault String) (input : String) (arguments : List String)
    (options : Options) (seed : Nat) (text : String) : Prop where
  read_eq : read arguments = .ok (.run options)
  seed_eq : options.seed = some seed
  sentences : options.dumpRules = false
  readable : files (options.config.pathOf (options.name input)) = .ok text

section Seeded

variable {files : String → Except Fault String} {input : String} {arguments : List String}
  {options : Options} {seed : Nat} {text : String}

theorem Asks.conclude_eq (asks : Asks files input arguments options seed text) (limits : Limits)
    (entropy : WordStream) :
    conclude limits entropy files options (options.name input) =
      ((options.grammarOf text).sentences limits (Seed.stream (UInt64.ofNat seed))
        (options.count.getD 1)).map fun sentences =>
          ⟨0, writeSentences (options.count.getD 1) sentences,
            options.loaded (options.name input) text⟩ := by
  have found : Grammar.find files (options.name input) options.config =
      .ok (options.grammarOf text) := by
    rw [Grammar.find, Grammar.ofFile, asks.readable]
    rfl
  rw [conclude, found]
  simp only [asks.sentences, Options.stream, asks.seed_eq, Bool.false_eq_true, if_false,
    Options.loaded]
  split <;> rfl

theorem Asks.run_eq (asks : Asks files input arguments options seed text) (limits : Limits)
    (entropy : WordStream) :
    run limits entropy files input arguments =
      ((options.grammarOf text).sentences limits (Seed.stream (UInt64.ofNat seed))
        (options.count.getD 1)).map fun sentences =>
          ⟨0, writeSentences (options.count.getD 1) sentences, options.status input text⟩ := by
  have concluded := asks.conclude_eq limits entropy
  rw [run, asks.read_eq]
  cases given : options.grammar with
  | some name =>
      have named : options.name input = name := by rw [Options.name, given, Option.getD_some]
      rw [named] at concluded
      simp [concluded, Options.status, given, named]
  | none =>
      have named : options.name input = typedName input := by
        rw [Options.name, given, Option.getD_none]
      rw [named] at concluded
      simp only [concluded, Options.status, given, named, Option.map_map]
      rfl

/-- **A run with a seed ends just when the sentences asked for are told, and writes those.** -/
theorem Asks.ends_iff (asks : Asks files input arguments options seed text) {entropy : WordStream}
    {outcome : Outcome} :
    Ends entropy files input arguments outcome ↔
      ∃ told, options.Tells text seed told ∧ told.length = options.count.getD 1 ∧
        outcome = ⟨0, writeSentences (options.count.getD 1) told, options.status input text⟩ := by
  simp only [Ends, asks.run_eq, Option.map_eq_some_iff]
  constructor
  · rintro ⟨limits, told, made, rfl⟩
    obtain ⟨counted, tells⟩ := Grammar.exists_sentences_iff.1 ⟨limits, made⟩
    exact ⟨told, tells, counted, rfl⟩
  · rintro ⟨told, tells, counted, rfl⟩
    obtain ⟨limits, made⟩ := Grammar.exists_sentences_iff.2 ⟨counted, tells⟩
    exact ⟨limits, told, made, rfl⟩

theorem Options.Tells.take {told : List String} (tells : options.Tells text seed told)
    (count : Nat) : options.Tells text seed (told.take count) := by
  obtain ⟨after, tells⟩ := tells
  exact Grammar.Tells.take tells count

theorem Options.Tells.unique {told other : List String} (tells : options.Tells text seed told)
    (tells' : options.Tells text seed other) (same : told.length = other.length) :
    told = other := by
  obtain ⟨after, tells⟩ := tells
  obtain ⟨after', tells'⟩ := tells'
  exact (tells.unique tells' same).1

theorem Asks.ends_iff_of_tells (asks : Asks files input arguments options seed text)
    {told : List String} (tells : options.Tells text seed told)
    (enough : options.count.getD 1 ≤ told.length) {entropy : WordStream} {outcome : Outcome} :
    Ends entropy files input arguments outcome ↔
      outcome = ⟨0, writeSentences (options.count.getD 1) (told.take (options.count.getD 1)),
        options.status input text⟩ := by
  have counted : (told.take (options.count.getD 1)).length = options.count.getD 1 :=
    List.length_take_of_le enough
  rw [asks.ends_iff]
  constructor
  · rintro ⟨other, tells', counted', rfl⟩
    rw [tells'.unique (tells.take _) (counted'.trans counted.symm)]
  · rintro rfl
    exact ⟨_, tells.take _, counted, rfl⟩

theorem Options.Tells.space_of_blank {told : List String} (tells : options.Tells text seed told) :
    ∀ sentence ∈ told, ∀ c ∈ sentence.toList, Text.isBlank c = true → c = ' ' := by
  obtain ⟨after, tells⟩ := tells
  exact tells.forall_mem fun sentence position after drawn =>
    Grammar.space_of_blank rfl (Rules.wordy_ofDefinitions _) drawn

theorem Options.grammarOf_raw (options : Options) (raw : Bool) (text : String) :
    Options.grammarOf { options with raw := raw } text =
      (options.grammarOf text).withTrim (!raw) := rfl

theorem Options.tells_trimmed_iff {told : List String} :
    Options.Tells { options with raw := false } text seed told ↔
      ∃ untrimmed, Options.Tells { options with raw := true } text seed untrimmed ∧
        told = untrimmed.map trimmed := by
  simp only [Options.Tells, Options.grammarOf_raw, Bool.not_false, Bool.not_true,
    Grammar.tells_withTrim_iff]
  constructor
  · rintro ⟨after, untrimmed, tells, rfl⟩
    exact ⟨untrimmed, ⟨after, tells⟩, rfl⟩
  · rintro ⟨untrimmed, ⟨after, tells⟩, rfl⟩
    exact ⟨after, untrimmed, tells, rfl⟩

/-- **The runs of one seed write the same lines, as many as they are asked for.**  A run that is
asked for no more sentences than are told ends in one way, with the first of them; a single one is
written as it is, and others as one line each.  A run that is asked for fewer writes the start of
what the other writes, status lines change nothing on the standard output, and the sentences are
those of a run without trimming, trimmed. -/
theorem seeded_runs (asks : Asks files input arguments options seed text) :
    (∀ told, options.Tells text seed told →
      (∀ sentence ∈ told, '\n' ∉ sentence.toList) ∧
      (options.count.getD 1 ≤ told.length → ∃ output,
        (∀ entropy outcome, Ends entropy files input arguments outcome ↔
          outcome = ⟨0, output, options.status input text⟩) ∧
        (options.count.getD 1 = 1 → told.head? = some output) ∧
        (options.count.getD 1 ≠ 1 →
          output = String.join ((told.take (options.count.getD 1)).map (· ++ "\n")) ∧
          Text.lines output.toList = (told.take (options.count.getD 1)).map String.toList ∧
          (Text.lines output.toList).length = options.count.getD 1))) ∧
      (∀ entropy outcome, Ends entropy files input arguments outcome →
        ∃ told, options.Tells text seed told ∧ told.length = options.count.getD 1) ∧
      (∀ count verbose arguments',
        read arguments' = .ok (.run { options with count := count, verbose := verbose }) →
        count.getD 1 ≤ options.count.getD 1 →
        ∀ entropy outcome, Ends entropy files input arguments outcome →
          ∃ fewer more, Ends entropy files input arguments' fewer ∧
            outcome.output = fewer.output ++ more) ∧
      (∀ verbose arguments', read arguments' = .ok (.run { options with verbose := verbose }) →
        ∀ entropy outcome, Ends entropy files input arguments outcome →
          ∃ messages, Ends entropy files input arguments' { outcome with messages := messages }) ∧
      ∀ told, Options.Tells { options with raw := false } text seed told ↔
        ∃ untrimmed, Options.Tells { options with raw := true } text seed untrimmed ∧
          told = untrimmed.map trimmed := by
  refine ⟨fun told tells => ⟨?_, fun enough => ?_⟩, ?_, ?_, ?_, ?_⟩
  · intro sentence member feed
    exact absurd (tells.space_of_blank sentence member '\n' feed (by decide)) (by decide)
  · refine ⟨_, fun entropy outcome => asks.ends_iff_of_tells tells enough, fun one => ?_,
      fun notOne => ?_⟩
    · rw [one] at enough ⊢
      exact (writeSentences_one enough).symm
    · have spaced := (tells.take (options.count.getD 1)).space_of_blank
      rw [writeSentences_of_ne_one notOne, lines_join_feed spaced, List.length_map,
        List.length_take_of_le enough]
      exact ⟨rfl, rfl, rfl⟩
  · intro entropy outcome ends
    obtain ⟨told, tells, counted, -⟩ := asks.ends_iff.1 ends
    exact ⟨told, tells, counted⟩
  · intro count verbose arguments' reads fewer entropy outcome ends
    obtain ⟨told, tells, counted, rfl⟩ := asks.ends_iff.1 ends
    have asks' : Asks files input arguments' { options with count := count, verbose := verbose }
        seed text := ⟨reads, asks.seed_eq, asks.sentences, asks.readable⟩
    obtain ⟨more, whole⟩ := writeSentences_take fewer counted.ge
    rw [List.take_of_length_le counted.le] at whole
    exact ⟨_, more, (asks'.ends_iff_of_tells tells (fewer.trans counted.ge)).2 rfl, whole⟩
  · intro verbose arguments' reads entropy outcome ends
    obtain ⟨told, tells, counted, rfl⟩ := asks.ends_iff.1 ends
    have asks' : Asks files input arguments' { options with verbose := verbose } seed text :=
      ⟨reads, asks.seed_eq, asks.sentences, asks.readable⟩
    exact ⟨_, asks'.ends_iff.2 ⟨told, tells, counted, rfl⟩⟩
  · exact fun told => Options.tells_trimmed_iff

end Seeded

/-- The text of a grammar file with commas, brackets and a caret. -/
def spokenText : String :=
  "\x7b\n<start>\n<w> , <w> ( <w> ) ;\n<w> ^ ;\n\x7d\n\x7b\n<w>\nalso ;\nno ;\n\x7d"

def spokenFiles (path : String) : Except Fault String :=
  if path = "grammars/spoken.g" then .ok spokenText else .error (.system .notFound)

def spokenOptions : Options :=
  { grammar := some "spoken", count := some 2, seed := some 7, raw := true }

theorem seeded_runs_spoken :
    Asks spokenFiles "" ["--seed", "7", "--count=2", "--raw", "spoken"] spokenOptions 7
        spokenText ∧
      spokenOptions.Tells spokenText 7 ["also, also (also) ", "no^", "no^"] ∧
      (∀ entropy outcome,
        Ends entropy spokenFiles "" ["--seed", "7", "--count=2", "--raw", "spoken"] outcome ↔
          outcome = ⟨0, "also, also (also) \nno^\n", ""⟩) ∧
      (∀ entropy, ∃ fewer more,
        Ends entropy spokenFiles "" ["-v", "--seed", "7", "--raw", "spoken"] fewer ∧
          "also, also (also) \nno^\n" = fewer.output ++ more) ∧
      Options.Tells { spokenOptions with raw := false } spokenText 7
        ["also, also (also)", "no^", "no^"] := by
  have asks : Asks spokenFiles "" ["--seed", "7", "--count=2", "--raw", "spoken"] spokenOptions 7
      spokenText := by
    refine ⟨?_, rfl, rfl, ?_⟩ <;> decide +kernel
  have made : (spokenOptions.grammarOf spokenText).sentences ⟨3, 64⟩ (Seed.stream 7) 3 =
      some ["also, also (also) ", "no^", "no^"] := by decide +kernel
  have tells : spokenOptions.Tells spokenText 7 ["also, also (also) ", "no^", "no^"] :=
    (Grammar.exists_sentences_iff.1 ⟨_, made⟩).2
  obtain ⟨written, -, fewer, -, raw⟩ := seeded_runs asks
  obtain ⟨output, ends, -, many⟩ := (written _ tells).2 (by decide)
  obtain ⟨rfl, -⟩ := many (by decide)
  have ends' : ∀ entropy outcome,
      Ends entropy spokenFiles "" ["--seed", "7", "--count=2", "--raw", "spoken"] outcome ↔
        outcome = ⟨0, "also, also (also) \nno^\n", ""⟩ := ends
  refine ⟨asks, tells, ends', fun entropy => ?_, (raw _).2 ⟨_, tells, by decide +kernel⟩⟩
  exact fewer none true _ (by decide +kernel) (by decide) entropy _
    ((ends' entropy ⟨0, "also, also (also) \nno^\n", ""⟩).2 rfl)

end CommandLine

end RandomSentences
