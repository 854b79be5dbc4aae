/-
# Proofs.Resolution -- where the file of a grammar is looked for

A name is put into the grammar directory when its components do not start with those of the
directory, and then the extension is written behind its text.  The first step is one of
components and the second one of characters, so the extension can undo what the first step saw.

The components of a path are those above its last slash, and then the one that its text ends in,
where it ends in one (`ending?`).  A full stop and more text behind the path change that last
component and leave those above it as they are (`exists_components_append_dot`).  So a path lies
under a directory as before, unless the changed component was the last one of the directory
(`liesUnder_append_dot_iff`), and that decides which relative names are looked for inside the
grammar directory (`Config.liesUnder_pathOf_iff`).

Where the text behind the last slash is the name of an entry (`Named`), what comes behind its last
full stop is the extension (`extension?_append_dot`); a path that was found is then found again,
as it is (`Config.pathOf_pathOf`).
-/
import RandomSentences.Config
import Mathlib.Data.List.DropRight
import Mathlib.Data.List.Infix

namespace RandomSentences

set_option autoImplicit false

namespace Path

/-! ## Between slashes -/

/-- Text without a slash belongs to what comes first behind it. -/
theorem splitOn_append {left : List Char} (noSlash : '/' ∉ left) {right piece : List Char}
    {others : List (List Char)} (shape : right.splitOn '/' = piece :: others) :
    (left ++ right).splitOn '/' = (left ++ piece) :: others := by
  induction left with
  | nil => exact shape
  | cons c left ih =>
      obtain ⟨plain, noSlash⟩ := not_or.1 (mt List.mem_cons.2 noSlash)
      rw [List.cons_append, List.splitOn_cons_eq_if_modifyHead, ih noSlash,
        if_neg (by simpa using Ne.symm plain)]
      rfl

theorem splitOn_append_dot {left : List Char} (noSlash : '/' ∉ left) {right piece : List Char}
    {others : List (List Char)} (shape : right.splitOn '/' = piece :: others) :
    (left ++ '.' :: right).splitOn '/' = (left ++ '.' :: piece) :: others := by
  have noSlash' : '/' ∉ left ++ ['.'] := by simp [noSlash]
  simpa using splitOn_append noSlash' shape

/-! ## Components above and behind a slash -/

def behindSlash (text : List Char) : List Component :=
  (text.splitOn '/').filterMap component?

theorem components_append_slash (left right : String) :
    components (left ++ "/" ++ right) = components (left ++ "/") ++ behindSlash right.toList := by
  have parted (text : List Char) :
      (left.toList ++ '/' :: text).head? = (left.toList ++ ['/']).head? := by
    cases left.toList <;> rfl
  obtain ⟨first, others, shape⟩ := List.exists_cons_of_ne_nil (List.splitOn_ne_nil '/' left.toList)
  have nothing : component? [] = none := rfl
  simp [components, isAbsolute, parted, List.splitOn_append_cons_self, shape, behindSlash, nothing]

/-- A slash behind a path changes none of its components. -/
theorem components_slash {path : String} (nonempty : path ≠ "") :
    components (path ++ "/") = components path := by
  have start : (path.toList ++ ['/']).head? = path.toList.head? := by
    cases shape : path.toList with
    | nil => exact absurd (String.toList_eq_nil_iff.1 shape) nonempty
    | cons c rest => rfl
  obtain ⟨first, others, shape⟩ := List.exists_cons_of_ne_nil (List.splitOn_ne_nil '/' path.toList)
  have nothing : component? [] = none := rfl
  simp [components, isAbsolute, start, List.splitOn_append_cons_self, shape, nothing]

theorem exists_eq_append_slash {path : String} (last : path.toList.getLast? = some '/') :
    ∃ above : String, path = above ++ "/" := by
  obtain ⟨above, shape⟩ := List.getLast?_eq_some_iff.1 last
  refine ⟨String.ofList above, String.toList_inj.1 ?_⟩
  rw [shape, String.toList_append, String.toList_ofList]
  rfl

/-- The components of what is joined to a directory come behind those of the directory. -/
theorem components_join {directory path : String} (nonempty : directory ≠ "")
    (relative : isAbsolute path = false) :
    components (join directory path) = components directory ++ behindSlash path.toList := by
  rw [join, relative, if_neg Bool.false_ne_true]
  split
  · rename_i none_
    exact absurd (String.toList_eq_nil_iff.1 (List.getLast?_eq_none_iff.1 none_)) nonempty
  · rename_i last
    obtain ⟨above, rfl⟩ := exists_eq_append_slash last
    exact components_append_slash _ path
  · rw [components_append_slash, components_slash nonempty]

theorem join_append {directory path more : String} (relative : isAbsolute path = false)
    (relative' : isAbsolute (path ++ more) = false) :
    join directory path ++ more = join directory (path ++ more) := by
  rw [join, join, relative, relative']
  simp only [Bool.false_eq_true, if_false]
  split <;> simp [String.append_assoc]

theorem isAbsolute_append {path : String} (absolute : isAbsolute path = true) (more : String) :
    isAbsolute (path ++ more) = true := by
  rw [isAbsolute, String.toList_append] at *
  cases shape : path.toList with
  | nil => simp [shape] at absolute
  | cons c rest => simpa [shape] using absolute

theorem isAbsolute_append_dot {path : String} (relative : isAbsolute path = false)
    (more : String) : isAbsolute (path ++ ("." ++ more)) = false := by
  rw [isAbsolute, String.toList_append] at *
  cases shape : path.toList with
  | nil => simp
  | cons c rest => simpa [shape] using relative

/-! ## What a path ends in -/

def lastName (path : String) : List Char :=
  path.toList.rtakeWhile (· != '/')

/-- The component that the text of a path ends in.  There is none where a slash comes last, or a
full stop that says nothing. -/
def ending? (path : String) : Option Component :=
  if path = "." then some .here else component? (lastName path)

theorem slash_notMem_lastName (path : String) : '/' ∉ lastName path := by
  intro member
  have := List.mem_rtakeWhile_imp member
  simp at this

/-- A path is what stands behind its last slash, and what stands before that slash if it has one. -/
theorem eq_lastName_or (path : String) :
    path = String.ofList (lastName path) ∨
      ∃ above : String, path = above ++ "/" ++ String.ofList (lastName path) := by
  have whole : path.toList.rdropWhile (· != '/') ++ lastName path = path.toList :=
    List.rdropWhile_append_rtakeWhile
  rcases List.eq_nil_or_concat (path.toList.rdropWhile (· != '/')) with none_ | ⟨above, last, shape⟩
  · left
    rw [none_, List.nil_append] at whole
    rw [whole, String.ofList_toList]
  · right
    have nonempty : path.toList.rdropWhile (· != '/') ≠ [] := by simp [shape]
    have slash : last = '/' := by
      have := List.rdropWhile_last_not (· != '/') path.toList nonempty
      simpa [shape] using this
    refine ⟨String.ofList above, String.toList_inj.1 ?_⟩
    rw [← whole, shape, slash]
    simp

theorem lastName_append_slash (above name : String) :
    lastName (above ++ "/" ++ name) = lastName name := by
  have stop (text : List Char) :
      (text ++ '/' :: above.toList.reverse).takeWhile (· != '/') = text.takeWhile (· != '/') := by
    induction text with
    | nil => simp
    | cons c text ih => simp only [List.cons_append, List.takeWhile_cons, ih]
  have reversed : (above ++ "/" ++ name).toList.reverse =
      name.toList.reverse ++ '/' :: above.toList.reverse := by simp
  rw [lastName, List.rtakeWhile, reversed, stop]
  rfl

theorem lastName_append {more : String} (noSlash : '/' ∉ more.toList) (path : String) :
    lastName (path ++ more) = lastName path ++ more.toList := by
  have plain (c : Char) (member : c ∈ more.toList.reverse) : (c != '/') = true := by
    rw [bne_iff_ne]
    rintro rfl
    exact noSlash (List.mem_reverse.1 member)
  rw [lastName, String.toList_append, List.rtakeWhile, List.reverse_append,
    List.takeWhile_append_of_pos plain, List.reverse_append, List.reverse_reverse]
  rfl

/-! ## More text behind a path -/

theorem component?_eq_entry {piece : List Char} (named : piece ≠ []) (notHere : piece ≠ ['.'])
    (notUp : piece ≠ ['.', '.']) : component? piece = some (.entry (String.ofList piece)) := by
  rw [component?, if_neg (not_or.2 ⟨named, notHere⟩), if_neg notUp]

theorem append_dot_ne {piece : List Char} (nonempty : piece ≠ []) (more : List Char) :
    piece ++ '.' :: more ≠ ['.'] := by
  obtain ⟨c, rest, rfl⟩ := List.exists_cons_of_ne_nil nonempty
  simp

theorem append_dot_ne_up {piece : List Char} (nonempty : piece ≠ []) (notHere : piece ≠ ['.'])
    (more : List Char) : piece ++ '.' :: more ≠ ['.', '.'] := by
  rcases piece with _ | ⟨c, _ | ⟨d, rest⟩⟩
  · exact absurd rfl nonempty
  · intro up
    simp only [List.cons_append, List.nil_append, List.cons.injEq] at up
    exact notHere (by rw [up.1])
  · simp

def firstComponent? (piece : List Char) : Option Component :=
  if piece = ['.'] then some .here else component? piece

/-- A full stop and more text behind it make another component of a piece that is one. -/
theorem component?_append_dot {piece : List Char} {component : Component}
    (named : component? piece = some component) (more : List Char) :
    ∃ other, component? (piece ++ '.' :: more) = some other ∧ other ≠ component := by
  rw [component?] at named
  split at named
  · cases named
  · rename_i spoken
    obtain ⟨nonempty, notHere⟩ := not_or.1 spoken
    refine ⟨_, component?_eq_entry (by simp) (append_dot_ne nonempty more)
      (append_dot_ne_up nonempty notHere more), ?_⟩
    split at named
    · cases named
      exact Component.noConfusion
    · cases named
      intro same
      have := congrArg List.length (String.ofList_inj.1 (Component.entry.inj same))
      simp at this

theorem firstComponent?_append_dot {piece : List Char} {component : Component}
    (named : firstComponent? piece = some component) (more : List Char) :
    ∃ other, firstComponent? (piece ++ '.' :: more) = some other ∧ other ≠ component := by
  rw [firstComponent?] at named
  split at named
  · rename_i here
    subst here
    cases named
    rw [firstComponent?, if_neg (by simp), component?, if_neg (by simp)]
    split <;> exact ⟨_, rfl, Component.noConfusion⟩
  · have nonempty : piece ≠ [] := by
      rintro rfl
      cases named
    rw [firstComponent?, if_neg (append_dot_ne nonempty more)]
    exact component?_append_dot named more

/-- A path that does not start at the root has the components of what is between its slashes. -/
theorem components_relative {path : String} (relative : isAbsolute path = false)
    {first : List Char} {others : List (List Char)} (shape : path.toList.splitOn '/' = first :: others) :
    components path = (firstComponent? first).toList ++ others.filterMap component? := by
  rw [components, shape, firstComponent?]
  simp only [relative, Bool.false_eq_true, if_false]
  split <;> rfl

/-- What is behind a slash ends in the component of its only piece, until there is more text. -/
theorem behindSlash_append_dot {name : List Char} (noSlash : '/' ∉ name) (more : List Char) :
    behindSlash name = (component? name).toList ∧
      ∀ component ∈ component? name, component ∉ (behindSlash (name ++ '.' :: more)).head? := by
  obtain ⟨piece, others, shape⟩ := List.exists_cons_of_ne_nil (List.splitOn_ne_nil '/' more)
  rw [behindSlash, behindSlash, List.splitOn_eq_singleton noSlash,
    splitOn_append_dot noSlash shape]
  constructor
  · cases named : component? name <;> simp [named]
  · intro component named
    obtain ⟨other, found, differs⟩ := component?_append_dot named piece
    rw [List.filterMap_cons_some found]
    simpa using differs

/-- A path that is one piece ends in the component of that piece, until there is more text. -/
theorem components_append_dot {path : String} (noSlash : '/' ∉ path.toList) (more : String) :
    components path = (firstComponent? path.toList).toList ∧
      ∀ component ∈ firstComponent? path.toList,
        component ∉ (components (path ++ ("." ++ more))).head? := by
  obtain ⟨piece, others, shape⟩ := List.exists_cons_of_ne_nil (List.splitOn_ne_nil '/' more.toList)
  have relative : isAbsolute path = false := by
    rw [isAbsolute]
    cases start : path.toList with
    | nil => rfl
    | cons c rest =>
        rw [start] at noSlash
        simpa using Ne.symm (not_or.1 (mt List.mem_cons.2 noSlash)).1
  have whole : (path ++ ("." ++ more)).toList.splitOn '/' =
      (path.toList ++ '.' :: piece) :: others := by
    simpa using splitOn_append_dot noSlash shape
  rw [components_relative relative (List.splitOn_eq_singleton noSlash),
    components_relative (isAbsolute_append_dot relative more) whole]
  constructor
  · simp
  · intro component named
    obtain ⟨other, found, differs⟩ := firstComponent?_append_dot named piece
    rw [found]
    simpa using differs

/-- **A full stop and more text behind a path change the component that the path ends in**, and
none above it. -/
theorem exists_components_append_dot (path more : String) :
    ∃ above tail, components path = above ++ (ending? path).toList ∧
      components (path ++ ("." ++ more)) = above ++ tail ∧
      ∀ component ∈ ending? path, component ∉ tail.head? := by
  -- A path without a slash is a first piece, where `.` is a component; behind a slash it is none.
  rcases eq_lastName_or path with own | ⟨above, own⟩
  · have text : path.toList = lastName path := by
      have := congrArg String.toList own
      rwa [String.toList_ofList] at this
    have ends : ending? path = firstComponent? path.toList := by
      have here : path = "." ↔ path.toList = ['.'] := String.toList_inj.symm
      rw [ending?, firstComponent?, ← text]
      simp only [here]
    obtain ⟨parts, differs⟩ := components_append_dot (text ▸ slash_notMem_lastName path) more
    exact ⟨[], _, by rw [parts, ends, List.nil_append], rfl, ends ▸ differs⟩
  · have ends : ending? path = component? (lastName path) := by
      rw [ending?, if_neg]
      intro dot
      have slashes := congrArg (fun text => '/' ∈ String.toList text) (own.symm.trans dot)
      simp at slashes
    have text : path ++ ("." ++ more) =
        above ++ "/" ++ String.ofList (lastName path ++ '.' :: more.toList) := by
      apply String.toList_inj.1
      conv_lhs => rw [own]
      simp
    obtain ⟨parts, differs⟩ := behindSlash_append_dot (slash_notMem_lastName path) more.toList
    refine ⟨components (above ++ "/"), behindSlash (lastName path ++ '.' :: more.toList), ?_, ?_, ?_⟩
    · conv_lhs => rw [own]
      rw [components_append_slash, String.toList_ofList, parts, ends]
    · rw [text, components_append_slash, String.toList_ofList]
    · rwa [ends]

/-! ## Directories -/

theorem liesUnder_iff {path directory : String} :
    liesUnder path directory = true ↔ components directory <+: components path :=
  List.isPrefixOf_iff_prefix

theorem liesUnder_of_eq {path directory : String}
    (same : components path = components directory) : liesUnder path directory = true := by
  rw [liesUnder_iff, same]

/-- With more text behind it a path still lies under a directory, unless it is the path of the
directory and ends in a component of it. -/
theorem liesUnder_append_dot_iff {path directory : String} (under : liesUnder path directory = true)
    (more : String) :
    liesUnder (path ++ ("." ++ more)) directory = true ↔
      ¬(components path = components directory ∧ (ending? path).isSome) := by
  rw [liesUnder_iff] at under ⊢
  obtain ⟨above, tail, parts, parts', differs⟩ := exists_components_append_dot path more
  rw [parts'] at *
  rw [parts] at under ⊢
  cases ends : ending? path with
  | none =>
      rw [ends, Option.toList_none, List.append_nil] at under
      simpa using under.trans (List.prefix_append above tail)
  | some component =>
      rw [ends, Option.toList_some] at under
      rw [Option.toList_some]
      -- The component that changes is the last one of the directory, or comes after all of them.
      rcases List.prefix_concat_iff.1 under with whole | inside
      · rw [whole, List.prefix_append_right_inj]
        have other : ¬[component] <+: tail := by
          rintro ⟨rest, rfl⟩
          exact differs component ends rfl
        simp [other]
      · have shorter : above ++ [component] ≠ components directory := by
          intro same
          have := inside.length_le
          rw [← same, List.length_append, List.length_singleton] at this
          omega
        simpa [shorter] using inside.trans (List.prefix_append above tail)

theorem liesUnder_join {directory path : String} (nonempty : directory ≠ "")
    (relative : isAbsolute path = false) : liesUnder (join directory path) directory = true := by
  rw [liesUnder_iff, components_join nonempty relative]
  exact List.prefix_append _ _

/-! ## Extensions -/

theorem lastName_join {directory path : String} (relative : isAbsolute path = false) :
    lastName (join directory path) = lastName path := by
  rw [join, relative, if_neg Bool.false_ne_true]
  split
  · rfl
  · rename_i last
    obtain ⟨above, rfl⟩ := exists_eq_append_slash last
    exact lastName_append_slash _ path
  · exact lastName_append_slash directory path

/-- Does the text behind the last slash of a path name an entry? -/
structure Named (path : String) : Prop where
  nonempty : lastName path ≠ []
  notHere : lastName path ≠ ['.']
  notUp : lastName path ≠ ['.', '.']

theorem lastName_append_dot {more : String} (noSlash : '/' ∉ more.toList) (path : String) :
    lastName (path ++ ("." ++ more)) = lastName path ++ '.' :: more.toList := by
  have noSlash' : '/' ∉ ("." ++ more).toList := by simp [noSlash]
  rw [lastName_append noSlash', String.toList_append]
  rfl

theorem Named.append_dot {path : String} (named : Named path) {more : String}
    (noSlash : '/' ∉ more.toList) : Named (path ++ ("." ++ more)) where
  nonempty := by simp [lastName_append_dot noSlash]
  notHere := by
    rw [lastName_append_dot noSlash]
    exact append_dot_ne named.nonempty _
  notUp := by
    rw [lastName_append_dot noSlash]
    exact append_dot_ne_up named.nonempty named.notHere _

theorem extension?_of_named {path : String} (named : Named path) :
    extension? path = (extensionOf? (lastName path)).map String.ofList := by
  obtain ⟨above, -, parts, -⟩ := exists_components_append_dot path ""
  have notDot : path ≠ "." := by
    rintro rfl
    exact named.notHere (by decide)
  rw [ending?, if_neg notDot,
    component?_eq_entry named.nonempty named.notHere named.notUp] at parts
  rw [extension?, parts]
  simp

/-- What comes behind a full stop in a name is its extension, unless another full stop follows. -/
theorem extensionOf?_append_dot {name more : List Char} (nonempty : name ≠ [])
    (noDot : '.' ∉ more) : extensionOf? (name ++ '.' :: more) = some more := by
  have plain (c : Char) (member : c ∈ more.reverse) : (c != '.') = true := by
    rw [bne_iff_ne]
    rintro rfl
    exact noDot (List.mem_reverse.1 member)
  have reversed : (name ++ '.' :: more).reverse = more.reverse ++ '.' :: name.reverse := by simp
  obtain ⟨c, rest, shape⟩ := List.exists_cons_of_ne_nil (mt List.reverse_eq_nil_iff.1 nonempty)
  rw [extensionOf?, reversed, List.dropWhile_append_of_pos plain, List.takeWhile_append_of_pos plain,
    shape]
  simp

/-- What comes behind a full stop in the name of an entry is the extension of the path. -/
theorem extension?_append_dot {path more : String} (named : Named path)
    (noSlash : '/' ∉ more.toList) (noDot : '.' ∉ more.toList) :
    extension? (path ++ ("." ++ more)) = some more := by
  rw [extension?_of_named (named.append_dot noSlash), lastName_append_dot noSlash,
    extensionOf?_append_dot named.nonempty noDot, Option.map_some, String.ofList_toList]

end Path

namespace Config

open RandomSentences.Path

variable (config : Config) {name : String}

theorem placed_of_liesUnder (under : liesUnder name config.grammarDir = true) :
    config.placed name = name := by
  rw [placed, under, Bool.or_true, if_pos rfl]

theorem placed_of_isAbsolute (absolute : isAbsolute name = true) : config.placed name = name := by
  rw [placed, absolute, Bool.true_or, if_pos rfl]

theorem placed_of_outside (relative : isAbsolute name = false)
    (outside : liesUnder name config.grammarDir = false) :
    config.placed name = join config.grammarDir name := by
  rw [placed, relative, outside]
  rfl

/-- A directory that something lies outside of has a name. -/
theorem grammarDir_ne (outside : liesUnder name config.grammarDir = false) :
    config.grammarDir ≠ "" := by
  intro none_
  rw [none_] at outside
  cases outside

theorem pathOf_of_extension (has : extension? (config.placed name) = some config.extension) :
    config.pathOf name = config.placed name := by
  rw [pathOf, if_pos has]

theorem pathOf_of_noExtension (lacks : extension? (config.placed name) ≠ some config.extension) :
    config.pathOf name = config.placed name ++ ("." ++ config.extension) := by
  rw [pathOf, if_neg lacks, String.append_assoc]

/-! ## Inside the grammar directory -/

/-- A name that is put into the grammar directory stays there with its extension. -/
theorem liesUnder_pathOf_of_outside (relative : isAbsolute name = false)
    (outside : liesUnder name config.grammarDir = false) :
    liesUnder (config.pathOf name) config.grammarDir = true := by
  have nonempty := config.grammarDir_ne outside
  have joined := config.placed_of_outside relative outside
  by_cases has : extension? (config.placed name) = some config.extension
  · rw [config.pathOf_of_extension has, joined]
    exact liesUnder_join nonempty relative
  · have relative' := isAbsolute_append_dot relative config.extension
    rw [config.pathOf_of_noExtension has, joined, join_append relative relative']
    exact liesUnder_join nonempty relative'

theorem liesUnder_pathOf_of_under (under : liesUnder name config.grammarDir = true) :
    liesUnder (config.pathOf name) config.grammarDir = true ↔
      ¬(components name = components config.grammarDir ∧ (ending? name).isSome ∧
        extension? name ≠ some config.extension) := by
  have still := config.placed_of_liesUnder under
  by_cases has : extension? name = some config.extension
  · rw [config.pathOf_of_extension (still.symm ▸ has), still]
    simp [under, has]
  · rw [config.pathOf_of_noExtension (still.symm ▸ has), still, liesUnder_append_dot_iff under]
    simp [has]

/-- **A relative name is looked for inside the grammar directory**, unless it is the path of that
directory: when its text ends in the last component and not in a slash, and that component lacks
the extension, the extension makes another name of it, beside the directory. -/
theorem liesUnder_pathOf_iff (relative : isAbsolute name = false) :
    liesUnder (config.pathOf name) config.grammarDir = true ↔
      ¬(components name = components config.grammarDir ∧ (ending? name).isSome ∧
        extension? name ≠ some config.extension) := by
  cases place : liesUnder name config.grammarDir with
  | true => exact config.liesUnder_pathOf_of_under place
  | false =>
      have apart : components name ≠ components config.grammarDir := by
        intro same
        rw [liesUnder_of_eq same] at place
        cases place
      simp [config.liesUnder_pathOf_of_outside relative place, apart]

/-- The path of the directory itself, with a slash behind it and without, and a bare name. -/
theorem liesUnder_pathOf_grammars :
    liesUnder (({} : Config).pathOf "grammars/") "grammars" = true ∧
      liesUnder (({} : Config).pathOf "poem") "grammars" = true ∧
      liesUnder (({} : Config).pathOf "grammars") "grammars" = false := by
  have slash := liesUnder_pathOf_iff ({} : Config) (by decide : isAbsolute "grammars/" = false)
  have poem := liesUnder_pathOf_iff ({} : Config) (by decide : isAbsolute "poem" = false)
  have bare := liesUnder_pathOf_iff ({} : Config) (by decide : isAbsolute "grammars" = false)
  exact ⟨slash.2 (by decide +kernel), poem.2 (by decide +kernel),
    Bool.eq_false_iff.2 (mt bare.1 (by decide +kernel))⟩

/-- The grammar of the directory's own name is looked for beside the directory. -/
theorem pathOf_beside_grammarDir :
    ({} : Config).pathOf "grammars" = "grammars.g" ∧
      ¬∀ (config : Config) (name : String), config.grammarDir ≠ "" → name ≠ "" →
        isAbsolute name = false → liesUnder (config.pathOf name) config.grammarDir = true := by
  refine ⟨by decide +kernel, fun inside => ?_⟩
  have := inside {} "grammars" (by decide) (by decide) (by decide)
  revert this
  decide +kernel

/-! ## Resolving a second time -/

theorem lastName_placed : lastName (config.placed name) = lastName name := by
  rw [placed]
  split
  · rfl
  · rename_i outside
    rw [Bool.or_eq_true, not_or, Bool.not_eq_true] at outside
    exact lastName_join outside.1

theorem named_placed (named : Named name) : Named (config.placed name) where
  nonempty := by rw [lastName_placed]; exact named.nonempty
  notHere := by rw [lastName_placed]; exact named.notHere
  notUp := by rw [lastName_placed]; exact named.notUp

theorem isAbsolute_pathOf (absolute : isAbsolute name = true) :
    isAbsolute (config.pathOf name) = true := by
  have still := config.placed_of_isAbsolute absolute
  rw [pathOf, still]
  split
  · exact absolute
  · rw [String.append_assoc]
    exact isAbsolute_append absolute _

/-- A path that has been found is not put into the grammar directory again. -/
theorem placed_pathOf (apart : components name ≠ components config.grammarDir) :
    config.placed (config.pathOf name) = config.pathOf name := by
  cases start : isAbsolute name with
  | true => exact config.placed_of_isAbsolute (config.isAbsolute_pathOf start)
  | false =>
      apply config.placed_of_liesUnder
      cases place : liesUnder name config.grammarDir with
      | true =>
          rw [config.liesUnder_pathOf_of_under place]
          simp [apart]
      | false => exact config.liesUnder_pathOf_of_outside start place

/-- The path that is found has the extension of grammar files. -/
theorem extension?_pathOf (noDot : '.' ∉ config.extension.toList)
    (noSlash : '/' ∉ config.extension.toList) (named : Named name) :
    extension? (config.pathOf name) = some config.extension := by
  by_cases has : extension? (config.placed name) = some config.extension
  · rw [config.pathOf_of_extension has, has]
  · rw [config.pathOf_of_noExtension has]
    exact extension?_append_dot (config.named_placed named) noSlash noDot

/-- **Directory and extension are added once**: the path of a name that ends in an entry has the
extension, and is its own path. -/
theorem pathOf_pathOf (noDot : '.' ∉ config.extension.toList)
    (noSlash : '/' ∉ config.extension.toList) (named : Named name)
    (apart : components name ≠ components config.grammarDir) :
    extension? (config.pathOf name) = some config.extension ∧
      config.pathOf (config.pathOf name) = config.pathOf name := by
  have has := config.extension?_pathOf noDot noSlash named
  have still := config.placed_pathOf apart
  refine ⟨has, ?_⟩
  rw [config.pathOf_of_extension (still.symm ▸ has), still]

/-- A hidden file in a directory given with dots and slashes. -/
theorem pathOf_pathOf_hidden :
    let config : Config := { grammarDir := "./data//", extension := "txt" }
    config.pathOf "a.g/.poem" = "./data//a.g/.poem.txt" ∧
      extension? (config.pathOf "a.g/.poem") = some "txt" ∧
      config.pathOf (config.pathOf "a.g/.poem") = config.pathOf "a.g/.poem" := by
  intro config
  have named : Named "a.g/.poem" :=
    ⟨by decide +kernel, by decide +kernel, by decide +kernel⟩
  exact ⟨by decide +kernel, config.pathOf_pathOf (by decide +kernel) (by decide +kernel) named
    (by decide +kernel)⟩

end Config

end RandomSentences
