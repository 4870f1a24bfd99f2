import HostPreflight.Proofs.Libraries.Agreement
import HostPreflight.Proofs.Libraries.Directory
import HostPreflight.Proofs.Libraries.LinkLine
import HostPreflight.Proofs.Text.Lines
import HostPreflight.Proofs.Text.OneLine

/-!
# Flags and directives

The flags of libraries are written on one line with blanks between them, and their directives
on a line each.  Names are written as they are, so the flags can be told apart exactly if no
name has a blank, and the directives exactly if no name has a line feed.  The names on a link
line never have one.  Those of a directory can, because the name of a file can.

Flags of names that start with `rte` are tokens of a link line, which has these names again.

## Main definitions

* `FlagsApart libraries`, `DirectivesApart libraries` — what is written is one for each library.
* `OfDataplane libraries` — the names can stand on a link line as flags.
* `normalFlags line` — the libraries of a link line, written as flags.

## Main statements

* `flagsApart_iff`, `directivesApart_iff` — when what is written can be told apart.
* `flags_apart_of_origin` — for a link line always, for a directory depending on its files.
* `flags_read_back` — flags of dataplane libraries are read back.
-/

namespace HostPreflight

open Dialogue LinkLibraries Text

variable {libraries : LinkLibraries} {line : String} {entries : List (List UInt8)}

namespace LinkLibraries

/-! ## One for each library -/

/-- The build-script directive of a library. -/
def directive (name : String) : List Char := directiveHead ++ name.toList

/-- The flags stand on one line, and its words are one flag for each library. -/
structure FlagsApart (libraries : LinkLibraries) : Prop where
  oneLine : OneLine libraries.linkerFlags
  words : Spaced (libraries.names.map flag) libraries.linkerFlags.toList

/-- The directives stand on one line for each library, and nothing stands behind them. -/
def DirectivesApart (libraries : LinkLibraries) : Prop :=
  Separated (· == '\n') libraries.directives.toList (libraries.names.map directive ++ [[]])

/-- A flag is a word if the name has no blank. -/
theorem isWord_flag {name : String} (visible : ∀ c ∈ name.toList, isBlank c = false) :
    IsWord (flag name) := by
  refine ⟨List.cons_ne_nil _ _, fun c mem => ?_⟩
  rcases List.mem_cons.1 mem with rfl | mem
  · decide
  · rcases List.mem_cons.1 mem with rfl | mem
    · decide
    · exact visible c mem

/-- **Flags can be told apart exactly if no name has a blank.** -/
theorem flagsApart_iff :
    FlagsApart libraries ↔ ∀ name ∈ libraries.names, ∀ c ∈ name.toList, isBlank c = false := by
  constructor
  · intro apart name mem c hc
    have word : flag name ∈ Text.words libraries.linkerFlags.toList := by
      rw [apart.words.words_eq]
      exact List.mem_map_of_mem mem
    exact isBlank_of_mem_word word (List.mem_cons_of_mem _ (List.mem_cons_of_mem _ hc))
  · intro visible
    have words : ∀ word ∈ libraries.names.map flag, IsWord word := by
      intro word mem
      obtain ⟨name, there, rfl⟩ := List.mem_map.1 mem
      exact isWord_flag (visible name there)
    constructor
    case oneLine =>
      rw [linkerFlags, oneLine_ofList]
      refine newline_notMem_intercalate (by decide) fun word mem feed => ?_
      exact absurd ((words word mem).visible _ feed) (by decide)
    case words =>
      rw [linkerFlags, String.toList_ofList]
      exact spaced_intercalate words

/-- **Directives can be told apart exactly if no name has a line feed.** -/
theorem directivesApart_iff :
    DirectivesApart libraries ↔ ∀ name ∈ libraries.names, '\n' ∉ name.toList := by
  have text : libraries.directives.toList =
      (libraries.names.map directive).flatMap fun line => line ++ ['\n'] := by
    rw [directives, String.toList_ofList, List.flatMap_map]
    rfl
  constructor
  · intro apart name mem feed
    have line : directive name ∈ fields (· == '\n') libraries.directives.toList := by
      rw [apart.fields_eq]
      exact List.mem_append_left _ (List.mem_map_of_mem mem)
    have other := not_of_mem_fields line (List.mem_append_right directiveHead feed)
    exact absurd other (by decide)
  · intro plain
    have lines : ∀ line ∈ libraries.names.map directive, '\n' ∉ line := by
      intro line mem
      obtain ⟨name, there, rfl⟩ := List.mem_map.1 mem
      have head : '\n' ∉ directiveHead := by decide
      simp [directive, head, plain name there]
    rw [DirectivesApart, text, separated_iff]
    exact fields_flatMap_line lines

/-! ## Names that are found -/

/-- The names on a link line have no blanks, since its tokens have none. -/
theorem visible_of_mem_ofLinkLine {name : String} (mem : name ∈ (ofLinkLine line).names) :
    ∀ c ∈ name.toList, isBlank c = false := by
  obtain ⟨-, token, has, names⟩ := mem_ofLinkLine_iff.1 mem
  have visible : ∀ c ∈ token, isBlank c = false :=
    fun c inside => isBlank_of_mem_word (hasToken_iff.1 has) inside
  intro c inside
  refine visible c ?_
  cases names with
  | file => exact List.mem_append_right _ inside
  | extended => exact List.mem_append_right _ (List.mem_append_left _ inside)
  | flag => exact List.mem_append_right _ inside

/-- What holds of the names in a directory, read off the files. -/
theorem forall_mem_ofEntries_iff {p : List Char → Prop} (empty : p []) :
    (∀ name ∈ (ofEntries entries).names, p name.toList) ↔
      ∀ entry ∈ entries, ∀ name, Utf8.decodeLossy entry = sharedObject name → p name := by
  constructor
  · intro all entry mem name file
    by_cases some : name = []
    · exact some ▸ empty
    · have found : String.ofList name ∈ (ofEntries entries).names :=
        mem_ofEntries_iff.2 ⟨by simpa using some, entry, mem, by simpa using file⟩
      simpa using all _ found
  · intro all name mem
    obtain ⟨-, entry, there, file⟩ := mem_ofEntries_iff.1 mem
    exact all entry there name.toList file

/-- **Whatever a link line holds, each of its libraries has one flag and one directive.**  Of a
directory this can be said exactly if no shared object has a blank in its name, for flags, or
a line feed, for directives. -/
theorem flags_directives_apart (line : String) (entries : List (List UInt8)) :
    (ofLinkLine line).FlagsApart ∧ (ofLinkLine line).DirectivesApart ∧
      ((ofEntries entries).FlagsApart ↔
        ∀ entry ∈ entries, ∀ name, Utf8.decodeLossy entry = sharedObject name →
          ∀ c ∈ name, isBlank c = false) ∧
      ((ofEntries entries).DirectivesApart ↔
        ∀ entry ∈ entries, ∀ name, Utf8.decodeLossy entry = sharedObject name →
          '\n' ∉ name) := by
  have visible : ∀ name ∈ (ofLinkLine line).names, ∀ c ∈ name.toList, isBlank c = false :=
    fun name mem => visible_of_mem_ofLinkLine mem
  refine ⟨flagsApart_iff.2 visible, directivesApart_iff.2 ?_, ?_, ?_⟩
  · intro name mem feed
    exact absurd (visible name mem _ feed) (by decide)
  · rw [flagsApart_iff]
    exact forall_mem_ofEntries_iff (p := fun cs => ∀ c ∈ cs, isBlank c = false) (by simp)
  · rw [directivesApart_iff]
    exact forall_mem_ofEntries_iff (p := fun cs => '\n' ∉ cs) (by simp)

/-- A file with a line feed in its name adds a line and a word to the flags, and to the
directives one of its own. -/
theorem flags_of_file_with_newline :
    let entries := ["librte_eal\ncargo:rustc-cfg=x.so", "librte_mbuf.so"].map fun name =>
      Utf8.encode name.toList
    ∃ found, (hold (directoryAnswer "/opt/lib" entries) (searchDirectory "/opt/lib")).result =
        .ok found ∧
      found.size = 2 ∧
      found.linkerFlags = "-lrte_eal\ncargo:rustc-cfg=x -lrte_mbuf" ∧
      (words found.linkerFlags.toList).length = 3 ∧ ¬ found.FlagsApart ∧
      found.directives = "cargo:rustc-link-lib=dylib=rte_eal\n" ++
        "cargo:rustc-cfg=x\n" ++ "cargo:rustc-link-lib=dylib=rte_mbuf\n" ∧
      ¬ found.DirectivesApart := by
  intro entries
  have read := hold_searchDirectory_of_listed (directoryAnswer "/opt/lib" entries) "/opt/lib"
    (by decide) rfl
  refine ⟨ofEntries entries, congrArg Transcript.result read, ?_⟩
  refine ⟨by decide +kernel, by decide +kernel, by decide +kernel, ?_, by decide +kernel, ?_⟩
  · exact fun apart => absurd apart.oneLine (by decide +kernel)
  · exact fun apart => absurd apart.fields_eq (by decide +kernel)

/-! ## Flags as tokens -/

/-- The names of the libraries start with `rte` and have no blanks. -/
def OfDataplane (libraries : LinkLibraries) : Prop :=
  ∀ name ∈ libraries.names, "rte".toList <+: name.toList ∧ ∀ c ∈ name.toList, isBlank c = false

instance (libraries : LinkLibraries) : Decidable libraries.OfDataplane :=
  decidable_of_iff
    (libraries.names.all fun name =>
      "rte".toList.isPrefixOf name.toList && name.toList.all fun c => !isBlank c)
    (by simp [OfDataplane])

/-- On a link line, the tokens of files go on with `rte`. -/
def LinksDataplane (line : String) : Prop :=
  ∀ rest, HasToken line ("-l:lib".toList ++ rest) → "rte".toList <+: rest

instance (line : String) : Decidable (LinksDataplane line) :=
  decidable_of_iff
    (∀ token ∈ words line.toList, ∀ rest ∈ "-l:lib".toList.isPrefixOf? token,
      "rte".toList <+: rest)
    ⟨fun all rest has => all _ (hasToken_iff.1 has) rest
        (List.isPrefixOf?_eq_some_iff_append_eq.2 rfl),
      fun all token mem rest head => by
        obtain rfl := List.isPrefixOf?_eq_some_iff_append_eq.1 head
        exact all rest (hasToken_iff.2 mem)⟩

/-- The libraries of a link line, written as flags. -/
def normalFlags (line : String) : String := (ofLinkLine line).linkerFlags

/-- The flag of a dataplane library is a token for it. -/
theorem linkTokenName?_flag {name : String} (plain : "rte".toList <+: name.toList) :
    linkTokenName? (flag name) = some name.toList := by
  have nonempty : name.toList ≠ [] := fun none => by simp [none] at plain
  exact linkTokenName?_eq_some_iff.2 ⟨nonempty, .flag plain⟩

/-- The flags of dataplane libraries are tokens for these libraries and no others. -/
theorem OfDataplane.ofLinkLine_linkerFlags (plain : libraries.OfDataplane) :
    ofLinkLine libraries.linkerFlags = libraries := by
  have apart := flagsApart_iff.2 fun name mem => (plain name mem).2
  refine LinkLibraries.ext fun name => ?_
  rw [mem_ofLinkLine, apart.words.words_eq]
  constructor
  · rintro ⟨token, mem, read⟩
    obtain ⟨other, there, rfl⟩ := List.mem_map.1 mem
    rw [linkTokenName?_flag (plain other there).1] at read
    obtain rfl := String.toList_injective (Option.some.inj read)
    exact there
  · intro mem
    exact ⟨flag name, List.mem_map_of_mem mem, linkTokenName?_flag (plain name mem).1⟩

/-- A dataplane library is named before the dot of its file. -/
theorem rte_prefix_of_append {name extension : List Char}
    (plain : "rte".toList <+: name ++ '.' :: extension) : "rte".toList <+: name := by
  rcases List.prefix_or_prefix_of_prefix plain (List.prefix_append name _) with long | short
  · exact long
  · -- a name that ends earlier would have the dot among these letters
    obtain ⟨rest, split⟩ := short
    obtain ⟨back, whole⟩ := plain
    rw [← split, List.append_assoc, List.append_cancel_left_eq] at whole
    cases rest with
    | nil => exact ⟨[], by simpa using split.symm⟩
    | cons c rest =>
      obtain ⟨rfl, -⟩ := List.cons.inj whole
      have dot : '.' ∈ "rte".toList := split ▸ List.mem_append_right name List.mem_cons_self
      exact absurd dot (by decide)

/-- The libraries of a line with dataplane tokens are dataplane libraries. -/
theorem LinksDataplane.ofDataplane (only : LinksDataplane line) :
    (ofLinkLine line).OfDataplane := by
  intro name mem
  refine ⟨?_, visible_of_mem_ofLinkLine mem⟩
  obtain ⟨-, token, has, names⟩ := mem_ofLinkLine_iff.1 mem
  cases names with
  | file => exact only name.toList has
  | extended => exact rte_prefix_of_append (only _ has)
  | flag plain => exact plain

/-- **Flags of dataplane libraries are read back**, so writing the libraries of a link line as
flags once more changes nothing. -/
theorem flags_read_back :
    (∀ libraries : LinkLibraries, libraries.OfDataplane →
      ofLinkLine libraries.linkerFlags = libraries) ∧
    ∀ line, LinksDataplane line → normalFlags (normalFlags line) = normalFlags line := by
  refine ⟨fun libraries plain => plain.ofLinkLine_linkerFlags, fun line only => ?_⟩
  rw [normalFlags, normalFlags, only.ofDataplane.ofLinkLine_linkerFlags]

/-- Names with dots and colons are read back, and a line with repeated tokens and others is
written in its normal form. -/
theorem flags_read_back_dotted :
    let libraries := ofList ["rte_net:1", "rte_eal", "rte.so.1", "rte"]
    let line := "-L/opt -l:librte.so.a\t-lrte_eal -l:librte:x -lm\n-lrte_eal"
    libraries.OfDataplane ∧ ofLinkLine libraries.linkerFlags = libraries ∧
      LinksDataplane line ∧ normalFlags line = "-lrte.so -lrte:x -lrte_eal" ∧
      normalFlags (normalFlags line) = normalFlags line := by
  intro libraries line
  have plain : libraries.OfDataplane := by decide +kernel
  have only : LinksDataplane line := by decide +kernel
  exact ⟨plain, flags_read_back.1 libraries plain, only, by decide +kernel,
    flags_read_back.2 line only⟩

end LinkLibraries

end HostPreflight
