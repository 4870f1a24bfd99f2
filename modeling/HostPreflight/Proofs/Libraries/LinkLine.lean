import HostPreflight.Proofs.Libraries.Names
import Mathlib.Data.List.TakeWhile

/-!
# The libraries of a link line

A link line is a text of tokens, and some tokens name a library.  The libraries of the line
are the set of these names: it holds each of them once and in order, and nothing else about
the tokens can be seen in it.

## Main definitions

* `NamesLibrary name token` — a token names a library.
* `HasToken line token` — a line has a token.
* `ReadsTokens line` — what is promised about the libraries of a line.

## Main statements

* `linkTokenName?_eq_some_iff` — the name that is read is the one that a token names.
* `readsTokens_ofLinkLine` — the promise is kept for every line.
-/

namespace HostPreflight

open LinkLibraries Text

/-- The tokens that name a library: by its file, whose name ends before the last dot if it has
one, or by the name itself if that starts with `rte`. -/
inductive NamesLibrary (name : List Char) : List Char → Prop where
  | file (dotless : '.' ∉ name) : NamesLibrary name ("-l:lib".toList ++ name)
  | extended {extension : List Char} (dotless : '.' ∉ extension) :
      NamesLibrary name (linkToken name extension)
  | flag (plain : "rte".toList <+: name) : NamesLibrary name ("-l".toList ++ name)

variable {name token : List Char} {line : String}

/-! ## The name in a token -/

/-- A text without a dot is all that stands before one. -/
theorem beforeLastDot_of_dotless (dotless : '.' ∉ name) : beforeLastDot name = name := by
  have none : name.reverse.dropWhile (· != '.') = [] := by
    rw [List.dropWhile_eq_nil_iff]
    intro c mem
    simpa using fun (same : c = '.') => dotless (same ▸ List.mem_reverse.1 mem)
  rw [beforeLastDot, none]

/-- A text with a dot has a last one. -/
theorem exists_lastDot {cs : List Char} (dot : '.' ∈ cs) :
    ∃ stem extension, '.' ∉ extension ∧ cs = stem ++ '.' :: extension := by
  obtain ⟨extension, stem, split, dotless⟩ := List.eq_append_cons_of_mem (List.mem_reverse.2 dot)
  refine ⟨stem.reverse, extension.reverse, by simpa using dotless, ?_⟩
  rw [← List.reverse_reverse cs, split]
  simp

/-- A token of a file is read up to its last dot. -/
theorem linkTokenName?_file (rest : List Char) :
    linkTokenName? ("-l:lib".toList ++ rest) =
      if beforeLastDot rest = [] then none else some (beforeLastDot rest) := by
  have head : "-l:lib".toList.isPrefixOf? ("-l:lib".toList ++ rest) = some rest :=
    List.isPrefixOf?_eq_some_iff_append_eq.2 rfl
  unfold linkTokenName?
  rw [head]
  simp [List.isEmpty_iff]

/-- **The name that is read from a token is the one that it names**, unless that is empty. -/
theorem linkTokenName?_eq_some_iff :
    linkTokenName? token = some name ↔ name ≠ [] ∧ NamesLibrary name token := by
  constructor
  · intro read
    by_cases byFile : "-l:lib".toList <+: token
    · obtain ⟨rest, rfl⟩ := byFile
      rw [linkTokenName?_file] at read
      split at read
      · exact nomatch read
      · rename_i nonempty
        obtain rfl := Option.some.inj read
        refine ⟨nonempty, ?_⟩
        by_cases dot : '.' ∈ rest
        · obtain ⟨stem, extension, dotless, rfl⟩ := exists_lastDot dot
          rw [beforeLastDot_append stem dotless]
          exact .extended dotless
        · rw [beforeLastDot_of_dotless dot]
          exact .file dot
    · by_cases byName : "-lrte".toList <+: token
      · obtain ⟨rest, rfl⟩ := byName
        obtain rfl : "rte".toList ++ rest = name := Option.some.inj read
        exact ⟨by simp, .flag ⟨rest, rfl⟩⟩
      · rw [linkTokenName?_eq_none byFile byName] at read
        exact nomatch read
  · rintro ⟨nonempty, names⟩
    cases names with
    | file dotless =>
      rw [linkTokenName?_file, beforeLastDot_of_dotless dotless, if_neg nonempty]
    | extended dotless => exact linkTokenName?_linkToken nonempty dotless
    | flag plain =>
      obtain ⟨rest, rfl⟩ := plain
      rfl

/-! ## The tokens of a line -/

/-- A line has a token: it is laid out from tokens, of which this is one. -/
def HasToken (line : String) (token : List Char) : Prop :=
  ∃ tokens, Spaced tokens line.toList ∧ token ∈ tokens

/-- The tokens of a line are its words. -/
theorem hasToken_iff : HasToken line token ↔ token ∈ words line.toList := by
  simp [HasToken, spaced_iff]

/-- A line has the libraries that its tokens name. -/
theorem LinkLibraries.mem_ofLinkLine_iff {name : String} :
    name ∈ (ofLinkLine line).names ↔
      name ≠ "" ∧ ∃ token, HasToken line token ∧ NamesLibrary name.toList token := by
  have some : name.toList ≠ [] ↔ name ≠ "" := not_congr String.toList_eq_nil_iff
  simp only [mem_ofLinkLine, linkTokenName?_eq_some_iff, hasToken_iff, some]
  exact ⟨fun ⟨token, mem, nonempty, names⟩ => ⟨nonempty, token, mem, names⟩,
    fun ⟨nonempty, token, mem, names⟩ => ⟨token, mem, nonempty, names⟩⟩

/-- What is promised about the libraries of a link line. -/
structure ReadsTokens (line : String) : Prop where
  /-- Their names are strictly increasing in the order of octets. -/
  increasing :
    ((ofLinkLine line).names.map fun name => Utf8.encode name.toList).Pairwise (· < ·)
  /-- They are the ones that the tokens of the line name. -/
  mem_iff : ∀ name : String, name ∈ (ofLinkLine line).names ↔
    name ≠ "" ∧ ∃ token, HasToken line token ∧ NamesLibrary name.toList token
  /-- Blanks between two lines join their libraries. -/
  union : ∀ gap other : String, gap ≠ "" → (∀ c ∈ gap.toList, isBlank c) → ∀ name,
    name ∈ (ofLinkLine (line ++ gap ++ other)).names ↔
      name ∈ (ofLinkLine line).names ∨ name ∈ (ofLinkLine other).names
  /-- All that counts is which tokens with a name there are: their order and number, the
  blanks between them and all other tokens do not matter. -/
  stable : ∀ other : String,
    (∀ name token, name ≠ [] → NamesLibrary name token →
      (HasToken line token ↔ HasToken other token)) →
    ofLinkLine line = ofLinkLine other

/-- **The libraries of a link line are the set of names in its tokens.** -/
theorem readsTokens_ofLinkLine (line : String) : ReadsTokens line := by
  constructor
  case increasing => exact increasing_octets _
  case mem_iff => exact fun name => mem_ofLinkLine_iff
  case union =>
    intro gap other some blank name
    have split : words (line ++ gap ++ other).toList = words line.toList ++ words other.toList := by
      rw [String.toList_append, String.toList_append]
      exact words_append_gap (by simpa using some) blank _ _
    simp only [mem_ofLinkLine_iff, hasToken_iff, split, List.mem_append, or_and_right,
      exists_or, and_or_left]
  case stable =>
    intro other same
    refine LinkLibraries.ext fun name => ?_
    rw [mem_ofLinkLine_iff, mem_ofLinkLine_iff]
    refine and_congr_right fun some => exists_congr fun token => ?_
    exact and_congr_left fun names => same name.toList token (by simpa using some) names

/-- Tokens may be given in another order, twice, with other blanks between them and with tokens
that name no library, one of them because its name is empty. -/
theorem readsTokens_rearranged :
    let line := "-l:librte.so.a\u2003-lrte_eal"
    let other := " -lrte_eal\t-lm -l:lib.so\n-lrte_eal  -l:librte.so.a"
    ReadsTokens line ∧ (ofLinkLine other).names = ["rte.so", "rte_eal"] ∧
      ofLinkLine line = ofLinkLine other := by
  intro line other
  have reads := readsTokens_ofLinkLine line
  have kept : ∀ token ∈ words line.toList, token ∈ words other.toList := by decide +kernel
  have added : ∀ token ∈ words other.toList, (linkTokenName? token).isSome →
      token ∈ words line.toList := by decide +kernel
  refine ⟨reads, by decide +kernel, reads.stable other fun name token some names => ?_⟩
  have read := linkTokenName?_eq_some_iff.2 ⟨some, names⟩
  rw [hasToken_iff, hasToken_iff]
  exact ⟨kept token, fun mem => added token mem (by rw [read]; rfl)⟩

end HostPreflight
