import HostPreflight.Proofs.Libraries.Names
import HostPreflight.Proofs.Program.Origin

/-!
# The two searches agree

The libraries of an installation can be found in its directory or on its link line.  If both
tell of the same names, the two searches hold the same libraries and print the same of them,
whatever else stands in the directory and on the line, and in whatever order.

## Main definitions

* `HoldsObjects names entries` — a directory has the shared objects of names.
* `LinksObjects names tokens` — a link line has the tokens of names.
* `AgreeOn names found linked` — two sets of libraries hold these names and print the same.

## Main statements

* `searches_agreeOn` — the libraries of a directory and of a link line agree.
-/

namespace HostPreflight

open Dialogue LinkLibraries Text

/-- A directory has the shared objects of names, and besides them only entries that lack the
head or the extension of a shared object.  The names of entries are octets, and need not be
text. -/
structure HoldsObjects (names : List String) (entries : List (List UInt8)) : Prop where
  present : ∀ name ∈ names, Utf8.encode (sharedObject name.toList) ∈ entries
  others : ∀ entry ∈ entries,
    (∃ name ∈ names, entry = Utf8.encode (sharedObject name.toList)) ∨
      ¬ Utf8.encode "lib".toList <+: entry ∨ ¬ Utf8.encode ".so".toList <:+ entry

/-- A link line has tokens for names, each of them once or more often and with any extension,
and besides them only tokens with neither head. -/
structure LinksObjects (names : List String) (tokens : List (List Char)) : Prop where
  present : ∀ name ∈ names,
    ∃ extension, '.' ∉ extension ∧ linkToken name.toList extension ∈ tokens
  others : ∀ token ∈ tokens,
    (∃ name ∈ names, ∃ extension, '.' ∉ extension ∧ token = linkToken name.toList extension) ∨
      (¬ "-l:lib".toList <+: token ∧ ¬ "-lrte".toList <+: token)

/-- Two sets of libraries hold the same names, and nothing that is written of them differs. -/
structure AgreeOn (names : List String) (found linked : LinkLibraries) : Prop where
  foundNames : ∀ name, name ∈ found.names ↔ name ∈ names
  linkedNames : ∀ name, name ∈ linked.names ↔ name ∈ names
  linkerFlags : found.linkerFlags = linked.linkerFlags
  directives : found.directives = linked.directives
  compact : found.toJson.compact = linked.toJson.compact
  pretty : found.toJson.pretty = linked.toJson.pretty

variable {names : List String} {entries : List (List UInt8)} {tokens : List (List Char)}
  {line : String}

/-- A directory with the shared objects of names holds these libraries. -/
theorem HoldsObjects.mem_ofEntries_iff (objects : HoldsObjects names entries)
    (named : ∀ name ∈ names, name ≠ "") (name : String) :
    name ∈ (ofEntries entries).names ↔ name ∈ names := by
  rw [mem_ofEntries]
  constructor
  · rintro ⟨entry, mem, shared⟩
    rcases objects.others entry mem with ⟨other, there, rfl⟩ | foreign
    · rw [Utf8.decodeLossy_encode, sharedObjectName?_eq_some_iff.2
        ⟨by simpa using named other there, rfl⟩] at shared
      obtain rfl := String.toList_injective (Option.some.inj shared)
      exact there
    · rw [sharedObjectName?_decodeLossy_eq_none foreign] at shared
      exact nomatch shared
  · intro there
    refine ⟨_, objects.present name there, ?_⟩
    rw [Utf8.decodeLossy_encode]
    exact sharedObjectName?_eq_some_iff.2 ⟨by simpa using named name there, rfl⟩

/-- A line with the tokens of names links these libraries. -/
theorem LinksObjects.mem_ofLinkLine_iff (links : LinksObjects names tokens)
    (spaced : Spaced tokens line.toList) (named : ∀ name ∈ names, name ≠ "") (name : String) :
    name ∈ (ofLinkLine line).names ↔ name ∈ names := by
  rw [mem_ofLinkLine, spaced.words_eq]
  constructor
  · rintro ⟨token, mem, link⟩
    rcases links.others token mem with ⟨other, there, extension, dotless, rfl⟩ | ⟨file, plain⟩
    · rw [linkTokenName?_linkToken (by simpa using named other there) dotless] at link
      obtain rfl := String.toList_injective (Option.some.inj link)
      exact there
    · rw [linkTokenName?_eq_none file plain] at link
      exact nomatch link
  · intro there
    obtain ⟨extension, dotless, mem⟩ := links.present name there
    exact ⟨_, mem, linkTokenName?_linkToken (by simpa using named name there) dotless⟩

/-- Libraries that hold the same names agree on them. -/
theorem AgreeOn.of_mem {found linked : LinkLibraries}
    (foundNames : ∀ name, name ∈ found.names ↔ name ∈ names)
    (linkedNames : ∀ name, name ∈ linked.names ↔ name ∈ names) :
    AgreeOn names found linked := by
  obtain rfl : found = linked :=
    LinkLibraries.ext fun name => (foundNames name).trans (linkedNames name).symm
  exact ⟨foundNames, linkedNames, rfl, rfl, rfl, rfl⟩

/-- The search of a directory with the shared objects of names succeeds, and its libraries
agree with those of every link line for the same names. -/
theorem searches_agreeOn {answer : (request : Request) → request.Answer} {directory : String}
    (there : answer (.isDirectory directory) = true)
    (read : answer (.list directory) = .ok entries) (objects : HoldsObjects names entries)
    (spaced : Spaced tokens line.toList) (links : LinksObjects names tokens)
    (named : ∀ name ∈ names, name ≠ "") :
    ∃ found, (hold answer (searchDirectory directory)).result = .ok found ∧
      AgreeOn names found (ofLinkLine line) := by
  refine ⟨ofEntries entries, ?_, ?_⟩
  · rw [result_searchDirectory, if_pos there, read]
  · exact .of_mem (objects.mem_ofEntries_iff named) (links.mem_ofLinkLine_iff spaced named)

/-- A machine with one directory. -/
def directoryAnswer (directory : String) (entries : List (List UInt8)) :
    (request : Request) → request.Answer
  | .isFile _ => false
  | .isDirectory path => path == directory
  | .read _ => .error .noEntry
  | .list _ => .ok entries
  | .execute _ _ => .error .noEntry
  | .logicalCores => 4
  | .summary => ⟨"host", "cpu", "vendor", 4, none, "x86_64"⟩

/-- Names with dots are found among a versioned object, a plugin and an entry that is not
text, and among flags, with one of them linked twice. -/
theorem searches_agreeOn_dotted :
    ∃ found, (hold (directoryAnswer "/opt/lib" [Utf8.encode "librte.so.so".toList,
          [0x6C, 0x69, 0x62, 0xFF], Utf8.encode "librte_eal.so.23".toList,
          Utf8.encode "plugin.so".toList, Utf8.encode "librte_eal.so".toList])
        (searchDirectory "/opt/lib")).result = .ok found ∧
      AgreeOn ["rte_eal", "rte.so"] found
        (ofLinkLine " -L/opt\t-l:librte_eal.so -l:librte.so.a\n-l:librte_eal.a") := by
  have spaced : Spaced ["-L/opt".toList, "-l:librte_eal.so".toList, "-l:librte.so.a".toList,
      "-l:librte_eal.a".toList]
      (" ".toList ++ "-L/opt".toList ++ '\t' :: ([] ++ "-l:librte_eal.so".toList ++ ' ' ::
        ([] ++ "-l:librte.so.a".toList ++ '\n' :: ([] ++ "-l:librte_eal.a".toList)))) :=
    .cons (by simp [isBlank]) (by decide) (by decide) <|
      .cons (by simp) (by decide) (by decide) <|
        .cons (by simp) (by decide) (by decide) <|
          .last (by simp) (by decide)
  refine searches_agreeOn (by decide) rfl ⟨by decide, by decide⟩ spaced ⟨?_, ?_⟩ (by decide)
  · intro name mem
    rcases List.mem_pair.1 mem with rfl | rfl
    · exact ⟨['a'], by decide, by decide⟩
    · exact ⟨['a'], by decide, by decide⟩
  · intro token mem
    simp only [List.mem_cons, List.not_mem_nil, or_false] at mem
    rcases mem with rfl | rfl | rfl | rfl
    · exact .inr (by decide)
    · exact .inl ⟨"rte_eal", by decide, "so".toList, by decide, by decide⟩
    · exact .inl ⟨"rte.so", by decide, "a".toList, by decide, by decide⟩
    · exact .inl ⟨"rte_eal", by decide, "a".toList, by decide, by decide⟩

end HostPreflight
