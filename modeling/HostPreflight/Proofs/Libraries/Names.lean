import HostPreflight.Libraries
import HostPreflight.Proofs.Text.ByteOrder
import HostPreflight.Proofs.Text.Words
import Mathlib.Data.List.Sort

/-!
# The names of libraries

A name is told from the file of a shared object and from a token of a link line.  What the
two readers take off around the name is described here, and which files and tokens they do
not take for libraries at all.

## Main definitions

* `sharedObject name` — the file of a shared object.
* `linkToken name extension` — the token that links a library by its file.

## Main statements

* `sharedObjectName?_eq_some_iff` — which files are shared objects.
* `linkTokenName?_linkToken` — the name in a token is what stands before the last dot.
* `LinkLibraries.ext` — libraries are known by their names.
* `LinkLibraries.increasing_octets` — the names are in the order of their octets.
-/

namespace HostPreflight

open Text

/-- The file of a shared object. -/
def sharedObject (name : List Char) : List Char := "lib".toList ++ name ++ ".so".toList

/-- The token that links a library by its file. -/
def linkToken (name extension : List Char) : List Char :=
  "-l:lib".toList ++ (name ++ '.' :: extension)

variable {name file token extension : List Char}

/-! ## Files -/

/-- A file is a shared object exactly if a name stands between the head and the extension. -/
theorem sharedObjectName?_eq_some_iff :
    sharedObjectName? file = some name ↔ name ≠ [] ∧ file = sharedObject name := by
  simp only [sharedObjectName?, bind, Option.bind_eq_some_iff,
    List.isPrefixOf?_eq_some_iff_append_eq, List.isSuffixOf?_eq_some_iff_append_eq]
  constructor
  · rintro ⟨_, rfl, stem, rfl, named⟩
    split at named
    · exact nomatch named
    · rename_i nonempty
      obtain rfl := Option.some.inj named
      exact ⟨by simpa using nonempty, by simp [sharedObject]⟩
  · rintro ⟨nonempty, rfl⟩
    exact ⟨name ++ ".so".toList, by simp [sharedObject], name, rfl, by simp [nonempty]⟩

/-- An entry of a directory that lacks the head or the extension of shared objects names no
library: ASCII characters are decoded from their own octets only. -/
theorem sharedObjectName?_decodeLossy_eq_none {entry : List UInt8}
    (other : ¬ Utf8.encode "lib".toList <+: entry ∨ ¬ Utf8.encode ".so".toList <:+ entry) :
    sharedObjectName? (Utf8.decodeLossy entry) = none := by
  rw [Option.eq_none_iff_forall_ne_some]
  intro name named
  obtain ⟨-, text⟩ := sharedObjectName?_eq_some_iff.1 named
  have headed : Utf8.decodeLossy entry = [] ++ ['l', 'i', 'b'] ++ (name ++ ".so".toList) := by
    rw [text]
    simp [sharedObject]
  obtain ⟨front, rest, rfl, empty, text⟩ :=
    Utf8.exists_of_decodeLossy_eq_append (by simp) headed
  have tailed : Utf8.decodeLossy rest = name ++ ['.', 's', 'o'] ++ [] := by
    rw [text]
    simp
  obtain ⟨stem, back, rfl, -, empty'⟩ :=
    Utf8.exists_of_decodeLossy_eq_append (by simp) tailed
  obtain rfl := Utf8.decodeLossy_eq_nil empty
  obtain rfl := Utf8.decodeLossy_eq_nil empty'
  rcases other with head | tail
  · exact head ⟨_, rfl⟩
  · exact tail ⟨Utf8.encode "lib".toList ++ stem, by simp⟩

/-! ## Tokens -/

/-- What stands before the last dot. -/
theorem beforeLastDot_append (stem : List Char) (dotless : '.' ∉ extension) :
    beforeLastDot (stem ++ '.' :: extension) = stem := by
  have ends : (stem ++ '.' :: extension).reverse.dropWhile (· != '.') = '.' :: stem.reverse := by
    rw [List.reverse_append, List.reverse_cons, List.append_assoc, List.dropWhile_append_of_pos]
    · rfl
    · intro c mem
      simpa using fun (same : c = '.') => dotless (same ▸ List.mem_reverse.1 mem)
  rw [beforeLastDot, ends]
  exact List.reverse_reverse stem

/-- The token of a library is read back, if its extension has no dot of its own. -/
theorem linkTokenName?_linkToken (nonempty : name ≠ []) (dotless : '.' ∉ extension) :
    linkTokenName? (linkToken name extension) = some name := by
  have head : "-l:lib".toList.isPrefixOf? (linkToken name extension) =
      some (name ++ '.' :: extension) := List.isPrefixOf?_eq_some_iff_append_eq.2 rfl
  unfold linkTokenName?
  rw [head]
  simp [beforeLastDot_append name dotless, nonempty]

/-- A token with neither head names no library. -/
theorem linkTokenName?_eq_none (byFile : ¬ "-l:lib".toList <+: token)
    (byName : ¬ "-lrte".toList <+: token) : linkTokenName? token = none := by
  have headless : "-l:lib".toList.isPrefixOf? token = none := by
    rw [Option.eq_none_iff_forall_ne_some]
    intro rest head
    exact byFile ⟨rest, List.isPrefixOf?_eq_some_iff_append_eq.1 head⟩
  have nameless : ¬ "-lrte".toList.isPrefixOf token = true :=
    mt List.isPrefixOf_iff_prefix.1 byName
  unfold linkTokenName?
  rw [headless]
  exact if_neg nameless

/-! ## Sets of names -/

namespace LinkLibraries

/-- Libraries are known by their names. -/
theorem ext {a b : LinkLibraries} (same : ∀ name, name ∈ a.names ↔ name ∈ b.names) : a = b := by
  have names : a.names = b.names := a.increasing.eq_of_mem_iff b.increasing same
  cases a
  cases b
  simpa using names

/-- The names are in the order of their octets, and each of them stands there once. -/
theorem increasing_octets (libraries : LinkLibraries) :
    (libraries.names.map fun name => Utf8.encode name.toList).Pairwise (· < ·) := by
  rw [List.pairwise_map]
  exact libraries.increasing.imp fun lt => Utf8.encode_lt_encode lt

/-- The libraries of a directory are those of its shared objects. -/
theorem mem_ofEntries {name : String} {entries : List (List UInt8)} :
    name ∈ (ofEntries entries).names ↔
      ∃ entry ∈ entries, sharedObjectName? (Utf8.decodeLossy entry) = some name.toList := by
  simp [ofEntries, ← String.toList_inj]

/-- A directory has the libraries of its shared objects. -/
theorem mem_ofEntries_iff {name : String} {entries : List (List UInt8)} :
    name ∈ (ofEntries entries).names ↔
      name ≠ "" ∧ ∃ entry ∈ entries, Utf8.decodeLossy entry = sharedObject name.toList := by
  have some : name.toList ≠ [] ↔ name ≠ "" := not_congr String.toList_eq_nil_iff
  simp only [mem_ofEntries, sharedObjectName?_eq_some_iff, some]
  exact ⟨fun ⟨entry, mem, nonempty, file⟩ => ⟨nonempty, entry, mem, file⟩,
    fun ⟨nonempty, entry, mem, file⟩ => ⟨entry, mem, nonempty, file⟩⟩

/-- The libraries of a link line are those of its tokens. -/
theorem mem_ofLinkLine {name line : String} :
    name ∈ (ofLinkLine line).names ↔
      ∃ token ∈ words line.toList, linkTokenName? token = some name.toList := by
  simp [ofLinkLine, ← String.toList_inj]

end LinkLibraries

end HostPreflight
