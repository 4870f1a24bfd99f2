import HostPreflight.Proofs.Libraries.Agreement
import Mathlib.Data.List.Nodup
import Mathlib.Data.List.Perm.Basic

/-!
# The libraries of a directory

The search of a directory finds the libraries whose shared objects stand there, and notes
every other entry in the log.  It is the same set in whatever order the entries are given.

An entry is known by octets and a library by the text that they are decoded to.  Two entries
that are not text may be decoded to the same one; entries that are text never are, so there
are as many libraries as shared objects among them.

## Main definitions

* `IsSharedObject file` — a file is an unversioned shared object.
* `Yields entry` — what a search makes of an entry: a name or an event.
* `ListsObjects entries found` — what is promised about the libraries of a directory.
* `AccountsFor entries found events` — every entry yields a library or an event of a search.

## Main statements

* `searchDirectory_lists_objects` — the promise is kept, in whatever order entries are given.
-/

namespace HostPreflight

open Dialogue LinkLibraries Text

/-- A file is an unversioned shared object: a name stands between head and extension. -/
def IsSharedObject (file : List Char) : Prop := ∃ name, name ≠ [] ∧ file = sharedObject name

variable {file : List Char} {entry : List UInt8} {entries order : List (List UInt8)}
  {name : String}

theorem isSome_sharedObjectName?_iff : (sharedObjectName? file).isSome ↔ IsSharedObject file := by
  simp only [Option.isSome_iff_exists, sharedObjectName?_eq_some_iff, IsSharedObject]

instance (file : List Char) : Decidable (IsSharedObject file) :=
  decidable_of_iff _ isSome_sharedObjectName?_iff

/-! ## The set of names -/

/-- The order of the entries does not matter. -/
theorem LinkLibraries.ofEntries_perm (perm : order.Perm entries) :
    ofEntries order = ofEntries entries := by
  refine LinkLibraries.ext fun name => ?_
  simp only [mem_ofEntries_iff, perm.mem_iff]

/-- A set has as many names as a list without repetitions from which it is made. -/
theorem LinkLibraries.size_ofList {names : List String} (distinct : names.Nodup) :
    (ofList names).size = names.length := by
  have once : (ofList names).names.Nodup := (ofList names).increasing.imp String.ne_of_lt
  exact ((List.perm_ext_iff_of_nodup once distinct).2 fun name => mem_ofList).length_eq

/-- Entries that are text are told apart by their texts. -/
theorem nodup_map_decodeLossy (distinct : entries.Nodup)
    (text : ∀ entry ∈ entries, ∃ cs, entry = Utf8.encode cs) :
    (entries.map Utf8.decodeLossy).Nodup := by
  refine distinct.map_on fun entry mem other mem' same => ?_
  obtain ⟨cs, rfl⟩ := text entry mem
  obtain ⟨ds, rfl⟩ := text other mem'
  rw [Utf8.decodeLossy_encode, Utf8.decodeLossy_encode] at same
  rw [same]

/-- Files with the same name are the same. -/
theorem eq_of_sharedObjectName? {other name : List Char}
    (first : sharedObjectName? file = some name)
    (second : sharedObjectName? other = some name) : file = other := by
  obtain ⟨-, rfl⟩ := sharedObjectName?_eq_some_iff.1 first
  obtain ⟨-, rfl⟩ := sharedObjectName?_eq_some_iff.1 second
  rfl

/-- There are as many libraries as shared objects, if all entries are text. -/
theorem LinkLibraries.size_ofEntries (distinct : entries.Nodup)
    (text : ∀ entry ∈ entries, ∃ cs, entry = Utf8.encode cs) :
    (ofEntries entries).size =
      entries.countP fun entry => decide (IsSharedObject (Utf8.decodeLossy entry)) := by
  have names : ((entries.map Utf8.decodeLossy).filterMap sharedObjectName?).Nodup :=
    (nodup_map_decodeLossy distinct text).filterMap fun _ _ _ => eq_of_sharedObjectName?
  have strings := names.map (f := String.ofList) fun _ _ => String.ofList_inj.1
  have read : ofEntries entries = ofList
      (((entries.map Utf8.decodeLossy).filterMap sharedObjectName?).map String.ofList) := by
    rw [List.filterMap_map]
    rfl
  rw [read, size_ofList strings, List.length_map, List.length_filterMap_eq_countP, List.countP_map]
  exact List.countP_congr fun entry _ => by simp [isSome_sharedObjectName?_iff]

/-! ## Names and events -/

/-- What a search makes of an entry: the name of a library or an event, and not both. -/
inductive Yields (entry : List UInt8) : String ⊕ Event → Prop where
  | library {name : List Char} (some : name ≠ [])
      (file : Utf8.decodeLossy entry = sharedObject name) :
      Yields entry (.inl (String.ofList name))
  | ignored (other : ¬ IsSharedObject (Utf8.decodeLossy entry)) :
      Yields entry (.inr (.ignoring (Utf8.decodeLossy entry)))

/-- What a search makes of an entry. -/
def yieldOf (entry : List UInt8) : String ⊕ Event :=
  match sharedObjectName? (Utf8.decodeLossy entry) with
  | some name => .inl (String.ofList name)
  | none => .inr (.ignoring (Utf8.decodeLossy entry))

theorem yields_yieldOf (entry : List UInt8) : Yields entry (yieldOf entry) := by
  unfold yieldOf
  cases read : sharedObjectName? (Utf8.decodeLossy entry) with
  | some name =>
    obtain ⟨some, file⟩ := sharedObjectName?_eq_some_iff.1 read
    exact .library some file
  | none =>
    refine .ignored fun object => ?_
    rw [← isSome_sharedObjectName?_iff, read] at object
    exact nomatch object

theorem yieldOf_eq_inl_iff :
    yieldOf entry = .inl name ↔ sharedObjectName? (Utf8.decodeLossy entry) = some name.toList := by
  unfold yieldOf
  cases sharedObjectName? (Utf8.decodeLossy entry) with
  | some cs => simp [← String.toList_inj]
  | none => simp

/-- The names that entries yield are their libraries. -/
theorem mem_ofEntries_iff_yields :
    name ∈ (ofEntries entries).names ↔ .inl name ∈ entries.map yieldOf := by
  simp only [List.mem_map, mem_ofEntries, yieldOf_eq_inl_iff]

/-- The events that entries yield are the ones of the ignored entries, in order. -/
theorem events_yieldOf (entries : List (List UInt8)) :
    (entries.map yieldOf).filterMap Sum.getRight? = (ignoredEntries entries).map .ignoring := by
  induction entries with
  | nil => rfl
  | cons entry entries ih =>
    rw [ignoredEntries] at ih ⊢
    cases read : sharedObjectName? (Utf8.decodeLossy entry) with
    | some name =>
      have quiet : (yieldOf entry).getRight? = none := by rw [yieldOf, read, Sum.getRight?_inl]
      rw [List.map_cons, List.filterMap_cons_none quiet, ih]
      simp [read]
    | none =>
      have noted : (yieldOf entry).getRight? = some (.ignoring (Utf8.decodeLossy entry)) := by
        rw [yieldOf, read, Sum.getRight?_inr]
      rw [List.map_cons, List.filterMap_cons_some noted, ih]
      simp [read]

/-- Every entry yields a library or an event of a search, and there are no others. -/
def AccountsFor (entries : List (List UInt8)) (found : LinkLibraries) (events : List Event) :
    Prop :=
  ∃ yields, List.Forall₂ Yields entries yields ∧
    (∀ name, name ∈ found.names ↔ .inl name ∈ yields) ∧
    events = yields.filterMap Sum.getRight?

/-! ## The search -/

/-- What is promised about the libraries of a directory. -/
structure ListsObjects (entries : List (List UInt8)) (found : LinkLibraries) : Prop where
  /-- Their names are strictly increasing in the order of octets. -/
  increasing : (found.names.map fun name => Utf8.encode name.toList).Pairwise (· < ·)
  /-- They are what stands between head and extension of the entries. -/
  mem_iff : ∀ name, name ∈ found.names ↔
    name ≠ "" ∧ ∃ entry ∈ entries, Utf8.decodeLossy entry = sharedObject name.toList
  /-- No two shared objects are the same library, if all entries are text. -/
  size : entries.Nodup → (∀ entry ∈ entries, ∃ cs, entry = Utf8.encode cs) →
    found.size = entries.countP fun entry => decide (IsSharedObject (Utf8.decodeLossy entry))

theorem listsObjects_ofEntries (entries : List (List UInt8)) :
    ListsObjects entries (ofEntries entries) where
  increasing := increasing_octets _
  mem_iff := fun _ => mem_ofEntries_iff
  size := size_ofEntries

/-- A directory that can be listed is searched to its end. -/
theorem hold_searchDirectory_of_listed (answer : (request : Request) → request.Answer)
    (directory : String) (there : answer (.isDirectory directory) = true)
    (read : answer (.list directory) = .ok entries) :
    hold answer (searchDirectory directory) = {
      result := .ok (ofEntries entries)
      events := (ignoredEntries entries).map .ignoring
        ++ [.foundLibraries (ofEntries entries).size directory]
      questions := [.isDirectory directory, .list directory] } := by
  rw [hold_searchDirectory, if_pos there, read]

/-- **A search finds the libraries of a directory**, in whatever order the entries are given,
and every entry is the shared object of a library or is noted in the log. -/
theorem searchDirectory_lists_objects (directory : String) (entries : List (List UInt8)) :
    ∃ found, ListsObjects entries found ∧
      ∀ (order : List (List UInt8)) (answer : (request : Request) → request.Answer),
        order.Perm entries → answer (.isDirectory directory) = true →
        answer (.list directory) = .ok order →
        ∃ events, AccountsFor order found events ∧
          hold answer (searchDirectory directory) = {
            result := .ok found
            events := events ++ [.foundLibraries found.size directory]
            questions := [.isDirectory directory, .list directory] } := by
  refine ⟨ofEntries entries, listsObjects_ofEntries entries, ?_⟩
  intro order answer perm there read
  rw [← ofEntries_perm perm]
  refine ⟨(ignoredEntries order).map .ignoring, ⟨order.map yieldOf, ?_, ?_, ?_⟩, ?_⟩
  · rw [List.forall₂_map_right_iff, List.forall₂_same]
    exact fun entry _ => yields_yieldOf entry
  · exact fun name => mem_ofEntries_iff_yields
  · exact (events_yieldOf order).symm
  · exact hold_searchDirectory_of_listed answer directory there read

/-- Two files that are not text are the same library, and one with two extensions is another.
Files without a name or without a dot are noted in the log. -/
theorem searchDirectory_lists_merged :
    let entries := [Utf8.encode "libso".toList, [0x6C, 0x69, 0x62, 0xFF, 0x2E, 0x73, 0x6F],
      Utf8.encode "lib.so".toList, [0x6C, 0x69, 0x62, 0xFE, 0x2E, 0x73, 0x6F],
      Utf8.encode "lib.so.so".toList]
    let answer := directoryAnswer "/opt/lib" entries.reverse
    ∃ found events, ListsObjects entries found ∧ AccountsFor entries.reverse found events ∧
      hold answer (searchDirectory "/opt/lib") = {
        result := .ok found
        events := events ++ [.foundLibraries found.size "/opt/lib"]
        questions := [.isDirectory "/opt/lib", .list "/opt/lib"] } ∧
      found.names = [".so", "\uFFFD"] ∧
      events = [.ignoring "lib.so".toList, .ignoring "libso".toList] := by
  intro entries answer
  obtain ⟨found, lists, searched⟩ := searchDirectory_lists_objects "/opt/lib" entries
  obtain ⟨events, accounts, run⟩ :=
    searched entries.reverse answer (List.reverse_perm entries) (by decide) rfl
  have known := run.symm.trans (hold_searchDirectory_of_listed answer "/opt/lib" (by decide) rfl)
  obtain ⟨result, noted, -⟩ := Transcript.mk.inj known
  obtain rfl := Except.ok.inj result
  obtain rfl := List.append_cancel_right noted
  exact ⟨_, _, lists, accounts, run, by decide +kernel, by decide +kernel⟩

end HostPreflight
