import HostPreflight.Json.Record
import HostPreflight.Text.Fields
import HostPreflight.Text.Utf8

/-!
# Link libraries

The names under which the installed dataplane libraries are linked.  There are
two ways to find them: the unversioned shared objects `lib<name>.so` of a
directory, or the tokens of a static link line.  Either way the result is a set,
held as a strictly increasing list, so neither the order nor the repetition of
what was found can be seen in it.

## Main definitions

* `LinkLibraries` — a set of names in increasing order.
* `LinkLibraries.ofList` — the set of the names of a list.
* `sharedObjectName?`, `LinkLibraries.ofEntries` — the names in a directory.
* `linkTokenName?`, `LinkLibraries.ofLinkLine` — the names on a link line.
* `LinkLibraries.linkerFlags`, `directives` — what a build needs of them.

## Main statements

* `mem_ofList` — the set holds exactly the names of the list.
-/

namespace HostPreflight

open Text

/-! ## Names in order -/

/-- Puts a name at its place in an increasing list, unless it is there already. -/
def insertName (name : String) : List String → List String
  | [] => [name]
  | first :: others =>
    if name = first then first :: others
    else if name < first then name :: first :: others
    else first :: insertName name others

/-- Inserting adds one name and keeps the others. -/
@[simp] theorem mem_insertName {name other : String} {names : List String} :
    other ∈ insertName name names ↔ other = name ∨ other ∈ names := by
  induction names with
  | nil => simp [insertName]
  | cons first others ih =>
    unfold insertName
    split
    · simp_all
    · split
      · simp
      · simp only [List.mem_cons, ih]
        exact or_left_comm

/-- Inserting keeps a list strictly increasing. -/
theorem pairwise_insertName {name : String} {names : List String}
    (h : names.Pairwise (· < ·)) : (insertName name names).Pairwise (· < ·) := by
  induction names with
  | nil => simp [insertName]
  | cons first others ih =>
    obtain ⟨below, rest⟩ := List.pairwise_cons.1 h
    unfold insertName
    split
    · exact h
    · rename_i ne
      split
      · rename_i lt
        refine List.pairwise_cons.2 ⟨fun other mem => ?_, h⟩
        rcases List.mem_cons.1 mem with rfl | mem
        · exact lt
        · exact String.lt_trans lt (below other mem)
      · rename_i notLt
        have lt : first < name := by
          rw [← String.not_le]
          exact fun le => ne (String.le_antisymm le (String.not_lt.1 notLt))
        refine List.pairwise_cons.2 ⟨fun other mem => ?_, ih rest⟩
        rcases mem_insertName.1 mem with rfl | mem
        · exact lt
        · exact below other mem

/-- A set of library names. -/
structure LinkLibraries where
  /-- The names in order. -/
  names : List String
  increasing : names.Pairwise (· < ·)
  deriving DecidableEq

namespace LinkLibraries

/-- No libraries. -/
def empty : LinkLibraries := ⟨[], .nil⟩

/-- The libraries with one more. -/
def insert (libraries : LinkLibraries) (name : String) : LinkLibraries :=
  ⟨insertName name libraries.names, pairwise_insertName libraries.increasing⟩

/-- The set of the names of a list. -/
def ofList (names : List String) : LinkLibraries := names.foldl insert empty

theorem mem_foldl_insert {other : String} {names : List String} {libraries : LinkLibraries} :
    other ∈ (names.foldl insert libraries).names ↔ other ∈ libraries.names ∨ other ∈ names := by
  induction names generalizing libraries with
  | nil => simp
  | cons name names ih =>
    simp only [List.foldl_cons, ih, insert, mem_insertName, List.mem_cons]
    rw [or_assoc, or_left_comm]

/-- The set of a list holds exactly its names. -/
@[simp] theorem mem_ofList {other : String} {names : List String} :
    other ∈ (ofList names).names ↔ other ∈ names := by
  simp [ofList, mem_foldl_insert, empty]

/-- The number of libraries. -/
def size (libraries : LinkLibraries) : Nat := libraries.names.length

/-- Whether there is no library. -/
def isEmpty (libraries : LinkLibraries) : Bool := libraries.names.isEmpty

end LinkLibraries

/-! ## Finding the names -/

/-- The link name of an unversioned shared object: `lib<name>.so` with a name. -/
def sharedObjectName? (file : List Char) : Option (List Char) := do
  let rest ← "lib".toList.isPrefixOf? file
  let name ← ".so".toList.isSuffixOf? rest
  if name.isEmpty then none else some name

/-- A text up to its last dot; all of it if it has none. -/
def beforeLastDot (cs : List Char) : List Char :=
  match cs.reverse.dropWhile (· != '.') with
  | [] => cs
  | _ :: stem => stem.reverse

/-- The link name of a token: `-l:lib<name>.<extension>`, or `-l<name>` for a name
that starts with `rte`. -/
def linkTokenName? (token : List Char) : Option (List Char) :=
  match "-l:lib".toList.isPrefixOf? token with
  | some rest =>
    let name := beforeLastDot rest
    if name.isEmpty then none else some name
  | none => if "-lrte".toList.isPrefixOf token then some (token.drop 2) else none

namespace LinkLibraries

/-- The libraries among the entries of a directory, whose names are octets. -/
def ofEntries (entries : List (List UInt8)) : LinkLibraries :=
  ofList ((entries.filterMap fun entry => sharedObjectName? (Utf8.decodeLossy entry)).map
    String.ofList)

/-- The libraries on a link line. -/
def ofLinkLine (line : String) : LinkLibraries :=
  ofList (((words line.toList).filterMap linkTokenName?).map String.ofList)

/-! ## Writing the names -/

/-- The linker flag of a library. -/
def flag (name : String) : List Char := '-' :: 'l' :: name.toList

/-- The flags on one line. -/
def linkerFlags (libraries : LinkLibraries) : String :=
  String.ofList ([' '].intercalate (libraries.names.map flag))

/-- What the build-script directive of a library begins with. -/
def directiveHead : List Char := "cargo:rustc-link-lib=dylib=".toList

/-- The build-script directives, one a line. -/
def directives (libraries : LinkLibraries) : String :=
  String.ofList (libraries.names.flatMap fun name => directiveHead ++ name.toList ++ ['\n'])

/-- The JSON value of a set of libraries. -/
def toJson (libraries : LinkLibraries) : Json :=
  .record [("names", .array (libraries.names.map Json.text))]

/-- Reads a set of libraries. -/
def ofJson? (v : Json) : Option LinkLibraries := do
  match ← v.fields? ["names"] with
  | [names] => return ofList (← Json.required (Json.list? Json.text?) names)
  | _ => none

end LinkLibraries

end HostPreflight
