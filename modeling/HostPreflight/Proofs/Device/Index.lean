import HostPreflight.Device
import HostPreflight.Proofs.Text.Words
import Mathlib.Data.List.DropRight

/-!
# The index of a device id

Whether a device shares the card of the active one is decided by an index, a piece of its id.
It is the field after the first colon.  An id without a colon has its index in the digits at
its end, of which there may be several, and an id without such digits is its own index.  Only
the digits from `0` to `9` count, whatever else a script writes numbers with.

Ids may hold any characters, and a text of UTF-8 is cut at an octet.  A cut inside of a
character leaves no text; but the digits at the end of an id are found by a scan over whole
characters, so the cut in front of them always falls between two characters.

## Main definitions

* `EndsInDigits cs ds` — the longest row of digits at the end of a text.
* `HasIndex id index` — the index that is documented for an id.
* `digitsStart?`, `suffixFrom?`, `cutIndex?` — the same search in the octets of an id, where a
  cut may fail.

## Main statements

* `hasIndex_iff` — every id has one index, the one that is computed.
* `isValid_digitsStart` — the digits begin where a character begins.
* `deviceIndex_documented` — what is documented, found without a failing cut.
-/

namespace HostPreflight

open Text

variable {id cs ds index : List Char}

/-! ## Digits at the end -/

/-- The longest row of digits at the end of a text. -/
structure EndsInDigits (cs ds : List Char) : Prop where
  atEnd : ds <:+ cs
  digits : ∀ c ∈ ds, '0' ≤ c ∧ c ≤ '9'
  longest : ∀ other, other <:+ cs → (∀ c ∈ other, '0' ≤ c ∧ c ≤ '9') → other <:+ ds

/-- Only the digits of ASCII count. -/
theorem isDigit_iff {c : Char} : c.isDigit ↔ '0' ≤ c ∧ c ≤ '9' := by
  simp [Char.isDigit, Char.le_def]

/-- A row of digits that nothing but a digit could continue is taken whole. -/
theorem rtakeWhile_append {α : Type} {p : α → Bool} {front row : List α}
    (inside : ∀ a ∈ row, p a) (ended : ∀ a ∈ front.getLast?, p a = false) :
    (front ++ row).rtakeWhile p = row := by
  have none : front.reverse.takeWhile p = [] := by
    rcases List.eq_nil_or_concat front with rfl | ⟨others, last, rfl⟩
    · rfl
    · rw [List.concat_eq_append, List.getLast?_concat] at ended
      rw [List.concat_eq_append, List.reverse_append, List.reverse_singleton,
        List.singleton_append, List.takeWhile_cons_of_neg (by simp [ended last rfl])]
  rw [List.rtakeWhile, List.reverse_append,
    List.takeWhile_append_of_pos fun a mem => inside a (List.mem_reverse.1 mem), none,
    List.append_nil, List.reverse_reverse]

/-- The digits that are computed are the longest row. -/
theorem endsInDigits_trailingDigits (cs : List Char) : EndsInDigits cs (trailingDigits cs) where
  atEnd := List.rtakeWhile_suffix _ _
  digits := fun _ mem => isDigit_iff.1 (List.mem_rtakeWhile_imp mem)
  longest := by
    rintro other ⟨front, rfl⟩ digits
    have inside : ∀ c ∈ other.reverse, c.isDigit :=
      fun c mem => isDigit_iff.2 (digits c (List.mem_reverse.1 mem))
    rw [trailingDigits, List.reverse_append, List.takeWhile_append_of_pos inside,
      List.reverse_append, List.reverse_reverse]
    exact List.suffix_append ..

/-- There is one longest row. -/
theorem EndsInDigits.trailingDigits_eq (ends : EndsInDigits cs ds) : trailingDigits cs = ds := by
  have computed := endsInDigits_trailingDigits cs
  have shorter := ends.longest _ computed.atEnd computed.digits
  have longer := computed.longest _ ends.atEnd ends.digits
  exact shorter.eq_of_length (Nat.le_antisymm shorter.length_le longer.length_le)

/-- What stands in front of the longest row does not end in a digit. -/
theorem EndsInDigits.not_isDigit {front : List Char} (ends : EndsInDigits (front ++ ds) ds) :
    ∀ c ∈ front.getLast?, c.isDigit = false := by
  intro c last
  obtain ⟨others, rfl⟩ := List.getLast?_eq_some_iff.1 last
  refine Bool.eq_false_iff.2 fun digit => ?_
  -- a digit there would make the row longer
  have longer : c :: ds <:+ ds := by
    refine ends.longest _ ⟨others, by simp⟩ fun d mem => ?_
    rcases List.mem_cons.1 mem with rfl | mem
    · exact isDigit_iff.1 digit
    · exact ends.digits d mem
  exact absurd longer.length_le (by simp)

/-! ## The documented index -/

/-- The index that is documented for an id. -/
inductive HasIndex : List Char → List Char → Prop where
  /-- The field after the first colon. -/
  | field {domain index rest : List Char} (plainDomain : ':' ∉ domain) (plainIndex : ':' ∉ index)
      (ended : rest = [] ∨ rest.head? = some ':') : HasIndex (domain ++ ':' :: index ++ rest) index
  /-- Without a colon, the digits at the end. -/
  | digits {id ds : List Char} (plain : ':' ∉ id) (ends : EndsInDigits id ds) (some : ds ≠ []) :
      HasIndex id ds
  /-- Without a colon and without such digits, all of the id. -/
  | whole {id : List Char} (plain : ':' ∉ id) (ends : EndsInDigits id []) : HasIndex id id

/-- The first field ends at the first colon or with the text. -/
theorem exists_fields_append {rest : List Char} (plain : ':' ∉ cs)
    (ended : rest = [] ∨ rest.head? = some ':') :
    ∃ others, fields (· == ':') (cs ++ rest) = cs :: others := by
  have first := fields_of_notMem plain
  cases rest with
  | nil => exact ⟨[], by rw [List.append_nil, first]⟩
  | cons c rest =>
    obtain rfl : c = ':' := by simpa using ended
    exact ⟨fields (· == ':') rest, by
      rw [fields_append_cons (by decide), first, List.singleton_append]⟩

/-- The index of an id without a colon. -/
theorem deviceIndex_of_plain (plain : ':' ∉ id) :
    deviceIndex id = if (trailingDigits id).isEmpty then id else trailingDigits id := by
  rw [deviceIndex, fields_of_notMem plain]

/-- An id has the index that is documented for it. -/
theorem HasIndex.deviceIndex_eq (h : HasIndex id index) : deviceIndex id = index := by
  cases h with
  | field plainDomain plainIndex ended =>
    obtain ⟨others, split⟩ := exists_fields_append plainIndex ended
    rw [deviceIndex, List.append_assoc, List.cons_append, fields_append_cons (by decide),
      fields_of_notMem plainDomain, split]
    rfl
  | digits plain ends some =>
    rw [deviceIndex_of_plain plain, ends.trailingDigits_eq, if_neg (by simpa using some)]
  | whole plain ends =>
    rw [deviceIndex_of_plain plain, ends.trailingDigits_eq]
    rfl

/-- What follows up to the first colon, and what is left behind it. -/
theorem exists_field (cs : List Char) :
    ∃ field rest, cs = field ++ rest ∧ ':' ∉ field ∧ (rest = [] ∨ rest.head? = some ':') := by
  by_cases colon : ':' ∈ cs
  · obtain ⟨field, rest, split, plain⟩ := List.eq_append_cons_of_mem colon
    exact ⟨field, ':' :: rest, split, plain, .inr rfl⟩
  · exact ⟨cs, [], (List.append_nil cs).symm, colon, .inl rfl⟩

/-- An index is documented for every id. -/
theorem exists_hasIndex (id : List Char) : ∃ index, HasIndex id index := by
  by_cases colon : ':' ∈ id
  · obtain ⟨domain, behind, rfl, plainDomain⟩ := List.eq_append_cons_of_mem colon
    obtain ⟨index, rest, rfl, plainIndex, ended⟩ := exists_field behind
    have documented := HasIndex.field plainDomain plainIndex ended
    rw [List.append_assoc, List.cons_append] at documented
    exact ⟨index, documented⟩
  · have ends := endsInDigits_trailingDigits id
    by_cases none : trailingDigits id = []
    · exact ⟨id, .whole colon (none ▸ ends)⟩
    · exact ⟨trailingDigits id, .digits colon ends none⟩

/-- **Every id has one index**, the one that is computed. -/
theorem hasIndex_iff : HasIndex id index ↔ deviceIndex id = index := by
  constructor
  · exact HasIndex.deviceIndex_eq
  · rintro rfl
    obtain ⟨index, documented⟩ := exists_hasIndex id
    rw [documented.deviceIndex_eq]
    exact documented

/-- A documented index is a contiguous piece of the id. -/
theorem HasIndex.isPiece (h : HasIndex id index) : index <:+: id := by
  cases h with
  | @field domain _ rest => exact ⟨domain ++ [':'], rest, by simp⟩
  | digits _ ends => exact ends.atEnd.isInfix
  | whole => exact List.infix_rfl

/-! ## Cuts in the octets of an id -/

/-- The characters of a text, each with the offset of its first octet. -/
def indexed (start : Nat) : List Char → List (Nat × Char)
  | [] => []
  | c :: cs => (start, c) :: indexed (start + c.utf8Size) cs

/-- Where the digits at the end of an id begin: the last place at which a scan from the end,
character by character, still stands on a digit. -/
def digitsStart? (id : String) : Option Nat :=
  (((indexed 0 id.toList).reverse.takeWhile fun entry => entry.2.isDigit).getLast?).map Prod.fst

/-- A text from an offset on; none if the offset lies inside of a character or behind the end. -/
def suffixFrom? (text : String) (offset : Nat) : Option String :=
  if boundary : String.Pos.Raw.IsValid text ⟨offset⟩ then
    some (text.sliceFrom ⟨⟨offset⟩, boundary⟩).copy
  else none

/-- The digits at the end of an id, cut off where they begin, or all of the id if it has none;
none if the cut fails. -/
def cutDigits? (id : String) : Option String :=
  match digitsStart? id with
  | some offset => suffixFrom? id offset
  | none => some id

/-- The index of an id, with its digits cut off; none if that fails. -/
def cutIndex? (id : String) : Option String :=
  match fields (· == ':') id.toList with
  | _ :: index :: _ => some (String.ofList index)
  | _ => cutDigits? id

/-- The characters are those of the text. -/
theorem map_snd_indexed (start : Nat) (cs : List Char) :
    (indexed start cs).map Prod.snd = cs := by
  induction cs generalizing start with
  | nil => rfl
  | cons c cs ih => rw [indexed, List.map_cons, ih]

/-- Behind some text, offsets are counted from its end. -/
theorem indexed_append (start : Nat) (a b : List Char) :
    indexed start (a ++ b) =
      indexed start a ++ indexed (start + (String.ofList a).utf8ByteSize) b := by
  induction a generalizing start with
  | nil => rfl
  | cons c a ih =>
    have size : (String.ofList (c :: a)).utf8ByteSize =
        c.utf8Size + (String.ofList a).utf8ByteSize := by
      rw [← List.singleton_append, String.ofList_append, String.utf8ByteSize_append,
        ← String.singleton_eq_ofList, String.utf8ByteSize_singleton]
    rw [List.cons_append, indexed, indexed, ih, size, Nat.add_assoc, List.cons_append]

/-- Between two pieces of a text it can be cut. -/
theorem isValid_append (a b : String) :
    String.Pos.Raw.IsValid (a ++ b) ⟨a.utf8ByteSize⟩ :=
  String.Pos.Raw.isValid_iff_exists_append.2 ⟨a, b, rfl, rfl⟩

/-- What is behind such a cut is the second piece. -/
theorem suffixFrom?_append (a b : String) : suffixFrom? (a ++ b) a.utf8ByteSize = some b := by
  rw [suffixFrom?, dif_pos (isValid_append a b), Option.some.injEq,
    String.copy_sliceFrom_eq_iff_exists_splits]
  exact ⟨a, rfl, rfl⟩

/-- The scan stops in front of the longest row of digits. -/
theorem digitsStart?_of_endsInDigits {front : List Char}
    (ends : EndsInDigits (front ++ ds) ds) :
    digitsStart? (String.ofList (front ++ ds)) =
      if ds = [] then none else some (String.ofList front).utf8ByteSize := by
  have inside : ∀ entry ∈ indexed (0 + (String.ofList front).utf8ByteSize) ds,
      entry.2.isDigit := by
    intro entry mem
    have listed := List.mem_map_of_mem (f := Prod.snd) mem
    rw [map_snd_indexed] at listed
    exact isDigit_iff.2 (ends.digits _ listed)
  have ended : ∀ entry ∈ (indexed 0 front).getLast?, entry.2.isDigit = false := by
    intro entry last
    have last' : front.getLast? = some entry.2 := by
      rw [← map_snd_indexed 0 front, List.getLast?_map, Option.mem_def.1 last, Option.map_some]
    exact ends.not_isDigit _ last'
  have scanned := rtakeWhile_append inside ended
  rw [List.rtakeWhile, List.reverse_eq_iff] at scanned
  rw [digitsStart?, String.toList_ofList, indexed_append, scanned, List.getLast?_reverse]
  cases ds <;> simp [indexed]

/-- An id is what stands in front of its longest row of digits, and this row. -/
theorem exists_front (id : String) :
    ∃ front, EndsInDigits (front ++ trailingDigits id.toList) (trailingDigits id.toList) ∧
      id = String.ofList (front ++ trailingDigits id.toList) := by
  have ends := endsInDigits_trailingDigits id.toList
  obtain ⟨front, split⟩ := ends.atEnd
  refine ⟨front, ?_, ?_⟩
  · rw [split]
    exact ends
  · rw [split, String.ofList_toList]

/-- **The digits begin where a character begins.** -/
theorem isValid_digitsStart {id : String} {offset : Nat} (found : digitsStart? id = some offset) :
    String.Pos.Raw.IsValid id ⟨offset⟩ := by
  obtain ⟨front, ends, split⟩ := exists_front id
  rw [split] at found ⊢
  rw [digitsStart?_of_endsInDigits ends] at found
  obtain ⟨-, place⟩ := Option.ite_none_left_eq_some.1 found
  obtain rfl := Option.some.inj place
  rw [String.ofList_append]
  exact isValid_append _ _

/-- The cut in front of the digits does not fail. -/
theorem cutDigits?_eq (id : String) :
    cutDigits? id = some (String.ofList
      (if (trailingDigits id.toList).isEmpty then id.toList else trailingDigits id.toList)) := by
  obtain ⟨front, ends, split⟩ := exists_front id
  have start := digitsStart?_of_endsInDigits ends
  rw [← split] at start
  rw [cutDigits?, start]
  by_cases none : trailingDigits id.toList = []
  · rw [if_pos none, if_pos (by simpa using none), String.ofList_toList]
  · rw [if_neg none, if_neg (by simpa using none)]
    have cut := suffixFrom?_append (String.ofList front) (String.ofList (trailingDigits id.toList))
    rw [← String.ofList_append, ← split] at cut
    exact cut

/-- Cutting an id in its octets gives its index. -/
theorem cutIndex?_eq (id : String) :
    cutIndex? id = some (String.ofList (deviceIndex id.toList)) := by
  have digits := cutDigits?_eq id
  rw [cutIndex?, deviceIndex]
  cases fields (· == ':') id.toList with
  | nil => exact digits
  | cons domain others =>
    cases others with
    | nil => exact digits
    | cons index others => rfl

/-- **The index of a device id is the documented piece of it.**  For every id exactly one index
is documented, and it is the one that is found, a contiguous piece of the id.  The digits that
are looked for begin between two characters, so cutting the id there never fails and gives
this index. -/
theorem deviceIndex_documented (id : String) :
    (∀ index, HasIndex id.toList index ↔ deviceIndex id.toList = index) ∧
      deviceIndex id.toList <:+: id.toList ∧
      (∀ offset, digitsStart? id = some offset → String.Pos.Raw.IsValid id ⟨offset⟩) ∧
      cutIndex? id = some (String.ofList (deviceIndex id.toList)) :=
  ⟨fun _ => hasIndex_iff, (hasIndex_iff.2 rfl).isPiece, fun _ => isValid_digitsStart,
    cutIndex?_eq id⟩

/-- An Arabic digit in front of two digits of ASCII is none of them, and it has two octets, of
which the second one begins no character. -/
theorem deviceIndex_documented_beside_arabic_digit :
    let id := "naïve٣12"
    HasIndex id.toList "12".toList ∧ digitsStart? id = some 8 ∧
      String.Pos.Raw.IsValid id ⟨8⟩ ∧ ¬ String.Pos.Raw.IsValid id ⟨7⟩ ∧
      cutIndex? id = some "12" := by
  intro id
  have index : deviceIndex id.toList = "12".toList := by decide
  have start : digitsStart? id = some 8 := by decide
  obtain ⟨documented, -, boundary, cut⟩ := deviceIndex_documented id
  rw [index] at cut
  exact ⟨(documented _).2 index, start, boundary 8 start, by decide +kernel, cut⟩

end HostPreflight
