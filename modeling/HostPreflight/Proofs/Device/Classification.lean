import HostPreflight.Device
import HostPreflight.Proofs.Text.Words
import Mathlib.Data.List.Pairwise

/-!
# Which devices are offered

The status report names a device on each of its lines, by the first word.  A line
with an interface is offered as a primary device or as a backup, or it is withheld;
which of these depends on the card of the first active line and on its own mark.

## Main definitions

* `deviceId?` — the device that a line names.
* `activeLine?` — the first line that is marked as active.
* `interfaceIds`, `activeIds` — the devices with an interface, and the active ones
  among them.
* `Usable` — a line whose device the dataplane can use.

## Main statements

* `mem_primary_iff`, `mem_backup_iff` — the members of the two lists.
* `isWord_of_mem_primary`, `isWord_of_mem_backup` — they are words.
* `isEmpty_ofStatus_eq_false_iff` — there is a device exactly if a line is usable.
* `active_notMem_backup`, `active_mem_primary_iff` — where an active device stands.
-/

namespace HostPreflight

open Text

namespace DeviceReport

/-- The device that a line names: its first word. -/
def deviceId? (line : List Char) : Option (List Char) := (words line).head?

/-- The first line that is marked as active. -/
def activeLine? (status : String) : Option (List Char) :=
  (lines status.toList).find? (containsPiece activeMarker)

/-- The devices with an interface. -/
def interfaceIds (status : String) : List (List Char) :=
  (interfaceLines status).filterMap deviceId?

/-- The devices with an interface that carry the host's own traffic. -/
def activeIds (status : String) : List (List Char) :=
  ((interfaceLines status).filter (containsPiece activeMarker)).filterMap deviceId?

/-- A line whose device the dataplane can use: it is not marked, or its device sits on
another card than that of the first marked line. -/
def Usable (status : String) (line : List Char) : Prop :=
  containsPiece activeMarker line = false ∨
    ∃ id first firstId, deviceId? line = some id ∧ activeLine? status = some first ∧
      deviceId? first = some firstId ∧ deviceIndex id ≠ deviceIndex firstId

variable {status : String} {line id : List Char}

/-! ## Lines and their devices -/

/-- Reading a line gives its first word, the card of that word, and the mark. -/
theorem ofLine?_eq (line : List Char) :
    DeviceLine.ofLine? line =
      (deviceId? line).map fun id => ⟨id, deviceIndex id, containsPiece activeMarker line⟩ := by
  unfold DeviceLine.ofLine? deviceId?
  cases words line <;> rfl

/-- A marked line names a device. -/
theorem exists_deviceId_of_active (h : containsPiece activeMarker line) :
    ∃ id, deviceId? line = some id := by
  have named : words line ≠ [] :=
    words_ne_nil_of_infix (c := '*') (containsPiece_iff.1 h) (by decide) (by decide)
  obtain ⟨id, others, split⟩ := List.exists_cons_of_ne_nil named
  exact ⟨id, by simp [deviceId?, split]⟩

/-- A line with an interface names a device. -/
theorem exists_deviceId_of_interface (h : line ∈ interfaceLines status) :
    ∃ id, deviceId? line = some id := by
  have marked : containsPiece interfaceMarker line := (List.mem_filter.1 h).2
  have named : words line ≠ [] :=
    words_ne_nil_of_infix (c := '=') (containsPiece_iff.1 marked) (by decide) (by decide)
  obtain ⟨id, others, split⟩ := List.exists_cons_of_ne_nil named
  exact ⟨id, by simp [deviceId?, split]⟩

/-- The active card is that of the first marked line, since every marked line names a
device. -/
theorem activeIndex?_eq (status : String) :
    activeIndex? status = ((activeLine? status).bind deviceId?).map deviceIndex := by
  have first : ((lines status.toList).filter (containsPiece activeMarker)).head? =
      activeLine? status := List.head?_filter
  unfold activeIndex?
  cases marked : (lines status.toList).filter (containsPiece activeMarker) with
  | nil =>
    rw [marked] at first
    simp [← first]
  | cons line others =>
    rw [marked, List.head?_cons] at first
    have active : containsPiece activeMarker line :=
      (List.mem_filter.1 (marked ▸ List.mem_cons_self)).2
    obtain ⟨id, name⟩ := exists_deviceId_of_active active
    simp [← first, ofLine?_eq, name]

/-- With a marked line there is an active card. -/
theorem activeIndex?_ne_none (h : line ∈ lines status.toList)
    (active : containsPiece activeMarker line) : activeIndex? status ≠ none := by
  have found : (activeLine? status).isSome := by
    rw [activeLine?, List.find?_isSome]
    exact ⟨line, h, active⟩
  obtain ⟨first, eq⟩ := Option.isSome_iff_exists.1 found
  obtain ⟨id, name⟩ := exists_deviceId_of_active (List.find?_some eq)
  simp [activeIndex?_eq, eq, name]

/-! ## The two lists -/

/-- The primary devices are those on another card than the active one. -/
theorem mem_primary_iff :
    String.ofList id ∈ (ofStatus status).primary ↔
      (∃ line ∈ interfaceLines status, deviceId? line = some id) ∧
        activeIndex? status ≠ some (deviceIndex id) := by
  simp only [ofStatus, ofLine?_eq, sharesCard, List.mem_map, List.mem_filter, List.mem_filterMap,
    Option.map_eq_some_iff, String.ofList_inj, Bool.not_eq_true', beq_eq_false_iff_ne]
  constructor
  · rintro ⟨_, ⟨⟨line, mem, word, name, rfl⟩, other⟩, rfl⟩
    exact ⟨⟨line, mem, name⟩, other⟩
  · rintro ⟨⟨line, mem, name⟩, other⟩
    exact ⟨_, ⟨⟨line, mem, id, name, rfl⟩, other⟩, rfl⟩

/-- The backup devices are those on the active card whose line is not marked. -/
theorem mem_backup_iff :
    String.ofList id ∈ (ofStatus status).backup ↔
      (∃ line ∈ interfaceLines status,
          deviceId? line = some id ∧ containsPiece activeMarker line = false) ∧
        activeIndex? status = some (deviceIndex id) := by
  simp only [ofStatus, ofLine?_eq, sharesCard, List.mem_map, List.mem_filter, List.mem_filterMap,
    Option.map_eq_some_iff, String.ofList_inj, Bool.and_eq_true, Bool.not_eq_true', beq_iff_eq]
  constructor
  · rintro ⟨_, ⟨⟨line, mem, word, name, rfl⟩, same, unmarked⟩, rfl⟩
    exact ⟨⟨line, mem, name, unmarked⟩, same⟩
  · rintro ⟨⟨line, mem, name, unmarked⟩, same⟩
    exact ⟨_, ⟨⟨line, mem, id, name, rfl⟩, same, unmarked⟩, rfl⟩

/-- The device that a line names is a word. -/
theorem isWord_of_deviceId (name : deviceId? line = some id) : IsWord id := by
  have word : id ∈ words line := List.mem_of_head? name
  exact ⟨ne_nil_of_mem_words word, fun c mem => isBlank_of_mem_word word mem⟩

/-- Primary devices are words. -/
theorem isWord_of_mem_primary {device : String} (mem : device ∈ (ofStatus status).primary) :
    IsWord device.toList := by
  rw [← String.ofList_toList (s := device), mem_primary_iff] at mem
  obtain ⟨⟨line, -, name⟩, -⟩ := mem
  exact isWord_of_deviceId name

/-- Backup devices are words. -/
theorem isWord_of_mem_backup {device : String} (mem : device ∈ (ofStatus status).backup) :
    IsWord device.toList := by
  rw [← String.ofList_toList (s := device), mem_backup_iff] at mem
  obtain ⟨⟨line, -, name, -⟩, -⟩ := mem
  exact isWord_of_deviceId name

/-- There is a device to use exactly if some line with an interface is usable. -/
theorem isEmpty_ofStatus_eq_false_iff :
    (ofStatus status).isEmpty = false ↔ ∃ line ∈ interfaceLines status, Usable status line := by
  rw [isEmpty, Bool.and_eq_false_iff, List.isEmpty_eq_false_iff_exists_mem,
    List.isEmpty_eq_false_iff_exists_mem]
  constructor
  · rintro (⟨id, mem⟩ | ⟨id, mem⟩)
    · rw [← String.ofList_toList (s := id), mem_primary_iff] at mem
      obtain ⟨⟨line, mem, name⟩, other⟩ := mem
      refine ⟨line, mem, ?_⟩
      cases active : containsPiece activeMarker line with
      | false => exact .inl active
      | true =>
        have known := activeIndex?_ne_none (List.mem_filter.1 mem).1 active
        rw [activeIndex?_eq] at known other
        cases found : activeLine? status with
        | none => simp [found] at known
        | some first =>
          obtain ⟨firstId, firstName⟩ := exists_deviceId_of_active (List.find?_some found)
          refine .inr ⟨_, first, firstId, name, found, firstName, fun same => other ?_⟩
          simp [found, firstName, same]
    · rw [← String.ofList_toList (s := id), mem_backup_iff] at mem
      obtain ⟨⟨line, mem, -, unmarked⟩, -⟩ := mem
      exact ⟨line, mem, .inl unmarked⟩
  · rintro ⟨line, mem, usable⟩
    obtain ⟨id, name⟩ := exists_deviceId_of_interface mem
    by_cases same : activeIndex? status = some (deviceIndex id)
    · refine .inr ⟨String.ofList id, mem_backup_iff.2 ⟨⟨line, mem, name, ?_⟩, same⟩⟩
      rcases usable with unmarked | ⟨id', first, firstId, name', found, firstName, differ⟩
      · exact unmarked
      · rw [name, Option.some.injEq] at name'
        subst name'
        rw [activeIndex?_eq, found] at same
        simp only [Option.bind_some, firstName, Option.map_some, Option.some.injEq] at same
        exact absurd same.symm differ
    · exact .inl ⟨String.ofList id, mem_primary_iff.2 ⟨⟨line, mem, name⟩, same⟩⟩

/-! ## Active devices -/

/-- A device that only one line names is on that line. -/
theorem eq_of_deviceId {other : List Char} (distinct : (interfaceIds status).Nodup)
    (mem : line ∈ interfaceLines status) (mem' : other ∈ interfaceLines status)
    (name : deviceId? line = some id) (name' : deviceId? other = some id) : line = other := by
  have apart : (interfaceLines status).Pairwise
      fun a b => ∀ x, deviceId? a = some x → ∀ y, deviceId? b = some y → x ≠ y :=
    List.pairwise_filterMap.1 distinct
  have symmetric : Std.Symm fun a b : List Char =>
      ∀ x, deviceId? a = some x → ∀ y, deviceId? b = some y → x ≠ y :=
    ⟨fun a b h x hx y hy => (h y hy x hx).symm⟩
  by_contra differ
  exact apart.forall mem mem' differ id name id name' rfl

/-- An active device is never a backup, if no two lines name the same device. -/
theorem active_notMem_backup (distinct : (interfaceIds status).Nodup) (h : id ∈ activeIds status) :
    String.ofList id ∉ (ofStatus status).backup := by
  obtain ⟨line, mem, name⟩ := List.mem_filterMap.1 h
  obtain ⟨mem, active⟩ := List.mem_filter.1 mem
  intro backup
  obtain ⟨⟨other, mem', name', unmarked⟩, -⟩ := mem_backup_iff.1 backup
  rw [← eq_of_deviceId distinct mem mem' name name', active] at unmarked
  exact Bool.noConfusion unmarked

/-- An active device is a primary one exactly if it is not on the active card. -/
theorem active_mem_primary_iff (h : id ∈ activeIds status) :
    String.ofList id ∈ (ofStatus status).primary ↔
      activeIndex? status ≠ some (deviceIndex id) := by
  obtain ⟨line, mem, name⟩ := List.mem_filterMap.1 h
  rw [mem_primary_iff]
  exact and_iff_right ⟨line, (List.mem_filter.1 mem).1, name⟩

end DeviceReport

end HostPreflight
