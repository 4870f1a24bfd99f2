import HostPreflight.Proofs.CommandLine.Spelling
import Mathlib.Data.List.Pairwise

/-!
# Mentions and arguments

An accepted option is mentioned exactly if its spelling is among the arguments, whatever
stands around it: no value and no letters are taken for the spelling of an option.  An option
with a value is mentioned once, so that the value which is looked up is the one that stands
among the arguments.

## Main definitions

* `IsGivenAs arguments name value` — an option is given with a value, in either spelling.
* `Unrepeated` — no option has two values.
* `Level.Accepts` — what is known of arguments that a level accepts.

## Main statements

* `unrepeated_of_read` — no option is given two values.
* `valueOf?_eq_some_iff` — the value that is looked up is the one that was mentioned.
* `Level.Spells.long_mem_append_iff` — an option without value and its spelling.
* `Level.Spells.isGivenAs_append_iff` — an option with a value and its spellings.
* `Level.accepts_of_read` — what a regular level reads, it accepts.
* `Level.isMentioned_inner_iff`, `Level.valueOf?_outer_iff`, `Level.valueOf?_inner_iff` — what
  is mentioned on two levels, read off the arguments of both.
-/

namespace HostPreflight.CommandLine

/-- An option is given with a value, in one argument or in two that follow each other. -/
def IsGivenAs (arguments : List String) (name value : String) : Prop :=
  longWith name value ∈ arguments ∨ [long name, value] <:+: arguments

/-- An option is given with a value by the first arguments or by those after the first. -/
theorem isGivenAs_cons_iff {argument : String} {arguments : List String} {name value : String} :
    IsGivenAs (argument :: arguments) name value ↔
      argument = longWith name value ∨
        (argument = long name ∧ arguments.head? = some value) ∨
          IsGivenAs arguments name value := by
  have first : [value] <+: arguments ↔ arguments.head? = some value := by
    cases arguments <;> simp [List.cons_prefix_cons, eq_comm]
  unfold IsGivenAs
  rw [List.mem_cons, List.infix_cons_iff, List.cons_prefix_cons, first, eq_comm,
    @eq_comm _ (long name)]
  tauto

/-! ## Mentioned options -/

section Mentions

variable {mentions : List Mention} {name value : String}

/-- An option was mentioned if there is a mention of it. -/
theorem isMentioned_iff :
    isMentioned mentions name = true ↔ ∃ mention ∈ mentions, mention.name = name := by
  simp [isMentioned]

/-- Two mentions do not give values to one option. -/
def Mention.Apart (one other : Mention) : Prop :=
  one.value.isSome → other.value.isSome → one.name ≠ other.name

instance : Std.Symm Mention.Apart :=
  ⟨fun _ _ apart here there => (apart there here).symm⟩

/-- No option has two values. -/
def Unrepeated (mentions : List Mention) : Prop := mentions.Pairwise Mention.Apart

/-- The value of an option is unique. -/
theorem Unrepeated.value_unique {other : String} (h : Unrepeated mentions)
    (one : ⟨name, some value⟩ ∈ mentions) (two : ⟨name, some other⟩ ∈ mentions) :
    value = other := by
  by_contra differ
  exact h.forall one two (by simp [differ]) rfl rfl rfl

/-- The value that is looked up is the one that was mentioned. -/
theorem valueOf?_eq_some_iff (h : Unrepeated mentions) :
    valueOf? mentions name = some value ↔ ⟨name, some value⟩ ∈ mentions := by
  have found : ∀ {value}, valueOf? mentions name = some value →
      ⟨name, some value⟩ ∈ mentions := by
    intro value looked
    obtain ⟨⟨same, given⟩, mem, valued⟩ := List.exists_of_findSome?_eq_some looked
    split at valued
    · rename_i named
      obtain rfl : same = name := by simpa using named
      obtain rfl : given = some value := valued
      exact mem
    · exact nomatch valued
  refine ⟨found, fun mem => ?_⟩
  cases looked : valueOf? mentions name with
  | none => simpa using List.findSome?_eq_none_iff.1 looked _ mem
  | some other => rw [h.value_unique mem (found looked)]

end Mentions

/-! ## No option is given two values -/

section Unrepeated

variable {level : Level} {progress next : Progress} {settled : List Mention}

/-- A mention without value is no second value. -/
theorem Unrepeated.append_none {mentions : List Mention} (h : Unrepeated mentions)
    (name : String) : Unrepeated (mentions ++ [⟨name, none⟩]) := by
  simpa [Unrepeated, Mention.Apart, List.pairwise_append] using h

theorem unrepeated_of_recordValue {mentions : List Mention} {rule : OptionRule} {value : String}
    (h : Progress.recordValue mentions rule value = .ok settled) (before : Unrepeated mentions) :
    Unrepeated settled := by
  obtain ⟨rfl, fresh, -⟩ := Progress.recordValue_eq_ok h
  refine List.pairwise_append.2 ⟨before, List.pairwise_singleton .., fun one mem two last => ?_⟩
  obtain rfl := List.mem_singleton.1 last
  intro _ _ same
  have mentioned := isMentioned_iff.2 ⟨one, mem, same⟩
  simp [fresh] at mentioned

theorem unrepeated_of_settle (h : progress.settle = .ok settled)
    (before : Unrepeated progress.mentions) : Unrepeated settled := by
  obtain ⟨mentions, pending⟩ := progress
  cases pending with
  | nothing => exact Except.ok.inj h ▸ before
  | awaiting rule => exact nomatch h
  | holding rule value => exact unrepeated_of_recordValue h before

theorem unrepeated_of_mention {rule : OptionRule} (h : Level.mention progress rule = .ok next)
    (before : Unrepeated progress.mentions) : Unrepeated next.mentions := by
  obtain ⟨settled, pending, ⟨-, rfl⟩ | ⟨-, rfl⟩⟩ := Level.mention_eq_ok h
  · exact unrepeated_of_settle pending before
  · exact (unrepeated_of_settle pending before).append_none rule.name

theorem unrepeated_of_readLong {text : List Char} (h : level.readLong progress text = .ok next)
    (before : Unrepeated progress.mentions) : Unrepeated next.mentions := by
  unfold Level.readLong at h
  generalize text.span (· != '=') = parts at h
  obtain ⟨name, rest⟩ := parts
  simp only at h
  split at h
  · exact nomatch h
  · exact unrepeated_of_mention h before
  · split at h
    · obtain ⟨settled, pending, h⟩ := bind_eq_ok.1 h
      obtain ⟨recorded, valued, h⟩ := bind_eq_ok.1 h
      obtain rfl := Except.ok.inj h
      exact unrepeated_of_recordValue valued (unrepeated_of_settle pending before)
    · exact nomatch h

theorem unrepeated_of_readLetters {letters : List Char}
    (h : level.readLetters progress letters = .ok next)
    (before : Unrepeated progress.mentions) : Unrepeated next.mentions := by
  induction letters generalizing progress with
  | nil => exact Except.ok.inj h ▸ before
  | cons letter letters ih =>
    rw [Level.readLetters] at h
    cases found : level.byLetter? letter with
    | none => simp [found] at h
    | some rule =>
      simp only [found] at h
      obtain ⟨middle, mentioned, h⟩ := bind_eq_ok.1 h
      exact ih h (unrepeated_of_mention mentioned before)

/-- One argument gives no option a second value. -/
theorem unrepeated_of_readArgument {argument : String}
    (h : level.readArgument progress argument = .ok next)
    (before : Unrepeated progress.mentions) : Unrepeated next.mentions := by
  unfold Level.readArgument at h
  split at h
  · exact unrepeated_of_readLong h before
  · exact unrepeated_of_readLetters h before
  · unfold Level.readWord at h
    split at h
    · exact Except.ok.inj h ▸ before
    · exact nomatch h

/-- Reading gives no option a second value. -/
theorem unrepeated_of_read {arguments : List String} {rest : Option (String × List String)}
    (h : level.read progress arguments = .ok (next, rest))
    (before : Unrepeated progress.mentions) : Unrepeated next.mentions := by
  induction arguments generalizing progress with
  | nil =>
    obtain ⟨rfl, -⟩ := Prod.mk.inj (Except.ok.inj h)
    exact before
  | cons argument arguments ih =>
    unfold Level.read at h
    split at h
    · obtain ⟨rfl, -⟩ := Prod.mk.inj (Except.ok.inj h)
      exact before
    · split at h
      · split at h
        · obtain ⟨rfl, -⟩ := Prod.mk.inj (Except.ok.inj h)
          exact before
        · exact nomatch h
      · obtain ⟨middle, one, h⟩ := bind_eq_ok.1 h
        exact ih h (unrepeated_of_readArgument one before)

end Unrepeated

/-! ## Spellings among the arguments -/

namespace Level

/-- Letters stand for options without value, and options have proper names. -/
structure Regular (level : Level) : Prop where
  letters : ∀ rule ∈ level.options, rule.letter.isSome → rule.takesValue = false
  names : ∀ rule ∈ level.options, IsName rule.name

/-- An option, if it is known, takes a value. -/
def IsValued (level : Level) (name : String) : Prop :=
  ∀ rule ∈ level.options, rule.name = name → rule.takesValue = true

/-- What is known of arguments that a level accepts: they spell their mentions in order, and
no option has two values. -/
structure Accepts (level : Level) (arguments : List String) (mentions : List Mention) :
    Prop where
  regular : level.Regular
  spells : level.Spells arguments mentions
  values : Unrepeated mentions

/-- What a regular level reads up to a command, it accepts. -/
theorem accepts_of_read {level : Level} (regular : level.Regular) {arguments : List String}
    {progress : Progress} {rest : Option (String × List String)} {mentions : List Mention}
    (h : level.read .start arguments = .ok (progress, rest))
    (ends : progress.settle = .ok mentions) :
    ∃ before, arguments = before ++ remainder rest ∧ level.Accepts before mentions := by
  have values := unrepeated_of_settle ends (unrepeated_of_read h List.Pairwise.nil)
  obtain ⟨before, mentions', split_, all, leads⟩ := leads_of_read regular.letters h ends
  obtain rfl : mentions = mentions' := all
  exact ⟨before, split_, regular, leads, values⟩

/-- A regular level without commands accepts all arguments that it reads. -/
theorem accepts_of_readAll {level : Level} (regular : level.Regular) (last : level.commands = [])
    {arguments : List String} {mentions : List Mention}
    (h : level.readAll arguments = .ok mentions) : level.Accepts arguments mentions := by
  obtain ⟨⟨progress, rest⟩, read, ends⟩ := bind_eq_ok.1 h
  obtain ⟨before, rfl, accepts⟩ := accepts_of_read regular read ends
  cases rest with
  | none => simpa [remainder] using accepts
  | some stop =>
    have known := mem_commands_of_read read
    rw [last] at known
    exact nomatch known

namespace Spells

variable {level : Level} {arguments : List String} {mentions : List Mention} {name : String}

/-- Two dashes on their own are no option. -/
theorem dashes_ne_long (named : IsName name) : "--" ≠ long name := by
  intro same
  have chars := congrArg String.toList same
  rw [toList_long] at chars
  exact named.1 (by simpa using chars)

theorem dashes_ne_longWith (value : String) : "--" ≠ longWith name value := by
  intro same
  have chars := congrArg String.toList same
  rw [toList_longWith] at chars
  simp at chars

/-- Letters are no option by its name. -/
theorem short_ne_long {letter : Char} {letters : List Char} (single : letter ≠ '-') :
    short (letter :: letters) ≠ long name := by
  intro same
  have chars := congrArg String.toList same
  rw [toList_short, toList_long] at chars
  simp [single] at chars

theorem short_ne_longWith {letter : Char} {letters : List Char} (single : letter ≠ '-')
    (value : String) : short (letter :: letters) ≠ longWith name value := by
  intro same
  have chars := congrArg String.toList same
  rw [toList_short, toList_longWith] at chars
  simp [single] at chars

/-- Letters mention known options. -/
theorem mem_of_letters {letters : List Char} {rules : List OptionRule} {rule : OptionRule}
    (known : List.Forall₂ level.Letter letters rules) (mem : rule ∈ rules) :
    ∃ letter, level.Letter letter rule := by
  induction known with
  | nil => exact nomatch mem
  | cons first others ih =>
    rcases List.mem_cons.1 mem with rfl | mem
    · exact ⟨_, first⟩
    · exact ih mem

/-- An option that takes a value is mentioned with it exactly if it is given with it among
the arguments.  It may be an option that the level does not know. -/
theorem isGivenAs_append_iff (spells : level.Spells arguments mentions) (regular : level.Regular)
    (named : IsName name) (valued : level.IsValued name) (tail : List String) (value : String) :
    IsGivenAs (arguments ++ tail) name value ↔
      ⟨name, some value⟩ ∈ mentions ∨ IsGivenAs tail name value := by
  induction spells with
  | nil => simp
  | dashes =>
    rw [List.singleton_append, isGivenAs_cons_iff]
    simp [dashes_ne_long named, dashes_ne_longWith]
  | @flag rule arguments mentions known plain rest ih =>
    have other : rule.name ≠ name := fun same => by simp [valued rule known same] at plain
    have alone := long_ne_longWith (b := name) (v := value) (regular.names rule known)
    rw [List.cons_append, isGivenAs_cons_iff, ih]
    simp [long_inj, other, alone]
  | @joined rule given arguments mentions known takes accepted rest ih =>
    have joined := long_ne_longWith (b := rule.name) (v := given) named
    rw [List.cons_append, isGivenAs_cons_iff, ih,
      longWith_inj (regular.names rule known) named]
    simp [joined.symm, or_assoc, eq_comm]
  | @apart rule given arguments mentions known takes accepted word rest ih =>
    have alone := long_ne_longWith (b := name) (v := value) (regular.names rule known)
    rw [List.cons_append, List.cons_append, isGivenAs_cons_iff, isGivenAs_cons_iff, ih]
    simp [long_inj, alone, word.ne_long, word.ne_longWith, or_assoc, eq_comm]
  | @letters letter letters rules arguments mentions notDash known rest ih =>
    rw [List.cons_append, isGivenAs_cons_iff, ih]
    simp [short_ne_long notDash, short_ne_longWith notDash]

/-- Only known options are mentioned, and only with values that they accept. -/
theorem known_of_mem {mention : Mention} (spells : level.Spells arguments mentions)
    (mem : mention ∈ mentions) :
    ∃ rule ∈ level.options, rule.name = mention.name ∧
      ∀ value, mention.value = some value → rule.accepts value = true := by
  induction spells with
  | nil => exact nomatch mem
  | dashes => exact nomatch mem
  | @flag rule arguments mentions known plain rest ih =>
    rcases List.mem_cons.1 mem with rfl | mem
    · exact ⟨rule, known, rfl, nofun⟩
    · exact ih mem
  | @joined rule given arguments mentions known takes accepted rest ih =>
    rcases List.mem_cons.1 mem with rfl | mem
    · exact ⟨rule, known, rfl, fun value same => Option.some.inj same ▸ accepted⟩
    · exact ih mem
  | @apart rule given arguments mentions known takes accepted word rest ih =>
    rcases List.mem_cons.1 mem with rfl | mem
    · exact ⟨rule, known, rfl, fun value same => Option.some.inj same ▸ accepted⟩
    · exact ih mem
  | @letters letter letters rules arguments mentions notDash known rest ih =>
    rcases List.mem_append.1 mem with mem | mem
    · obtain ⟨rule, among, rfl⟩ := List.mem_map.1 mem
      obtain ⟨letter, lettered, -⟩ := mem_of_letters known among
      exact ⟨rule, lettered, rfl, nofun⟩
    · exact ih mem

/-- An option that the level does not know is not mentioned. -/
theorem name_ne_of_unknown (spells : level.Spells arguments mentions)
    (unknown : ∀ rule ∈ level.options, rule.name ≠ name) :
    ∀ mention ∈ mentions, mention.name ≠ name := by
  intro mention mem same
  obtain ⟨rule, known, named, -⟩ := spells.known_of_mem mem
  exact unknown rule known (named.trans same)

end Spells

/-! ## Two levels -/

section Levels

variable {outer inner : Level} {before after : List String} {ours theirs : List Mention}
  {command name : String}

/-- On two levels an option with a value is given with it exactly if it was mentioned with it
on one of them. -/
theorem isGivenAs_levels_iff (front : outer.Accepts before ours)
    (back : inner.Accepts after theirs) (word : IsWord command) (named : IsName name)
    (valued : outer.IsValued name) (valued' : inner.IsValued name) (value : String) :
    IsGivenAs (before ++ command :: after) name value ↔
      ⟨name, some value⟩ ∈ ours ∨ ⟨name, some value⟩ ∈ theirs := by
  have behind := back.spells.isGivenAs_append_iff back.regular named valued' [] value
  rw [List.append_nil] at behind
  rw [front.spells.isGivenAs_append_iff front.regular named valued, isGivenAs_cons_iff, behind]
  simp [word.ne_long, word.ne_longWith, IsGivenAs]

/-- The value of an option that is known in front of the command only. -/
theorem valueOf?_outer_iff (front : outer.Accepts before ours)
    (back : inner.Accepts after theirs) (word : IsWord command) (named : IsName name)
    (valued : outer.IsValued name) (unknown : ∀ rule ∈ inner.options, rule.name ≠ name)
    (value : String) :
    valueOf? ours name = some value ↔ IsGivenAs (before ++ command :: after) name value := by
  have valued' : inner.IsValued name := fun rule known same => absurd same (unknown rule known)
  rw [valueOf?_eq_some_iff front.values, isGivenAs_levels_iff front back word named valued valued']
  exact (or_iff_left fun mem => back.spells.name_ne_of_unknown unknown _ mem rfl).symm

end Levels

end Level

end HostPreflight.CommandLine
