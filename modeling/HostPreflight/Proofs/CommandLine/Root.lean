import HostPreflight.Proofs.CommandLine.Libraries

/-!
# The installation root on the command line

The environment is looked at last, after every argument has been read, and only for an
installation root that no argument gives.  So an environment without a root and one with an
empty root are told apart only by command lines that are accepted and give no root.

## Main definitions

* `Options.readArguments` — what is read of a command line before the environment counts.

## Main statements

* `Options.parse_eq` — the environment is looked at last.
* `Options.valueOf?_root_iff` — the root that is mentioned is the one that is given.
* `Options.rteSdk_ne_empty` — no accepted command line has an empty root.
* `Options.parse_of_refused`, `Options.parse_of_given`, `Options.parse_of_ungiven` — what an
  empty root in the environment changes, and what it does not.
-/

namespace HostPreflight.CommandLine.Options

variable {environment : Option String} {arguments : List String} {options : Options}
  {mentions : List Mention} {command : Option Command}

/-! ## The environment comes last -/

/-- Reads a command with its arguments, if there is one. -/
def readCommand : Option (String × List String) → Except Refusal (Option Command)
  | none => .ok none
  | some (name, arguments) => some <$> parseCommand name arguments

/-- What is read of a command line before the environment counts. -/
def readArguments (arguments : List String) : Except Refusal (List Mention × Option Command) := do
  let (progress, rest) ← programLevel.read .start arguments
  let command ← readCommand rest
  let mentions ← progress.settle
  return (mentions, command)

/-- The options that mentions and a command make, given the root. -/
def make (mentions : List Mention) (command : Option Command) (rteSdk : Option String) :
    Options where
  rteSdk
  format := ((valueOf? mentions "format").bind Format.ofName?).getD .text
  noSummary := isMentioned mentions "no-summary"
  verbosity := verbosityOf mentions
  command

/-- The environment is looked at last, for the root. -/
theorem parse_eq (environment : Option String) (arguments : List String) :
    parse environment arguments = do
      let (mentions, command) ← readArguments arguments
      let rteSdk ← parseRoot environment mentions
      return make mentions command rteSdk := by
  unfold parse readArguments
  rw [bind_assoc]
  refine bind_congr fun (progress, rest) => ?_
  cases rest with
  | none =>
    simp only [bind_assoc, pure_bind]
    rfl
  | some rest =>
    simp only [bind_assoc, pure_bind]
    rfl

/-- Arguments that cannot be read are refused, whatever the environment. -/
theorem parse_of_unread {cause : Refusal} (read : readArguments arguments = .error cause) :
    parse environment arguments = .error cause := by
  rw [parse_eq, read]
  rfl

/-- Arguments that are read are accepted if there is a proper root or none. -/
theorem parse_of_read (read : readArguments arguments = .ok (mentions, command)) :
    parse environment arguments =
      (parseRoot environment mentions).map (make mentions command) := by
  rw [parse_eq, read]
  change (parseRoot environment mentions >>= fun rteSdk => pure (make mentions command rteSdk)) = _
  cases parseRoot environment mentions <;> rfl

/-! ## The root that is given -/

theorem regular_checkLevel : checkLevel.Regular where
  letters := by simp [checkLevel, helpRule, OptionRule.takesValue]
  names := by simp [checkLevel, helpRule, IsName]

/-- A command has a level of its own, on which no root can be given. -/
theorem exists_inner_of_parseCommand {name : String} {after : List String} {command : Command}
    (parsed : parseCommand name after = .ok command) :
    IsWord name ∧ ∃ (inner : Level) (theirs : List Mention), inner.Accepts after theirs ∧
      ∀ rule ∈ inner.options, rule.name ≠ "rte-sdk" := by
  unfold parseCommand at parsed
  split at parsed
  · rename_i check
    obtain ⟨theirs, read, -⟩ := bind_eq_ok.1 parsed
    have word : IsWord "check" := fun c cs spelled => by simp at spelled
    exact ⟨check ▸ word, checkLevel, theirs, Level.accepts_of_readAll regular_checkLevel rfl read,
      by simp [checkLevel, helpRule]⟩
  · split at parsed
    · rename_i libs
      obtain ⟨theirs, read, -⟩ := bind_eq_ok.1 parsed
      exact ⟨libs ▸ isWord_libs, librariesLevel, theirs,
        Level.accepts_of_readAll regular_librariesLevel rfl read,
        by simp [librariesLevel, helpRule]⟩
    · simp at parsed

/-- The arguments that are read are those of the program itself, and then a command with those
behind it. -/
theorem accepts_of_readArguments (read : readArguments arguments = .ok (mentions, command)) :
    ∃ before rest, arguments = before ++ Level.remainder rest ∧
      programLevel.Accepts before mentions ∧ readCommand rest = .ok command := by
  obtain ⟨⟨progress, rest⟩, readTop, read⟩ := bind_eq_ok.1 read
  obtain ⟨command', commanded, read⟩ := bind_eq_ok.1 read
  obtain ⟨mentions', ends, read⟩ := bind_eq_ok.1 read
  obtain ⟨rfl, rfl⟩ := Prod.mk.inj (Except.ok.inj read)
  obtain ⟨before, all, front⟩ := Level.accepts_of_read regular_programLevel readTop ends
  exact ⟨before, rest, all, front, commanded⟩

/-- The root that is mentioned is the one that is given among the arguments. -/
theorem valueOf?_root_iff (read : readArguments arguments = .ok (mentions, command))
    (path : String) :
    valueOf? mentions "rte-sdk" = some path ↔ IsGivenAs arguments "rte-sdk" path := by
  obtain ⟨before, rest, rfl, front, commanded⟩ := accepts_of_readArguments read
  have named : IsName "rte-sdk" := by simp [IsName]
  have valued : programLevel.IsValued "rte-sdk" := by
    simp [Level.IsValued, programLevel, helpRule, OptionRule.takesValue]
  cases rest with
  | none =>
    rw [valueOf?_eq_some_iff front.values, Level.remainder,
      front.spells.isGivenAs_append_iff front.regular named valued]
    simp [IsGivenAs]
  | some stop =>
    obtain ⟨name, after⟩ := stop
    obtain ⟨inside, parsed⟩ : ∃ inside, parseCommand name after = .ok inside := by
      cases parsed : parseCommand name after with
      | error refusal => simp [readCommand, parsed] at commanded
      | ok inside => exact ⟨inside, rfl⟩
    obtain ⟨word, inner, theirs, back, unknown⟩ := exists_inner_of_parseCommand parsed
    exact Level.valueOf?_outer_iff front back word named valued unknown path

/-! ## Empty roots -/

/-- The root of an accepted command line is not empty: the reader refuses an empty one, on the
command line and in the environment. -/
theorem rteSdk_ne_empty (accepted : parse environment arguments = .ok options) :
    options.rteSdk ≠ some "" := by
  rw [parse_eq] at accepted
  obtain ⟨⟨mentions, command⟩, read, accepted⟩ := bind_eq_ok.1 accepted
  obtain ⟨root, rooted, accepted⟩ := bind_eq_ok.1 accepted
  obtain rfl := Except.ok.inj accepted
  obtain ⟨chosen, proper⟩ := parseRoot_eq_ok rooted
  intro (empty : root = some "")
  rw [chosen, Option.or_eq_some_iff] at empty
  rcases empty with mentioned | ⟨unmentioned, named⟩
  · obtain ⟨before, rest, -, front, -⟩ := accepts_of_readArguments read
    exact ne_empty_of_valueOf? front mentioned rfl
  · exact ne_empty_of_isPath (proper unmentioned "" named) rfl

/-- Without a root in the environment, arguments that are read are accepted. -/
theorem parseRoot_none (mentions : List Mention) :
    parseRoot none mentions = .ok (valueOf? mentions "rte-sdk") := by
  unfold parseRoot
  cases valueOf? mentions "rte-sdk" <;> rfl

/-- A command line that is refused without a root in the environment is refused with one, for
the same reason. -/
theorem parse_of_refused {refusal : Refusal} (refused : parse none arguments = .error refusal)
    (environment : Option String) : parse environment arguments = .error refusal := by
  cases read : readArguments arguments with
  | error cause =>
    rw [parse_of_unread read] at refused ⊢
    exact refused
  | ok reading =>
    obtain ⟨mentions, command⟩ := reading
    rw [parse_of_read read, parseRoot_none] at refused
    exact nomatch refused

/-- A command line that gives a root is read whatever the environment names. -/
theorem parse_of_given {path : String} (given : IsGivenAs arguments "rte-sdk" path)
    (environment : Option String) : parse environment arguments = parse none arguments := by
  cases read : readArguments arguments with
  | error cause => rw [parse_of_unread read, parse_of_unread read]
  | ok reading =>
    obtain ⟨mentions, command⟩ := reading
    have mentioned := (valueOf?_root_iff read path).2 given
    have kept (environment : Option String) : parseRoot environment mentions = .ok (some path) := by
      simp [parseRoot, mentioned]
    rw [parse_of_read read, parse_of_read read, kept, kept]

/-- A command line that is accepted and gives no root is refused with an empty root in the
environment. -/
theorem parse_of_ungiven (accepted : parse none arguments = .ok options)
    (ungiven : ∀ path, ¬ IsGivenAs arguments "rte-sdk" path) :
    parse (some "") arguments = .error .invalidValue := by
  cases read : readArguments arguments with
  | error cause => exact nomatch (parse_of_unread read).symm.trans accepted
  | ok reading =>
    obtain ⟨mentions, command⟩ := reading
    have unmentioned : valueOf? mentions "rte-sdk" = none :=
      Option.eq_none_iff_forall_ne_some.2 fun path mentioned =>
        ungiven path ((valueOf?_root_iff read path).1 mentioned)
    have rejected : parseRoot (some "") mentions = .error .invalidValue := by
      simp [parseRoot, unmentioned, isPath]
    rw [parse_of_read read, rejected]
    rfl

end HostPreflight.CommandLine.Options
