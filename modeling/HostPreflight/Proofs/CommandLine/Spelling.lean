import HostPreflight.CommandLine.Level
import Mathlib.Data.List.Infix

/-!
# How options are spelled

A grammar of the arguments that a level accepts, beside the reader.  An option stands by its
name after two dashes; its value follows an equals sign or is the next argument, which must
not look like an option; letters stand together after one dash.

The reader looks one argument ahead, so that a value stays pending; the grammar does not
know of that.

## Main definitions

* `long`, `longWith` — an option as an argument, alone and with its value.
* `short` — letters as one argument.
* `Level.Spells` — the arguments that mention some options, in order.
* `Pending.Leads` — the same while a value is pending.

## Main statements

* `Level.leads_of_readArgument` — what one argument leads to.
* `Level.leads_of_read` — what the reader accepts is spelled by the grammar.
-/

namespace HostPreflight.CommandLine

/-- A sequence of two steps succeeds exactly if both do. -/
theorem bind_eq_ok {ε α β : Type} {x : Except ε α} {f : α → Except ε β} {b : β} :
    x >>= f = .ok b ↔ ∃ a, x = .ok a ∧ f a = .ok b := by
  cases x with
  | error e => simp [bind, Except.bind]
  | ok a => simp [bind, Except.bind]

/-! ## Spellings -/

/-- An option by its name, as an argument. -/
def long (name : String) : String := "--" ++ name

/-- An option with its value in one argument. -/
def longWith (name value : String) : String := "--" ++ name ++ "=" ++ value

/-- Letters as one argument. -/
def short (letters : List Char) : String := String.ofList ('-' :: letters)

/-- A name by which an option can be told from its value. -/
def IsName (name : String) : Prop := name ≠ "" ∧ '=' ∉ name.toList

/-- An argument that does not look like an option. -/
def IsWord (argument : String) : Prop := ∀ c cs, argument.toList ≠ '-' :: c :: cs

@[simp] theorem toList_long (name : String) : (long name).toList = '-' :: '-' :: name.toList := by
  simp [long]

@[simp] theorem toList_longWith (name value : String) :
    (longWith name value).toList = '-' :: '-' :: (name.toList ++ '=' :: value.toList) := by
  simp [longWith]

@[simp] theorem toList_short (letters : List Char) : (short letters).toList = '-' :: letters := by
  simp [short]

theorem long_inj {a b : String} : long a = long b ↔ a = b := by
  rw [← String.toList_inj, toList_long, toList_long, List.cons_inj_right, List.cons_inj_right,
    String.toList_inj]

/-- A name is not taken for a name with a value. -/
theorem long_ne_longWith {a b v : String} (h : IsName a) : long a ≠ longWith b v := by
  intro same
  have chars := congrArg String.toList same
  rw [toList_long, toList_longWith] at chars
  simp only [List.cons.injEq, true_and] at chars
  exact h.2 (by simp [chars])

/-- A text without some character is what stands before the first such character. -/
theorem takeWhile_append_cons {c : Char} {cs : List Char} (h : c ∉ cs) (tail : List Char) :
    (cs ++ c :: tail).takeWhile (· != c) = cs := by
  rw [List.takeWhile_append_of_pos]
  · simp
  · intro d mem
    simpa using fun (same : d = c) => h (same ▸ mem)

/-- The first equals sign ends a name. -/
theorem longWith_inj {a b v w : String} (ha : IsName a) (hb : IsName b) :
    longWith a v = longWith b w ↔ a = b ∧ v = w := by
  constructor
  · intro same
    have chars := congrArg String.toList same
    rw [toList_longWith, toList_longWith] at chars
    simp only [List.cons.injEq, true_and] at chars
    have names : a.toList = b.toList := by
      rw [← takeWhile_append_cons ha.2 v.toList, chars, takeWhile_append_cons hb.2]
    rw [names] at chars
    have values : v.toList = w.toList := (List.cons.inj (List.append_cancel_left chars)).2
    exact ⟨String.toList_inj.1 names, String.toList_inj.1 values⟩
  · rintro ⟨rfl, rfl⟩
    rfl

theorem IsWord.ne_long {word : String} (h : IsWord word) (name : String) : word ≠ long name := by
  rintro rfl
  exact h _ _ (toList_long name)

theorem IsWord.ne_longWith {word : String} (h : IsWord word) (name value : String) :
    word ≠ longWith name value := by
  rintro rfl
  exact h _ _ (toList_longWith name value)

/-! ## The grammar -/

/-- The letter of an option that takes no value. -/
def Level.Letter (level : Level) (letter : Char) (rule : OptionRule) : Prop :=
  rule ∈ level.options ∧ rule.letter = some letter ∧ rule.takesValue = false

/-- The arguments that mention some options of a level, in order. -/
inductive Level.Spells (level : Level) : List String → List Mention → Prop where
  | nil : Spells level [] []
  | dashes : Spells level ["--"] []
  | flag {rule : OptionRule} {arguments : List String} {mentions : List Mention}
      (known : rule ∈ level.options) (plain : rule.takesValue = false)
      (rest : Spells level arguments mentions) :
      Spells level (long rule.name :: arguments) (⟨rule.name, none⟩ :: mentions)
  | joined {rule : OptionRule} {value : String} {arguments : List String}
      {mentions : List Mention} (known : rule ∈ level.options) (takes : rule.takesValue = true)
      (accepted : rule.accepts value = true) (rest : Spells level arguments mentions) :
      Spells level (longWith rule.name value :: arguments) (⟨rule.name, some value⟩ :: mentions)
  | apart {rule : OptionRule} {value : String} {arguments : List String}
      {mentions : List Mention} (known : rule ∈ level.options) (takes : rule.takesValue = true)
      (accepted : rule.accepts value = true) (word : IsWord value)
      (rest : Spells level arguments mentions) :
      Spells level (long rule.name :: value :: arguments) (⟨rule.name, some value⟩ :: mentions)
  | letters {letter : Char} {letters : List Char} {rules : List OptionRule}
      {arguments : List String} {mentions : List Mention} (single : letter ≠ '-')
      (known : List.Forall₂ level.Letter (letter :: letters) rules)
      (rest : Spells level arguments mentions) :
      Spells level (short (letter :: letters) :: arguments)
        (rules.map (fun rule => ⟨rule.name, none⟩) ++ mentions)

/-- The arguments that mention some options while a value is pending. -/
def Pending.Leads (level : Level) : Pending → List String → List Mention → Prop
  | .nothing, arguments, mentions => level.Spells arguments mentions
  | .awaiting rule, arguments, mentions =>
    ∃ value rest others, arguments = value :: rest ∧ IsWord value ∧ rule.accepts value = true ∧
      mentions = ⟨rule.name, some value⟩ :: others ∧ level.Spells rest others
  | .holding rule value, arguments, mentions =>
    rule.accepts value = true ∧ ∃ others, mentions = ⟨rule.name, some value⟩ :: others ∧
      level.Spells arguments others

/-! ## Recording -/

namespace Progress

variable {progress : Progress} {mentions settled : List Mention} {rule : OptionRule}

/-- Recording an option without value appends it. -/
theorem record_eq_ok (h : record mentions rule = .ok settled) :
    settled = mentions ++ [⟨rule.name, none⟩] := by
  unfold record at h
  split at h
  · exact nomatch h
  · exact (Except.ok.inj h).symm

/-- Recording an option with its value appends it; it was not mentioned before, and it
accepts the value. -/
theorem recordValue_eq_ok {value : String} (h : recordValue mentions rule value = .ok settled) :
    settled = mentions ++ [⟨rule.name, some value⟩] ∧
      isMentioned mentions rule.name = false ∧ rule.accepts value = true := by
  unfold recordValue at h
  split at h
  · exact nomatch h
  · rename_i fresh
    split at h
    · exact nomatch h
    · rename_i accepted
      exact ⟨(Except.ok.inj h).symm, by simpa using fresh, by simpa using accepted⟩

/-- Recording what is pending turns the grammar of what follows into the grammar of what
is pending. -/
theorem leads_of_settle {level : Level} {arguments : List String} {others : List Mention}
    (h : progress.settle = .ok settled) (rest : level.Spells arguments others) :
    ∃ mentions, settled ++ others = progress.mentions ++ mentions ∧
      progress.pending.Leads level arguments mentions := by
  obtain ⟨before, pending⟩ := progress
  cases pending with
  | nothing =>
    obtain rfl : before = settled := Except.ok.inj h
    exact ⟨others, rfl, rest⟩
  | awaiting rule => exact nomatch h
  | holding rule value =>
    obtain ⟨rfl, -, accepted⟩ := recordValue_eq_ok h
    exact ⟨⟨rule.name, some value⟩ :: others, by simp, accepted, others, rfl, rest⟩

end Progress

/-! ## Reading one argument -/

namespace Level

variable {level : Level} {progress next : Progress} {rule : OptionRule}

theorem mem_of_byName? {name : String} (h : level.byName? name = some rule) :
    rule ∈ level.options ∧ rule.name = name := by
  refine ⟨List.mem_of_find?_eq_some h, ?_⟩
  simpa using List.find?_some h

theorem mem_of_byLetter? {letter : Char} (h : level.byLetter? letter = some rule) :
    rule ∈ level.options ∧ rule.letter = some letter := by
  refine ⟨List.mem_of_find?_eq_some h, ?_⟩
  simpa using List.find?_some h

/-- Mentioning an option records what is pending; then its value is awaited, or it is
recorded itself. -/
theorem mention_eq_ok (h : mention progress rule = .ok next) :
    ∃ settled, progress.settle = .ok settled ∧
      (rule.takesValue = true ∧ next = ⟨settled, .awaiting rule⟩ ∨
        rule.takesValue = false ∧ next = ⟨settled ++ [⟨rule.name, none⟩], .nothing⟩) := by
  obtain ⟨settled, pending, h⟩ := bind_eq_ok.1 h
  refine ⟨settled, pending, ?_⟩
  unfold OptionRule.takesValue
  cases meaning : rule.meaning with
  | stop refusal => simp [meaning] at h
  | value accepts =>
    simp only [meaning] at h
    exact .inl ⟨rfl, (Except.ok.inj h).symm⟩
  | _ =>
    simp only [meaning] at h
    obtain ⟨mentions, recorded, h⟩ := bind_eq_ok.1 h
    rw [Progress.record_eq_ok recorded] at h
    exact .inr ⟨rfl, (Except.ok.inj h).symm⟩

/-- Letters are mentioned one after another, once nothing is pending. -/
theorem readLetters_eq_ok {letters : List Char} {mentions : List Mention}
    (regular : ∀ rule ∈ level.options, rule.letter.isSome → rule.takesValue = false)
    (h : level.readLetters ⟨mentions, .nothing⟩ letters = .ok next) :
    ∃ rules, List.Forall₂ level.Letter letters rules ∧
      next = ⟨mentions ++ rules.map (fun rule => ⟨rule.name, none⟩), .nothing⟩ := by
  induction letters generalizing mentions with
  | nil =>
    obtain rfl := Except.ok.inj h
    exact ⟨[], .nil, by simp⟩
  | cons letter letters ih =>
    rw [readLetters] at h
    cases found : level.byLetter? letter with
    | none => simp [found] at h
    | some rule =>
      simp only [found] at h
      obtain ⟨middle, mentioned, h⟩ := bind_eq_ok.1 h
      obtain ⟨known, single⟩ := mem_of_byLetter? found
      have plain := regular rule known (by simp [single])
      obtain ⟨settled, pending, ⟨takes, -⟩ | ⟨-, rfl⟩⟩ := mention_eq_ok mentioned
      · simp [plain] at takes
      · obtain rfl : mentions = settled := Except.ok.inj pending
        obtain ⟨rules, spelled, rfl⟩ := ih h
        exact ⟨rule :: rules, .cons ⟨known, single, plain⟩ spelled, by simp⟩

variable {arguments : List String} {mentions : List Mention}

/-- After an option is mentioned by its name, the grammar accounts for that name as well. -/
theorem leads_of_mention (known : rule ∈ level.options) (h : mention progress rule = .ok next)
    (leads : next.pending.Leads level arguments mentions) :
    ∃ before, next.mentions ++ mentions = progress.mentions ++ before ∧
      progress.pending.Leads level (long rule.name :: arguments) before := by
  obtain ⟨settled, pending, ⟨takes, rfl⟩ | ⟨plain, rfl⟩⟩ := mention_eq_ok h
  · obtain ⟨value, rest, others, rfl, word, accepted, rfl, spelled⟩ := leads
    exact Progress.leads_of_settle pending (.apart known takes accepted word spelled)
  · simpa only [List.append_assoc, List.cons_append, List.nil_append] using
      Progress.leads_of_settle pending (.flag known plain leads)

/-- After an option with two dashes is read, the grammar accounts for it as well. -/
theorem leads_of_readLong {text : List Char} (h : level.readLong progress text = .ok next)
    (leads : next.pending.Leads level arguments mentions) :
    ∃ before, next.mentions ++ mentions = progress.mentions ++ before ∧
      progress.pending.Leads level (String.ofList ('-' :: '-' :: text) :: arguments) before := by
  have whole : text.takeWhile (· != '=') ++ text.dropWhile (· != '=') = text :=
    List.takeWhile_append_dropWhile
  have ends := List.head?_dropWhile_not (· != '=') text
  rw [readLong, List.span_eq_takeWhile_dropWhile] at h
  generalize text.takeWhile (· != '=') = name, text.dropWhile (· != '=') = rest at h whole ends
  subst whole
  cases found : level.byName? (String.ofList name) with
  | none => simp [found] at h
  | some rule =>
    obtain ⟨known, same⟩ := mem_of_byName? found
    cases rest with
    | nil =>
      simp only [found] at h
      have argument : String.ofList ('-' :: '-' :: (name ++ [])) = long rule.name := by
        rw [← String.toList_inj]
        simp [same]
      rw [argument]
      exact leads_of_mention known h leads
    | cons c value =>
      obtain rfl : c = '=' := by simpa using ends
      simp only [found] at h
      have argument : String.ofList ('-' :: '-' :: (name ++ '=' :: value)) =
          longWith rule.name (String.ofList value) := by
        rw [← String.toList_inj]
        simp [same]
      rw [argument]
      split at h
      · rename_i takes
        obtain ⟨settled, pending, h⟩ := bind_eq_ok.1 h
        obtain ⟨recorded, valued, h⟩ := bind_eq_ok.1 h
        obtain ⟨rfl, -, accepted⟩ := Progress.recordValue_eq_ok valued
        obtain rfl := Except.ok.inj h
        simpa only [List.append_assoc, List.cons_append, List.nil_append] using
          Progress.leads_of_settle pending (.joined known takes accepted leads)
      · exact nomatch h

/-- After letters are read, the grammar accounts for them as well. -/
theorem leads_of_readLetters {letter : Char} {letters : List Char}
    (regular : ∀ rule ∈ level.options, rule.letter.isSome → rule.takesValue = false)
    (single : letter ≠ '-') (h : level.readLetters progress (letter :: letters) = .ok next)
    (leads : next.pending.Leads level arguments mentions) :
    ∃ before, next.mentions ++ mentions = progress.mentions ++ before ∧
      progress.pending.Leads level (short (letter :: letters) :: arguments) before := by
  rw [readLetters] at h
  cases found : level.byLetter? letter with
  | none => simp [found] at h
  | some rule =>
    simp only [found] at h
    obtain ⟨middle, mentioned, h⟩ := bind_eq_ok.1 h
    obtain ⟨known, named⟩ := mem_of_byLetter? found
    have plain := regular rule known (by simp [named])
    obtain ⟨settled, pending, ⟨takes, -⟩ | ⟨-, rfl⟩⟩ := mention_eq_ok mentioned
    · simp [plain] at takes
    · obtain ⟨rules, spelled, rfl⟩ := readLetters_eq_ok regular h
      have all : List.Forall₂ level.Letter (letter :: letters) (rule :: rules) :=
        .cons ⟨known, named, plain⟩ spelled
      simpa only [List.append_assoc, List.map_cons, List.cons_append, List.nil_append] using
        Progress.leads_of_settle pending (.letters single all leads)

/-- One argument leads from what was pending to what is pending: whatever the arguments after
it mention, the grammar accounts for this argument as well. -/
theorem leads_of_readArgument {argument : String}
    (regular : ∀ rule ∈ level.options, rule.letter.isSome → rule.takesValue = false)
    (h : level.readArgument progress argument = .ok next)
    (leads : next.pending.Leads level arguments mentions) :
    ∃ before, next.mentions ++ mentions = progress.mentions ++ before ∧
      progress.pending.Leads level (argument :: arguments) before := by
  unfold readArgument at h
  split at h
  · rename_i text spelled
    rw [← String.ofList_toList (s := argument), spelled]
    exact leads_of_readLong h leads
  · rename_i letter letters notLong spelled
    rw [← String.ofList_toList (s := argument), spelled]
    exact leads_of_readLetters regular notLong h leads
  · rename_i notLong notLetters
    unfold readWord at h
    split at h
    · rename_i rule awaiting
      obtain rfl := Except.ok.inj h
      obtain ⟨accepted, others, rfl, spelled⟩ := leads
      rw [awaiting]
      exact ⟨_, rfl, argument, arguments, others, rfl, fun c cs word => notLetters c cs word,
        accepted, rfl, spelled⟩
    · exact nomatch h

/-! ## Reading all arguments -/

/-- A command and the arguments after it, as arguments. -/
def remainder : Option (String × List String) → List String
  | none => []
  | some (command, arguments) => command :: arguments

/-- Reading stops at a command of the level. -/
theorem mem_commands_of_read {arguments after : List String} {command : String}
    (h : level.read progress arguments = .ok (next, some (command, after))) :
    command ∈ level.commands := by
  induction arguments generalizing progress with
  | nil => exact nomatch (Prod.mk.inj (Except.ok.inj h)).2
  | cons argument arguments ih =>
    unfold Level.read at h
    split at h
    · rename_i stops
      obtain ⟨rfl, -⟩ := Prod.mk.inj (Option.some.inj (Prod.mk.inj (Except.ok.inj h)).2)
      simp only [Bool.and_eq_true, List.contains_iff_mem] at stops
      exact stops.2
    · split at h
      · split at h
        · exact nomatch (Prod.mk.inj (Except.ok.inj h)).2
        · exact nomatch h
      · obtain ⟨middle, -, h⟩ := bind_eq_ok.1 h
        exact ih h

/-- What the reader accepts is spelled by the grammar, up to a command. -/
theorem leads_of_read {arguments : List String} {rest : Option (String × List String)}
    {settled : List Mention}
    (regular : ∀ rule ∈ level.options, rule.letter.isSome → rule.takesValue = false)
    (h : level.read progress arguments = .ok (next, rest)) (ends : next.settle = .ok settled) :
    ∃ before mentions, arguments = before ++ remainder rest ∧
      settled = progress.mentions ++ mentions ∧ progress.pending.Leads level before mentions := by
  induction arguments generalizing progress with
  | nil =>
    obtain ⟨rfl, rfl⟩ := Prod.mk.inj (Except.ok.inj h)
    obtain ⟨mentions, all, leads⟩ := Progress.leads_of_settle ends .nil
    exact ⟨[], mentions, rfl, by simpa using all, leads⟩
  | cons argument arguments ih =>
    unfold Level.read at h
    split at h
    · obtain ⟨rfl, rfl⟩ := Prod.mk.inj (Except.ok.inj h)
      obtain ⟨mentions, all, leads⟩ := Progress.leads_of_settle ends .nil
      exact ⟨[], mentions, rfl, by simpa using all, leads⟩
    · split at h
      · rename_i dashes
        subst dashes
        cases arguments with
        | cons word words => exact nomatch h
        | nil =>
          obtain ⟨rfl, rfl⟩ := Prod.mk.inj (Except.ok.inj h)
          obtain ⟨mentions, all, leads⟩ := Progress.leads_of_settle ends .dashes
          exact ⟨["--"], mentions, rfl, by simpa using all, leads⟩
      · obtain ⟨middle, one, h⟩ := bind_eq_ok.1 h
        obtain ⟨before, mentions, rfl, rfl, leads⟩ := ih h
        obtain ⟨mentions', all, leads'⟩ := leads_of_readArgument regular one leads
        exact ⟨argument :: before, mentions', rfl, all, leads'⟩

end Level

end HostPreflight.CommandLine
