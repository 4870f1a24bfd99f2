import HostPreflight.Event

/-!
# Dialogues

A computation that asks questions, notes events and ends with a result.  It is a
finite tree: what a question leads to depends on its answer.  Against one answer
function it runs to a transcript, in which the questions and the events can be
seen beside the result; and a dialogue over one kind of questions becomes one
over another kind when each question is answered by a dialogue.

## Main definitions

* `Dialogue` — the trees, a monad.
* `Transcript` — what a run shows.
* `Dialogue.hold answer` — runs a dialogue.
* `Dialogue.carry answer` — runs a dialogue against answers that change a state.
* `Dialogue.route answer` — answers its questions by other dialogues.

## Main statements

* `hold_bind` — a sequence of dialogues runs one after the other.
* `carry_pure` — answers that leave the state alone make the same run.
* `result_hold_route` — a routed dialogue has the result that it has against the
  answers of the dialogues through which it is routed.
-/

namespace HostPreflight

/-- A computation that asks questions and notes events.  `Answer q` is the type
of the answers to the question `q`. -/
inductive Dialogue {Question : Type} (Answer : Question → Type) (α : Type) where
  | done (result : α)
  | note (event : Event) (rest : Dialogue Answer α)
  | ask (question : Question) (next : Answer question → Dialogue Answer α)

namespace Dialogue

variable {Question : Type} {Answer : Question → Type} {α β : Type}

/-- One dialogue after another. -/
def bind : Dialogue Answer α → (α → Dialogue Answer β) → Dialogue Answer β
  | .done a, f => f a
  | .note event rest, f => .note event (rest.bind f)
  | .ask question next, f => .ask question fun answer => (next answer).bind f

instance : Monad (Dialogue Answer) where
  pure := done
  bind := bind

@[simp] theorem pure_eq (a : α) : (pure a : Dialogue Answer α) = done a := rfl

@[simp] theorem done_bind (a : α) (f : α → Dialogue Answer β) : done a >>= f = f a := rfl

@[simp] theorem note_bind (event : Event) (rest : Dialogue Answer α)
    (f : α → Dialogue Answer β) : note event rest >>= f = note event (rest >>= f) := rfl

@[simp] theorem ask_bind (question : Question) (next : Answer question → Dialogue Answer α)
    (f : α → Dialogue Answer β) :
    ask question next >>= f = ask question fun answer => next answer >>= f := rfl

/-- Ending at once after a dialogue changes nothing. -/
theorem bind_done (d : Dialogue Answer α) : d >>= done = d := by
  induction d with
  | done a => rfl
  | note event rest ih => rw [note_bind, ih]
  | ask question next ih =>
    rw [ask_bind]
    exact congrArg _ (funext ih)

/-- Sequences of dialogues associate. -/
theorem bind_bind {γ : Type} (d : Dialogue Answer α) (f : α → Dialogue Answer β)
    (g : β → Dialogue Answer γ) : d >>= f >>= g = d >>= fun a => f a >>= g := by
  induction d with
  | done a => rfl
  | note event rest ih => simp only [note_bind, ih]
  | ask question next ih =>
    simp only [ask_bind]
    exact congrArg _ (funext ih)

instance : LawfulMonad (Dialogue Answer) :=
  LawfulMonad.mk' (Dialogue Answer) bind_done (fun _ _ => rfl) bind_bind

/-- Notes one event. -/
def log (event : Event) : Dialogue Answer Unit := note event (done ())

/-- Notes events in order. -/
def logAll (events : List Event) : Dialogue Answer Unit := events.forM log

/-- Asks one question. -/
def query (question : Question) : Dialogue Answer (Answer question) := ask question done

end Dialogue

/-- What a run of a dialogue shows. -/
structure Transcript (Question : Type) (α : Type) where
  result : α
  /-- The events in order. -/
  events : List Event
  /-- The questions in order. -/
  questions : List Question

namespace Dialogue

variable {Question : Type} {Answer : Question → Type} {α β : Type}

/-- Runs a dialogue against an answer function. -/
def hold (answer : (question : Question) → Answer question) :
    Dialogue Answer α → Transcript Question α
  | .done a => ⟨a, [], []⟩
  | .note event rest =>
    let t := hold answer rest
    { t with events := event :: t.events }
  | .ask question next =>
    let t := hold answer (next (answer question))
    { t with questions := question :: t.questions }

variable (answer : (question : Question) → Answer question)

@[simp] theorem hold_done (a : α) :
    hold answer (done a : Dialogue Answer α) = ⟨a, [], []⟩ := rfl

@[simp] theorem hold_note (event : Event) (rest : Dialogue Answer α) :
    hold answer (note event rest) =
      { hold answer rest with events := event :: (hold answer rest).events } := rfl

@[simp] theorem hold_ask (question : Question) (next : Answer question → Dialogue Answer α) :
    hold answer (ask question next) =
      { hold answer (next (answer question)) with
        questions := question :: (hold answer (next (answer question))).questions } := rfl

/-- A sequence of dialogues runs one after the other. -/
theorem hold_bind (d : Dialogue Answer α) (f : α → Dialogue Answer β) :
    hold answer (d >>= f) =
      { result := (hold answer (f (hold answer d).result)).result
        events := (hold answer d).events ++ (hold answer (f (hold answer d).result)).events
        questions :=
          (hold answer d).questions ++ (hold answer (f (hold answer d).result)).questions } := by
  induction d with
  | done a => rfl
  | note event rest ih => simp [ih]
  | ask question next ih => simp [ih]

/-! ## Changing worlds -/

/-- Runs a dialogue against answers that depend on a state and may change it. -/
def carry {σ : Type} (answer : (question : Question) → StateM σ (Answer question)) :
    Dialogue Answer α → StateM σ (Transcript Question α)
  | .done a => return ⟨a, [], []⟩
  | .note event rest => do
    let t ← carry answer rest
    return { t with events := event :: t.events }
  | .ask question next => do
    let t ← carry answer (next (← answer question))
    return { t with questions := question :: t.questions }

/-- Against answers that leave the state alone, a dialogue runs as against an answer
function. -/
theorem carry_pure {σ : Type} (d : Dialogue Answer α) :
    carry (fun question => (pure (answer question) : StateM σ (Answer question))) d =
      pure (hold answer d) := by
  induction d with
  | done a => rfl
  | note event rest ih => simp [carry, ih]
  | ask question next ih => simp [carry, ih]

/-! ## Routing -/

variable {Question' : Type} {Answer' : Question' → Type}

/-- Answers the questions of a dialogue by other dialogues. -/
def route (respond : (question : Question) → Dialogue Answer' (Answer question)) :
    Dialogue Answer α → Dialogue Answer' α
  | .done a => .done a
  | .note event rest => .note event (rest.route respond)
  | .ask question next => respond question >>= fun answer => (next answer).route respond

/-- Running a routed dialogue gives the result that it has against the answers of
the dialogues through which it is routed. -/
theorem result_hold_route (respond : (question : Question) → Dialogue Answer' (Answer question))
    (answer' : (question : Question') → Answer' question) (d : Dialogue Answer α) :
    (hold answer' (d.route respond)).result =
      (hold (fun question => (hold answer' (respond question)).result) d).result := by
  induction d with
  | done a => rfl
  | note event rest ih => simpa [route] using ih
  | ask question next ih => simpa [route, hold_bind] using ih _

end Dialogue

end HostPreflight
