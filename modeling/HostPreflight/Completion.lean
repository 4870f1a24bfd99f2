import HostPreflight.Failure.Basic
import HostPreflight.Text.Blank
import HostPreflight.Text.Utf8

/-!
# Programs that have ended

How another program ended and what it wrote.  It ends by itself, with an exit code, or a
signal ends it; only the exit code zero means that its output can be used.

## Main definitions

* `ProgramEnd` — how a program ended; `ProgramEnd.text` is the wording.
* `Completion` — the end of a program and what it wrote.
* `Completion.output` — the output of a program that succeeds.

## Main statements

* `ProgramEnd.isSome_signalName?_iff` — which signals have a name.
-/

namespace HostPreflight

open Text

/-- How a program ended. -/
inductive ProgramEnd where
  /-- By itself. -/
  | exited (code : UInt8)
  /-- By a signal, perhaps with an image of the memory left behind. -/
  | signalled (signal : UInt8) (dumped : Bool)
  deriving DecidableEq, Repr

namespace ProgramEnd

/-- The names of the signals, from number one on. -/
def signalNames : List String :=
  ["HUP", "INT", "QUIT", "ILL", "TRAP", "ABRT", "BUS", "FPE", "KILL", "USR1", "SEGV", "USR2",
    "PIPE", "ALRM", "TERM", "STKFLT", "CHLD", "CONT", "STOP", "TSTP", "TTIN", "TTOU", "URG",
    "XCPU", "XFSZ", "VTALRM", "PROF", "WINCH", "IO", "PWR", "SYS"]

/-- The name of a signal, if it has one.  The signals of real-time programs have none. -/
def signalName? (signal : UInt8) : Option String :=
  if signal = 0 then none else signalNames[signal.toNat - 1]?

/-- The signals with a name are the first 31. -/
theorem isSome_signalName?_iff {signal : UInt8} :
    (signalName? signal).isSome ↔ 1 ≤ signal ∧ signal ≤ 31 := by
  have count : signalNames.length = 31 := rfl
  have bounds : (1 : UInt8).toNat = 1 ∧ (31 : UInt8).toNat = 31 := ⟨rfl, rfl⟩
  rw [signalName?, UInt8.le_iff_toNat_le, UInt8.le_iff_toNat_le, bounds.1, bounds.2]
  by_cases none : signal = 0
  · simp [none]
  · have some : signal.toNat ≠ 0 := fun zero => none (UInt8.toNat_inj.1 zero)
    rw [if_neg none, isSome_getElem?, count]
    omega

/-- The number of a signal and its name. -/
def signalText (signal : UInt8) : String :=
  match signalName? signal with
  | some name => Decimal.text signal.toNat ++ " (SIG" ++ name ++ ")"
  | none => Decimal.text signal.toNat

/-- The wording of an end. -/
def text : ProgramEnd → String
  | .exited code => "exit status: " ++ Decimal.text code.toNat
  | .signalled signal dumped =>
    "signal: " ++ signalText signal ++ if dumped then " (core dumped)" else ""

example : (signalled 9 false).text = "signal: 9 (SIGKILL)" := by decide +kernel

example : (signalled 40 true).text = "signal: 40 (core dumped)" := by decide +kernel

end ProgramEnd

/-- How another program ended and what it wrote. -/
structure Completion where
  ending : ProgramEnd
  out : List UInt8
  err : List UInt8
  deriving DecidableEq, Repr

/-- Why a program did not succeed: how it ended, and its complaint. -/
def Completion.reason (completion : Completion) : String :=
  completion.ending.text ++ ": " ++ String.ofList (trim (Utf8.decodeLossy completion.err))

/-- The output of a program as text, if the program succeeds. -/
def Completion.output (line : String) (completion : Completion) : Except Failure String :=
  if completion.ending = .exited 0 then .ok (Utf8.stringLossy completion.out)
  else .error (.commandFailed line completion.reason)

end HostPreflight
