import HostPreflight.Machine.Shell.Text

/-!
# Signals

The signals that a process can be sent and their names.

## Main definitions

* `Signal.names` — the names, by number; the end of a process has number zero.
* `Signal.number?` — the number of the signal that a text names.
-/

namespace HostPreflight.Machine.Shell

namespace Signal

/-- The names of the signals by number, up to the first that has no name of its own. -/
def firstNames : List String :=
  ["EXIT", "HUP", "INT", "QUIT", "ILL", "TRAP", "ABRT", "BUS", "FPE", "KILL", "USR1", "SEGV",
    "USR2", "PIPE", "ALRM", "TERM", "16", "CHLD", "CONT", "STOP", "TSTP", "TTIN", "TTOU", "URG",
    "XCPU", "XFSZ", "VTALRM", "PROF", "WINCH", "IO", "PWR", "SYS", "32", "33"]

/-- The names of the signals by number. -/
def names : List (List Char) :=
  firstNames.map String.toList ++ ["RTMIN".toList]
    ++ (List.range 15).map (fun n => "RTMIN+".toList ++ decimal (n + 1))
    ++ (List.range 14).map (fun n => "RTMAX-".toList ++ decimal (14 - n)) ++ ["RTMAX".toList]

/-- How many signals there are, the end of a process among them. -/
def count : Nat := 65

/-- The name of a signal. -/
def name (number : Nat) : List Char := names.getD number []

/-- The number of the signal that a text names, from the number `least` on; a number
names itself. -/
def number? (least : Nat) (text : List Char) : Option Nat :=
  if !text.isEmpty && text.all isNumeral then
    let number := (scanDigits 10 0 text).1
    if number < count then some number else none
  else
    let lower (cs : List Char) : List Char := cs.map Char.toLower
    match (names.drop least).findIdx? fun name => lower name = lower text with
    | some n => some (n + least)
    | none => none

/-- The signals that do not end a process that says nothing about them. -/
def harmless : List Nat := [0, 17, 18, 19, 20, 21, 22, 23, 28]

/-- The descriptions of the signals by number, up to the last that has one of its own. -/
def descriptions : List String :=
  ["", "Hangup", "Interrupt", "Quit", "Illegal instruction", "Trace/breakpoint trap", "Aborted",
    "Bus error", "Floating point exception", "Killed", "User defined signal 1",
    "Segmentation fault", "User defined signal 2", "Broken pipe", "Alarm clock", "Terminated",
    "Stack fault", "Child exited", "Continued", "Stopped (signal)", "Stopped",
    "Stopped (tty input)", "Stopped (tty output)", "Urgent I/O condition",
    "CPU time limit exceeded", "File size limit exceeded", "Virtual timer expired",
    "Profiling timer expired", "Window changed", "I/O possible", "Power failure",
    "Bad system call"]

/-- The description of a signal. -/
def description (number : Nat) : List Char :=
  if 34 ≤ number then "Real-time signal ".toList ++ decimal (number - 34)
  else
    match descriptions[number]? with
    | some description => description.toList
    | none => "Unknown signal ".toList ++ decimal number

/-- What is said of a process that a signal has ended; nothing where it was interrupted
or had no reader. -/
def obituary (number : Nat) : List Char :=
  if number = 2 ∨ number = 13 then [] else description number ++ ['\n']

/-- The exit code of a process that a signal has ended. -/
def exitCode (number : Nat) : Nat := 128 + number

end Signal

end HostPreflight.Machine.Shell
