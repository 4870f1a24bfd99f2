import HostPreflight.Machine.Shell.Signal
import HostPreflight.Machine.Shell.Switch

/-!
# Jobs

The commands that a process does not wait for.  Each has a place, which is free again
once it has been waited for and another process has been started.

## Main definitions

* `addJob`, `endJob` — a job starts and ends.
* `findJob` — the job that a text names.
* `performJobs`, `performWait`, `performContinue` — built-in commands.
-/

namespace HostPreflight.Machine.Shell

namespace JobEnd

/-- The exit code of a job. -/
def status : JobEnd → Nat
  | exited code => code
  | killed signal => Signal.exitCode signal

/-- What is said of a job that has ended. -/
def text : JobEnd → List Char
  | exited 0 => "Done".toList
  | exited code => "Done(".toList ++ decimal code ++ [')']
  | killed signal => Signal.description signal

end JobEnd

/-- The first place from a number on that is free, or that a job has which has been
waited for. -/
def freePlace (jobs : List Job) : (tries place : Nat) → Nat
  | 0, place => place
  | tries + 1, place =>
    match jobs.find? (·.place == place) with
    | some job => if job.isWaited then place else freePlace jobs tries (place + 1)
    | none => place

/-- Takes a place for a new process: the place, and the jobs without the one that had
it before. -/
def takePlace (p : Process) : Nat × Process :=
  let place := freePlace p.jobs p.jobs.length 1
  (place, { p with jobs := p.jobs.filter (·.place != place) })

/-- Starts a job with a process of that number. -/
def addJob (p : Process) (number : Nat) : Process :=
  let (place, p) := takePlace p
  { p with jobs := { place, number } :: p.jobs, lastJob := some number }

/-- Ends the job with a process of that number. -/
def endJob (p : Process) (number : Nat) (ending : JobEnd) : Process :=
  { p with jobs := p.jobs.map fun job =>
      if job.number = number then { job with ending := some ending } else job }

/-- The job that a text names. -/
def findJob (name : List Char) : Eval Job := do
  let jobs := (← process).jobs
  let need (job : Option Job) (complaint : String) : Eval Job :=
    match job with
    | some job => return job
    | none => fail complaint.toList
  let unknown : Eval Job := fail ("No such job: ".toList ++ name)
  match name with
  | ['%'] | ['%', '%'] | ['%', '+'] => need jobs.head? "No current job"
  | ['%', '-'] => need (jobs.drop 1).head? "No previous job"
  | '%' :: digits =>
    if !digits.isEmpty && digits.all isNumeral then
      match jobs.find? fun job => decimal job.place = digits with
      | some job => return job
      | none => unknown
    else unknown
  | _ => unknown

/-! ## Listing -/

/-- The width up to which a line about a job is filled. -/
def jobWidth : Nat := 33

/-- A line about a job. -/
def jobLine (jobs : List Job) (isLong : Bool) (job : Job) : List Char :=
  let rank :=
    if jobs.head? = some job then '+' else if (jobs.drop 1).head? = some job then '-' else ' '
  let text := '[' :: decimal job.place ++ [']', ' ', rank, ' ']
    ++ (if isLong then decimal job.number ++ [' '] else [])
    ++ ((job.ending.map JobEnd.text).getD "Running".toList)
  text ++ List.replicate (max 1 (jobWidth - text.length)) ' ' ++ ['\n']

/-- Lines about some jobs.  Those that have ended are forgotten. -/
def listJobs (line : List Job → Job → List Char) : (listed : List Job) → Eval (List Char)
  | [] => return []
  | job :: listed => do
    let jobs := (← process).jobs
    if job.ending.isSome then
      modifyProcess fun p => { p with jobs := p.jobs.filter (·.number != job.number) }
    return line jobs job ++ (← listJobs line listed)

/-- Lists jobs. -/
def performJobs (arguments : List (List Char)) : Eval Ending := do
  let (switches, names) ← readSwitches "lp" arguments
  let isLong := switches.any (·.letter == 'l')
  let line (jobs : List Job) (job : Job) : List Char :=
    if switches.any (·.letter == 'p') then decimal job.number ++ ['\n'] else jobLine jobs isLong job
  if names.isEmpty then answer (← listJobs line (← process).jobs)
  else
    let lines ← names.mapM fun name => do
      listJobs line [← findJob name]
    answer lines.flatten

/-! ## Waiting -/

/-- Waits for jobs, which have all ended already.  What has ended a job is told if it
was among the last ones to end. -/
def performWait (lately : List Nat) (arguments : List (List Char)) : Eval Ending := do
  let (_, names) ← readSwitches "" arguments
  if names.isEmpty then
    modifyProcess fun p => { p with jobs := p.jobs.map fun job => { job with isWaited := true } }
    done
  else
    let codes ← names.mapM fun name => do
      let job? ← match name with
        | '%' :: _ => some <$> findJob name
        | name =>
          let number ← needCount name
          pure ((← process).jobs.find? (·.number == number))
      match job? with
      | none => return 127
      | some job =>
        modifyProcess fun p =>
          { p with jobs := p.jobs.map fun other =>
              if other.number = job.number then { other with isWaited := true } else other }
        match job.ending with
        | some (.killed signal) =>
          if lately.contains job.number then writeError (Signal.obituary signal)
        | _ => pure ()
        return (job.ending.map JobEnd.status).getD 0
    return ([], codes.getLast?.getD 0)

/-- Complains that a job cannot be continued. -/
def performContinue (arguments : List (List Char)) : Eval Ending := do
  let (_, names) ← readSwitches "" arguments
  let name := names.head?.getD ['%']
  let _ ← findJob name
  let shown := names.head?.getD "(null)".toList
  fail ("job ".toList ++ shown ++ " not created under job control".toList)

end HostPreflight.Machine.Shell
