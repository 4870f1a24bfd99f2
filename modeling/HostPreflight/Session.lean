import HostPreflight.Checks

/-!
# Sessions

A session holds canned host answers and settings that can be changed step by
step, and runs the checks against them.  It remembers the last report, so that a
run can tell whether anything has changed.

## Main definitions

* `Session` — what is held.
* `Session.Step` — the steps; `Session.Reply` — what a step answers.
* `Session.perform` — one step.
-/

namespace HostPreflight

/-- Canned answers, settings, and the last report. -/
structure Session where
  fixture : Fixture
  settings : Settings
  last : Option Report
  deriving DecidableEq

namespace Session

/-- A session with a host that tells nothing. -/
def start : Session := ⟨.blank, .default, none⟩

/-- A step of a session. -/
inductive Step where
  /-- Starts again from a host. -/
  | useFixture (fixture : Fixture)
  /-- Changes the processor listing. -/
  | setTopology (text : Option String)
  /-- Changes the number of logical processors. -/
  | setCores (cores : UInt64)
  /-- Changes the memory table. -/
  | setMeminfo (text : Option String)
  /-- Changes the status report. -/
  | setDevbind (text : Option String)
  /-- Changes those thresholds that are given. -/
  | setThresholds (minCores : Option UInt64) (minFreeMemoryGb : Option Double)
  /-- Goes back to the settings of the start. -/
  | resetSettings
  /-- Asks the host all questions. -/
  | ask
  /-- Runs the checks. -/
  | run
  deriving DecidableEq

/-- What a step answers. -/
inductive Reply where
  | done
  | answers (source : Source)
  /-- A report, and whether it equals the last one if there is one. -/
  | report (report : Report) (same : Option Bool)

/-- The session after a step. -/
def next (session : Session) : Step → Session
  | .useFixture fixture => { session with fixture }
  | .setTopology text => { session with fixture := { session.fixture with topology := text } }
  | .setCores cores => { session with fixture := { session.fixture with cores } }
  | .setMeminfo text => { session with fixture := { session.fixture with meminfo := text } }
  | .setDevbind text => { session with fixture := { session.fixture with devbind := text } }
  | .setThresholds minCores minFreeMemoryGb =>
    { session with settings := { session.settings with
        minCores := minCores.getD session.settings.minCores
        minFreeMemoryGb := minFreeMemoryGb.getD session.settings.minFreeMemoryGb } }
  | .resetSettings => { session with settings := .default }
  | .ask => session
  | .run => { session with last := some (session.fixture.source.report session.settings) }

/-- What a step answers. -/
def reply (session : Session) : Step → Reply
  | .ask => .answers session.fixture.source
  | .run =>
    let report := session.fixture.source.report session.settings
    .report report (session.last.map report.equal)
  | _ => .done

/-- The events that a step notes. -/
def events (session : Session) : Step → List Event
  | .run => (session.fixture.source.transcript session.settings).events
  | _ => []

/-- The session after a row of steps. -/
def after (session : Session) (steps : List Step) : Session := steps.foldl next session

end Session

end HostPreflight
