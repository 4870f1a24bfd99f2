import HostPreflight.Failure.Cause

/-!
# Failures

What can go wrong when the host is asked, when the settings are resolved, or
when a report is read.

## Main definitions

* `Failure` — the causes; `Failure.message` is their one wording.
* `Failure.path?`, `Failure.cause?` — the path and the cause that a failure carries.
-/

namespace HostPreflight

/-- What can go wrong. -/
inductive Failure where
  /-- A file or stream could not be used. -/
  | io (path : String) (cause : Failure.Cause)
  /-- There is nothing at a path. -/
  | notFound (path : String)
  /-- A command could not be started or did not succeed. -/
  | commandFailed (command : String) (reason : String)
  /-- An environment variable is not set. -/
  | missingVariable (name : String)
  /-- The host answered with a text that cannot be interpreted. -/
  | malformed (source : String) (detail : String)
  /-- The settings contradict the host. -/
  | settings (detail : String)
  /-- A report could not be written or read as JSON. -/
  | serialization (detail : String)
  deriving DecidableEq, Repr

namespace Failure

/-- The wording of a failure. -/
def message : Failure → String
  | .io path cause => "I/O error at '" ++ path ++ "': " ++ cause.message
  | .notFound path => "Path not found: " ++ path
  | .commandFailed command reason => "Command '" ++ command ++ "' failed: " ++ reason
  | .missingVariable name => "Environment variable " ++ name ++ " undefined"
  | .malformed source detail => "Malformed " ++ source ++ " output: " ++ detail
  | .settings detail => "Configuration error: " ++ detail
  | .serialization detail => "Report serialization error: " ++ detail

/-- The path that a failure is about. -/
def path? : Failure → Option String
  | .io path _ => some path
  | .notFound path => some path
  | _ => none

/-- The cause beneath a failure. -/
def cause? : Failure → Option Cause
  | .io _ cause => some cause
  | _ => none

/-- A failed stream, about which no path is known. -/
def ofCause (cause : Cause) : Failure := .io "" cause

end Failure

end HostPreflight
