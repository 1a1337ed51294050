/-
  NodeClient.Client.Log
  ─────────────────────
  What the client tells about its work.
-/
import NodeClient.Json.Value

namespace NodeClient

open Json

/-- How much an entry of the log matters. -/
inductive Level where
  | error | warn | info | debug | trace
  deriving Repr, DecidableEq

/-- The name of a level. -/
def Level.name : Level → String
  | error => "ERROR"
  | warn => "WARN"
  | info => "INFO"
  | debug => "DEBUG"
  | trace => "TRACE"

/-- An entry of the log. -/
structure LogEntry where
  level : Level
  message : String
  fields : Members := []
  deriving Repr

/-- An entry as JSON. -/
def LogEntry.value (e : LogEntry) : Value :=
  .object (("log", .string e.level.name) :: ("message", .string e.message) :: e.fields)

end NodeClient
