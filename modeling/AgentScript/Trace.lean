set_option autoImplicit false

/-! # Traces

While scripts run, a trace records what happens. Every record has the least level of detail at which
it is kept; at level zero nothing is. -/

namespace AgentScript

/-- Where a record comes from. -/
inductive TraceSource where
  | interpreter
  | actions
  | sandbox
deriving DecidableEq

/-- One record of a trace. -/
structure TraceRecord where
  source : TraceSource
  detail : Nat
  message : String
deriving DecidableEq

/-- What has been recorded at a level of detail. -/
structure Trace where
  level : Nat
  records : List TraceRecord := []

/-- How a source is announced. -/
def TraceSource.heading : TraceSource → String
  | .interpreter => "flowscript DEBUG "
  | .actions => "flowscript.actions INFO "
  | .sandbox => "flowscript.sandbox DEBUG "

/-- A record as lines of text. -/
def TraceRecord.text (r : TraceRecord) : String :=
  r.source.heading ++ r.message ++ "\n"

namespace Trace

/-- Keep a record, if the level asks for it. -/
def write (t : Trace) (r : TraceRecord) : Trace :=
  if r.detail ≤ t.level then { t with records := t.records ++ [r] } else t

/-- The whole trace as text. -/
def text (t : Trace) : String :=
  String.join (t.records.map TraceRecord.text)

/-- The message of the record that is kept when a script fails. -/
def failureMessage : String := "script execution failed"

end Trace

end AgentScript
