import VnfPayload.Json.Writer
import VnfPayload.Error
import VnfPayload.Operation

/-!
# Events and runs

Building a payload leaves a trace of events.  A `Run` is what a computation leaves behind:
the events in order, and a value or an error.  The events before an error are kept.
-/

namespace VnfPayload

/-- What is worth a line in the log. -/
inductive Event where
  /-- A payload is built from the template of a version. -/
  | generating (operation : Operation) (version : String)
  /-- The properties of the request, with sensitive values masked. -/
  | requestProperties (shown : Json)
  /-- A field is left out; the key is given if its source is a property. -/
  | omitted (field : String) (key : Option String)
  /-- A message of so many bytes was written. -/
  | generated (bytes : Nat)
  /-- The properties found in a message, with sensitive values masked. -/
  | extracted (shown : Json)
  /-- A template of a file took the place of another one. -/
  | replaced (operation : Operation) (version : String)
  /-- A registry breaks a rule that it need not keep. -/
  | registryWarning (warning : Diagnostic)
deriving DecidableEq

/-- How much detail an event adds to a log. -/
inductive Level where
  | debug
  | trace
deriving DecidableEq

/-- The name of a level in the log. -/
def Level.name : Level → String
  | .debug => "DEBUG"
  | .trace => "TRACE"

namespace Event

/-- The level of an event: only omitted fields are told at the lower one. -/
def level : Event → Level
  | .omitted .. => .trace
  | _ => .debug

/-- The text of an event in the log. -/
def message : Event → String
  | .generating operation version =>
      s!"Generating {operation.messageType} message for ETSI SOL003 v{version}"
  | .requestProperties _ => "request properties"
  | .omitted .. => "optional field omitted"
  | .generated _ => "Message generated successfully"
  | .extracted _ => "properties extracted from message"
  | .replaced .. => "template replaced by registry file"
  | .registryWarning warning => s!"registry warning: {warning.text}"

/-- The named values that an event shows beside its text. -/
def fields : Event → List (String × String)
  | .generating .. => []
  | .requestProperties shown => [("properties", shown.text)]
  | .omitted field none => [("field", field)]
  | .omitted field (some key) => [("field", field), ("source_key", key)]
  | .generated bytes => [("bytes", toString bytes)]
  | .extracted shown => [("properties", shown.text)]
  | .replaced operation version =>
      [("operation", operation.messageType), ("version", version)]
  | .registryWarning _ => []

end Event

/-- The events of a computation and what it ended with. -/
structure Run (α : Type) where
  events : List Event
  outcome : Except Error α

namespace Run

variable {α β : Type}

/-- A run without events. -/
def ofExcept (outcome : Except Error α) : Run α :=
  ⟨[], outcome⟩

/-- A run without events that gives a value. -/
def pure (a : α) : Run α :=
  ofExcept (.ok a)

/-- A run that leaves one event and gives nothing. -/
def emit (e : Event) : Run Unit :=
  ⟨[e], .ok ()⟩

/-- A run that leaves events in their order and gives nothing. -/
def emitAll (es : List Event) : Run Unit :=
  ⟨es, .ok ()⟩

/-- Goes on with the value of a run; after an error nothing more happens. -/
def bind (r : Run α) (f : α → Run β) : Run β :=
  match r.outcome with
  | .ok a => ⟨r.events ++ (f a).events, (f a).outcome⟩
  | .error e => ⟨r.events, .error e⟩

instance : Monad Run where
  pure := pure
  bind := bind

end Run

end VnfPayload
