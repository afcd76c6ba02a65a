import VnfPayload.Config
import VnfPayload.Document
import VnfPayload.Event
import VnfPayload.Pattern.Reader
import VnfPayload.Request

/-!
# Generating messages

A generator turns the context of a request into the payload of an operation.  The version
that the context asks for selects the template.  Its field rules are applied in order of
declaration, then the properties with one of its prefixes are folded in, in set order.
The first error ends the building.
-/

namespace VnfPayload

/-- A registry of templates, settings, and the keys whose values are kept out of the log. -/
structure Generator where
  registry : Registry
  config : Config
  isSensitive : String → Bool

namespace Generator

/-- The generator with the given settings, if their pattern of sensitive keys can be read. -/
def ofConfig (registry : Registry) (config : Config) : Except Error Generator :=
  match Pattern.matcher? config.sensitiveKeys with
  | some isSensitive => .ok ⟨registry, config, isSensitive⟩
  | none => .error .invalidPattern

/-- The generator with the built-in templates and the standard settings. -/
def standard : Generator where
  registry := Registry.builtin
  config := Config.standard
  isSensitive := (Pattern.matcher? Config.standard.sensitiveKeys).getD fun _ => false

/-- The version that the context asks for, or the default. -/
def resolveVersion (g : Generator) (ctx : Context) : Except Error String :=
  match ctx.properties.getNonNull? g.config.versionKey with
  | none => .ok g.config.defaultVersion
  | some (.str version) => .ok version
  | some other => .error (.unsupportedValueType g.config.versionKey other.toJson.kind)

/-- The template for an operation at the version that the context asks for. -/
def templateFor (g : Generator) (operation : Operation) (ctx : Context) :
    Except Error Template := do
  let version ← g.resolveVersion ctx
  match g.registry.get? operation version with
  | some t => .ok t
  | none => .error (.unknownTemplate operation.messageType version)

/-- The value of a source.  A property that is null counts as absent, a description does not. -/
def readSource (ctx : Context) : FieldSource → Option Json
  | .property key => (ctx.properties.getNonNull? key).map PropertyValue.toJson
  | .lifecycleName => ctx.lifecycleName.map Json.str
  | .description => ctx.description.map PropertyValue.toJson

/-- Sets a field of the document; an optional one without a value is an event, a required one an
error. -/
def applyField (ctx : Context) (doc : Document) : FieldRule → Run Document
  | .container name kind => Run.pure (Entries.insert doc name kind.empty)
  | .optional name source =>
      let source := FieldRule.sourceOf name source
      match readSource ctx source with
      | some value => Run.pure (Entries.insert doc name value)
      | none => ⟨[.omitted name source.key?], .ok doc⟩
  | .required name source =>
      let source := FieldRule.sourceOf name source
      match readSource ctx source with
      | some value => Run.pure (Entries.insert doc name value)
      | none => Run.ofExcept (.error (.missingRequiredField name source.label))

/-- Sets the fields of a document in order of declaration, up to the first error. -/
def applyFields (ctx : Context) (doc : Document) : List FieldRule → Run Document
  | [] => Run.pure doc
  | field :: rest => do
      let doc ← applyField ctx doc field
      applyFields ctx doc rest

/-- Folds properties into the document; the half-changed document of an error is dropped. -/
def foldIn (doc : Document) (properties : List (String × PropertyValue)) :
    Except Error Document :=
  match doc.materializeAll properties with
  | (doc, .ok ()) => .ok doc
  | (_, .error e) => .error e

/-- Builds the document of a template: its fields first, and then the matched properties. -/
def buildFrom (ctx : Context) (t : Template) : Run Document := do
  let doc ← applyFields ctx [] t.fields
  Run.ofExcept (foldIn doc (ctx.properties.withPrefixes t.prefixes))

/-- Builds the document of an operation; the log starts as soon as a template is found. -/
def buildDocument (g : Generator) (operation : Operation) (ctx : Context) :
    Run Document := do
  let t ← Run.ofExcept (g.templateFor operation ctx)
  Run.emit (.generating operation t.version)
  Run.emit (.requestProperties (ctx.properties.logSafe g.isSensitive))
  buildFrom ctx t

/-- The text of a message, indented if the settings ask for it. -/
def write (g : Generator) (doc : Document) : String :=
  if g.config.indented then (Json.obj doc).prettyText else (Json.obj doc).text

/-- Builds and writes the message of an operation. -/
def generate (g : Generator) (operation : Operation) (ctx : Context) : Run String := do
  let doc ← g.buildDocument operation ctx
  let message := g.write doc
  Run.emit (.generated message.utf8ByteSize)
  return message

/-- Builds and writes the message of the operation whose message type is named. -/
def generateByName (g : Generator) (name : String) (ctx : Context) : Run String :=
  match Operation.ofName? name with
  | some operation => g.generate operation ctx
  | none => do
      let version ← Run.ofExcept (g.resolveVersion ctx)
      Run.ofExcept (.error (.unknownTemplate name version))

/-- Turns the text of a message back into properties. -/
def extractProperties (g : Generator) (message : String) : Run PropertySet :=
  match Json.read? message with
  | none => Run.ofExcept (.error (.parse .malformed))
  | some (.obj doc) => do
      let properties := Document.flatten doc
      Run.emit (.extracted (properties.logSafe g.isSensitive))
      return properties
  | some _ => Run.ofExcept (.error (.parse .messageNotObject))

end Generator

/-- Builds and writes a message with the built-in templates and the standard settings. -/
def generate (operation : Operation) (ctx : Context) : Run String :=
  Generator.standard.generate operation ctx

end VnfPayload
