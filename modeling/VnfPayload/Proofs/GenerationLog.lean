import VnfPayload.Proofs.FieldPhase
import VnfPayload.Proofs.RegistryOrder

/-!
# The log of a generation

All that a generation leaves in the log follows from the template and from the values of the
sources that its fields have.  A run of field rules tells of each optional field that it leaves
out, and the first required field without a value ends it (`Template.omissions`).  Nothing is
told of the properties that are folded in, whatever comes of them.

Where no template is found there is no event at all.  Otherwise the log starts with the message
type and the version and with the masked properties, and it ends with the length of the message
in UTF-8, exactly if there is a message.

Main statements:

* `Run.bind_events` says what two runs in a row leave;
* `Generator.applyField_events` is about one rule, and `Generator.applyFields_events` about any
  number of them;
* `Generator.generate_log` gives all events of a generation, and the lines that show them.
-/

namespace VnfPayload

namespace Run

variable {α β : Type}

/-- The second run adds its events if it takes place. -/
theorem bind_events (r : Run α) (f : α → Run β) :
    (r >>= f).events = r.events ++
      match r.outcome with
      | .ok a => (f a).events
      | .error _ => [] := by
  obtain ⟨events, outcome⟩ := r
  cases outcome with
  | ok a =>
      rfl
  | error e =>
      exact (List.append_nil events).symm

end Run

namespace FieldRule

/-- The name and the source of an optional field whose source has no value but null. -/
def omission? (ctx : Context) : FieldRule → Option (String × FieldSource)
  | .optional name source =>
      match ctx.nonNull? (sourceOf name source) with
      | none => some (name, sourceOf name source)
      | some _ => none
  | _ => none

/-- Whether the field is required and its source has no value but null. -/
def isMissing (ctx : Context) : FieldRule → Bool
  | .required name source => (ctx.nonNull? (sourceOf name source)).isNone
  | _ => false

variable {ctx : Context} {field : FieldRule}

theorem isMissing_iff (hdescription : ctx.description ≠ some .null) :
    field.isMissing ctx = true ↔ field.IsUnmet ctx := by
  cases field with
  | required name source =>
      have hnull : ¬ ctx.PassesNull (sourceOf name source) := fun h => hdescription h.2
      simp [isMissing, IsUnmet, hnull]
  | _ =>
      simp [isMissing, IsUnmet]

/-- What is required is never just left out. -/
theorem omission?_of_isMissing (h : field.isMissing ctx = true) : field.omission? ctx = none := by
  cases field with
  | required name source =>
      rfl
  | _ =>
      cases h

end FieldRule

/-- The optional fields that are left out before the first required field without a value, in
order of declaration. -/
def Template.omissions (t : Template) (ctx : Context) : List (String × FieldSource) :=
  (t.fields.takeWhile fun field => !field.isMissing ctx).filterMap fun field =>
    field.omission? ctx

namespace Event

/-- What the log shows of an event: its level, its text and its fields. -/
def line (e : Event) : Level × String × List (String × String) :=
  (e.level, e.message, e.fields)

/-- The event of an optional field that is left out. -/
def ofOmission (o : String × FieldSource) : Event :=
  .omitted o.1 o.2.key?

/-- The line of an optional field that is left out.  It has the key of the source if the source
is a property, and only then. -/
def omissionLine : String × FieldSource → Level × String × List (String × String)
  | (name, .property key) =>
      (.trace, "optional field omitted", [("field", name), ("source_key", key)])
  | (name, _) =>
      (.trace, "optional field omitted", [("field", name)])

theorem line_ofOmission (o : String × FieldSource) : (ofOmission o).line = omissionLine o := by
  obtain ⟨name, source⟩ := o
  cases source <;> rfl

end Event

/-- The description that the properties of a request give is no null. -/
theorem Request.description_ne_null (r : Request) : r.context.description ≠ some .null := by
  have hnonNull : ∀ key, r.properties.getNonNull? key ≠ some .null := by
    intro key h
    have hnull := (Option.filter_eq_some_iff.mp h).2
    cases hnull
  rw [context, PropertySet.description]
  split
  next v hv =>
    rw [← hv]
    exact hnonNull _
  next =>
    exact hnonNull _

namespace Generator

variable {g : Generator} {operation : Operation} {ctx : Context} {t : Template}

/-! ## Field rules -/

/-- A rule leaves an event if it is an optional field that is left out. -/
theorem applyField_events (hdescription : ctx.description ≠ some .null) (doc : Document)
    (field : FieldRule) :
    (applyField ctx doc field).events = (field.omission? ctx).toList.map Event.ofOmission := by
  cases field with
  | container name kind =>
      rfl
  | optional name source =>
      rw [applyField, FieldRule.omission?, readSource_eq hdescription]
      cases ctx.nonNull? (FieldRule.sourceOf name source) <;> rfl
  | required name source =>
      have homission : (FieldRule.required name source).omission? ctx = none := rfl
      rw [applyField, homission, readSource_eq hdescription]
      cases ctx.nonNull? (FieldRule.sourceOf name source) <;> rfl

/-- A run of rules leaves one event for each optional field that is left out before the run
ends. -/
theorem applyFields_events (hdescription : ctx.description ≠ some .null) (doc : Document)
    (fields : List FieldRule) :
    (applyFields ctx doc fields).events =
      ((fields.takeWhile fun field => !field.isMissing ctx).filterMap fun field =>
        field.omission? ctx).map Event.ofOmission := by
  induction fields generalizing doc with
  | nil =>
      rfl
  | cons field fields ih =>
      rw [applyFields, Run.bind_events, applyField_events hdescription]
      cases hfield : (applyField ctx doc field).outcome with
      | error e =>
          have hmissing : field.isMissing ctx = true :=
            (FieldRule.isMissing_iff hdescription).mpr (applyField_eq_error_iff.mp hfield).1
          rw [List.takeWhile_cons_of_neg (by simp [hmissing]),
            FieldRule.omission?_of_isMissing hmissing]
          rfl
      | ok between =>
          have hpresent : field.isMissing ctx = false := by
            rw [← Bool.not_eq_true, FieldRule.isMissing_iff hdescription]
            exact not_isUnmet_of_applyField hfield
          rw [List.takeWhile_cons_of_pos (by simp [hpresent]), List.filterMap_cons]
          dsimp only
          rw [ih between]
          cases field.omission? ctx <;> rfl

/-- No event comes from the properties that are folded in, whether they can be or not. -/
theorem buildFrom_events (ctx : Context) (t : Template) :
    (buildFrom ctx t).events = (applyFields ctx [] t.fields).events := by
  rw [buildFrom, Run.bind_events]
  cases (applyFields ctx [] t.fields).outcome <;> exact List.append_nil _

/-! ## Generations -/

/-- The events of a generation whose template is found. -/
theorem generate_events (h : g.templateFor operation ctx = .ok t)
    (hdescription : ctx.description ≠ some .null) :
    (g.generate operation ctx).events =
      [.generating operation t.version,
          .requestProperties (ctx.properties.logSafe g.isSensitive)] ++
        (t.omissions ctx).map Event.ofOmission ++
        match (g.generate operation ctx).outcome with
        | .ok message => [.generated message.utf8ByteSize]
        | .error _ => [] := by
  rw [generate_of_template h]
  have hbuilt : (buildFrom ctx t).events = (t.omissions ctx).map Event.ofOmission := by
    rw [buildFrom_events, applyFields_events hdescription]
    rfl
  rw [hbuilt]
  cases (buildFrom ctx t).outcome <;> rfl

/-- **The log of a generation**: nothing without a template, and otherwise the request, the
optional fields that are left out and the length of the message, if there is one. -/
theorem generate_log (g : Generator) (operation : Operation) (r : Request) :
    (∀ e, g.resolveVersion r.context = .error e →
      g.generate operation r.context = ⟨[], .error e⟩) ∧
    ∀ version, g.resolveVersion r.context = .ok version →
      (g.registry.get? operation version = none →
        g.generate operation r.context =
          ⟨[], .error (.unknownTemplate operation.messageType version)⟩) ∧
      ∀ t, g.registry.get? operation version = some t →
        (g.generate operation r.context).events =
          [.generating operation version,
              .requestProperties (r.properties.logSafe g.isSensitive)] ++
            (t.omissions r.context).map Event.ofOmission ++
            (match (g.generate operation r.context).outcome with
            | .ok message => [.generated message.utf8ByteSize]
            | .error _ => []) ∧
        (g.generate operation r.context).events.map Event.line =
          [(.debug, "Generating " ++ operation.messageType ++ " message for ETSI SOL003 v" ++
                version, []),
              (.debug, "request properties",
                [("properties", (r.properties.logSafe g.isSensitive).text)])] ++
            (t.omissions r.context).map Event.omissionLine ++
            (match (g.generate operation r.context).outcome with
            | .ok message =>
                [(.debug, "Message generated successfully",
                  [("bytes", toString message.utf8ByteSize)])]
            | .error _ => []) ∧
        (buildFrom r.context t).events = (applyFields r.context [] t.fields).events := by
  refine ⟨fun e he => ?_, fun version hversion => ⟨fun hget => ?_, fun t hget => ?_⟩⟩
  · exact generate_of_error (templateFor_of_resolveVersion_error he)
  · exact generate_of_error (templateFor_of_get?_eq_none hversion hget)
  · have htemplate := templateFor_of_get?_eq_some hversion hget
    obtain ⟨-, rfl⟩ :=
      Registry.sameKey_of_get? (t := ⟨operation, version, [], []⟩) hget
    have hevents := generate_events htemplate r.description_ne_null
    refine ⟨hevents, ?_, buildFrom_events r.context t⟩
    rw [hevents]
    have hline : (fun o => (Event.ofOmission o).line) = Event.omissionLine :=
      funext Event.line_ofOmission
    simp only [List.map_append, List.map_map, Function.comp_def, hline]
    cases (g.generate operation r.context).outcome <;> rfl

end Generator

/-- A template with fields of all kinds, one of them behind a required one. -/
def Template.traced : Template where
  operation := .heal
  version := "1"
  fields := [.container "p" .mapping, .optional "o" none, .optional "l" (some .lifecycleName),
    .optional "d" (some .description), .required "r" none,
    .optional "q" (some (.property "p.q"))]
  prefixes := ["p."]

/-- A generator with this template, for which one key is sensitive. -/
def Generator.traced : Generator where
  registry := Registry.empty.insert .traced
  config := { Config.standard with defaultVersion := "1" }
  isSensitive := fun key => key = "r"

/-- Fields behind a missing required one leave no line, and neither does a property that cannot be
folded in.  Without a template there is no event. -/
theorem Generator.generate_log_traced :
    (traced.generate .heal (Request.ofProperties (.ofPairs [("o", .null)])).context).events.map
        Event.line =
      [(.debug, "Generating HealVnfRequest message for ETSI SOL003 v1", []),
        (.debug, "request properties", [("properties", "\x7b\"o\":null\x7d")]),
        (.trace, "optional field omitted", [("field", "o"), ("source_key", "o")]),
        (.trace, "optional field omitted", [("field", "l")]),
        (.trace, "optional field omitted", [("field", "d")])] ∧
    (traced.generate .heal (Request.ofProperties
        (.ofPairs [("r", .str "é"), ("description", .bool true)])).context).events.map Event.line =
      [(.debug, "Generating HealVnfRequest message for ETSI SOL003 v1", []),
        (.debug, "request properties",
          [("properties", "\x7b\"r\":\"######\",\"description\":true\x7d")]),
        (.trace, "optional field omitted", [("field", "o"), ("source_key", "o")]),
        (.trace, "optional field omitted", [("field", "l")]),
        (.trace, "optional field omitted", [("field", "q"), ("source_key", "p.q")]),
        (.debug, "Message generated successfully", [("bytes", "26")])] ∧
    (traced.generate .heal (Request.ofProperties
        (.ofPairs [("r", .null), ("r", .bool true), ("p.", .null)])).context).events =
      [.generating .heal "1",
        .requestProperties (.obj [("r", .str "######"), ("p.", .null)]),
        .omitted "o" (some "o"), .omitted "l" none, .omitted "d" none,
        .omitted "q" (some "p.q")] ∧
    traced.generate .heal (Request.ofProperties
        (.ofPairs [("interfaceVersion", .bool true)])).context =
      ⟨[], .error (.unsupportedValueType "interfaceVersion" .scalar)⟩ ∧
    traced.generate .heal (Request.ofProperties
        (.ofPairs [("interfaceVersion", .str "2")])).context =
      ⟨[], .error (.unknownTemplate "HealVnfRequest" "2")⟩ := by
  refine ⟨?_, ?_, ?_, ?_, ?_⟩
  · exact (((generate_log traced .heal _).2 "1" rfl).2 .traced rfl).2.1.trans (by decide +kernel)
  · exact (((generate_log traced .heal _).2 "1" rfl).2 .traced rfl).2.1.trans (by decide +kernel)
  · exact (((generate_log traced .heal _).2 "1" rfl).2 .traced rfl).1.trans (by decide +kernel)
  · exact (generate_log traced .heal _).1 _ rfl
  · exact ((generate_log traced .heal _).2 "2" rfl).1 rfl

end VnfPayload
