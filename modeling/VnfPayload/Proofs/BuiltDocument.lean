import VnfPayload.Generator
import VnfPayload.Proofs.WellFormed

/-!
# The document of a message

A run that gives a value gave one at each of its steps.  So a document that a generator
builds comes from the empty one by insertions of scalars and of empty containers, and by
folding in properties; no key of it occurs twice.

Main statements:

* `Run.bind_outcome_eq_ok_iff` takes a run apart that gave a value;
* `Generator.wellFormed_of_buildDocument` says that documents have no repeated keys;
* `Generator.generate_outcome_eq_ok_iff` says that a message is a document written.
-/

namespace VnfPayload

namespace Run

variable {α β : Type}

theorem bind_outcome (r : Run α) (f : α → Run β) :
    (r >>= f).outcome = r.outcome >>= fun a => (f a).outcome := by
  obtain ⟨events, outcome⟩ := r
  cases outcome <;> rfl

/-- A run gives a value if each of its two parts does. -/
theorem bind_outcome_eq_ok_iff (r : Run α) (f : α → Run β) (b : β) :
    (r >>= f).outcome = .ok b ↔
      ∃ a, r.outcome = .ok a ∧ (f a).outcome = .ok b := by
  obtain ⟨events, outcome⟩ := r
  cases outcome with
  | ok a =>
      constructor
      · intro h
        exact ⟨a, rfl, h⟩
      · rintro ⟨a', ha, hb⟩
        cases ha
        exact hb
  | error e =>
      constructor
      · intro h
        cases h
      · rintro ⟨a, ha, -⟩
        cases ha

/-- A run ends with an error if its first part does, or if the second part does after it. -/
theorem bind_outcome_eq_error_iff (r : Run α) (f : α → Run β) (e : Error) :
    (r >>= f).outcome = .error e ↔
      r.outcome = .error e ∨ ∃ a, r.outcome = .ok a ∧ (f a).outcome = .error e := by
  obtain ⟨events, outcome⟩ := r
  cases outcome with
  | ok a =>
      constructor
      · intro h
        exact Or.inr ⟨a, rfl, h⟩
      · rintro (h | ⟨a', ha, he⟩)
        · cases h
        · cases ha
          exact he
  | error e' =>
      constructor
      · intro h
        cases h
        exact Or.inl rfl
      · rintro (h | ⟨a, ha, -⟩)
        · cases h
          rfl
        · cases ha

end Run

namespace Generator

variable {g : Generator} {operation : Operation} {ctx : Context} {doc after : Document}

/-- The value that a source has is a scalar. -/
theorem wellFormed_of_readSource {source : FieldSource} {value : Json}
    (h : readSource ctx source = some value) :
    value.WellFormed := by
  cases source with
  | property key =>
      obtain ⟨v, -, rfl⟩ := Option.map_eq_some_iff.mp h
      exact Json.wellFormed_toJson v
  | lifecycleName =>
      obtain ⟨name, -, rfl⟩ := Option.map_eq_some_iff.mp h
      trivial
  | description =>
      obtain ⟨v, -, rfl⟩ := Option.map_eq_some_iff.mp h
      exact Json.wellFormed_toJson v

/-- A field rule inserts a well-formed value, or leaves the document as it is. -/
theorem wellFormed_of_applyField {field : FieldRule}
    (hdoc : (Json.obj doc).WellFormed)
    (h : (applyField ctx doc field).outcome = .ok after) :
    (Json.obj after).WellFormed := by
  cases field with
  | container name kind =>
      cases h
      have hempty : kind.empty.WellFormed := by
        cases kind
        · exact ⟨List.nodup_nil, trivial⟩
        · trivial
      exact Json.wellFormed_obj_insert hdoc hempty name
  | optional name source =>
      simp only [applyField] at h
      split at h
      next value hvalue =>
        cases h
        exact Json.wellFormed_obj_insert hdoc (wellFormed_of_readSource hvalue) name
      next =>
        cases h
        exact hdoc
  | required name source =>
      simp only [applyField] at h
      split at h
      next value hvalue =>
        cases h
        exact Json.wellFormed_obj_insert hdoc (wellFormed_of_readSource hvalue) name
      next =>
        cases h

theorem wellFormed_of_applyFields {fields : List FieldRule}
    (hdoc : (Json.obj doc).WellFormed)
    (h : (applyFields ctx doc fields).outcome = .ok after) :
    (Json.obj after).WellFormed := by
  induction fields generalizing doc with
  | nil =>
      cases h
      exact hdoc
  | cons field fields ih =>
      obtain ⟨between, hfield, hfields⟩ := (Run.bind_outcome_eq_ok_iff _ _ _).mp h
      exact ih (wellFormed_of_applyField hdoc hfield) hfields

theorem wellFormed_of_foldIn {properties : List (String × PropertyValue)}
    (hdoc : (Json.obj doc).WellFormed) (h : foldIn doc properties = .ok after) :
    (Json.obj after).WellFormed := by
  unfold foldIn at h
  split at h
  next _ hrun =>
    cases h
    exact Document.wellFormed_placeAll? hdoc
      ((Document.materializeAll_eq_ok_iff _ _ _).mp hrun)
  next =>
    cases h

/-- Nothing happens if there is no template. -/
theorem buildDocument_of_error {e : Error} (h : g.templateFor operation ctx = .error e) :
    g.buildDocument operation ctx = .ofExcept (.error e) := by
  unfold buildDocument
  rw [h]
  rfl

/-- Once the template is found, what comes of the building is up to the template. -/
theorem buildDocument_outcome {t : Template} (h : g.templateFor operation ctx = .ok t) :
    (g.buildDocument operation ctx).outcome = (buildFrom ctx t).outcome := by
  unfold buildDocument
  rw [h]
  rfl

/-! ## The template -/

theorem templateFor_of_resolveVersion_error {e : Error} (h : g.resolveVersion ctx = .error e) :
    g.templateFor operation ctx = .error e := by
  rw [templateFor, h]
  rfl

theorem templateFor_of_get?_eq_none {version : String}
    (hversion : g.resolveVersion ctx = .ok version)
    (hget : g.registry.get? operation version = none) :
    g.templateFor operation ctx = .error (.unknownTemplate operation.messageType version) := by
  simp only [templateFor, hversion, bind, Except.bind, hget]

theorem templateFor_of_get?_eq_some {version : String} {t : Template}
    (hversion : g.resolveVersion ctx = .ok version)
    (hget : g.registry.get? operation version = some t) :
    g.templateFor operation ctx = .ok t := by
  simp only [templateFor, hversion, bind, Except.bind, hget]

/-- The choice of the template depends on the version property alone. -/
theorem templateFor_congr {ctx' : Context}
    (h : ctx.properties.getNonNull? g.config.versionKey =
      ctx'.properties.getNonNull? g.config.versionKey) :
    g.templateFor operation ctx = g.templateFor operation ctx' := by
  rw [templateFor, templateFor, resolveVersion, resolveVersion, h]

/-! ## Generations -/

theorem generate_of_error {e : Error} (h : g.templateFor operation ctx = .error e) :
    g.generate operation ctx = .ofExcept (.error e) := by
  unfold generate
  rw [buildDocument_of_error h]
  rfl

/-- The run of a generation whose template is found: two events, those of the template, and
one more if there is a message. -/
theorem generate_of_template {t : Template} (h : g.templateFor operation ctx = .ok t) :
    g.generate operation ctx =
      ⟨.generating operation t.version ::
          .requestProperties (ctx.properties.logSafe g.isSensitive) ::
          ((buildFrom ctx t).events ++
            match (buildFrom ctx t).outcome with
            | .ok doc => [.generated (g.write doc).utf8ByteSize]
            | .error _ => []),
        (buildFrom ctx t).outcome.map g.write⟩ := by
  have hbuild : g.buildDocument operation ctx =
      ⟨.generating operation t.version ::
          .requestProperties (ctx.properties.logSafe g.isSensitive) :: (buildFrom ctx t).events,
        (buildFrom ctx t).outcome⟩ := by
    unfold buildDocument
    rw [h]
    rfl
  unfold generate
  rw [hbuild]
  cases (buildFrom ctx t).outcome with
  | error e =>
      simp [bind, Run.bind, Except.map]
  | ok doc =>
      rfl

/-- No key of a document that a generator builds occurs twice. -/
theorem wellFormed_of_buildDocument
    (h : (g.buildDocument operation ctx).outcome = .ok doc) :
    (Json.obj doc).WellFormed := by
  have hempty : (Json.obj []).WellFormed := ⟨List.nodup_nil, trivial⟩
  obtain ⟨t, htemplate, -⟩ := (Run.bind_outcome_eq_ok_iff _ _ _).mp h
  rw [buildDocument_outcome htemplate] at h
  obtain ⟨filled, hfields, hfold⟩ := (Run.bind_outcome_eq_ok_iff _ _ _).mp h
  exact wellFormed_of_foldIn (wellFormed_of_applyFields hempty hfields) hfold

/-- A message is the text of the document that is built. -/
theorem generate_outcome_eq_ok_iff (message : String) :
    (g.generate operation ctx).outcome = .ok message ↔
      ∃ doc, (g.buildDocument operation ctx).outcome = .ok doc ∧ g.write doc = message := by
  unfold generate
  rw [Run.bind_outcome_eq_ok_iff]
  constructor
  · rintro ⟨doc, hdoc, h⟩
    cases h
    exact ⟨doc, hdoc, rfl⟩
  · rintro ⟨doc, hdoc, rfl⟩
    exact ⟨doc, hdoc, rfl⟩

end Generator

end VnfPayload
