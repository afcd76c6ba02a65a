import VnfPayload.Proofs.Atomicity
import VnfPayload.Proofs.FieldPhase

/-!
# Why a building fails

The building of a payload ends with the first error of its steps.  `Generator.BuildFailure`
lists the causes that such an error can have, and `buildFailure_of_buildDocument` says that
there are no others.  A property that cannot be folded in is one of those that have a prefix
of the template.
-/

namespace VnfPayload

namespace Generator

variable {g : Generator} {operation : Operation} {ctx : Context} {e : Error}

/-- The causes of an error of `buildDocument`: the version property, a missing template, a
field without a value, or a property that cannot be folded in. -/
inductive BuildFailure (g : Generator) (operation : Operation) (ctx : Context) : Error → Prop
  | version (found : NodeKind) :
      BuildFailure g operation ctx (.unsupportedValueType g.config.versionKey found)
  | template (version : String) :
      BuildFailure g operation ctx (.unknownTemplate operation.messageType version)
  | field (name source : String) :
      BuildFailure g operation ctx (.missingRequiredField name source)
  | property {t : Template} {doc : Document} {path : String} {v : PropertyValue} {e : Error}
      (htemplate : t ∈ g.registry.templates)
      (hmatched : (path, v) ∈ t.matched ctx.properties)
      (herror : (doc.materialize path v).2 = .error e) :
      BuildFailure g operation ctx e

theorem exists_found_of_resolveVersion (h : g.resolveVersion ctx = .error e) :
    ∃ found, e = .unsupportedValueType g.config.versionKey found := by
  unfold resolveVersion at h
  split at h
  · cases h
  · cases h
  · cases h
    exact ⟨_, rfl⟩

theorem buildFailure_of_templateFor (h : g.templateFor operation ctx = .error e) :
    BuildFailure g operation ctx e := by
  cases hversion : g.resolveVersion ctx with
  | error e' =>
      rw [templateFor_of_resolveVersion_error hversion] at h
      cases h
      obtain ⟨found, rfl⟩ := exists_found_of_resolveVersion hversion
      exact .version found
  | ok version =>
      cases hget : g.registry.get? operation version with
      | none =>
          rw [templateFor_of_get?_eq_none hversion hget] at h
          cases h
          exact .template version
      | some t =>
          rw [templateFor_of_get?_eq_some hversion hget] at h
          cases h

theorem mem_templates_of_templateFor {t : Template}
    (h : g.templateFor operation ctx = .ok t) :
    t ∈ g.registry.templates := by
  cases hversion : g.resolveVersion ctx with
  | error e =>
      rw [templateFor_of_resolveVersion_error hversion] at h
      cases h
  | ok version =>
      cases hget : g.registry.get? operation version with
      | none =>
          rw [templateFor_of_get?_eq_none hversion hget] at h
          cases h
      | some u =>
          rw [templateFor_of_get?_eq_some hversion hget] at h
          cases h
          exact List.mem_of_find?_eq_some hget

theorem buildFailure_of_buildDocument
    (h : (g.buildDocument operation ctx).outcome = .error e) :
    BuildFailure g operation ctx e := by
  cases htemplate : g.templateFor operation ctx with
  | error e' =>
      rw [buildDocument_of_error htemplate] at h
      cases h
      exact buildFailure_of_templateFor htemplate
  | ok t =>
      rw [buildDocument_outcome htemplate] at h
      rcases (Run.bind_outcome_eq_error_iff _ _ _).mp h with hfields | ⟨filled, -, hfold⟩
      · obtain ⟨-, name, source, -, -, -, -, rfl⟩ := applyFields_eq_error_iff.mp hfields
        exact .field name _
      · have hall : (filled.materializeAll (t.matched ctx.properties)).2 = .error e := by
          rw [← t.withPrefixes_eq_matched]
          dsimp only [Run.ofExcept] at hfold
          unfold foldIn at hfold
          split at hfold
          · cases hfold
          next _ _ hrun =>
            rw [hrun, Except.error.inj hfold]
        obtain ⟨before, path, v, after, hitems, -, herror⟩ :=
          Document.materializeAll_stops hall
        refine .property (mem_templates_of_templateFor htemplate) ?_ herror
        rw [hitems]
        exact List.mem_append_right _ List.mem_cons_self

end Generator

end VnfPayload
