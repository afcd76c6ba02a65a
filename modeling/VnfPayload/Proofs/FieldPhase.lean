import VnfPayload.Proofs.BuiltDocument
import VnfPayload.Proofs.Entries
import VnfPayload.Proofs.Provenance
import VnfPayload.Proofs.ValidTemplate

/-!
# The field rules of a message

The field rules insert one entry after the other into the empty document: a container rule an
empty container, a copied field the value of its source.  `FieldRule.entry?` says which entry
a rule stands for, and `Generator.applyFields_eq_ok` that a run of rules that succeeds has
inserted the entries of the rules, and no others.

A context may have a null for its description, and it is copied as it is: `Context.PassesNull`.
The entries of the rules are about contexts whose description is no null: then what is copied
is never null.

`Generator.buildDocument_eq_ok` sums up the building of a document: the entries of
the field rules, and then the properties that match the template, all of them folded in.
-/

namespace VnfPayload

/-- The value of a source, which may be null. -/
def Context.value? (ctx : Context) : FieldSource → Option PropertyValue
  | .property key => ctx.properties.get? key
  | .lifecycleName => ctx.lifecycleName.map .str
  | .description => ctx.description

/-- The value of a source, where null counts as absent. -/
def Context.nonNull? (ctx : Context) (source : FieldSource) : Option PropertyValue :=
  (ctx.value? source).filter fun v => !v.isNull

theorem Context.nonNull?_eq_some_iff (ctx : Context) (source : FieldSource)
    (v : PropertyValue) :
    ctx.nonNull? source = some v ↔ ctx.value? source = some v ∧ v ≠ .null := by
  rw [nonNull?, Option.filter_eq_some_iff]
  cases v <;> simp [PropertyValue.isNull]

/-- The source is a description that is null.  Only there is a null read as a value. -/
def Context.PassesNull (ctx : Context) (source : FieldSource) : Prop :=
  source = .description ∧ ctx.description = some .null

instance (ctx : Context) (source : FieldSource) : Decidable (ctx.PassesNull source) :=
  inferInstanceAs (Decidable (_ ∧ _))

namespace FieldRule

/-- The entry that a rule makes, if it makes one. -/
def entry? (ctx : Context) : FieldRule → Option (String × Json)
  | .container name kind => some (name, kind.empty)
  | .optional name source =>
      (ctx.nonNull? (sourceOf name source)).map fun v => (name, v.toJson)
  | .required name source =>
      (ctx.nonNull? (sourceOf name source)).map fun v => (name, v.toJson)

/-- Whether the field stands in a message: only an optional field may be left out, if its
source has no value but null. -/
def isPresent (ctx : Context) : FieldRule → Bool
  | .container .. => true
  | .optional name source => (ctx.nonNull? (sourceOf name source)).isSome
  | .required .. => true

/-- The entry of a copied field is that of its source. -/
theorem entry?_of_source? {ctx : Context} {field : FieldRule} {source : FieldSource}
    (h : field.source? = some source) :
    field.entry? ctx = (ctx.nonNull? source).map fun v => (field.name, v.toJson) := by
  cases field with
  | container name kind =>
      cases h
  | optional name source' =>
      cases h
      rfl
  | required name source' =>
      cases h
      rfl

/-- An entry is that of an empty container or of a copied value that is not null. -/
theorem entry?_cases {ctx : Context} {field : FieldRule} {k : String} {x : Json}
    (h : field.entry? ctx = some (k, x)) :
    field.name = k ∧
      ((∃ kind, field = .container k kind ∧ x = kind.empty) ∨
        ∃ source v, field.source? = some source ∧ ctx.value? source = some v ∧ v ≠ .null ∧
          x = v.toJson) := by
  cases hsource : field.source? with
  | none =>
      cases field with
      | container name kind =>
          cases h
          exact ⟨rfl, Or.inl ⟨kind, rfl, rfl⟩⟩
      | optional name source =>
          cases hsource
      | required name source =>
          cases hsource
  | some source =>
      rw [entry?_of_source? hsource] at h
      obtain ⟨v, hv, heq⟩ := Option.map_eq_some_iff.mp h
      cases heq
      obtain ⟨hvalue, hne⟩ := (ctx.nonNull?_eq_some_iff source v).mp hv
      exact ⟨rfl, Or.inr ⟨source, v, rfl, hvalue, hne, rfl⟩⟩

/-- A copied field whose source has a value makes an entry of it. -/
theorem entry?_of_value? {ctx : Context} {field : FieldRule} {source : FieldSource}
    {v : PropertyValue} (hsource : field.source? = some source)
    (hvalue : ctx.value? source = some v) (hv : v ≠ .null) :
    field.entry? ctx = some (field.name, v.toJson) := by
  rw [entry?_of_source? hsource, (ctx.nonNull?_eq_some_iff source v).mpr ⟨hvalue, hv⟩]
  rfl

/-- The field is required, and nothing can be read from its source. -/
def IsUnmet (ctx : Context) : FieldRule → Prop
  | .required name source =>
      ctx.nonNull? (sourceOf name source) = none ∧ ¬ ctx.PassesNull (sourceOf name source)
  | _ => False

/-- A copied field that stands in a message and is met has a value to copy. -/
theorem exists_value_of_isPresent {ctx : Context} {field : FieldRule} {source : FieldSource}
    (hdescription : ctx.description ≠ some .null) (hsource : field.source? = some source)
    (hpresent : field.isPresent ctx = true) (hmet : ¬ field.IsUnmet ctx) :
    ∃ v, ctx.value? source = some v ∧ v ≠ .null := by
  have hvalue : (ctx.nonNull? source).isSome := by
    cases field with
    | container name kind =>
        cases hsource
    | optional name source' =>
        cases hsource
        exact hpresent
    | required name source' =>
        cases hsource
        refine Option.isSome_iff_ne_none.mpr fun hnone => hmet ⟨hnone, ?_⟩
        exact fun hnull => hdescription hnull.2
  obtain ⟨v, hv⟩ := Option.isSome_iff_exists.mp hvalue
  exact ⟨v, (ctx.nonNull?_eq_some_iff source v).mp hv⟩

end FieldRule

namespace Template

/-- The names of the fields that stand in a message, in order of declaration. -/
def presentNames (t : Template) (ctx : Context) : List String :=
  (t.fields.filter fun field => field.isPresent ctx).map FieldRule.name

/-- The entries that the fields make, in order of declaration. -/
def fieldEntries (t : Template) (ctx : Context) : Entries Json :=
  t.fields.filterMap fun field => field.entry? ctx

end Template

namespace Generator

variable {ctx : Context} {doc after : Document}

/-- Nothing but the description can be a null that is read. -/
theorem readSource_of_not_passesNull {source : FieldSource} (h : ¬ ctx.PassesNull source) :
    readSource ctx source = (ctx.nonNull? source).map PropertyValue.toJson := by
  cases source with
  | property key =>
      rfl
  | lifecycleName =>
      rw [readSource, Context.nonNull?, Context.value?]
      cases ctx.lifecycleName <;> rfl
  | description =>
      rw [readSource, Context.nonNull?, Context.value?]
      cases hdescription : ctx.description with
      | none =>
          rfl
      | some v =>
          cases v with
          | null =>
              exact absurd ⟨rfl, hdescription⟩ h
          | _ =>
              rfl

theorem readSource_eq (h : ctx.description ≠ some .null) (source : FieldSource) :
    readSource ctx source = (ctx.nonNull? source).map PropertyValue.toJson :=
  readSource_of_not_passesNull fun hnull => h hnull.2

theorem readSource_eq_none_iff (source : FieldSource) :
    readSource ctx source = none ↔ ctx.nonNull? source = none ∧ ¬ ctx.PassesNull source := by
  by_cases hnull : ctx.PassesNull source
  · obtain ⟨rfl, hdescription⟩ := hnull
    simp [readSource, hdescription, Context.PassesNull]
  · simp [readSource_of_not_passesNull hnull, hnull]

/-- Only an unmet field fails, and the error names it and its source. -/
theorem applyField_eq_error_iff {field : FieldRule} {e : Error} :
    (applyField ctx doc field).outcome = .error e ↔
      field.IsUnmet ctx ∧ ∃ name source, field = .required name source ∧
        e = .missingRequiredField name (FieldRule.sourceOf name source).label := by
  cases field with
  | container name kind =>
      simp [applyField, FieldRule.IsUnmet, Run.pure, Run.ofExcept]
  | optional name source =>
      rw [applyField]
      cases readSource ctx (FieldRule.sourceOf name source) <;>
        simp [FieldRule.IsUnmet, Run.pure, Run.ofExcept]
  | required name source =>
      rw [applyField, FieldRule.IsUnmet, ← readSource_eq_none_iff]
      cases readSource ctx (FieldRule.sourceOf name source) with
      | none =>
          simp [Run.ofExcept, eq_comm]
      | some x =>
          simp [Run.pure, Run.ofExcept]

theorem not_isUnmet_of_applyField {field : FieldRule}
    (h : (applyField ctx doc field).outcome = .ok after) :
    ¬ field.IsUnmet ctx := by
  intro hunmet
  cases field with
  | required name source =>
      rw [applyField_eq_error_iff.mpr ⟨hunmet, name, source, rfl, rfl⟩] at h
      cases h
  | _ =>
      exact hunmet

/-- **Why a run of rules fails**: the first unmet field ends it. -/
theorem applyFields_eq_error_iff {fields : List FieldRule} {e : Error} :
    (applyFields ctx doc fields).outcome = .error e ↔
      ∃ before name source rest, fields = before ++ .required name source :: rest ∧
        (∀ field ∈ before, ¬ field.IsUnmet ctx) ∧
        (FieldRule.required name source).IsUnmet ctx ∧
        e = .missingRequiredField name (FieldRule.sourceOf name source).label := by
  induction fields generalizing doc with
  | nil =>
      constructor
      · intro h
        cases h
      · rintro ⟨before, name, source, rest, hfields, -⟩
        simp at hfields
  | cons field fields ih =>
      rw [applyFields, Run.bind_outcome_eq_error_iff]
      constructor
      · rintro (hfield | ⟨between, hfield, hfields⟩)
        · obtain ⟨hunmet, name, source, rfl, he⟩ := applyField_eq_error_iff.mp hfield
          exact ⟨[], name, source, fields, rfl, by simp, hunmet, he⟩
        · obtain ⟨before, name, source, rest, rfl, hbefore, hunmet, he⟩ := ih.mp hfields
          refine ⟨field :: before, name, source, rest, rfl, ?_, hunmet, he⟩
          exact List.forall_mem_cons.mpr ⟨not_isUnmet_of_applyField hfield, hbefore⟩
      · rintro ⟨before, name, source, rest, hfields, hbefore, hunmet, he⟩
        cases before with
        | nil =>
            cases hfields
            exact Or.inl (applyField_eq_error_iff.mpr ⟨hunmet, name, source, rfl, he⟩)
        | cons first before =>
            obtain ⟨rfl, rfl⟩ := List.cons.inj hfields
            obtain ⟨hfirst, hbefore⟩ := List.forall_mem_cons.mp hbefore
            cases hfield : (applyField ctx doc field).outcome with
            | error e' =>
                exact absurd (applyField_eq_error_iff.mp hfield).1 hfirst
            | ok between =>
                refine Or.inr ⟨between, rfl, ih.mpr ?_⟩
                exact ⟨before, name, source, rest, rfl, hbefore, hunmet, he⟩

/-- A run of rules that succeeds has met no unmet field. -/
theorem not_isUnmet_of_applyFields {fields : List FieldRule}
    (h : (applyFields ctx doc fields).outcome = .ok after) :
    ∀ field ∈ fields, ¬ field.IsUnmet ctx := by
  induction fields generalizing doc with
  | nil =>
      simp
  | cons field fields ih =>
      obtain ⟨between, hfield, hfields⟩ := (Run.bind_outcome_eq_ok_iff _ _ _).mp h
      exact List.forall_mem_cons.mpr ⟨not_isUnmet_of_applyField hfield, ih hfields⟩

/-- Inserts an entry, if there is one. -/
def insertEntry (doc : Document) (entry : Option (String × Json)) : Document :=
  entry.elim doc fun e => Entries.insert doc e.1 e.2

/-- A rule that succeeds has inserted its entry, and it had one if the field is present. -/
theorem applyField_eq_ok (hdescription : ctx.description ≠ some .null) {field : FieldRule}
    (h : (applyField ctx doc field).outcome = .ok after) :
    after = insertEntry doc (field.entry? ctx) ∧
      (field.entry? ctx).map Prod.fst =
        if field.isPresent ctx then some field.name else none := by
  cases field with
  | container name kind =>
      cases h
      exact ⟨rfl, rfl⟩
  | optional name source =>
      simp only [applyField, readSource_eq hdescription] at h
      cases hv : ctx.nonNull? (FieldRule.sourceOf name source) with
      | none =>
          rw [hv] at h
          cases h
          simp [insertEntry, FieldRule.entry?, FieldRule.isPresent, hv]
      | some v =>
          rw [hv] at h
          cases h
          simp [insertEntry, FieldRule.entry?, FieldRule.isPresent, FieldRule.name, hv]
  | required name source =>
      simp only [applyField, readSource_eq hdescription] at h
      cases hv : ctx.nonNull? (FieldRule.sourceOf name source) with
      | none =>
          rw [hv] at h
          cases h
      | some v =>
          rw [hv] at h
          cases h
          simp [insertEntry, FieldRule.entry?, FieldRule.isPresent, FieldRule.name, hv]

/-- A run of rules that succeeds has inserted their entries, one for each field that is
present. -/
theorem applyFields_eq_ok (hdescription : ctx.description ≠ some .null)
    {fields : List FieldRule} (h : (applyFields ctx doc fields).outcome = .ok after) :
    after = (fields.filterMap fun field => field.entry? ctx).foldl
        (fun es p => Entries.insert es p.1 p.2) doc ∧
      Entries.keys (fields.filterMap fun field => field.entry? ctx) =
        (fields.filter fun field => field.isPresent ctx).map FieldRule.name := by
  induction fields generalizing doc with
  | nil =>
      cases h
      exact ⟨rfl, rfl⟩
  | cons field fields ih =>
      obtain ⟨between, hfield, hfields⟩ := (Run.bind_outcome_eq_ok_iff _ _ _).mp h
      obtain ⟨hbetween, hname⟩ := applyField_eq_ok hdescription hfield
      obtain ⟨hafter, hkeys⟩ := ih hfields
      cases hentry : field.entry? ctx with
      | none =>
          have hpresent : field.isPresent ctx = false := by
            simpa [hentry] using hname
          have hsame : between = doc := by
            simpa [hentry, insertEntry] using hbetween
          rw [List.filterMap_cons_none hentry, List.filter_cons_of_neg (by simp [hpresent])]
          exact ⟨hsame ▸ hafter, hkeys⟩
      | some e =>
          have hpresent : field.isPresent ctx = true ∧ e.1 = field.name := by
            by_cases hp : field.isPresent ctx
            · simpa [hentry, hp] using hname
            · simp [hentry, hp] at hname
          have hinsert : between = Entries.insert doc e.1 e.2 := by
            simpa [hentry, insertEntry] using hbetween
          rw [List.filterMap_cons_some hentry, List.filter_cons_of_pos hpresent.1]
          rw [hinsert] at hafter
          refine ⟨hafter, ?_⟩
          rw [Entries.keys, List.map_cons, List.map_cons, hpresent.2]
          exact congrArg _ hkeys

theorem foldIn_eq_ok_iff (doc after : Document) (properties : List (String × PropertyValue)) :
    foldIn doc properties = .ok after ↔
      Document.placeAll? (.obj doc) properties = some (.obj after) := by
  rw [← Document.materializeAll_eq_ok_iff, foldIn]
  split
  next found hrun =>
    simp [hrun]
  next found e hrun =>
    simp [hrun]

/-- No field of a template whose document is built is unmet. -/
theorem not_isUnmet_of_buildDocument {g : Generator} {operation : Operation} {t : Template}
    (htemplate : g.templateFor operation ctx = .ok t)
    (h : (g.buildDocument operation ctx).outcome = .ok doc) :
    ∀ field ∈ t.fields, ¬ field.IsUnmet ctx := by
  rw [buildDocument_outcome htemplate] at h
  obtain ⟨filled, hfields, -⟩ := (Run.bind_outcome_eq_ok_iff _ _ _).mp h
  exact not_isUnmet_of_applyFields hfields

/-- **How a document is built**: the entries of the fields, and then the properties that match
the template. -/
theorem buildDocument_eq_ok {g : Generator} {operation : Operation}
    {t : Template} (htemplate : g.templateFor operation ctx = .ok t)
    (hdescription : ctx.description ≠ some .null)
    (h : (g.buildDocument operation ctx).outcome = .ok doc) :
    Entries.keys (t.fieldEntries ctx) = t.presentNames ctx ∧
      Document.placeAll? (.obj (Entries.ofPairs (t.fieldEntries ctx))) (t.matched ctx.properties) =
        some (.obj doc) := by
  rw [buildDocument_outcome htemplate] at h
  obtain ⟨filled, hfields, hfold⟩ := (Run.bind_outcome_eq_ok_iff _ _ _).mp h
  obtain ⟨hfilled, hkeys⟩ := applyFields_eq_ok hdescription hfields
  refine ⟨hkeys, ?_⟩
  have hfold' : foldIn filled (ctx.properties.withPrefixes t.prefixes) = .ok doc := hfold
  rw [foldIn_eq_ok_iff, Template.withPrefixes_eq_matched, hfilled] at hfold'
  exact hfold'

end Generator

end VnfPayload
