import VnfPayload.Proofs.BuiltDocument
import VnfPayload.Proofs.Entries

/-!
# What a message depends on

A generator reads the version property, and then only what the template asks for: the
properties that its field rules name, the description if a rule reads it, and the properties
with one of its prefixes.  `Template.SameFor` says that two property sets do not differ in
what a template reads; then the template does the same for both, down to the events
(`Generator.buildFrom_congr`).

All other properties have no influence on a message, wherever they stand among the ones that
count, and neither has any system property: `Generator.generate_relevant`.  In its second part
the properties that count are the same, in the same order, and there may be others anywhere.
-/

namespace VnfPayload

namespace FieldRule

/-- The keys of the properties that the value of a field may come from. -/
def sourceKeys (field : FieldRule) : List String :=
  match field.source? with
  | some (.property key) => [key]
  | some .description => ["description", "vnfInstanceDescription"]
  | _ => []

end FieldRule

namespace Template

/-- The two sets do not differ in what the template reads of them.  A null counts as absent
where a field rule reads it. -/
structure SameFor (t : Template) (s s' : PropertySet) : Prop where
  /-- The properties that field rules name. -/
  property : ∀ field ∈ t.fields, ∀ key, field.source? = some (.property key) →
    s.getNonNull? key = s'.getNonNull? key
  /-- The description, if there is a rule that reads it. -/
  description : ∀ field ∈ t.fields, field.source? = some .description →
    s.description = s'.description
  /-- The properties that are folded in. -/
  matched : s.withPrefixes t.prefixes = s'.withPrefixes t.prefixes

/-- Whether the template reads a property of the key. -/
def reads (t : Template) (key : String) : Bool :=
  t.fields.any (fun field => key ∈ field.sourceKeys) ||
    PropertySet.startsWithAny key t.prefixes

variable {t : Template} {s s' : PropertySet} {counts : String → Bool}

theorem getNonNull?_of_filter
    (h : s.entries.filter (fun e => counts e.1) = s'.entries.filter fun e => counts e.1)
    {key : String} (hkey : counts key = true) :
    s.getNonNull? key = s'.getNonNull? key := by
  have hget := Entries.get?_filter hkey s.entries
  rw [h, Entries.get?_filter hkey] at hget
  rw [PropertySet.getNonNull?, PropertySet.getNonNull?, PropertySet.get?, PropertySet.get?, hget]

theorem reads_of_mem_sourceKeys {field : FieldRule} {key : String} (hfield : field ∈ t.fields)
    (hkey : key ∈ field.sourceKeys) :
    t.reads key = true := by
  have hany : t.fields.any (fun field => decide (key ∈ field.sourceKeys)) = true :=
    List.any_eq_true.mpr ⟨field, hfield, decide_eq_true hkey⟩
  rw [reads, hany, Bool.true_or]

/-- Sets with the same properties among those that the template reads, in the same order. -/
theorem sameFor_of_filter (hreads : ∀ key, t.reads key = true → counts key = true)
    (h : s.entries.filter (fun e => counts e.1) = s'.entries.filter fun e => counts e.1) :
    t.SameFor s s' where
  property := by
    intro field hfield key hsource
    refine getNonNull?_of_filter h (hreads key (reads_of_mem_sourceKeys hfield ?_))
    simp [FieldRule.sourceKeys, hsource]
  description := by
    intro field hfield hsource
    have hsame : ∀ key ∈ field.sourceKeys, s.getNonNull? key = s'.getNonNull? key :=
      fun key hkey => getNonNull?_of_filter h (hreads key (reads_of_mem_sourceKeys hfield hkey))
    rw [PropertySet.description, PropertySet.description,
      hsame "description" (by simp [FieldRule.sourceKeys, hsource]),
      hsame "vnfInstanceDescription" (by simp [FieldRule.sourceKeys, hsource])]
  matched := by
    have hnarrow : ∀ set : PropertySet,
        set.withPrefixes t.prefixes =
          (set.entries.filter fun e => counts e.1).filter
            fun e => PropertySet.startsWithAny e.1 t.prefixes := by
      intro set
      rw [List.filter_filter]
      refine List.filter_congr fun e _ => ?_
      cases hprefix : PropertySet.startsWithAny e.1 t.prefixes with
      | false =>
          rfl
      | true =>
          have hcounts : counts e.1 = true := hreads e.1 (by simp [reads, hprefix])
          simp [hcounts]
    rw [hnarrow s, hnarrow s', h]

end Template

namespace Generator

variable {ctx ctx' : Context} {t : Template} {g : Generator} {operation : Operation}
  {r r' : Request}

/-- A field rule reads nothing of the context but its source. -/
theorem applyField_congr {field : FieldRule}
    (h : ∀ source, field.source? = some source → readSource ctx source = readSource ctx' source)
    (doc : Document) :
    applyField ctx doc field = applyField ctx' doc field := by
  cases field with
  | container name kind =>
      rfl
  | optional name source =>
      simp only [applyField, h _ rfl]
  | required name source =>
      simp only [applyField, h _ rfl]

theorem applyFields_congr {fields : List FieldRule}
    (h : ∀ field ∈ fields, ∀ source, field.source? = some source →
      readSource ctx source = readSource ctx' source)
    (doc : Document) :
    applyFields ctx doc fields = applyFields ctx' doc fields := by
  induction fields generalizing doc with
  | nil =>
      rfl
  | cons field fields ih =>
      rw [applyFields, applyFields, applyField_congr (h field List.mem_cons_self)]
      congr 1
      funext between
      exact ih (fun field hfield => h field (List.mem_cons_of_mem _ hfield)) between

/-- A template does the same for requests that do not differ in what it reads. -/
theorem buildFrom_congr (hname : r.lifecycleName = r'.lifecycleName)
    (h : t.SameFor r.properties r'.properties) :
    buildFrom r.context t = buildFrom r'.context t := by
  have hfields : ∀ field ∈ t.fields, ∀ source, field.source? = some source →
      readSource r.context source = readSource r'.context source := by
    intro field hfield source hsource
    cases source with
    | property key =>
        simp only [readSource, Request.context, h.property field hfield key hsource]
    | lifecycleName =>
        simp only [readSource, Request.context, hname]
    | description =>
        simp only [readSource, Request.context, h.description field hfield hsource]
  have hmatched : r.context.properties.withPrefixes t.prefixes =
      r'.context.properties.withPrefixes t.prefixes := h.matched
  rw [buildFrom, buildFrom, applyFields_congr hfields, hmatched]

theorem generate_outcome_congr
    (hversion : r.properties.getNonNull? g.config.versionKey =
      r'.properties.getNonNull? g.config.versionKey)
    (hbuild : ∀ t, g.templateFor operation r.context = .ok t →
      buildFrom r.context t = buildFrom r'.context t) :
    (g.generate operation r.context).outcome = (g.generate operation r'.context).outcome := by
  have htemplate : g.templateFor operation r.context = g.templateFor operation r'.context :=
    templateFor_congr hversion
  have hdoc : (g.buildDocument operation r.context).outcome =
      (g.buildDocument operation r'.context).outcome := by
    cases h : g.templateFor operation r.context with
    | error e =>
        rw [buildDocument_of_error h, buildDocument_of_error (htemplate ▸ h)]
    | ok t =>
        rw [buildDocument_outcome h, buildDocument_outcome (htemplate ▸ h), hbuild t h]
  rw [generate, generate, Run.bind_outcome, Run.bind_outcome, hdoc]

/-- Whether a property of the key can have an influence on the message of a request. -/
def counts (g : Generator) (operation : Operation) (r : Request) (key : String) : Bool :=
  key == g.config.versionKey ||
    match g.templateFor operation r.context with
    | .ok t => t.reads key
    | .error _ => false

/-- **Only what is read has an influence**: requests that agree on it end with the same message or
the same error, whatever other properties and system properties they have. -/
theorem generate_relevant :
    (∀ (g : Generator) (operation : Operation) (r r' : Request),
      r.lifecycleName = r'.lifecycleName →
      r.properties.getNonNull? g.config.versionKey =
        r'.properties.getNonNull? g.config.versionKey →
      (∀ t, g.templateFor operation r.context = .ok t →
        t.SameFor r.properties r'.properties) →
      (g.generate operation r.context).outcome = (g.generate operation r'.context).outcome)
      ∧
    (∀ (g : Generator) (operation : Operation) (r r' : Request),
      r.lifecycleName = r'.lifecycleName →
      (r.properties.entries.filter fun e => g.counts operation r e.1) =
        (r'.properties.entries.filter fun e => g.counts operation r e.1) →
      (g.generate operation r.context).outcome =
        (g.generate operation r'.context).outcome) := by
  constructor
  · intro g operation r r' hname hversion hsame
    exact generate_outcome_congr hversion fun t h => buildFrom_congr hname (hsame t h)
  · intro g operation r r' hname hfilter
    have hversion : g.counts operation r g.config.versionKey = true := by
      simp [counts]
    refine generate_outcome_congr (Template.getNonNull?_of_filter hfilter hversion) fun t h => ?_
    refine buildFrom_congr hname (Template.sameFor_of_filter (fun key hreads => ?_) hfilter)
    simp [counts, h, hreads]

end Generator

/-- A request with a description, a version that is null, and a property that nothing reads. -/
def Request.described : Request where
  lifecycleName := some "Create"
  properties := .ofPairs [("interfaceVersion", .null), ("description", .str "D"),
    ("additionalParams.x.1", .bool true), ("cause", .str "none"), ("vnfdId", .str "v1")]
  systemProperties := .empty

/-- The same to the template: the description is that of the instance, and a null is given for
an optional field.  The properties stand in another order. -/
def Request.describedOtherwise : Request where
  lifecycleName := some "Create"
  properties := .ofPairs [("vnfdId", .str "v1"), ("vnfInstanceName", .null),
    ("additionalParams.x.1", .bool true), ("vnfInstanceDescription", .str "D")]
  systemProperties := .ofPairs [("interfaceVersion", .str "3.5.1")]

/-- The properties that count in their order, between others that do not. -/
def Request.describedAmongOthers : Request where
  lifecycleName := some "Create"
  properties := .ofPairs [("cause", .bool false), ("interfaceVersion", .null),
    ("extensions.k", .null), ("description", .str "D"), ("additionalParams.x.1", .bool true),
    ("vnfdId", .str "v1"), ("additionalParams", .str "no prefix")]
  systemProperties := .ofPairs [("vnfdId", .str "v2")]

/-- Three requests with one message. -/
theorem Generator.generate_relevant_described :
    (standard.buildDocument .create Request.described.context).outcome =
        .ok [("vnfdId", .str "v1"), ("vnfInstanceDescription", .str "D"),
          ("additionalParams", .obj [("x", .arr [.null, .bool true])])] ∧
      (standard.generate .create Request.described.context).outcome =
        (standard.generate .create Request.describedOtherwise.context).outcome ∧
      (standard.generate .create Request.described.context).outcome =
        (standard.generate .create Request.describedAmongOthers.context).outcome := by
  have htemplate : standard.templateFor .create Request.described.context =
      .ok ⟨.create, Registry.version2, [Registry.required "vnfdId",
        Registry.optional "vnfInstanceName",
        .optional "vnfInstanceDescription" (some .description),
        Registry.mapping "additionalParams"], Registry.parameterPrefixes⟩ := rfl
  refine ⟨rfl, ?_, ?_⟩
  · refine generate_relevant.1 _ _ _ _ rfl rfl fun t ht => ?_
    obtain rfl := Except.ok.inj (htemplate.symm.trans ht)
    have hread : Request.described.properties.getNonNull? "vnfdId" =
          Request.describedOtherwise.properties.getNonNull? "vnfdId" ∧
        Request.described.properties.getNonNull? "vnfInstanceName" =
          Request.describedOtherwise.properties.getNonNull? "vnfInstanceName" := ⟨rfl, rfl⟩
    refine ⟨?_, fun _ _ _ => rfl, rfl⟩
    simpa [FieldRule.source?, FieldRule.sourceOf, Registry.required, Registry.optional,
      Registry.mapping] using hread
  · exact generate_relevant.2 _ _ _ _ rfl rfl

end VnfPayload
