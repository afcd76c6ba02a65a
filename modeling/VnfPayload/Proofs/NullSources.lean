import VnfPayload.Proofs.MessageShape
import VnfPayload.Proofs.Relevance

/-!
# Sources that are null

A property that is null counts as absent: an optional field is left out of the message, and a
required one ends the building with an error that names the field and its source.  Where the
context passes no null, the rules do not tell a null source from an absent one, not even in the
events that they leave.  A description is copied as it is, though, and so a null reaches the
message where the context has one for its description.

What the field rules leave under the name of a field is what the rule itself put there
(`Generator.get?_of_applyFields`).  The properties that are folded in then write nothing
under the name itself, for their keys have at least two pieces.  They either leave it alone
or make a container of what stands there (`Document.get?_of_placeAll?_of_ne`,
`Document.exists_container_of_placeAll?`).
-/

namespace VnfPayload

namespace Document

variable {items : List (String × PropertyValue)} {es after : Document}

/-- A key that no property starts with keeps its value. -/
theorem get?_of_placeAll?_of_ne (h : placeAll? (.obj es) items = some (.obj after))
    {key : String} (hother : ∀ item ∈ items, Path.take item.1 1 ≠ key) :
    Entries.get? after key = Entries.get? es key := by
  induction items generalizing es with
  | nil =>
      cases h
      rfl
  | cons item items ih =>
      obtain ⟨between, hplace, hrest⟩ := Option.bind_eq_some_iff.mp h
      obtain ⟨k, rest, x, hparse, rfl⟩ := place?_obj_eq_some hplace
      obtain ⟨hitem, hitems⟩ := List.forall_mem_cons.mp hother
      rw [Path.take_one_of_parse hparse] at hitem
      rw [ih hrest hitems, Entries.get?_insert, if_neg hitem]

/-- A container stands where a property key of more than one piece starts. -/
theorem exists_container_of_placeAll? (h : placeAll? (.obj es) items = some (.obj after))
    {item : String × PropertyValue} (hitem : item ∈ items) (hdot : '.' ∈ item.1.toList) :
    ∃ x, ∃ c : ContainerKind,
      Entries.get? after (Path.take item.1 1) = some x ∧ x.kind = c.node := by
  obtain ⟨k, rest, hparse⟩ := exists_parse_of_placeAll? h item hitem
  rw [Path.take_one_of_parse hparse]
  cases rest with
  | nil =>
      exact absurd rfl (Path.ne_singleton_of_parse hparse hdot (.key k))
  | cons s rest =>
      obtain ⟨before, later, rfl⟩ := List.append_of_mem hitem
      rw [placeAll?_append] at h
      obtain ⟨found, -, hplace⟩ := Option.bind_eq_some_iff.mp h
      obtain ⟨target, between, htarget, hassign, hlater⟩ := placeAll?_cons_eq_some hplace
      obtain rfl : .key k :: s :: rest = target := Except.ok.inj (hparse.symm.trans htarget)
      -- The assignment fills a slot of the container, and the later ones keep its kind.
      have habove : Json.assign? item.2 ([.key k] ++ s :: rest) found = some between := hassign
      obtain ⟨-, x, hx⟩ := Json.at?_assign?_above habove
      obtain ⟨y, hy, hkind⟩ := kind_of_placeAll? hlater hx (Json.kind_put s _ x)
      rw [at?_key] at hy
      exact ⟨y, s.container, hy, hkind⟩

end Document

namespace FieldRule

/-- What a rule puts under its name, if it puts anything there. -/
def filling? (ctx : Context) : FieldRule → Option Json
  | .container _ kind => some kind.empty
  | .optional name source => Generator.readSource ctx (sourceOf name source)
  | .required name source => Generator.readSource ctx (sourceOf name source)

theorem filling?_of_source? {ctx : Context} {field : FieldRule} {source : FieldSource}
    (h : field.source? = some source) :
    field.filling? ctx = Generator.readSource ctx source := by
  cases field with
  | container name kind =>
      cases h
  | optional name source' =>
      cases h
      rfl
  | required name source' =>
      cases h
      rfl

end FieldRule

namespace Generator

variable {ctx : Context} {t : Template} {doc after : Document}

/-- Null is read only where the context passes one. -/
theorem readSource_eq_some_null_iff (source : FieldSource) :
    readSource ctx source = some .null ↔ ctx.PassesNull source := by
  constructor
  · intro hread
    by_contra hnull
    rw [readSource_of_not_passesNull hnull] at hread
    obtain ⟨v, hv, hjson⟩ := Option.map_eq_some_iff.mp hread
    have hvnull : v = .null := PropertyValue.toJson_injective hjson
    exact ((ctx.nonNull?_eq_some_iff source v).mp hv).2 hvnull
  · rintro ⟨rfl, hdescription⟩
    rw [readSource, hdescription]
    rfl

/-- A rule writes under its own name only. -/
theorem get?_of_applyField {field : FieldRule}
    (h : (applyField ctx doc field).outcome = .ok after) (key : String) :
    Entries.get? after key =
      if field.name = key then (field.filling? ctx).or (Entries.get? doc key)
      else Entries.get? doc key := by
  cases field with
  | container name kind =>
      cases h
      exact Entries.get?_insert doc name kind.empty key
  | optional name source =>
      rw [FieldRule.filling?]
      rw [applyField] at h
      cases hread : readSource ctx (FieldRule.sourceOf name source) with
      | none =>
          rw [hread] at h
          cases h
          simp
      | some x =>
          rw [hread] at h
          cases h
          exact Entries.get?_insert doc name x key
  | required name source =>
      rw [FieldRule.filling?]
      rw [applyField] at h
      cases hread : readSource ctx (FieldRule.sourceOf name source) with
      | none =>
          rw [hread] at h
          cases h
      | some x =>
          rw [hread] at h
          cases h
          exact Entries.get?_insert doc name x key

theorem get?_of_applyFields_of_notMem {fields : List FieldRule}
    (h : (applyFields ctx doc fields).outcome = .ok after) {key : String}
    (hkey : key ∉ fields.map FieldRule.name) :
    Entries.get? after key = Entries.get? doc key := by
  induction fields generalizing doc with
  | nil =>
      cases h
      rfl
  | cons field fields ih =>
      obtain ⟨between, hfield, hfields⟩ := (Run.bind_outcome_eq_ok_iff _ _ _).mp h
      rw [List.map_cons, List.mem_cons, not_or] at hkey
      rw [ih hfields hkey.2, get?_of_applyField hfield, if_neg (Ne.symm hkey.1)]

/-- Where no name is given twice, a run of rules leaves under each name what its rule put
there. -/
theorem get?_of_applyFields {fields : List FieldRule}
    (h : (applyFields ctx doc fields).outcome = .ok after)
    (hnames : (fields.map FieldRule.name).Nodup) {field : FieldRule} (hfield : field ∈ fields) :
    Entries.get? after field.name =
      (field.filling? ctx).or (Entries.get? doc field.name) := by
  induction fields generalizing doc with
  | nil =>
      cases hfield
  | cons first fields ih =>
      obtain ⟨between, hfirst, hfields⟩ := (Run.bind_outcome_eq_ok_iff _ _ _).mp h
      obtain ⟨hname, hrest⟩ := List.nodup_cons.mp hnames
      rcases List.mem_cons.mp hfield with rfl | hmem
      · rw [get?_of_applyFields_of_notMem hfields hname, get?_of_applyField hfirst, if_pos rfl]
      · have hne : first.name ≠ field.name := by
          intro heq
          exact hname (heq ▸ List.mem_map_of_mem hmem)
        rw [ih hfields hrest hmem, get?_of_applyField hfirst, if_neg hne]

/-- A document with a null under the name of a copied field: the context passes a null, and no
matched property goes on from there. -/
theorem get?_eq_null_iff_of_foldIn {filled : Document} (hnames : ¬ t.Reports "R-001")
    (hprefixes : ¬ t.Reports "R-002")
    (hfields : (applyFields ctx [] t.fields).outcome = .ok filled)
    (hfold : Document.placeAll? (.obj filled) (t.matched ctx.properties) = some (.obj doc))
    {field : FieldRule} (hfield : field ∈ t.fields) {source : FieldSource}
    (hsource : field.source? = some source) :
    Entries.get? doc field.name = some .null ↔
      ctx.PassesNull source ∧ ∀ e ∈ t.matched ctx.properties, Path.take e.1 1 ≠ field.name := by
  have hfilled : Entries.get? filled field.name = readSource ctx source := by
    rw [get?_of_applyFields hfields (Template.nodup_names hnames) hfield,
      FieldRule.filling?_of_source? hsource]
    simp
  by_cases hother : ∀ e ∈ t.matched ctx.properties, Path.take e.1 1 ≠ field.name
  · rw [Document.get?_of_placeAll?_of_ne hfold hother, hfilled, readSource_eq_some_null_iff]
    exact (and_iff_left hother).symm
  · constructor
    · intro hnull
      push Not at hother
      obtain ⟨e, he, hname⟩ := hother
      have hdot := Template.dot_mem_of_matches hprefixes (Template.matches_of_mem_matched he)
      obtain ⟨x, c, hx, hkind⟩ := Document.exists_container_of_placeAll? hfold he hdot
      rw [hname, hnull] at hx
      cases hx
      exact absurd hkind.symm c.node_ne_null
    · intro h
      exact absurd h.2 hother

/-- The first unmet field ends the building, before any property is folded in. -/
theorem buildDocument_of_isUnmet {g : Generator} {operation : Operation}
    (htemplate : g.templateFor operation ctx = .ok t)
    (hunmet : ∃ field ∈ t.fields, field.IsUnmet ctx) :
    ∃ before name source rest, t.fields = before ++ .required name source :: rest ∧
      (∀ field ∈ before, ¬ field.IsUnmet ctx) ∧
      (FieldRule.required name source).IsUnmet ctx ∧
      (g.buildDocument operation ctx).outcome =
        .error (.missingRequiredField name (FieldRule.sourceOf name source).label) := by
  obtain ⟨field, hfield, hunmet⟩ := hunmet
  cases hrun : (applyFields ctx [] t.fields).outcome with
  | ok filled =>
      exact absurd hunmet (not_isUnmet_of_applyFields hrun field hfield)
  | error e =>
      obtain ⟨before, name, source, rest, hsplit, hbefore, hfirst, rfl⟩ :=
        applyFields_eq_error_iff.mp hrun
      refine ⟨before, name, source, rest, hsplit, hbefore, hfirst, ?_⟩
      rw [buildDocument_outcome htemplate]
      exact (Run.bind_outcome_eq_error_iff _ _ _).mpr (Or.inl hrun)

/-- **Null sources** count as absent, except that a null description is copied: there it stands in
the document, unless a matched property goes on from it. -/
theorem buildDocument_null_sources (g : Generator) (operation : Operation) (ctx : Context)
    (t : Template) (htemplate : g.templateFor operation ctx = .ok t)
    (hnames : ¬ t.Reports "R-001") (hprefixes : ¬ t.Reports "R-002") :
    (∀ ctx' : Context,
      (∀ field ∈ t.fields, ∀ source, field.source? = some source →
        ctx.nonNull? source = ctx'.nonNull? source ∧
          ¬ ctx.PassesNull source ∧ ¬ ctx'.PassesNull source) →
      applyFields ctx [] t.fields = applyFields ctx' [] t.fields) ∧
    (∀ name source, .optional name source ∈ t.fields →
      ctx.nonNull? (FieldRule.sourceOf name source) = none →
      ¬ ctx.PassesNull (FieldRule.sourceOf name source) →
      (∀ doc, applyField ctx doc (.optional name source) =
        ⟨[.omitted name (FieldRule.sourceOf name source).key?], .ok doc⟩) ∧
      ∀ filled, (applyFields ctx [] t.fields).outcome = .ok filled →
        Entries.get? filled name = none) ∧
    ((∃ field ∈ t.fields, field.IsUnmet ctx) →
      ∃ before name source rest, t.fields = before ++ .required name source :: rest ∧
        (∀ field ∈ before, ¬ field.IsUnmet ctx) ∧
        (FieldRule.required name source).IsUnmet ctx ∧
        (g.buildDocument operation ctx).outcome =
          .error (.missingRequiredField name (FieldRule.sourceOf name source).label)) ∧
    (∀ doc, (g.buildDocument operation ctx).outcome = .ok doc →
      ∀ field ∈ t.fields, ∀ source, field.source? = some source →
        (Entries.get? doc field.name = some .null ↔
          ctx.PassesNull source ∧
            ∀ e ∈ t.matched ctx.properties, Path.take e.1 1 ≠ field.name)) := by
  refine ⟨?_, ?_, ?_, ?_⟩
  · intro ctx' hsame
    refine applyFields_congr (fun field hfield source hsource => ?_) []
    obtain ⟨hvalue, hnull, hnull'⟩ := hsame field hfield source hsource
    rw [readSource_of_not_passesNull hnull, readSource_of_not_passesNull hnull', hvalue]
  · intro name source hfield hvalue hnull
    have hread : readSource ctx (FieldRule.sourceOf name source) = none :=
      (readSource_eq_none_iff _).mpr ⟨hvalue, hnull⟩
    constructor
    · intro doc
      rw [applyField, hread]
    · intro filled hfields
      have hget := get?_of_applyFields hfields (Template.nodup_names hnames) hfield
      rw [FieldRule.filling?, hread] at hget
      exact hget
  · exact buildDocument_of_isUnmet htemplate
  · intro doc hdoc field hfield source hsource
    rw [buildDocument_outcome htemplate] at hdoc
    obtain ⟨filled, hfields, hfold⟩ := (Run.bind_outcome_eq_ok_iff _ _ _).mp hdoc
    have hplace : foldIn filled (ctx.properties.withPrefixes t.prefixes) = .ok doc := hfold
    rw [foldIn_eq_ok_iff, Template.withPrefixes_eq_matched] at hplace
    exact get?_eq_null_iff_of_foldIn hnames hprefixes hfields hplace hfield hsource

end Generator

/-- A template with two fields for the description, one of which properties may go on from. -/
def Template.described : Template where
  operation := .create
  version := Registry.version2
  fields := [.container "p" .mapping, .optional "o" none, .optional "d" (some .description),
    .required "r" none, .required "c" (some .description)]
  prefixes := ["p.", "d."]

/-- A generator with no other template. -/
def Generator.described : Generator where
  registry := Registry.empty.insert .described
  config := Config.standard
  isSensitive := fun _ => false

/-- A context with a null property, and with a null for its description. -/
def Context.described : Context where
  properties := .ofPairs [("o", .null), ("r", .str "R"), ("d.k", .bool true)]
  lifecycleName := none
  description := some .null

/-- What the template makes of the context. -/
def Document.described : Document :=
  [("p", .obj []), ("d", .obj [("k", .bool true)]), ("r", .str "R"), ("c", .null)]

/-- A context without a value for a required property. -/
def Context.undescribed (properties : List (String × PropertyValue)) : Context where
  properties := .ofPairs properties
  lifecycleName := none
  description := some (.str "C")

/-- The null property is left out, and one of two null descriptions stands in the message.
Without a value for a required property there is none. -/
theorem Generator.buildDocument_null_sources_described :
    ¬ Template.described.Reports "R-001" ∧ ¬ Template.described.Reports "R-002" ∧
      (∀ filled, (applyFields .described [] Template.described.fields).outcome = .ok filled →
        Entries.get? filled "o" = none) ∧
      Entries.get? Document.described "c" = some .null ∧
      Entries.get? Document.described "d" ≠ some .null ∧
      applyFields (.undescribed [("o", .null), ("r", .null)]) [] Template.described.fields =
        applyFields (.undescribed []) [] Template.described.fields ∧
      ∃ name source, (Generator.described.buildDocument .create (.undescribed [])).outcome =
        .error (.missingRequiredField name (FieldRule.sourceOf name source).label) := by
  have hnames : ¬ Template.described.Reports "R-001" := by decide
  have hprefixes : ¬ Template.described.Reports "R-002" := by decide
  have hdoc :
      (Generator.described.buildDocument .create .described).outcome = .ok .described := rfl
  obtain ⟨-, hoptional, -, hnull⟩ := buildDocument_null_sources .described .create .described
    .described rfl hnames hprefixes
  obtain ⟨hsame, -, hrequired, -⟩ := buildDocument_null_sources .described .create
    (.undescribed [("o", .null), ("r", .null)]) .described rfl hnames hprefixes
  obtain ⟨-, -, habsent, -⟩ := buildDocument_null_sources .described .create
    (.undescribed []) .described rfl hnames hprefixes
  refine ⟨hnames, hprefixes, ?_, ?_, ?_, ?_, ?_⟩
  · exact (hoptional "o" none (by decide) (by decide) (by decide)).2
  · exact (hnull _ hdoc (.required "c" (some .description)) (by decide) .description rfl).mpr
      (by decide)
  · intro hd
    have hcases := (hnull _ hdoc (.optional "d" (some .description)) (by decide) .description
      rfl).mp hd
    exact absurd hcases (by decide)
  · exact hsame (.undescribed []) (by decide)
  · obtain ⟨-, name, source, -, -, -, -, herror⟩ :=
      habsent ⟨.required "r" none, by decide, by decide, by decide⟩
    exact ⟨name, source, herror⟩

/-- The context of a creation whose description is a null. -/
def Context.nullDescription : Context where
  properties := .ofPairs [("vnfdId", .str "a")]
  lifecycleName := none
  description := some .null

/-- The built-in template for creations has different field names and well-formed prefixes,
and takes a null description over into the message. -/
theorem Generator.buildDocument_null_description :
    ∃ t doc, Generator.standard.templateFor .create .nullDescription = .ok t ∧
      ¬ t.Reports "R-001" ∧ ¬ t.Reports "R-002" ∧
      .optional "vnfInstanceDescription" (some .description) ∈ t.fields ∧
      Context.nullDescription.value? .description = some .null ∧
      (Generator.standard.buildDocument .create .nullDescription).outcome = .ok doc ∧
      Entries.get? doc "vnfInstanceDescription" = some .null := by
  refine ⟨_, _, rfl, ?_, ?_, ?_, rfl, rfl, ?_⟩
  · decide
  · decide
  · decide
  · decide

end VnfPayload
