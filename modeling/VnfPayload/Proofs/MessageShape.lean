import VnfPayload.Proofs.FieldPhase
import VnfPayload.Proofs.Persistence

/-!
# The top level of a message

The keys of a message are the names of the fields that stand in it, in order of declaration,
and behind them the first pieces of the matched property keys that are no such names, in
order of first use.  What the field rules wrote is not disturbed by the properties: a
container keeps its kind, and a copied value stays, for a matched key has at least two pieces
and no step leads on from a scalar.

Main statements:

* `Document.keys_of_placeAll?` says which keys a list of properties adds to a document;
* `Generator.buildDocument_shape` says it of messages, and of the built-in templates that
  they add none.
-/

namespace VnfPayload

namespace Document

open Json (at?)

variable {items : List (String × PropertyValue)} {es : Document}

theorem at?_key (doc : Document) (k : String) :
    at? [.key k] (.obj doc) = Entries.get? doc k := by
  rw [Json.at?_cons, Json.child?]
  cases Entries.get? doc k <;> rfl

/-- What can be placed into a mapping has a key for its first step. -/
theorem place?_obj_eq_some {item : String × PropertyValue} {root : Json}
    (h : place? (.obj es) item = some root) :
    ∃ k rest x, Path.parse item.1 = .ok (.key k :: rest) ∧
      root = .obj (Entries.insert es k x) := by
  obtain ⟨route, hparse, hassign⟩ := (place?_eq_some_iff _ _ _).mp h
  cases route with
  | nil =>
      exact absurd rfl (Path.ne_nil_of_parse hparse)
  | cons s rest =>
      obtain ⟨x, y, hx, -, rfl⟩ := Json.assign?_cons_eq_some hassign
      cases s with
      | key k =>
          exact ⟨k, rest, y, hparse, rfl⟩
      | index i =>
          cases hx

theorem exists_parse_of_placeAll? {root : Json} (h : placeAll? (.obj es) items = some root) :
    ∀ item ∈ items, ∃ k rest, Path.parse item.1 = .ok (.key k :: rest) := by
  induction items generalizing es with
  | nil =>
      intro item hitem
      cases hitem
  | cons item items ih =>
      obtain ⟨between, hplace, hrest⟩ := Option.bind_eq_some_iff.mp h
      obtain ⟨k, rest, x, hparse, rfl⟩ := place?_obj_eq_some hplace
      intro item' hitem'
      rcases List.mem_cons.mp hitem' with rfl | hmem
      · exact ⟨k, rest, hparse⟩
      · exact ih hrest item' hmem

/-- The first pieces of the properties become keys, each one once, behind those that were
there. -/
theorem keys_of_placeAll? {after : Document}
    (h : placeAll? (.obj es) items = some (.obj after)) :
    Entries.keys after =
      Entries.keys es ++
        ((items.map fun item => Path.take item.1 1).filter
          fun k => k ∉ Entries.keys es).eraseDups := by
  induction items generalizing es with
  | nil =>
      cases h
      simp
  | cons item items ih =>
      obtain ⟨between, hplace, hrest⟩ := Option.bind_eq_some_iff.mp h
      obtain ⟨k, rest, x, hparse, rfl⟩ := place?_obj_eq_some hplace
      rw [ih hrest, Entries.keys_insert, List.map_cons, Path.take_one_of_parse hparse]
      by_cases hk : k ∈ Entries.keys es
      · rw [if_pos hk, List.filter_cons_of_neg (by simpa using hk)]
      · -- The new key is counted once, and not again among the others.
        have hfilter : ∀ ks : List String,
            (ks.filter fun key => key ∉ Entries.keys es ++ [k]) =
              (ks.filter fun key => key ∉ Entries.keys es).filter fun key => !key == k := by
          intro ks
          rw [List.filter_filter]
          refine List.filter_congr fun key _ => ?_
          by_cases hkey : key = k <;> simp [hkey]
        rw [if_neg hk, List.filter_cons_of_pos (by simpa using hk), List.eraseDups_cons,
          hfilter, List.append_assoc, List.singleton_append]

/-- A run of properties leaves a container of the kind that it found. -/
theorem kind_of_placeAll? {root after x : Json} {route : List Segment} {c : ContainerKind}
    (h : placeAll? root items = some after) (hx : at? route root = some x)
    (hkind : x.kind = c.node) :
    ∃ y, at? route after = some y ∧ y.kind = c.node := by
  obtain ⟨y, hy, hkeeps⟩ := exists_keeps_of_placeAll? h hx
  refine ⟨y, hy, ?_⟩
  cases x with
  | obj members =>
      obtain ⟨members', rfl, -⟩ := hkeeps.mapping members rfl
      exact hkind
  | arr xs =>
      obtain ⟨ys, rfl, -⟩ := hkeeps.sequence xs rfl
      exact hkind
  | _ =>
      cases c <;> cases hkind

end Document

namespace Generator

open Json (at?)

variable {g : Generator} {operation : Operation} {ctx : Context} {t : Template}
  {doc : Document}

theorem nodup_presentNames (h : ¬ t.Reports "R-001") (ctx : Context) :
    (t.presentNames ctx).Nodup :=
  (Template.nodup_names h).sublist (List.filter_sublist.map _)

theorem mem_presentNames_of_container {name : String} {kind : ContainerKind}
    (h : .container name kind ∈ t.fields) (ctx : Context) :
    name ∈ t.presentNames ctx :=
  List.mem_map.mpr ⟨_, List.mem_filter.mpr ⟨h, rfl⟩, rfl⟩

/-- Where no name is given twice, the entries of the fields stand as they are. -/
theorem ofPairs_fieldEntries (h : ¬ t.Reports "R-001")
    (hkeys : Entries.keys (t.fieldEntries ctx) = t.presentNames ctx) :
    Entries.ofPairs (t.fieldEntries ctx) = t.fieldEntries ctx := by
  refine Entries.ofPairs_eq_self ?_
  rw [hkeys]
  exact nodup_presentNames h ctx

/-- The entry of a field is found under its name before the properties are folded in. -/
theorem at?_fieldEntries (h : ¬ t.Reports "R-001")
    (hkeys : Entries.keys (t.fieldEntries ctx) = t.presentNames ctx) {field : FieldRule}
    (hfield : field ∈ t.fields) {name : String} {x : Json}
    (hentry : field.entry? ctx = some (name, x)) :
    at? [.key name] (.obj (t.fieldEntries ctx)) = some x := by
  rw [Document.at?_key]
  refine Entries.get?_of_mem ?_ (List.mem_filterMap.mpr ⟨field, hfield, hentry⟩)
  rw [hkeys]
  exact nodup_presentNames h ctx

/-- Without undeclared roots, a matched key leads into a container of the template. -/
theorem take_one_mem_presentNames (hdot : ¬ t.Reports "R-002") (h : ¬ t.Reports "R-004")
    {key : String} (hkey : t.Matches key) {k : String} {rest : List Segment}
    (hparse : Path.parse key = .ok (.key k :: rest)) (ctx : Context) :
    Path.take key 1 ∈ t.presentNames ctx := by
  have hcontainer := Template.mem_containerNames_of_matches hdot h hkey hparse
  obtain ⟨kind, hfield⟩ := (Template.mem_containerNames_iff k).mp hcontainer
  rw [Path.take_one_of_parse hparse]
  exact mem_presentNames_of_container hfield ctx

/-- **The top level of a message**: the fields that stand in it, each with its container or the
value of its source, and behind them the undeclared roots of matched keys. -/
theorem buildDocument_shape :
    (∀ (g : Generator) (operation : Operation) (ctx : Context) (t : Template)
        (doc : Document),
      g.templateFor operation ctx = .ok t → ¬ t.Reports "R-001" → ¬ t.Reports "R-002" →
      ctx.description ≠ some .null → (g.buildDocument operation ctx).outcome = .ok doc →
      Entries.keys doc =
          t.presentNames ctx ++
            (((t.matched ctx.properties).map fun e => Path.take e.1 1).filter
              fun k => k ∉ t.presentNames ctx).eraseDups ∧
        (∀ name kind, .container name kind ∈ t.fields →
          ∃ x, Entries.get? doc name = some x ∧ x.kind = kind.node) ∧
        (∀ field ∈ t.fields, ∀ source, field.source? = some source →
          field.isPresent ctx = true →
          ∃ v, ctx.value? source = some v ∧ v ≠ .null ∧
            Entries.get? doc field.name = some v.toJson) ∧
        (¬ t.Reports "R-004" → Entries.keys doc = t.presentNames ctx))
      ∧
    (∀ t ∈ Registry.builtin.templates,
      ¬ t.Reports "R-001" ∧ ¬ t.Reports "R-002" ∧ ¬ t.Reports "R-004") := by
  refine ⟨?_, by decide⟩
  intro g operation ctx t doc htemplate hnames hprefixes hdescription hdoc
  obtain ⟨hkeys, hplace⟩ := buildDocument_eq_ok htemplate hdescription hdoc
  rw [ofPairs_fieldEntries hnames hkeys] at hplace
  have hlist := Document.keys_of_placeAll? hplace
  rw [hkeys] at hlist
  refine ⟨hlist, ?_, ?_, ?_⟩
  · intro name kind hfield
    have hentry := at?_fieldEntries hnames hkeys hfield rfl
    obtain ⟨y, hy, hkind⟩ := Document.kind_of_placeAll? hplace hentry kind.kind_empty
    rw [Document.at?_key] at hy
    exact ⟨y, hy, hkind⟩
  · intro field hfield source hsource hpresent
    obtain ⟨v, hvalue, hv⟩ := FieldRule.exists_value_of_isPresent hdescription hsource hpresent
      (not_isUnmet_of_buildDocument htemplate hdoc field hfield)
    refine ⟨v, hvalue, hv, ?_⟩
    have hentry := at?_fieldEntries hnames hkeys hfield
      (FieldRule.entry?_of_value? hsource hvalue hv)
    rw [← Document.at?_key]
    refine Document.at?_of_placeAll?_of_notMem hplace hv hentry fun e he hparse => ?_
    have hdot := Template.dot_mem_of_matches hprefixes (Template.matches_of_mem_matched he)
    exact Path.ne_singleton_of_parse hparse hdot _ rfl
  · intro hroots
    have hnone : (((t.matched ctx.properties).map fun e => Path.take e.1 1).filter
        fun k => k ∉ t.presentNames ctx) = [] := by
      rw [List.filter_eq_nil_iff]
      intro k hk
      obtain ⟨e, he, rfl⟩ := List.mem_map.mp hk
      obtain ⟨k, rest, hparse⟩ := Document.exists_parse_of_placeAll? hplace e he
      simpa using take_one_mem_presentNames hprefixes hroots
        (Template.matches_of_mem_matched he) hparse ctx
    rw [hlist, hnone]
    simp

end Generator

/-- A template with overlapping prefixes, two of which lead into no container of its own. -/
def Template.overlapping : Template where
  operation := .heal
  version := Registry.version2
  fields := [.container "a" .sequence, .optional "b" none, .required "c" (some .description),
    .optional "d" none]
  prefixes := ["a.", "x.y.", "w.", "x."]

/-- The context of a request with properties for each of the prefixes, and others. -/
def Context.overlapping : Context where
  properties := .ofPairs [("x.y.k", .bool true), ("b", .null), ("a.1.z", .null),
    ("x.w", .str "v"), ("d", .str "D"), ("w.0", .null), ("z.k", .str "u"), ("a.1.x", .str "X")]
  lifecycleName := none
  description := some (.str "C")

/-- What the template makes of the context. -/
def Document.overlapping : Document :=
  [("a", .arr [.null, .obj [("z", .null), ("x", .str "X")]]), ("c", .str "C"),
    ("d", .str "D"), ("x", .obj [("y", .obj [("k", .bool true)]), ("w", .str "v")]),
    ("w", .arr [.null])]

/-- A generator with no other template. -/
def Generator.overlapping : Generator where
  registry := Registry.empty.insert .overlapping
  config := Config.standard
  isSensitive := fun _ => false

theorem Generator.buildDocument_overlapping :
    (Generator.overlapping.buildDocument .heal .overlapping).outcome = .ok .overlapping :=
  rfl

/-- Three of four fields stand in the message, each with its value, and two keys follow them. -/
theorem Generator.buildDocument_shape_overlapping :
    Generator.overlapping.templateFor .heal .overlapping = .ok .overlapping ∧
      ¬ Template.overlapping.Reports "R-001" ∧ ¬ Template.overlapping.Reports "R-002" ∧
      Context.overlapping.description ≠ some .null ∧
      Entries.keys Document.overlapping = ["a", "c", "d"] ++ ["x", "w"] ∧
      (∃ x, Entries.get? Document.overlapping "a" = some x ∧ x.kind = .sequence) ∧
      (∃ v, Context.overlapping.value? .description = some v ∧ v ≠ .null ∧
        Entries.get? Document.overlapping "c" = some v.toJson) ∧
      ∃ v, Context.overlapping.value? (.property "d") = some v ∧ v ≠ .null ∧
        Entries.get? Document.overlapping "d" = some v.toJson := by
  have htemplate :
      Generator.overlapping.templateFor .heal .overlapping = .ok .overlapping := rfl
  have hnames : ¬ Template.overlapping.Reports "R-001" := by decide
  have hprefixes : ¬ Template.overlapping.Reports "R-002" := by decide
  have hdescription : Context.overlapping.description ≠ some .null := by decide
  obtain ⟨hkeys, hcontainers, hcopied, -⟩ := buildDocument_shape.1 _ _ _ _ _ htemplate hnames
    hprefixes hdescription buildDocument_overlapping
  refine ⟨htemplate, hnames, hprefixes, hdescription, hkeys, ?_, ?_, ?_⟩
  · exact hcontainers "a" .sequence (by decide)
  · exact hcopied (.required "c" (some .description)) (by decide) .description rfl rfl
  · exact hcopied (.optional "d" none) (by decide) (.property "d") rfl (by decide)

end VnfPayload
