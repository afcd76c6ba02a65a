import VnfPayload.Proofs.Flattening
import VnfPayload.Proofs.Redaction

/-!
# Sensitive values do not reach the log

Two requests that differ only in scalars under sensitive keys cannot be told apart by what a
generator logs for them, nor by the error if it refuses them; of two messages only the lengths
may differ.  The same holds of the log of an extraction, for two messages that differ only in
scalars whose dotted keys are sensitive.

The argument has two halves.  What the log shows of a set of properties is masked key by key
(`PropertySet.logSafe_congr`).  All other events, and all errors, come from the building of the
document, which sees no scalars at all (`Generator.buildFrom_redacted`).  The version property is
an exception, for its text selects the template; so it has to be the same in both requests.
-/

namespace VnfPayload

namespace PropertyValue

/-- The values are equal, or they are scalars that may differ because they are secret. -/
def SameBut (secret : Bool) (v w : PropertyValue) : Prop :=
  v = w ∨ secret = true ∧ v ≠ .null ∧ w ≠ .null

variable {secret : Bool} {v w : PropertyValue}

theorem isNull_eq_false (h : v ≠ .null) : v.isNull = false := by
  cases v with
  | null =>
      exact absurd rfl h
  | _ =>
      rfl

theorem redacted_of_ne_null (h : v ≠ .null) : v.redacted = .str PropertySet.maskText := by
  cases v with
  | null =>
      exact absurd rfl h
  | _ =>
      rfl

theorem SameBut.redacted_eq (h : v.SameBut secret w) : v.redacted = w.redacted := by
  rcases h with rfl | ⟨-, hv, hw⟩
  · rfl
  · rw [redacted_of_ne_null hv, redacted_of_ne_null hw]

end PropertyValue

/-- The same keys in the same order, and equal values but for scalars under sensitive keys. -/
def SameButSecrets (isSensitive : String → Bool) (ps ps' : Entries PropertyValue) : Prop :=
  List.Forall₂ (fun e e' => e.1 = e'.1 ∧ e.2.SameBut (isSensitive e.1) e'.2) ps ps'

/-- A view of the values that hides secrets is the same for both. -/
theorem SameButSecrets.mapValues_eq {β : Type} {isSensitive : String → Bool}
    {ps ps' : Entries PropertyValue} (h : SameButSecrets isSensitive ps ps')
    {view : String → PropertyValue → β}
    (hview : ∀ key v w, PropertyValue.SameBut (isSensitive key) v w → view key v = view key w) :
    Entries.mapValues view ps = Entries.mapValues view ps' := by
  induction h with
  | nil =>
      rfl
  | @cons e e' ps ps' he _ ih =>
      obtain ⟨key, v⟩ := e
      obtain ⟨key', w⟩ := e'
      obtain ⟨rfl, hsame⟩ := he
      simp only [Entries.mapValues, List.map_cons] at ih ⊢
      rw [ih, hview key v w hsame]

namespace PropertySet

variable {isSensitive : String → Bool} {s s' : PropertySet}

/-- The value of a property as it stands in the log. -/
def shown (isSensitive : String → Bool) (key : String) (v : PropertyValue) : Json :=
  if isSensitive key && !v.isNull then .str maskText else v.toJson

theorem logSafe_eq_mapValues (s : PropertySet) :
    s.logSafe isSensitive = .obj (Entries.mapValues (shown isSensitive) s.entries) := rfl

theorem shown_congr (key : String) (v w : PropertyValue)
    (h : v.SameBut (isSensitive key) w) :
    shown isSensitive key v = shown isSensitive key w := by
  rcases h with rfl | ⟨hsecret, hv, hw⟩
  · rfl
  · simp [shown, hsecret, PropertyValue.isNull_eq_false hv, PropertyValue.isNull_eq_false hw]

/-- The log shows no difference. -/
theorem logSafe_congr (h : SameButSecrets isSensitive s.entries s'.entries) :
    s.logSafe isSensitive = s'.logSafe isSensitive := by
  rw [logSafe_eq_mapValues, logSafe_eq_mapValues, h.mapValues_eq shown_congr]

theorem redacted_congr (h : SameButSecrets isSensitive s.entries s'.entries) :
    s.redacted = s'.redacted :=
  ext (h.mapValues_eq fun _ _ _ hsame => hsame.redacted_eq)

/-- Where pairs are inserted one after the other, the log shows what it shows of the pairs. -/
theorem logSafe_ofPairs (pairs : List (String × PropertyValue)) :
    (ofPairs pairs).logSafe isSensitive =
      .obj (Entries.ofPairs (Entries.mapValues (shown isSensitive) pairs)) := by
  rw [logSafe_eq_mapValues, entries_ofPairs, Entries.mapValues_ofPairs]

end PropertySet

/-! ## Requests -/

namespace Event

/-- The events are the same, but the lengths of two messages may differ. -/
def SameButBytes (a b : Event) : Prop :=
  a = b ∨ ∃ m n, a = .generated m ∧ b = .generated n

theorem forall₂_sameButBytes_refl (es : List Event) : List.Forall₂ SameButBytes es es :=
  List.forall₂_same.mpr fun _ _ => Or.inl rfl

end Event

/-- Two runs end in the same way: both with a value, or both with one and the same error. -/
def EndAlike {α : Type} (outcome outcome' : Except Error α) : Prop :=
  (∃ a a', outcome = .ok a ∧ outcome' = .ok a') ∨
    ∃ e, outcome = .error e ∧ outcome' = .error e

/-- The requests look the same to the building of a document. -/
theorem Request.redacted_context_congr {isSensitive : String → Bool} {r r' : Request}
    (hname : r.lifecycleName = r'.lifecycleName)
    (h : SameButSecrets isSensitive r.properties.entries r'.properties.entries) :
    r.context.redacted = r'.context.redacted := by
  have hproperties := PropertySet.redacted_congr h
  have hdescription : r.properties.description.map PropertyValue.redacted =
      r'.properties.description.map PropertyValue.redacted := by
    rw [← PropertySet.description_redacted, hproperties, PropertySet.description_redacted]
  rw [Context.redacted, Context.redacted]
  simp only [context, hproperties, hname, hdescription]

namespace Generator

variable {g : Generator} {operation : Operation} {r r' : Request}

/-- Contexts that look the same lead to the same events and to the same kind of end. -/
theorem buildFrom_of_redacted_eq {ctx ctx' : Context} (h : ctx.redacted = ctx'.redacted)
    (t : Template) :
    (buildFrom ctx t).events = (buildFrom ctx' t).events ∧
      EndAlike (buildFrom ctx t).outcome (buildFrom ctx' t).outcome := by
  have hbuilt : (buildFrom ctx t).map Document.redacted =
      (buildFrom ctx' t).map Document.redacted := by
    rw [← buildFrom_redacted, h, buildFrom_redacted]
  obtain ⟨hevents, houtcome⟩ := Run.mk.inj hbuilt
  refine ⟨hevents, ?_⟩
  cases hend : (buildFrom ctx t).outcome with
  | error e =>
      cases hend' : (buildFrom ctx' t).outcome with
      | error e' =>
          rw [hend, hend'] at houtcome
          obtain rfl := Except.error.inj houtcome
          exact Or.inr ⟨e, rfl, rfl⟩
      | ok doc' =>
          rw [hend, hend'] at houtcome
          cases houtcome
  | ok doc =>
      cases hend' : (buildFrom ctx' t).outcome with
      | error e' =>
          rw [hend, hend'] at houtcome
          cases houtcome
      | ok doc' =>
          exact Or.inl ⟨doc, doc', rfl, rfl⟩

theorem generate_of_sameButSecrets (hname : r.lifecycleName = r'.lifecycleName)
    (h : SameButSecrets g.isSensitive r.properties.entries r'.properties.entries)
    (hversion : r.properties.get? g.config.versionKey = r'.properties.get? g.config.versionKey) :
    EndAlike (g.generate operation r.context).outcome
        (g.generate operation r'.context).outcome ∧
      List.Forall₂ Event.SameButBytes (g.generate operation r.context).events
        (g.generate operation r'.context).events := by
  have htemplate : g.templateFor operation r.context = g.templateFor operation r'.context := by
    apply templateFor_congr
    simp only [Request.context, PropertySet.getNonNull?, hversion]
  cases ht : g.templateFor operation r.context with
  | error e =>
      rw [generate_of_error ht, generate_of_error (htemplate ▸ ht)]
      exact ⟨Or.inr ⟨e, rfl, rfl⟩, .nil⟩
  | ok t =>
      have hlog : r.context.properties.logSafe g.isSensitive =
          r'.context.properties.logSafe g.isSensitive := PropertySet.logSafe_congr h
      obtain ⟨hevents, hend⟩ :=
        buildFrom_of_redacted_eq (Request.redacted_context_congr hname h) t
      rw [generate_of_template ht, generate_of_template (htemplate ▸ ht), hlog, hevents]
      rcases hend with ⟨doc, doc', hdoc, hdoc'⟩ | ⟨e, he, he'⟩
      · rw [hdoc, hdoc']
        refine ⟨Or.inl ⟨_, _, rfl, rfl⟩, .cons (Or.inl rfl) (.cons (Or.inl rfl) ?_)⟩
        refine List.rel_append (Event.forall₂_sameButBytes_refl _) ?_
        exact .cons (Or.inr ⟨_, _, rfl, rfl⟩) .nil
      · rw [he, he']
        exact ⟨Or.inr ⟨e, rfl, rfl⟩, Event.forall₂_sameButBytes_refl _⟩

end Generator

/-! ## Messages -/

namespace Json

mutual

/-- Two nodes at a route have the same shape, the same keys in the same order, and equal scalars
but for those whose dotted keys are sensitive. -/
inductive SameBut (isSensitive : String → Bool) : List Segment → Json → Json → Prop
  | leaf (route : List Segment) (v w : PropertyValue)
      (h : v.SameBut (isSensitive (Path.spell route)) w) :
      SameBut isSensitive route v.toJson w.toJson
  | sequence (route : List Segment) (items items' : List Json)
      (h : SameItemsBut isSensitive route 0 items items') :
      SameBut isSensitive route (.arr items) (.arr items')
  | mapping (route : List Segment) (members members' : List (String × Json))
      (h : SameMembersBut isSensitive route members members') :
      SameBut isSensitive route (.obj members) (.obj members')

/-- The same for the items of two sequences, the first of which stand at `position`. -/
inductive SameItemsBut (isSensitive : String → Bool) :
    List Segment → Nat → List Json → List Json → Prop
  | nil (route : List Segment) (position : Nat) : SameItemsBut isSensitive route position [] []
  | cons (route : List Segment) (position : Nat) (x y : Json) (rest rest' : List Json)
      (hx : SameBut isSensitive (route ++ [.index position]) x y)
      (hrest : SameItemsBut isSensitive route (position + 1) rest rest') :
      SameItemsBut isSensitive route position (x :: rest) (y :: rest')

/-- The same for the members of two mappings. -/
inductive SameMembersBut (isSensitive : String → Bool) :
    List Segment → List (String × Json) → List (String × Json) → Prop
  | nil (route : List Segment) : SameMembersBut isSensitive route [] []
  | cons (route : List Segment) (k : String) (x y : Json) (rest rest' : List (String × Json))
      (hx : SameBut isSensitive (route ++ [.key k]) x y)
      (hrest : SameMembersBut isSensitive route rest rest') :
      SameMembersBut isSensitive route ((k, x) :: rest) ((k, y) :: rest')

end

variable {isSensitive : String → Bool}

mutual

/-- The leaves stand at the same routes, and agree but for secrets. -/
theorem SameBut.leaves {route : List Segment} {a b : Json} :
    SameBut isSensitive route a b →
      SameButSecrets isSensitive ((Json.leaves a).map (Document.labelled route))
        ((Json.leaves b).map (Document.labelled route))
  | .leaf route v w h => by
      rw [leaves_toJson, leaves_toJson]
      exact .cons ⟨rfl, by simpa [Document.labelled] using h⟩ .nil
  | .sequence route items items' h => h.leaves
  | .mapping route members members' h => h.leaves

theorem SameItemsBut.leaves {route : List Segment} {position : Nat} {items items' : List Json} :
    SameItemsBut isSensitive route position items items' →
      SameButSecrets isSensitive
        ((leavesOfItems position items).map (Document.labelled route))
        ((leavesOfItems position items').map (Document.labelled route))
  | .nil route position => .nil
  | .cons route position x y rest rest' hx hrest => by
      rw [leavesOfItems, leavesOfItems, List.map_append, List.map_append,
        Document.labelled_cons, Document.labelled_cons]
      exact List.rel_append hx.leaves hrest.leaves

theorem SameMembersBut.leaves {route : List Segment} {members members' : List (String × Json)} :
    SameMembersBut isSensitive route members members' →
      SameButSecrets isSensitive
        ((leavesOfMembers members).map (Document.labelled route))
        ((leavesOfMembers members').map (Document.labelled route))
  | .nil route => .nil
  | .cons route k x y rest rest' hx hrest => by
      rw [leavesOfMembers, leavesOfMembers, List.map_append, List.map_append,
        Document.labelled_cons, Document.labelled_cons]
      exact List.rel_append hx.leaves hrest.leaves

end

end Json

namespace Document

/-- The log shows no difference between the properties of two documents. -/
theorem logSafe_flatten_congr {isSensitive : String → Bool} {doc doc' : Document}
    (h : Json.SameBut isSensitive [] (.obj doc) (.obj doc')) :
    doc.flatten.logSafe isSensitive = doc'.flatten.logSafe isSensitive := by
  have hleaves : SameButSecrets isSensitive doc.leafProperties doc'.leafProperties := h.leaves
  rw [flatten_eq_ofPairs, flatten_eq_ofPairs, PropertySet.logSafe_ofPairs,
    PropertySet.logSafe_ofPairs, hleaves.mapValues_eq PropertySet.shown_congr]

end Document

namespace Generator

theorem extractProperties_events {g : Generator} {message : String} {doc : Document}
    (h : Json.read? message = some (.obj doc)) :
    (g.extractProperties message).events =
      [.extracted (doc.flatten.logSafe g.isSensitive)] := by
  simp only [extractProperties, h]
  rfl

/-- **Sensitive values do not reach the log**: what differs only in scalars under sensitive keys
leaves the same events, but for the length of a message, and ends alike. -/
theorem log_hides_secrets :
    (∀ (g : Generator) (operation : Operation) (r r' : Request),
      r.lifecycleName = r'.lifecycleName →
      SameButSecrets g.isSensitive r.properties.entries r'.properties.entries →
      r.properties.get? g.config.versionKey = r'.properties.get? g.config.versionKey →
      EndAlike (g.generate operation r.context).outcome
          (g.generate operation r'.context).outcome ∧
        List.Forall₂ Event.SameButBytes (g.generate operation r.context).events
          (g.generate operation r'.context).events)
      ∧
    (∀ (g : Generator) (message message' : String) (doc doc' : Document),
      Json.read? message = some (.obj doc) → Json.read? message' = some (.obj doc') →
      Json.SameBut g.isSensitive [] (.obj doc) (.obj doc') →
      (g.extractProperties message).events = (g.extractProperties message').events) := by
  constructor
  · intro g operation r r' hname h hversion
    exact generate_of_sameButSecrets hname h hversion
  · intro g message message' doc doc' hread hread' h
    rw [extractProperties_events hread, extractProperties_events hread',
      Document.logSafe_flatten_congr h]

end Generator

/-- A generator that keeps three keys out of its log. -/
def Generator.discreet : Generator where
  registry := Registry.builtin
  config := Config.standard
  isSensitive := fun key => key ∈ ["description", "additionalParams.token", "a.password"]

/-- A request with two sensitive values, and with more properties. -/
def Request.confidential (description token : PropertyValue)
    (more : List (String × PropertyValue)) : Request where
  lifecycleName := none
  properties := .ofPairs ([("vnfdId", .str "v1"), ("description", description),
    ("additionalParams.token", token), ("vnfInstanceName", .null)] ++ more)
  systemProperties := .empty

/-- Secrets of different types, in two messages, on the way of a property that is refused, and in
two texts that are read. -/
theorem Generator.log_hides_secrets_discreet :
    (discreet.buildDocument .create
        (Request.confidential (.str "hush") (.bool true) []).context).outcome =
      .ok [("vnfdId", .str "v1"), ("vnfInstanceDescription", .str "hush"),
        ("additionalParams", .obj [("token", .bool true)])] ∧
    List.Forall₂ Event.SameButBytes
      (discreet.generate .create
        (Request.confidential (.str "hush") (.bool true) []).context).events
      (discreet.generate .create
        (Request.confidential (.bool false) (.str "t-1") []).context).events ∧
    (discreet.generate .create (Request.confidential (.str "hush") (.bool true)
        [("additionalParams.token.k", .null)]).context).outcome =
      .error (.structuralConflict "additionalParams.token.k" "additionalParams.token" .mapping
        .scalar) ∧
    EndAlike
      (discreet.generate .create (Request.confidential (.str "hush") (.bool true)
        [("additionalParams.token.k", .null)]).context).outcome
      (discreet.generate .create (Request.confidential (.bool false) (.str "t-1")
        [("additionalParams.token.k", .null)]).context).outcome ∧
    (discreet.extractProperties
        "\x7b\"a\":\x7b\"password\":\"x\"\x7d,\"n\":[null]\x7d").events =
      (discreet.extractProperties
        "\x7b\"a\":\x7b\"password\":true\x7d,\"n\":[null]\x7d").events := by
  have hsame : ∀ more : List (String × PropertyValue),
      SameButSecrets discreet.isSensitive
        ([("vnfdId", .str "v1"), ("description", .str "hush"),
          ("additionalParams.token", .bool true), ("vnfInstanceName", .null)] ++ more)
        ([("vnfdId", .str "v1"), ("description", .bool false),
          ("additionalParams.token", .str "t-1"), ("vnfInstanceName", .null)] ++ more) := by
    intro more
    refine List.rel_append ?_ (List.forall₂_same.mpr fun _ _ => ⟨rfl, Or.inl rfl⟩)
    refine .cons ⟨rfl, Or.inl rfl⟩ (.cons ⟨rfl, Or.inr ⟨rfl, ?_, ?_⟩⟩
      (.cons ⟨rfl, Or.inr ⟨rfl, ?_, ?_⟩⟩ (.cons ⟨rfl, Or.inl rfl⟩ .nil))) <;> decide
  refine ⟨rfl, ?_, rfl, ?_, ?_⟩
  · exact (log_hides_secrets.1 discreet .create
      (Request.confidential (.str "hush") (.bool true) [])
      (Request.confidential (.bool false) (.str "t-1") []) rfl (hsame []) rfl).2
  · exact (log_hides_secrets.1 discreet .create
      (Request.confidential (.str "hush") (.bool true) [("additionalParams.token.k", .null)])
      (Request.confidential (.bool false) (.str "t-1") [("additionalParams.token.k", .null)])
      rfl (hsame [("additionalParams.token.k", .null)]) rfl).1
  · refine log_hides_secrets.2 discreet _ _
      [("a", .obj [("password", .str "x")]), ("n", .arr [.null])]
      [("a", .obj [("password", .bool true)]), ("n", .arr [.null])] (by decide +kernel)
      (by decide +kernel) ?_
    have hsecret : Json.SameBut discreet.isSensitive [.key "a", .key "password"] (.str "x")
        (.bool true) :=
      .leaf _ (.str "x") (.bool true) (Or.inr ⟨rfl, by decide, by decide⟩)
    have hnull : Json.SameBut discreet.isSensitive [.key "n", .index 0] .null .null :=
      .leaf _ .null .null (Or.inl rfl)
    exact .mapping _ _ _ (.cons _ _ _ _ _ _
      (.mapping _ _ _ (.cons _ _ _ _ _ _ hsecret (.nil _)))
      (.cons _ _ _ _ _ _ (.sequence _ _ _ (.cons _ _ _ _ _ _ hnull (.nil _ _))) (.nil _)))

end VnfPayload
