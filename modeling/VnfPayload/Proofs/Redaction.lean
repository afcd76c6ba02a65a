import VnfPayload.Proofs.BuiltDocument
import VnfPayload.Proofs.Entries
import VnfPayload.Proofs.Slot

/-!
# Building sees no scalars

Redacting replaces every scalar by one and the same text and leaves nulls, keys, positions
and the shape as they are.  No step of the building of a document looks at a scalar, so each
one may be made on redacted data: it takes the same branches, ends with the same error, leaves
the same events, and its result is the redacted result.

The laws stand in the order of the definitions: slots, `Json.assign_redacted`,
`Document.materialize_redacted`, field rules, and `Generator.buildFrom_redacted` for the
whole template.  The version property is read as a text, so the choice of the template is not
among them.
-/

namespace VnfPayload

/-! ## Redacted values -/

/-- A scalar becomes the mask of the log, and null stays null. -/
def PropertyValue.redacted : PropertyValue → PropertyValue
  | .null => .null
  | _ => .str PropertySet.maskText

theorem PropertyValue.isNull_redacted (v : PropertyValue) :
    v.redacted.isNull = v.isNull := by
  cases v <;> rfl

namespace Json

mutual

/-- The node with all scalars masked. -/
def redacted : Json → Json
  | .obj members => .obj (redactedMembers members)
  | .arr items => .arr (redactedItems items)
  | .null => .null
  | _ => .str PropertySet.maskText

/-- The items with all scalars masked. -/
def redactedItems : List Json → List Json
  | [] => []
  | x :: rest => redacted x :: redactedItems rest

/-- The members with all scalars masked. -/
def redactedMembers : List (String × Json) → List (String × Json)
  | [] => []
  | (k, x) :: rest => (k, redacted x) :: redactedMembers rest

end

theorem redactedItems_eq_map (items : List Json) :
    redactedItems items = items.map redacted := by
  induction items with
  | nil =>
      rfl
  | cons x items ih =>
      rw [redactedItems, ih, List.map_cons]

theorem redactedMembers_eq_mapValues (members : Entries Json) :
    redactedMembers members = Entries.mapValues (fun _ => redacted) members := by
  induction members with
  | nil =>
      rfl
  | cons e members ih =>
      obtain ⟨k, x⟩ := e
      rw [redactedMembers, ih]
      rfl

@[simp] theorem redacted_toJson (v : PropertyValue) : v.toJson.redacted = v.redacted.toJson := by
  cases v <;> rfl

@[simp] theorem kind_redacted (node : Json) : node.redacted.kind = node.kind := by
  cases node <;> rfl

@[simp] theorem redacted_empty (c : ContainerKind) : c.empty.redacted = c.empty := by
  cases c <;> rfl

/-! ## Slots -/

theorem admits_redacted_iff (s : Segment) (node : Json) :
    Admits s node.redacted ↔ Admits s node := by
  rw [Admits, Admits, kind_redacted]

theorem child?_redacted (s : Segment) (node : Json) :
    child? s node.redacted = (child? s node).map redacted := by
  cases s with
  | key k =>
      cases node with
      | obj members =>
          rw [redacted, child?, child?, redactedMembers_eq_mapValues, Entries.get?_mapValues]
      | _ =>
          rfl
  | index i =>
      cases node with
      | arr items =>
          rw [redacted, child?, child?, redactedItems_eq_map, List.getElem?_map]
      | _ =>
          rfl

theorem slot?_redacted (s : Segment) (node : Json) :
    slot? s node.redacted = (slot? s node).map redacted := by
  by_cases h : Admits s node
  · rw [slot?_of_admits h, slot?_of_admits ((admits_redacted_iff s node).mpr h),
      child?_redacted]
    cases child? s node <;> rfl
  · have h' : ¬ Admits s node.redacted := fun h' => h ((admits_redacted_iff s node).mp h')
    rw [slot?_of_not_admits h, slot?_of_not_admits h']
    rfl

theorem putAt_redacted (items : List Json) (i : Nat) (x : Json) :
    putAt (redactedItems items) i x.redacted = redactedItems (putAt items i x) := by
  fun_induction putAt items i x with
  | case1 =>
      rfl
  | case2 i x ih =>
      simp only [redactedItems, putAt, redacted]
      rw [← ih]
      rfl
  | case3 y items x =>
      rfl
  | case4 y items i x ih =>
      simp only [redactedItems, putAt, ih]

theorem insert_redacted (members : Entries Json) (k : String) (x : Json) :
    Entries.insert (redactedMembers members) k x.redacted =
      redactedMembers (Entries.insert members k x) := by
  rw [redactedMembers_eq_mapValues, redactedMembers_eq_mapValues]
  exact Entries.insert_mapValues (fun _ => redacted) members k x

theorem put_redacted (s : Segment) (node x : Json) :
    put s node.redacted x.redacted = (put s node x).redacted := by
  cases s with
  | key k =>
      cases node with
      | obj members =>
          simp only [put, redacted, insert_redacted]
      | _ =>
          simp only [put, redacted]
          rfl
  | index i =>
      cases node with
      | arr items =>
          simp only [put, redacted, putAt_redacted]
      | _ =>
          simp only [put, redacted]
          rw [← putAt_redacted]
          rfl

/-- An assignment takes the same way and meets the same obstacle. -/
theorem assign_redacted (v : PropertyValue) (depth : Nat) (route : List Segment) (node : Json) :
    assign v.redacted depth route node.redacted =
      ((assign v depth route node).1.redacted, (assign v depth route node).2) := by
  induction route generalizing depth node with
  | nil =>
      cases node <;> simp [assign, redacted]
  | cons s rest ih =>
      rw [assign_cons, assign_cons, slot?_redacted]
      cases slot? s node with
      | none =>
          simp
      | some x =>
          simp [ih, put_redacted]

end Json

/-! ## Documents and properties -/

namespace Document

/-- The document with all scalars masked. -/
def redacted (doc : Document) : Document :=
  Json.redactedMembers doc

theorem ofNode_redacted (node : Json) :
    ofNode node.redacted = (ofNode node).redacted := by
  cases node <;> rfl

/-- Properties with all scalars masked. -/
def redactedProperties (properties : List (String × PropertyValue)) :
    List (String × PropertyValue) :=
  Entries.mapValues (fun _ => PropertyValue.redacted) properties

theorem materialize_redacted (doc : Document) (path : String) (value : PropertyValue) :
    doc.redacted.materialize path value.redacted =
      ((doc.materialize path value).1.redacted, (doc.materialize path value).2) := by
  unfold materialize
  cases Path.parse path with
  | error fault =>
      rfl
  | ok route =>
      have hassign := Json.assign_redacted value 0 route (.obj doc)
      have hroot : Json.obj doc.redacted = (Json.obj doc).redacted := rfl
      simp only [hroot, hassign, ofNode_redacted]

theorem materializeAll_redacted (properties : List (String × PropertyValue)) (doc : Document) :
    doc.redacted.materializeAll (redactedProperties properties) =
      ((doc.materializeAll properties).1.redacted, (doc.materializeAll properties).2) := by
  induction properties generalizing doc with
  | nil =>
      rfl
  | cons e properties ih =>
      obtain ⟨path, value⟩ := e
      have hcons : redactedProperties ((path, value) :: properties) =
          (path, value.redacted) :: redactedProperties properties := rfl
      rw [hcons, materializeAll, materializeAll, materialize_redacted]
      rcases materialize_cases doc path value with ⟨after, -, hrun⟩ | ⟨-, e, hrun⟩
      · simp only [hrun, ih]
      · simp only [hrun]

end Document

namespace PropertySet

/-- The set with all scalars masked. -/
def redacted (s : PropertySet) : PropertySet where
  entries := Document.redactedProperties s.entries
  nodup := by
    rw [Document.redactedProperties, Entries.keys_mapValues]
    exact s.nodup

theorem getNonNull?_redacted (s : PropertySet) (key : String) :
    s.redacted.getNonNull? key = (s.getNonNull? key).map PropertyValue.redacted := by
  have hget : s.redacted.get? key = (s.get? key).map PropertyValue.redacted :=
    Entries.get?_mapValues (fun _ => PropertyValue.redacted) s.entries key
  rw [getNonNull?, getNonNull?, hget, Option.filter_map]
  congr 2
  funext v
  simp [PropertyValue.isNull_redacted]

theorem description_redacted (s : PropertySet) :
    s.redacted.description = s.description.map PropertyValue.redacted := by
  rw [description, description, getNonNull?_redacted, getNonNull?_redacted]
  cases s.getNonNull? "description" <;> rfl

/-- A prefix is a matter of the key. -/
theorem withPrefixes_redacted (s : PropertySet) (beginnings : List String) :
    s.redacted.withPrefixes beginnings =
      Document.redactedProperties (s.withPrefixes beginnings) := by
  simp only [withPrefixes, redacted, Document.redactedProperties, Entries.mapValues,
    List.filter_map, Function.comp_def]

end PropertySet

namespace Run

variable {α β γ : Type}

/-- The same run with another value. -/
def map (f : α → β) (r : Run α) : Run β :=
  ⟨r.events, r.outcome.map f⟩

theorem map_bind (f : β → γ) (r : Run α) (k : α → Run β) :
    (r >>= k).map f = r >>= fun a => (k a).map f := by
  obtain ⟨events, outcome⟩ := r
  cases outcome <;> rfl

theorem bind_map (f : α → β) (r : Run α) (k : β → Run γ) :
    r.map f >>= k = r >>= fun a => k (f a) := by
  obtain ⟨events, outcome⟩ := r
  cases outcome <;> rfl

end Run

/-- The context with all scalars masked. -/
def Context.redacted (ctx : Context) : Context where
  properties := ctx.properties.redacted
  lifecycleName := ctx.lifecycleName.map fun _ => PropertySet.maskText
  description := ctx.description.map PropertyValue.redacted

/-! ## The building of a document -/

namespace Generator

variable {ctx : Context}

theorem readSource_redacted (source : FieldSource) :
    readSource ctx.redacted source = (readSource ctx source).map Json.redacted := by
  cases source with
  | property key =>
      rw [readSource, readSource, Context.redacted, PropertySet.getNonNull?_redacted,
        Option.map_map, Option.map_map]
      congr 1
      funext v
      exact (Json.redacted_toJson v).symm
  | lifecycleName =>
      rw [readSource, readSource, Context.redacted, Option.map_map, Option.map_map]
      rfl
  | description =>
      rw [readSource, readSource, Context.redacted, Option.map_map, Option.map_map]
      congr 1
      funext v
      exact (Json.redacted_toJson v).symm

theorem applyField_redacted (doc : Document) (field : FieldRule) :
    applyField ctx.redacted doc.redacted field =
      (applyField ctx doc field).map Document.redacted := by
  cases field with
  | container name kind =>
      have hinsert := Json.insert_redacted doc name kind.empty
      rw [Json.redacted_empty] at hinsert
      simp only [applyField, Document.redacted, hinsert]
      rfl
  | optional name source =>
      simp only [applyField, readSource_redacted]
      cases readSource ctx (FieldRule.sourceOf name source) with
      | none =>
          rfl
      | some value =>
          simp only [Option.map_some, Document.redacted, Json.insert_redacted]
          rfl
  | required name source =>
      simp only [applyField, readSource_redacted]
      cases readSource ctx (FieldRule.sourceOf name source) with
      | none =>
          rfl
      | some value =>
          simp only [Option.map_some, Document.redacted, Json.insert_redacted]
          rfl

theorem applyFields_redacted (fields : List FieldRule) (doc : Document) :
    applyFields ctx.redacted doc.redacted fields =
      (applyFields ctx doc fields).map Document.redacted := by
  induction fields generalizing doc with
  | nil =>
      rfl
  | cons field fields ih =>
      rw [applyFields, applyFields, Run.map_bind, applyField_redacted, Run.bind_map]
      congr 1
      funext after
      exact ih after

theorem foldIn_redacted (doc : Document) (properties : List (String × PropertyValue)) :
    foldIn doc.redacted (Document.redactedProperties properties) =
      (foldIn doc properties).map Document.redacted := by
  rw [foldIn, foldIn, Document.materializeAll_redacted]
  obtain ⟨after, outcome⟩ := doc.materializeAll properties
  cases outcome <;> rfl

/-- **Building sees no scalars**: the events are the same on redacted data, an error is the
same, and a document is the redacted document. -/
theorem buildFrom_redacted (ctx : Context) (t : Template) :
    buildFrom ctx.redacted t = (buildFrom ctx t).map Document.redacted := by
  have hprefixes : ctx.redacted.properties.withPrefixes t.prefixes =
      Document.redactedProperties (ctx.properties.withPrefixes t.prefixes) :=
    ctx.properties.withPrefixes_redacted t.prefixes
  rw [buildFrom, buildFrom, Run.map_bind, hprefixes]
  have hfields : applyFields ctx.redacted [] t.fields =
      (applyFields ctx [] t.fields).map Document.redacted :=
    applyFields_redacted t.fields []
  rw [hfields, Run.bind_map]
  congr 1
  funext doc
  rw [foldIn_redacted]
  rfl

end Generator

end VnfPayload
