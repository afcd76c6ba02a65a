import VnfPayload.Codec
import VnfPayload.Config
import VnfPayload.Proofs.Flattening
import VnfPayload.Request

/-!
# Decoders read what is written

`Decode.Restores` says of a decoder that it gives back every value that was written as JSON.
The decoders of this library are put together from a few parts, and there is one law for each
part: names, lists, optional values and records.  A record is read member by member, so what
it needs is that each member that was written passes the check of its name, and that a member
that was left out has the value that stands for its absence.

Main statements: `Template.restores`, `Config.restores`, `Diagnostic.restores` and
`Request.ofJson_toJson`.
-/

namespace VnfPayload

namespace Decode

variable {α : Type} {f : Json → Except ParseFault α} {g : α → Json}

/-- The decoder gives back every value that is written. -/
def Restores (f : Json → Except ParseFault α) (g : α → Json) : Prop :=
  ∀ a, f (g a) = .ok a

theorem restores_text : Restores text Json.str := fun _ => rfl

theorem restores_truth : Restores truth Json.bool := fun _ => rfl

/-- A name is found again if no earlier one of the list is the same. -/
theorem restores_named {all : List α} {name : α → String}
    (h : ∀ a, (all.find? fun b => name b = name a) = some a) :
    Restores (named all name) fun a => .str (name a) := by
  intro a
  simp only [named, variant, bind, Except.bind, h]
  rfl

theorem Restores.items (h : Restores f g) :
    Restores (items f) fun as => .arr (as.map g) := by
  intro as
  rw [Decode.items]
  induction as with
  | nil =>
      rfl
  | cons a as ih =>
      rw [List.map_cons, List.mapM_cons, h a, ih]
      rfl

/-- A value that is not written as null is not taken for an absent one. -/
theorem Restores.optional (h : Restores f g) {a : α} (hne : g a ≠ .null) :
    Decode.optional f (g a) = .ok (some a) := by
  have hread := h a
  unfold Decode.optional
  split
  next hnull =>
    exact absurd hnull hne
  next =>
    rw [hread]
    rfl

/-! ## Records -/

variable {members : Entries Json} {name : String} {j : Json} {a : α}

theorem check_of_ok (h : f j = .ok a) : check f j = .ok () := by
  rw [check, h]
  rfl

theorem checkAll_of_forall {c : String → Json → Except ParseFault Unit}
    (h : ∀ e ∈ members, c e.1 e.2 = .ok ()) : checkAll c members = .ok () := by
  induction members with
  | nil =>
      rfl
  | cons e members ih =>
      obtain ⟨hfirst, hrest⟩ := List.forall_mem_cons.mp h
      rw [checkAll, hfirst]
      exact ih hrest

theorem record_obj {c : String → Json → Except ParseFault Unit} (names : List String)
    (needed : Nat) (h : ∀ e ∈ members, c e.1 e.2 = .ok ()) :
    record names needed c (.obj members) = .ok members := by
  rw [record, checkAll_of_forall h]
  rfl

theorem required_of_get? (hget : Entries.get? members name = some j) (h : f j = .ok a) :
    required members name f = .ok a := by
  rw [required, hget]
  exact h

theorem withDefault_of_get? {absent : α} (hget : Entries.get? members name = some j)
    (h : f j = .ok a) :
    withDefault members name absent f = .ok a := by
  rw [withDefault, hget]
  exact h

theorem withDefault_of_absent {absent : α} (hget : Entries.get? members name = none) :
    withDefault members name absent f = .ok absent := by
  rw [withDefault, hget]

end Decode

open Decode (Restores)

/-! ## Templates -/

theorem FieldSource.restores : Restores FieldSource.ofJson FieldSource.toJson := by
  intro source
  cases source with
  | property key =>
      rfl
  | lifecycleName =>
      rfl
  | description =>
      rfl

theorem FieldSource.toJson_ne_null (source : FieldSource) : source.toJson ≠ .null := by
  cases source <;> exact nofun

namespace FieldRule

theorem restores_kind : Restores kindOfJson fun kind => .str kind.name :=
  Decode.restores_named fun kind => by cases kind <;> rfl

/-- The body of a copied field, with or without a source. -/
theorem copiedOfBody_sourceMembers (rule : String → Option FieldSource → FieldRule)
    (name : String) (source : Option FieldSource) :
    copiedOfBody rule (some (.obj (("name", .str name) :: sourceMembers source))) =
      .ok (rule name source) := by
  cases source with
  | none =>
      rfl
  | some source =>
      have hsource := FieldSource.restores.optional source.toJson_ne_null
      have hchecks : Decode.checkAll checkCopied
          (("name", .str name) :: sourceMembers (some source)) = .ok () := by
        refine Decode.checkAll_of_forall ?_
        simp [sourceMembers, checkCopied, Decode.check_of_ok (Decode.restores_text name),
          Decode.check_of_ok hsource]
      have hfrom : Decode.withDefault (("name", .str name) :: sourceMembers (some source))
          "from" none (Decode.optional FieldSource.ofJson) = .ok (some source) :=
        Decode.withDefault_of_get? rfl hsource
      rw [copiedOfBody]
      simp only [Decode.body, bind, Except.bind, hchecks, hfrom]
      rfl

theorem restores : Restores FieldRule.ofJson FieldRule.toJson := by
  intro field
  cases field with
  | container name kind =>
      have hkind := restores_kind kind
      have hchecks : Decode.checkAll checkContainer
          [("name", .str name), ("kind", .str kind.name)] = .ok () := by
        refine Decode.checkAll_of_forall ?_
        simp [checkContainer, Decode.check_of_ok (Decode.restores_text name),
          Decode.check_of_ok hkind]
      have hbody : containerOfBody
          (some (.obj [("name", .str name), ("kind", .str kind.name)])) =
          .ok (.container name kind) := by
        have hread : Decode.required [("name", .str name), ("kind", .str kind.name)] "kind"
            kindOfJson = .ok kind :=
          Decode.required_of_get? rfl hkind
        rw [containerOfBody]
        simp only [Decode.body, bind, Except.bind, hchecks, hread]
        rfl
      exact hbody
  | optional name source =>
      exact copiedOfBody_sourceMembers .optional name source
  | required name source =>
      exact copiedOfBody_sourceMembers .required name source

end FieldRule

namespace Template

theorem restores_operation : Restores operationOfJson fun op => .str op.messageType :=
  Decode.restores_named fun op => by cases op <;> rfl

theorem restores : Restores Template.ofJson Template.toJson := by
  intro t
  have hoperation := restores_operation t.operation
  have hversion := Decode.restores_text t.version
  have hfields := FieldRule.restores.items t.fields
  have hprefixes := Decode.restores_text.items t.prefixes
  rw [ofJson, toJson, Decode.record_obj]
  · simp only [bind, Except.bind]
    rw [Decode.required_of_get? rfl hoperation, Decode.required_of_get? rfl hversion,
      Decode.required_of_get? rfl hfields, Decode.withDefault_of_get? rfl hprefixes]
    rfl
  · simp [checkMember, Decode.check_of_ok hoperation, Decode.check_of_ok hversion,
      Decode.check_of_ok hfields, Decode.check_of_ok hprefixes]

end Template

/-! ## Settings and findings -/

namespace Config

theorem restores : Restores Config.ofJson Config.toJson := by
  intro c
  have hversion := Decode.restores_text c.defaultVersion
  have hkey := Decode.restores_text c.versionKey
  have hkeys := Decode.restores_text c.sensitiveKeys
  have hindented := Decode.restores_truth c.indented
  rw [ofJson, toJson, Decode.record_obj]
  · simp only [bind, Except.bind]
    rw [Decode.withDefault_of_get? rfl hversion, Decode.withDefault_of_get? rfl hkey,
      Decode.withDefault_of_get? rfl hkeys, Decode.withDefault_of_get? rfl hindented]
    rfl
  · simp [checkMember, Decode.check_of_ok hversion, Decode.check_of_ok hkey,
      Decode.check_of_ok hkeys, Decode.check_of_ok hindented]

end Config

theorem Severity.restores : Restores Severity.ofJson fun severity => .str severity.name :=
  Decode.restores_named fun severity => by cases severity <;> rfl

namespace Diagnostic

theorem restores : Restores Diagnostic.ofJson Diagnostic.toJson := by
  intro d
  obtain ⟨severity, code, path, message⟩ := d
  have hseverity := Severity.restores severity
  have hcode := Decode.restores_text code
  have hmessage := Decode.restores_text message
  cases path with
  | none =>
      rw [ofJson, toJson, Decode.record_obj]
      · simp only [bind, Except.bind]
        rw [Decode.required_of_get? rfl hseverity, Decode.required_of_get? rfl hcode,
          Decode.withDefault_of_absent rfl, Decode.required_of_get? rfl hmessage]
        rfl
      · simp [checkMember, Decode.check_of_ok hseverity, Decode.check_of_ok hcode,
          Decode.check_of_ok hmessage]
  | some path =>
      have hpath : Decode.optional Decode.text (.str path) = .ok (some path) :=
        Decode.restores_text.optional nofun
      rw [ofJson, toJson, Decode.record_obj]
      · simp only [bind, Except.bind]
        rw [Decode.required_of_get? rfl hseverity, Decode.required_of_get? rfl hcode,
          Decode.withDefault_of_get? rfl hpath, Decode.required_of_get? rfl hmessage]
        rfl
      · simp [checkMember, Decode.check_of_ok hseverity, Decode.check_of_ok hcode,
          Decode.check_of_ok hpath, Decode.check_of_ok hmessage]

end Diagnostic

/-! ## Requests -/

namespace PropertySet

/-- Members that are all scalars or null are inserted one after the other. -/
theorem ofMembers_scalars (pairs : List (String × PropertyValue)) :
    ofMembers (pairs.map fun e => (e.1, e.2.toJson)) = .ok (ofPairs pairs) := by
  have hread : ((pairs.map fun e => (e.1, e.2.toJson)).mapM fun e => do
      let v ← PropertyValue.ofJson e.1 e.2
      return (e.1, v) : Except Error (List (String × PropertyValue))) = .ok pairs := by
    induction pairs with
    | nil =>
        rfl
    | cons e pairs ih =>
        have hvalue : PropertyValue.ofJson e.1 e.2.toJson = .ok e.2 := by
          simp [PropertyValue.ofJson]
        rw [List.map_cons, List.mapM_cons, hvalue, ih]
        rfl
  rw [ofMembers, hread]
  rfl

/-- The entries of a set make the same set again. -/
theorem ofPairs_entries (s : PropertySet) : ofPairs s.entries = s := by
  apply ext
  rw [entries_ofPairs, Entries.ofPairs_eq_self s.nodup]

/-- The members that a set is written with are its properties again. -/
theorem ofMembers_toJson (s : PropertySet) :
    ofMembers (s.entries.map fun e => (e.1, e.2.toJson)) = .ok s := by
  rw [ofMembers_scalars, ofPairs_entries]

theorem ofJson_toJson (s : PropertySet) : PropertySet.ofJson s.toJson = .ok s :=
  ofMembers_toJson s

theorem restores : Restores PropertySet.decode PropertySet.toJson := by
  intro s
  have hread := ofMembers_toJson s
  simp only [decode, toJson, hread]

theorem eq_empty_of_isEmpty {s : PropertySet} (h : s.isEmpty = true) : s = .empty :=
  ext (List.isEmpty_iff.mp h)

end PropertySet

namespace Request

/-- The members that a request is written with. -/
def members (r : Request) : Entries Json :=
  Document.ofNode r.toJson

theorem toJson_eq (r : Request) : r.toJson = .obj r.members := rfl

theorem get?_lifecycleName (r : Request) :
    Entries.get? r.members "lifecycleName" = r.lifecycleName.map Json.str := by
  obtain ⟨lifecycleName, properties, systemProperties⟩ := r
  cases lifecycleName with
  | none =>
      cases hempty : systemProperties.isEmpty <;>
        simp [members, toJson, Document.ofNode, Entries.get?, hempty]
  | some name =>
      rfl

theorem get?_properties (r : Request) :
    Entries.get? r.members "properties" = some r.properties.toJson := by
  obtain ⟨lifecycleName, properties, systemProperties⟩ := r
  cases lifecycleName <;> rfl

theorem get?_systemProperties (r : Request) :
    Entries.get? r.members "systemProperties" =
      if r.systemProperties.isEmpty then none else some r.systemProperties.toJson := by
  obtain ⟨lifecycleName, properties, systemProperties⟩ := r
  cases lifecycleName <;> cases hempty : systemProperties.isEmpty <;>
    simp [members, toJson, Document.ofNode, Entries.get?, hempty]

/-- The members that a request can be written with. -/
theorem eq_of_mem_members {r : Request} {e : String × Json} (he : e ∈ r.members) :
    (∃ name, e = ("lifecycleName", .str name)) ∨
      e = ("properties", r.properties.toJson) ∨
      e = ("systemProperties", r.systemProperties.toJson) := by
  obtain ⟨lifecycleName, properties, systemProperties⟩ := r
  rcases List.mem_append.mp he with hname | hrest
  · cases lifecycleName with
    | none =>
        cases hname
    | some name =>
        exact Or.inl ⟨name, List.mem_singleton.mp hname⟩
  · rcases List.mem_cons.mp hrest with hproperties | hsystem
    · exact Or.inr (Or.inl hproperties)
    · split at hsystem
      · cases hsystem
      · exact Or.inr (Or.inr (List.mem_singleton.mp hsystem))

theorem nodup_keys_members (r : Request) : (Entries.keys r.members).Nodup := by
  obtain ⟨lifecycleName, properties, systemProperties⟩ := r
  cases lifecycleName <;> cases hempty : systemProperties.isEmpty <;>
    simp [members, toJson, Document.ofNode, hempty]

/-- Every member that is written passes the check of its name. -/
theorem checkMember_of_mem_members {r : Request} {e : String × Json} (he : e ∈ r.members) :
    checkMember e.1 e.2 = .ok () := by
  rcases eq_of_mem_members he with ⟨name, rfl⟩ | rfl | rfl
  · rfl
  · exact Decode.check_of_ok (PropertySet.restores r.properties)
  · exact Decode.check_of_ok (PropertySet.restores r.systemProperties)

theorem restores : Restores Request.decode Request.toJson := by
  intro r
  have hname : Decode.withDefault r.members "lifecycleName" none
      (Decode.optional Decode.text) = .ok r.lifecycleName := by
    rw [Decode.withDefault, get?_lifecycleName]
    cases r.lifecycleName <;> rfl
  have hproperties : Decode.withDefault r.members "properties" .empty PropertySet.decode =
      .ok r.properties :=
    Decode.withDefault_of_get? r.get?_properties (PropertySet.restores r.properties)
  have hsystem : Decode.withDefault r.members "systemProperties" .empty
      PropertySet.decode = .ok r.systemProperties := by
    rw [Decode.withDefault, get?_systemProperties]
    cases hempty : r.systemProperties.isEmpty with
    | true =>
        rw [PropertySet.eq_empty_of_isEmpty hempty]
        rfl
    | false =>
        exact PropertySet.restores r.systemProperties
  rw [decode, toJson_eq, Decode.record_obj _ _ fun e he => checkMember_of_mem_members he]
  simp only [bind, Except.bind, hname, hproperties, hsystem]
  rfl

/-- The property sets that are looked at before anything else is read are as they should. -/
theorem checkProperties_of_get? {r : Request} {name : String}
    (h : ∀ j, Entries.get? r.members name = some j → ∃ s : PropertySet, j = s.toJson) :
    checkProperties r.toJson name = .ok () := by
  rw [checkProperties, toJson_eq, Json.member?]
  cases hget : Entries.get? r.members name with
  | none =>
      rfl
  | some j =>
      obtain ⟨s, rfl⟩ := h j hget
      dsimp only
      rw [PropertySet.ofJson_toJson]
      rfl

theorem ofJson_toJson (r : Request) : Request.ofJson r.toJson = .ok r := by
  have hproperties : checkProperties r.toJson "properties" = .ok () := by
    refine checkProperties_of_get? fun j hj => ⟨r.properties, ?_⟩
    exact Option.some.inj (hj.symm.trans r.get?_properties)
  have hsystem : checkProperties r.toJson "systemProperties" = .ok () := by
    refine checkProperties_of_get? fun j hj => ⟨r.systemProperties, ?_⟩
    rw [get?_systemProperties] at hj
    split at hj
    · cases hj
    · exact (Option.some.inj hj).symm
  rw [ofJson, hproperties, hsystem, restores r]
  rfl

end Request

end VnfPayload
