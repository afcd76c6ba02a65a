import VnfPayload.Proofs.Decoding
import VnfPayload.Proofs.Effect
import VnfPayload.Proofs.ReadObjects

/-!
# What a request is read as

The members of a request are looked at in a fixed order and not in that of the text: first the
properties, then the system properties, and only then the name.  So of several things that are
wrong with a request the same one is always reported.

`PropertySet.Reading` says what comes of a member that should be a property set, and
`Request.Reading` what comes of the whole request.  Property sets are read twice, and the second
reading never refuses what the first one accepted: `PropertySet.decode_eq_ok_iff`.

Main statement: `Request.parse_object`.
-/

namespace VnfPayload

/-! ## Property sets -/

/-- A value is that of a property, or it is an array or an object. -/
theorem Json.value_or_isContainer (j : Json) :
    (∃ v : PropertyValue, v.toJson = j) ∨ j.IsContainer := by
  cases j with
  | null =>
      exact Or.inl ⟨.null, rfl⟩
  | bool b =>
      exact Or.inl ⟨.bool b, rfl⟩
  | num n =>
      exact Or.inl ⟨.num n, rfl⟩
  | str s =>
      exact Or.inl ⟨.str s, rfl⟩
  | arr items =>
      exact Or.inr ⟨.sequence, rfl⟩
  | obj members =>
      exact Or.inr ⟨.mapping, rfl⟩

theorem PropertyValue.ofJson_of_isContainer {j : Json} (h : j.IsContainer) (key : String) :
    ofJson key j = .error (.unsupportedValueType key j.kind) := by
  cases hvalue : ofJson? j with
  | none =>
      simp [ofJson, hvalue]
  | some v =>
      obtain ⟨c, hc⟩ := h
      cases j <;> cases hvalue <;> cases c <;> cases hc

namespace PropertySet

/-- What comes of a member that should be a property set.  An absent one is the empty set, and
of the values that a property may not have the first one is reported. -/
inductive Reading : Option Json → Except Error PropertySet → Prop
  | absent :
      Reading none (.ok .empty)
  | notObject {j : Json} (h : ∀ members, j ≠ .obj members) :
      Reading (some j) (.error (.parse (.propertiesNotObject j.kind)))
  | structured {before after : Entries Json} {key : String} {x : Json}
      (hbefore : ∀ e ∈ before, ¬ e.2.IsContainer) (hx : x.IsContainer) :
      Reading (some (.obj (before ++ (key, x) :: after)))
        (.error (.unsupportedValueType key x.kind))
  | scalars (s : PropertySet) :
      Reading (some s.toJson) (.ok s)

/-- The set that a member is read as where it is looked at first. -/
def ofMember : Option Json → Except Error PropertySet
  | none => .ok .empty
  | some j => PropertySet.ofJson j

variable {member : Option Json} {result : Except Error PropertySet}

theorem ofMembers_of_structured {before after : Entries Json} {key : String} {x : Json}
    (hbefore : ∀ e ∈ before, ¬ e.2.IsContainer) (hx : x.IsContainer) :
    ofMembers (before ++ (key, x) :: after) = .error (.unsupportedValueType key x.kind) := by
  have hread : ((before ++ (key, x) :: after).mapM fun e => do
      let v ← PropertyValue.ofJson e.1 e.2
      return (e.1, v) : Except Error (List (String × PropertyValue))) =
        .error (.unsupportedValueType key x.kind) := by
    induction before with
    | nil =>
        rw [List.nil_append, List.mapM_cons, PropertyValue.ofJson_of_isContainer hx]
        rfl
    | cons e before ih =>
        obtain ⟨he, hrest⟩ := List.forall_mem_cons.mp hbefore
        obtain ⟨k, j⟩ := e
        obtain ⟨v, rfl⟩ := (Json.value_or_isContainer j).resolve_right he
        have hvalue : PropertyValue.ofJson k v.toJson = .ok v := by
          simp [PropertyValue.ofJson]
        rw [List.cons_append, List.mapM_cons, hvalue, ih hrest]
        rfl
  rw [ofMembers, hread]
  rfl

/-- Either all members are properties, or there is a first one that is none. -/
theorem scalars_or_structured (members : Entries Json) :
    (∃ es : Entries PropertyValue, members = es.map fun e => (e.1, e.2.toJson)) ∨
      ∃ before key x after, members = before ++ (key, x) :: after ∧
        (∀ e ∈ before, ¬ e.2.IsContainer) ∧ x.IsContainer := by
  induction members with
  | nil =>
      exact Or.inl ⟨[], rfl⟩
  | cons e members ih =>
      obtain ⟨k, j⟩ := e
      rcases Json.value_or_isContainer j with ⟨v, rfl⟩ | hj
      · rcases ih with ⟨es, rfl⟩ | ⟨before, key, x, after, rfl, hbefore, hx⟩
        · exact Or.inl ⟨(k, v) :: es, rfl⟩
        · refine Or.inr ⟨(k, v.toJson) :: before, key, x, after, rfl, ?_, hx⟩
          exact List.forall_mem_cons.mpr ⟨Json.not_isContainer_toJson v, hbefore⟩
      · exact Or.inr ⟨[], k, j, members, rfl, nofun, hj⟩

theorem Reading.ofMember_eq (h : Reading member result) : ofMember member = result := by
  cases h with
  | absent =>
      rfl
  | @notObject j hne =>
      cases j with
      | obj members =>
          exact absurd rfl (hne members)
      | _ =>
          rfl
  | structured hbefore hx =>
      exact ofMembers_of_structured hbefore hx
  | scalars s =>
      exact s.ofJson_toJson

/-- A member that repeats no key is read in one of these ways. -/
theorem exists_reading (h : ∀ j, member = some j → j.WellFormed) :
    ∃ result, Reading member result := by
  cases member with
  | none =>
      exact ⟨_, .absent⟩
  | some j =>
      by_cases hobj : ∃ members, j = .obj members
      · obtain ⟨members, rfl⟩ := hobj
        rcases scalars_or_structured members with ⟨es, rfl⟩ | ⟨before, key, x, after, rfl, hb, hx⟩
        · have hnodup : (Entries.keys es).Nodup := by
            have hkeys : (Entries.keys (Entries.mapValues (fun _ v => v.toJson) es)).Nodup :=
              ((Json.wellFormed_obj_iff _).mp (h _ rfl)).1
            rwa [Entries.keys_mapValues] at hkeys
          exact ⟨_, .scalars ⟨es, hnodup⟩⟩
        · exact ⟨_, .structured hb hx⟩
      · exact ⟨_, .notObject fun members heq => hobj ⟨members, heq⟩⟩

/-- Within a request a set is read again, with the same result. -/
theorem decode_eq_ok_iff (j : Json) (s : PropertySet) :
    decode j = .ok s ↔ PropertySet.ofJson j = .ok s := by
  cases j with
  | obj members =>
      rw [decode, PropertySet.ofJson]
      cases ofMembers members with
      | ok s' =>
          constructor
          · intro h
            cases h
            rfl
          · intro h
            cases h
            rfl
      | error e =>
          constructor
          · intro h
            cases h
          · intro h
            cases h
  | _ =>
      constructor
      · intro h
        cases h
      · intro h
        cases h

end PropertySet

/-! ## Members of a record -/

namespace Decode

/-- If members are refused for one fault alone then it is the fault of the record. -/
theorem checkAll_of_error {c : String → Json → Except ParseFault Unit} {fault : ParseFault}
    {members : Entries Json}
    (h : ∀ e ∈ members, c e.1 e.2 = .ok () ∨ c e.1 e.2 = .error fault)
    (hexists : ∃ e ∈ members, c e.1 e.2 = .error fault) :
    checkAll c members = .error fault := by
  induction members with
  | nil =>
      obtain ⟨e, he, -⟩ := hexists
      cases he
  | cons e members ih =>
      obtain ⟨hfirst, hrest⟩ := List.forall_mem_cons.mp h
      rcases hfirst with hok | herror
      · rw [checkAll, hok]
        refine ih hrest ?_
        obtain ⟨e', he', herror⟩ := hexists
        rcases List.mem_cons.mp he' with rfl | hmem
        · cases hok.symm.trans herror
        · exact ⟨e', hmem, herror⟩
      · rw [checkAll, herror]
        rfl

end Decode

/-! ## Requests -/

namespace Request

/-- What comes of the lifecycle name.  Null stands for none. -/
inductive NameReading : Option Json → Except ParseFault (Option String) → Prop
  | absent :
      NameReading none (.ok none)
  | null :
      NameReading (some .null) (.ok none)
  | text (name : String) :
      NameReading (some (.str name)) (.ok (some name))
  | other {j : Json} (hnull : j ≠ .null) (htext : ∀ name, j ≠ .str name) :
      NameReading (some j) (.error .wrongType)

/-- What comes of a request by its members: the first of three things that goes wrong is
reported.  Members of other names have no influence. -/
inductive Reading (members : Entries Json) : Except Error Request → Prop
  | properties {e : Error}
      (h : PropertySet.Reading (Entries.get? members "properties") (.error e)) :
      Reading members (.error e)
  | systemProperties {s : PropertySet} {e : Error}
      (h : PropertySet.Reading (Entries.get? members "properties") (.ok s))
      (h' : PropertySet.Reading (Entries.get? members "systemProperties") (.error e)) :
      Reading members (.error e)
  | lifecycleName {s s' : PropertySet} {fault : ParseFault}
      (h : PropertySet.Reading (Entries.get? members "properties") (.ok s))
      (h' : PropertySet.Reading (Entries.get? members "systemProperties") (.ok s'))
      (hname : NameReading (Entries.get? members "lifecycleName") (.error fault)) :
      Reading members (.error (.parse fault))
  | request {s s' : PropertySet} {name : Option String}
      (h : PropertySet.Reading (Entries.get? members "properties") (.ok s))
      (h' : PropertySet.Reading (Entries.get? members "systemProperties") (.ok s'))
      (hname : NameReading (Entries.get? members "lifecycleName") (.ok name)) :
      Reading members (.ok ⟨name, s, s'⟩)

variable {members : Entries Json} {result : Except Error Request}

theorem checkProperties_obj (members : Entries Json) (name : String) :
    checkProperties (.obj members) name =
      (PropertySet.ofMember (Entries.get? members name)).map fun _ => () := by
  rw [checkProperties, Json.member?]
  cases Entries.get? members name <;> rfl

/-- Looked at again, a set is accepted just where it was accepted before. -/
theorem withDefault_decode_eq_ok_iff (members : Entries Json) (name : String) (s : PropertySet) :
    Decode.withDefault members name .empty PropertySet.decode = .ok s ↔
      PropertySet.ofMember (Entries.get? members name) = .ok s := by
  rw [Decode.withDefault]
  cases Entries.get? members name with
  | none =>
      simp [PropertySet.ofMember]
  | some j =>
      exact PropertySet.decode_eq_ok_iff j s

/-- The name that a member is read as. -/
def nameOfMember : Option Json → Except ParseFault (Option String)
  | none => .ok none
  | some j => Decode.optional Decode.text j

theorem NameReading.nameOfMember_eq {member : Option Json}
    {name : Except ParseFault (Option String)} (h : NameReading member name) :
    nameOfMember member = name := by
  cases h with
  | absent =>
      rfl
  | null =>
      rfl
  | text name =>
      rfl
  | @other j hnull htext =>
      cases j with
      | null =>
          exact absurd rfl hnull
      | str name =>
          exact absurd rfl (htext name)
      | _ =>
          rfl

theorem exists_nameReading (member : Option Json) : ∃ name, NameReading member name := by
  cases member with
  | none =>
      exact ⟨_, .absent⟩
  | some j =>
      by_cases hnull : j = .null
      · subst hnull
        exact ⟨_, .null⟩
      · by_cases htext : ∃ name, j = .str name
        · obtain ⟨name, rfl⟩ := htext
          exact ⟨_, .text name⟩
        · exact ⟨_, .other hnull fun name heq => htext ⟨name, heq⟩⟩

theorem withDefault_name (members : Entries Json) :
    Decode.withDefault members "lifecycleName" none (Decode.optional Decode.text) =
      nameOfMember (Entries.get? members "lifecycleName") := by
  rw [Decode.withDefault]
  cases Entries.get? members "lifecycleName" <;> rfl

section

variable (hmembers : (Entries.keys members).Nodup) {s s' : PropertySet}
  {name : Except ParseFault (Option String)}

include hmembers

/-- Members that were accepted as property sets pass their checks, and others are not checked. -/
theorem checkMember_of_ne
    (h : PropertySet.ofMember (Entries.get? members "properties") = .ok s)
    (h' : PropertySet.ofMember (Entries.get? members "systemProperties") = .ok s')
    {key : String} {j : Json} (hj : (key, j) ∈ members) (hne : key ≠ "lifecycleName") :
    checkMember key j = .ok () := by
  have hset : ∀ {s : PropertySet}, PropertySet.ofMember (Entries.get? members key) = .ok s →
      Decode.check PropertySet.decode j = .ok () := by
    intro s hread
    rw [Entries.get?_of_mem hmembers hj] at hread
    exact Decode.check_of_ok ((PropertySet.decode_eq_ok_iff j s).mpr hread)
  unfold checkMember
  split
  · exact absurd rfl hne
  · exact hset h
  · exact hset h'
  · rfl

theorem checkMember_lifecycleName
    (hname : nameOfMember (Entries.get? members "lifecycleName") = name) {j : Json}
    (hj : ("lifecycleName", j) ∈ members) :
    checkMember "lifecycleName" j = name.map fun _ => () := by
  rw [Entries.get?_of_mem hmembers hj] at hname
  exact congrArg (Except.map fun _ => ()) hname

/-- If both sets are accepted then only the name can be refused. -/
theorem checkAll_checkMember
    (h : PropertySet.ofMember (Entries.get? members "properties") = .ok s)
    (h' : PropertySet.ofMember (Entries.get? members "systemProperties") = .ok s')
    (hname : nameOfMember (Entries.get? members "lifecycleName") = name) :
    Decode.checkAll checkMember members = name.map fun _ => () := by
  cases name with
  | ok name =>
      refine Decode.checkAll_of_forall ?_
      rintro ⟨key, j⟩ hj
      by_cases hkey : key = "lifecycleName"
      · subst hkey
        exact checkMember_lifecycleName hmembers hname hj
      · exact checkMember_of_ne hmembers h h' hj hkey
  | error fault =>
      have hfault : ∀ {j : Json}, ("lifecycleName", j) ∈ members →
          checkMember "lifecycleName" j = .error fault :=
        checkMember_lifecycleName hmembers hname
      obtain ⟨j, hj⟩ : ∃ j, ("lifecycleName", j) ∈ members := by
        cases hget : Entries.get? members "lifecycleName" with
        | none =>
            rw [hget] at hname
            cases hname
        | some j =>
            exact ⟨j, Entries.mem_of_get? hget⟩
      refine Decode.checkAll_of_error ?_ ⟨_, hj, hfault hj⟩
      rintro ⟨key, j⟩ hj
      by_cases hkey : key = "lifecycleName"
      · subst hkey
        exact Or.inr (hfault hj)
      · exact Or.inl (checkMember_of_ne hmembers h h' hj hkey)

theorem decode_obj
    (h : PropertySet.ofMember (Entries.get? members "properties") = .ok s)
    (h' : PropertySet.ofMember (Entries.get? members "systemProperties") = .ok s')
    (hname : nameOfMember (Entries.get? members "lifecycleName") = name) :
    decode (.obj members) = name.map fun name => ⟨name, s, s'⟩ := by
  rw [decode, Decode.record, checkAll_checkMember hmembers h h' hname]
  cases name with
  | ok name =>
      simp only [Except.map, bind, Except.bind, pure, Except.pure, withDefault_name, hname,
        (withDefault_decode_eq_ok_iff members _ _).mpr h,
        (withDefault_decode_eq_ok_iff members _ _).mpr h']
  | error fault =>
      rfl

end

theorem Reading.ofJson_eq (hmembers : (Entries.keys members).Nodup)
    (h : Reading members result) :
    Request.ofJson (.obj members) = result := by
  cases h with
  | properties h =>
      rw [Request.ofJson, checkProperties_obj, h.ofMember_eq]
      rfl
  | systemProperties h h' =>
      rw [Request.ofJson, checkProperties_obj, checkProperties_obj, h.ofMember_eq, h'.ofMember_eq]
      rfl
  | lifecycleName h h' hname =>
      rw [Request.ofJson, checkProperties_obj, checkProperties_obj, h.ofMember_eq, h'.ofMember_eq,
        decode_obj hmembers h.ofMember_eq h'.ofMember_eq hname.nameOfMember_eq]
      rfl
  | request h h' hname =>
      rw [Request.ofJson, checkProperties_obj, checkProperties_obj, h.ofMember_eq, h'.ofMember_eq,
        decode_obj hmembers h.ofMember_eq h'.ofMember_eq hname.nameOfMember_eq]
      rfl

/-- Members without repeated keys are read in one of these ways. -/
theorem exists_reading (hmembers : (Json.obj members).WellFormed) :
    ∃ result, Reading members result := by
  have hmember : ∀ key j, Entries.get? members key = some j → j.WellFormed := fun key j hget =>
    ((Json.wellFormed_obj_iff members).mp hmembers).2 _ (Entries.mem_of_get? hget)
  obtain ⟨first, hfirst⟩ := PropertySet.exists_reading (hmember "properties")
  obtain ⟨second, hsecond⟩ := PropertySet.exists_reading (hmember "systemProperties")
  obtain ⟨name, hname⟩ := exists_nameReading (Entries.get? members "lifecycleName")
  cases first with
  | error e =>
      exact ⟨_, .properties hfirst⟩
  | ok s =>
      cases second with
      | error e =>
          exact ⟨_, .systemProperties hfirst hsecond⟩
      | ok s' =>
          cases name with
          | error fault =>
              exact ⟨_, .lifecycleName hfirst hsecond hname⟩
          | ok name =>
              exact ⟨_, .request hfirst hsecond hname⟩

/-- An object is read in a single way, that of its members. -/
theorem parse_eq_iff_reading {text : String} (hread : Json.read? text = some (.obj members)) :
    Request.parse text = result ↔ Reading members result := by
  have hmembers : (Json.obj members).WellFormed := Json.wellFormed_of_read? hread
  have hnodup : (Entries.keys members).Nodup :=
    ((Json.wellFormed_obj_iff members).mp hmembers).1
  have hparse : Request.parse text = Request.ofJson (.obj members) := by
    rw [Request.parse, hread]
  obtain ⟨given, hgiven⟩ := exists_reading hmembers
  rw [hparse]
  constructor
  · rintro rfl
    rwa [hgiven.ofJson_eq hnodup]
  · exact Reading.ofJson_eq hnodup

/-- **Every object is read in exactly one way**: its repeated keys are merged, and then it is up
to the properties, the system properties and the name, in this order. -/
theorem parse_object (text : String) :
    (Json.read? text = none → Request.parse text = .error (.parse .malformed)) ∧
    (∀ members, Json.read? text = some (.obj members) →
      (∃ raw rest, Json.Spelled (.obj raw) text.toList rest ∧ Json.skipBlanks rest = [] ∧
        Json.memberPairs? text = some (Json.mergedMembers raw) ∧
        Entries.keys members = (Entries.keys raw).eraseDups ∧
        ∀ key, Entries.get? members key = (Entries.get? raw.reverse key).map Json.merged) ∧
      ∀ result, Request.parse text = result ↔ Reading members result) ∧
    -- A set that is accepted at first is never refused when it is read again.
    ∀ j s, PropertySet.ofJson j = .ok s → PropertySet.decode j = .ok s := by
  refine ⟨fun hread => ?_, fun members hread => ⟨?_, fun _ => parse_eq_iff_reading hread⟩,
    fun j s => (PropertySet.decode_eq_ok_iff j s).mpr⟩
  · rw [Request.parse, hread]
  · obtain ⟨raw, rest, hraw, hend, hpairs, rfl⟩ := Json.exists_memberPairs_of_read? hread
    exact ⟨raw, rest, hraw, hend, hpairs, Json.keys_ofPairs_mergedMembers raw,
      Json.get?_ofPairs_mergedMembers raw⟩

/-- A text in which the name stands first, before the properties that it gives twice. -/
def severalFaultsText : String :=
  "\x7b\"lifecycleName\":true,\"properties\":[],\"x\":[]," ++
    "\"systemProperties\":\x7b\"b\":[],\"a\":[],\"b\":null\x7d," ++
    "\"properties\":\x7b\"k\":null\x7d\x7d"

/-- What the text gives: within the system properties, too, the last value counts. -/
def severalFaultsMembers : Entries Json :=
  [("lifecycleName", .bool true), ("properties", .obj [("k", .null)]), ("x", .arr []),
    ("systemProperties", .obj [("b", .null), ("a", .arr [])])]

/-- The properties count as they are given last, and the system properties before the name. -/
theorem parse_object_several_faults :
    Request.parse "\x7b" = .error (.parse .malformed) ∧
    Json.read? severalFaultsText = some (.obj severalFaultsMembers) ∧
    Request.parse severalFaultsText = .error (.unsupportedValueType "a" .sequence) := by
  have hread : Json.read? severalFaultsText = some (.obj severalFaultsMembers) := by
    decide +kernel
  have hproperties : PropertySet.Reading (Entries.get? severalFaultsMembers "properties")
      (.ok ⟨[("k", .null)], by decide⟩) :=
    .scalars ⟨[("k", .null)], by decide⟩
  have hsystem : PropertySet.Reading (Entries.get? severalFaultsMembers "systemProperties")
      (.error (.unsupportedValueType "a" .sequence)) :=
    @PropertySet.Reading.structured [("b", .null)] [] "a" (.arr [])
      (by simpa using Json.not_isContainer_null) ⟨.sequence, rfl⟩
  refine ⟨(parse_object _).1 (by decide +kernel), hread, ?_⟩
  exact (((parse_object _).2.1 _ hread).2 _).mpr (.systemProperties hproperties hsystem)

end Request

end VnfPayload
