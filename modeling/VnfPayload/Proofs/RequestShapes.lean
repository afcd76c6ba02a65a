import VnfPayload.Proofs.RequestReading

/-!
# Requests as objects and as arrays

A request may be written as an object or as an array of its three members.  Either both are
accepted, with the same request, or both are refused.  But the property sets of an array are not
looked at first, since they stand under no names.  So an array with a structured property is
refused as a text that cannot be read, where the object is refused for the property.

`Request.ofJson_arr` is why the two agree as far as they do: after the first look at the property
sets they are read alike.

Main statement: `Request.parse_shapes`.
-/

namespace VnfPayload

/-- An object with an array or an object among its values. -/
def Json.Structured (j : Json) : Prop :=
  ∃ members, j = .obj members ∧ ∃ e ∈ members, e.2.IsContainer

theorem PropertySet.not_structured_toJson (t : PropertySet) : ¬ t.toJson.Structured := by
  rintro ⟨members, hobj, e, he, hcontainer⟩
  cases hobj
  obtain ⟨e', -, rfl⟩ := List.mem_map.mp he
  exact Json.not_isContainer_toJson e'.2 hcontainer

/-- What is refused is not the JSON form of a property set. -/
theorem PropertySet.Reading.ne_toJson {j : Json} {e : Error} (h : Reading (some j) (.error e))
    (t : PropertySet) :
    j ≠ t.toJson := by
  rintro rfl
  cases h.ofMember_eq.symm.trans t.ofJson_toJson

/-- A structured object is refused for one of its values, and what is not an object as such. -/
theorem PropertySet.Reading.structured_or {j : Json} {e : Error} (h : Reading (some j) (.error e)) :
    (j.Structured ∧ ∃ key found, e = .unsupportedValueType key found) ∨
      (¬ j.Structured ∧ ∃ fault, e = .parse fault) := by
  cases h with
  | notObject hne =>
      refine Or.inr ⟨?_, _, rfl⟩
      rintro ⟨members, hobj, -⟩
      exact hne members hobj
  | structured hbefore hx =>
      exact Or.inl ⟨⟨_, rfl, _, List.mem_append_right _ List.mem_cons_self, hx⟩, _, _, rfl⟩

namespace Request

/-- Both are accepted with the same request, or both are refused with errors of one kind and one
subject. -/
inductive SameOutcome : Except Error Request → Except Error Request → Prop
  | request (r : Request) :
      SameOutcome (.ok r) (.ok r)
  | refusal {e e' : Error} (hkind : e.kind = e'.kind) (hsubject : e.subject? = e'.subject?) :
      SameOutcome (.error e) (.error e')

/-- The members that an array gives by position. -/
def positional (name properties systemProperties : Json) : Entries Json :=
  [("lifecycleName", name), ("properties", properties), ("systemProperties", systemProperties)]

variable {n p s : Json}

theorem ofJson_arr (n p s : Json) :
    Request.ofJson (.arr [n, p, s]) = (decode (.obj (positional n p s))).mapError .parse := by
  have hdecode : decode (.arr [n, p, s]) = decode (.obj (positional n p s)) := by
    simp [decode, Decode.record, memberNames, positional]
  rw [← hdecode]
  rfl

/-- What is accepted after the first look at the property sets was accepted there as well. -/
theorem ofMember_of_decode {members : Entries Json} {r : Request}
    (h : decode (.obj members) = .ok r) :
    PropertySet.ofMember (Entries.get? members "properties") = .ok r.properties ∧
      PropertySet.ofMember (Entries.get? members "systemProperties") = .ok r.systemProperties := by
  cases hall : Decode.checkAll checkMember members with
  | error fault =>
      rw [decode, Decode.record, hall] at h
      cases h
  | ok u =>
      rw [decode, Decode.record, hall] at h
      simp only [bind, Except.bind, pure, Except.pure] at h
      split at h
      · cases h
      · split at h
        · cases h
        next properties hproperties =>
          split at h
          · cases h
          next systemProperties hsystem =>
            cases h
            exact ⟨(withDefault_decode_eq_ok_iff members _ _).mp hproperties,
              (withDefault_decode_eq_ok_iff members _ _).mp hsystem⟩

/-- So the first look refuses nothing that would be accepted without it. -/
theorem ofJson_obj_eq_ok_iff (members : Entries Json) (r : Request) :
    Request.ofJson (.obj members) = .ok r ↔ decode (.obj members) = .ok r := by
  rw [Request.ofJson, checkProperties_obj, checkProperties_obj]
  constructor
  · intro h
    cases hp : PropertySet.ofMember (Entries.get? members "properties") with
    | error e =>
        rw [hp] at h
        cases h
    | ok t =>
        cases hs : PropertySet.ofMember (Entries.get? members "systemProperties") with
        | error e =>
            rw [hp, hs] at h
            cases h
        | ok t' =>
            rw [hp, hs] at h
            cases hdecode : decode (.obj members) with
            | error fault =>
                rw [hdecode] at h
                cases h
            | ok r' =>
                rw [hdecode] at h
                cases h
                rfl
  · intro h
    obtain ⟨hp, hs⟩ := ofMember_of_decode h
    rw [hp, hs, h]
    rfl

theorem ofJson_arr_eq_ok_iff (n p s : Json) (r : Request) :
    Request.ofJson (.arr [n, p, s]) = .ok r ↔
      Request.ofJson (.obj (positional n p s)) = .ok r := by
  rw [ofJson_obj_eq_ok_iff, ofJson_arr]
  cases decode (.obj (positional n p s)) <;> simp [Except.mapError]

/-- An array is refused as a text that cannot be read, whatever is wrong with it. -/
theorem exists_fault_of_ofJson_arr {e : Error} (h : Request.ofJson (.arr [n, p, s]) = .error e) :
    ∃ fault, e = .parse fault := by
  rw [ofJson_arr] at h
  cases hdecode : decode (.obj (positional n p s)) with
  | ok r =>
      rw [hdecode] at h
      cases h
  | error fault =>
      rw [hdecode] at h
      cases h
      exact ⟨fault, rfl⟩

theorem exists_ofJson_arr_of_obj {e : Error}
    (h : Request.ofJson (.obj (positional n p s)) = .error e) :
    ∃ fault, Request.ofJson (.arr [n, p, s]) = .error (.parse fault) := by
  cases harray : Request.ofJson (.arr [n, p, s]) with
  | ok r =>
      cases h.symm.trans ((ofJson_arr_eq_ok_iff n p s r).mp harray)
  | error e' =>
      obtain ⟨fault, rfl⟩ := exists_fault_of_ofJson_arr harray
      exact ⟨fault, rfl⟩

/-- A structured property decides the outcome: one of the first set, or one of the second set where
the first one is accepted. -/
def StructuredFirst (p s : Json) : Prop :=
  p.Structured ∨ (∃ t : PropertySet, p = t.toJson) ∧ s.Structured

theorem not_structuredFirst_toJson (t t' : PropertySet) : ¬ StructuredFirst t.toJson t'.toJson := by
  rintro (h | ⟨-, h⟩)
  · exact t.not_structured_toJson h
  · exact t'.not_structured_toJson h

/-- The two outcomes are the same, or the object is refused for a structured property and the array
is not. -/
theorem Reading.shapes {result : Except Error Request} (h : Reading (positional n p s) result) :
    (¬ StructuredFirst p s ∧ SameOutcome result (Request.ofJson (.arr [n, p, s]))) ∨
      (StructuredFirst p s ∧ ∃ key found fault, result = .error (.unsupportedValueType key found) ∧
        Request.ofJson (.arr [n, p, s]) = .error (.parse fault)) := by
  have hkeys : Entries.keys (positional n p s) = memberNames := rfl
  have hobject : Request.ofJson (.obj (positional n p s)) = result :=
    h.ofJson_eq (by rw [hkeys]; decide)
  cases result with
  | ok r =>
      rw [(ofJson_arr_eq_ok_iff n p s r).mpr hobject]
      cases h with
      | request hp hs hname =>
          cases hp
          cases hs
          exact Or.inl ⟨not_structuredFirst_toJson _ _, .request _⟩
  | error e =>
      obtain ⟨fault, harray⟩ := exists_ofJson_arr_of_obj hobject
      rw [harray]
      cases h with
      | properties hp =>
          rcases hp.structured_or with ⟨hstructured, key, found, rfl⟩ | ⟨hstructured, fault', rfl⟩
          · exact Or.inr ⟨Or.inl hstructured, key, found, fault, rfl, rfl⟩
          · exact Or.inl ⟨by simp [StructuredFirst, hstructured, hp.ne_toJson], .refusal rfl rfl⟩
      | systemProperties hp hs =>
          cases hp
          rcases hs.structured_or with ⟨hstructured, key, found, rfl⟩ | ⟨hstructured, fault', rfl⟩
          · exact Or.inr ⟨Or.inr ⟨⟨_, rfl⟩, hstructured⟩, key, found, fault, rfl, rfl⟩
          · refine Or.inl ⟨?_, .refusal rfl rfl⟩
            simp [StructuredFirst, hstructured, PropertySet.not_structured_toJson]
      | lifecycleName hp hs hname =>
          cases hp
          cases hs
          exact Or.inl ⟨not_structuredFirst_toJson _ _, .refusal rfl rfl⟩

/-- **Objects and arrays as requests** have the same outcome unless a structured property decides
it; then only the object is refused for that property. -/
theorem parse_shapes {objectText arrayText : String}
    (hobject : Json.read? objectText = some (.obj (positional n p s)))
    (harray : Json.read? arrayText = some (.arr [n, p, s])) :
    (∀ r, Request.parse arrayText = .ok r ↔ Request.parse objectText = .ok r) ∧
    (∀ e, Request.parse arrayText = .error e → ∃ fault, e = .parse fault) ∧
    (¬ StructuredFirst p s → SameOutcome (Request.parse objectText) (Request.parse arrayText)) ∧
    (StructuredFirst p s → ∃ key found fault,
      Request.parse objectText = .error (.unsupportedValueType key found) ∧
        Request.parse arrayText = .error (.parse fault)) := by
  have hparseObject : Request.parse objectText = Request.ofJson (.obj (positional n p s)) := by
    rw [Request.parse, hobject]
  have hparseArray : Request.parse arrayText = Request.ofJson (.arr [n, p, s]) := by
    rw [Request.parse, harray]
  have hwellFormed : (Json.obj (positional n p s)).WellFormed := Json.wellFormed_of_read? hobject
  obtain ⟨result, hresult⟩ := exists_reading hwellFormed
  rw [hparseObject, hparseArray, hresult.ofJson_eq ((Json.wellFormed_obj_iff _).mp hwellFormed).1]
  refine ⟨?_, fun e => exists_fault_of_ofJson_arr, ?_, ?_⟩
  · intro r
    rw [← hresult.ofJson_eq ((Json.wellFormed_obj_iff _).mp hwellFormed).1]
    exact ofJson_arr_eq_ok_iff n p s r
  · intro hne
    exact (hresult.shapes.resolve_right fun hdiffer => hne hdiffer.1).2
  · intro hfirst
    exact (hresult.shapes.resolve_left fun hsame => hsame.1 hfirst).2

/-- A request with the given properties, as an object and as an array. -/
def objectWith (properties : String) : String :=
  "\x7b\"lifecycleName\":\"n\",\"properties\":" ++ properties ++ ",\"systemProperties\":\x7b\x7d\x7d"

/-- The same request as an array of its members. -/
def arrayWith (properties : String) : String :=
  "[\"n\"," ++ properties ++ ",\x7b\x7d]"

/-- A null among the properties is read in both shapes, and a mapping is refused in both. -/
theorem parse_shapes_null_mapping :
    SameOutcome (Request.parse (objectWith "\x7b\"a\":null\x7d"))
      (Request.parse (arrayWith "\x7b\"a\":null\x7d")) ∧
    ∃ key found fault,
      Request.parse (objectWith "\x7b\"a\":\x7b\x7d\x7d") = .error (.unsupportedValueType key found) ∧
        Request.parse (arrayWith "\x7b\"a\":\x7b\x7d\x7d") = .error (.parse fault) := by
  have hnull : ¬ StructuredFirst (.obj [("a", .null)]) (.obj []) :=
    not_structuredFirst_toJson ⟨[("a", .null)], by decide⟩ .empty
  have hmapping : StructuredFirst (.obj [("a", .obj [])]) (.obj []) :=
    Or.inl ⟨_, rfl, _, List.mem_singleton_self _, .mapping, rfl⟩
  constructor
  · exact (parse_shapes (n := .str "n") (p := .obj [("a", .null)]) (s := .obj [])
      (by decide +kernel) (by decide +kernel)).2.2.1 hnull
  · exact (parse_shapes (n := .str "n") (p := .obj [("a", .obj [])]) (s := .obj [])
      (by decide +kernel) (by decide +kernel)).2.2.2 hmapping

/-- For a sequence among the properties only the object names the key. -/
theorem parse_arrayWith_sequence :
    Json.read? (objectWith "\x7b\"a\":[]\x7d") =
      some (.obj (positional (.str "n") (.obj [("a", .arr [])]) (.obj []))) ∧
    Json.read? (arrayWith "\x7b\"a\":[]\x7d") =
      some (.arr [.str "n", .obj [("a", .arr [])], .obj []]) ∧
    Request.parse (objectWith "\x7b\"a\":[]\x7d") =
      .error (.unsupportedValueType "a" .sequence) ∧
    Request.parse (arrayWith "\x7b\"a\":[]\x7d") = .error (.parse .wrongType) ∧
    ¬ SameOutcome (Request.parse (objectWith "\x7b\"a\":[]\x7d"))
      (Request.parse (arrayWith "\x7b\"a\":[]\x7d")) := by
  have hobject : Request.parse (objectWith "\x7b\"a\":[]\x7d") =
      .error (.unsupportedValueType "a" .sequence) := by
    decide +kernel
  have harray : Request.parse (arrayWith "\x7b\"a\":[]\x7d") = .error (.parse .wrongType) := by
    decide +kernel
  refine ⟨by decide +kernel, by decide +kernel, hobject, harray, ?_⟩
  rw [hobject, harray]
  intro hsame
  cases hsame with
  | refusal hkind hsubject =>
      cases hkind

end Request

end VnfPayload
