import VnfPayload.Proofs.Decoding
import VnfPayload.Proofs.MessageText

/-!
# The JSON texts of requests, templates, settings and findings

A value that is written as JSON text and read again is the same value.  The reader of JSON
needs an object without repeated keys, integers only and a bounded nesting
(`Json.Readable`); all that is written has this form, except that the properties of a request
may hold real numbers.  What is read is then decoded by the laws of the decoders.

`wire_round_trip` says so of requests, templates, settings and findings.
-/

namespace VnfPayload

namespace Json

/-! ## Values that the reader gives back -/

theorem integersOnly_arr_iff (items : List Json) :
    IntegersOnly (.arr items) ↔ ∀ x ∈ items, IntegersOnly x := by
  have hitems : IntegersOnlyItems items ↔ ∀ x ∈ items, IntegersOnly x := by
    induction items with
    | nil =>
        simp [IntegersOnlyItems]
    | cons x items ih =>
        simp [IntegersOnlyItems, ih]
  exact hitems

theorem integersOnly_obj_iff (members : Entries Json) :
    IntegersOnly (.obj members) ↔ ∀ e ∈ members, IntegersOnly e.2 := by
  have hmembers : IntegersOnlyMembers members ↔ ∀ e ∈ members, IntegersOnly e.2 := by
    induction members with
    | nil =>
        simp [IntegersOnlyMembers]
    | cons e members ih =>
        obtain ⟨k, x⟩ := e
        simp [IntegersOnlyMembers, ih]
  exact hmembers

theorem depth_arr_le_iff (items : List Json) (n : Nat) :
    depth (.arr items) ≤ n + 1 ↔ ∀ x ∈ items, depth x ≤ n := by
  have hitems : depthItems items ≤ n ↔ ∀ x ∈ items, depth x ≤ n := by
    induction items with
    | nil =>
        simp [depthItems]
    | cons x items ih =>
        rw [depthItems, Nat.max_le, ih, List.forall_mem_cons]
  rw [depth, Nat.add_le_add_iff_right, hitems]

theorem depth_obj_le_iff (members : Entries Json) (n : Nat) :
    depth (.obj members) ≤ n + 1 ↔ ∀ e ∈ members, depth e.2 ≤ n := by
  have hmembers : depthMembers members ≤ n ↔ ∀ e ∈ members, depth e.2 ≤ n := by
    induction members with
    | nil =>
        simp [depthMembers]
    | cons e members ih =>
        obtain ⟨k, x⟩ := e
        rw [depthMembers, Nat.max_le, ih, List.forall_mem_cons]
  rw [depth, Nat.add_le_add_iff_right, hmembers]

/-- No key is repeated, every number is an integer, and the nesting is bounded. -/
structure Readable (n : Nat) (j : Json) : Prop where
  wellFormed : j.WellFormed
  integersOnly : j.IntegersOnly
  depth_le : j.depth ≤ n

theorem Readable.read?_text {n : Nat} {j : Json} (h : Readable n j) (hn : n ≤ 127) :
    read? j.text = some j := by
  rw [Json.read?_text h.wellFormed h.integersOnly]
  exact if_pos (Nat.le_trans h.depth_le hn)

variable {n : Nat}

theorem readable_str (s : String) : Readable n (.str s) where
  wellFormed := trivial
  integersOnly := trivial
  depth_le := Nat.zero_le n

theorem readable_bool (b : Bool) : Readable n (.bool b) where
  wellFormed := trivial
  integersOnly := trivial
  depth_le := Nat.zero_le n

theorem readable_toJson {v : PropertyValue} (h : v.toJson.IntegersOnly) :
    Readable n v.toJson where
  wellFormed := wellFormed_toJson v
  integersOnly := h
  depth_le := by cases v <;> exact Nat.zero_le n

theorem readable_arr {items : List Json} (h : ∀ x ∈ items, Readable n x) :
    Readable (n + 1) (.arr items) where
  wellFormed := (wellFormed_arr_iff items).mpr fun x hx => (h x hx).wellFormed
  integersOnly := (integersOnly_arr_iff items).mpr fun x hx => (h x hx).integersOnly
  depth_le := (depth_arr_le_iff items n).mpr fun x hx => (h x hx).depth_le

theorem readable_obj {members : Entries Json} (hkeys : (Entries.keys members).Nodup)
    (h : ∀ e ∈ members, Readable n e.2) :
    Readable (n + 1) (.obj members) where
  wellFormed := (wellFormed_obj_iff members).mpr ⟨hkeys, fun e he => (h e he).wellFormed⟩
  integersOnly := (integersOnly_obj_iff members).mpr fun e he => (h e he).integersOnly
  depth_le := (depth_obj_le_iff members n).mpr fun e he => (h e he).depth_le

end Json

/-! ## What is written -/

open Json (Readable)

theorem FieldSource.readable (source : FieldSource) : Readable 1 source.toJson := by
  cases source with
  | property key =>
      refine Json.readable_obj (by simp) ?_
      simp [Json.readable_str]
  | lifecycleName =>
      exact Json.readable_str _
  | description =>
      exact Json.readable_str _

theorem FieldRule.readable_copied (name : String) (source : Option FieldSource) :
    Readable 2 (.obj (("name", .str name) :: sourceMembers source)) := by
  cases source with
  | none =>
      refine Json.readable_obj (by simp [sourceMembers]) ?_
      simp [sourceMembers, Json.readable_str]
  | some source =>
      refine Json.readable_obj (by simp [sourceMembers]) ?_
      simp [sourceMembers, Json.readable_str, source.readable]

theorem FieldRule.readable (field : FieldRule) : Readable 3 field.toJson := by
  cases field with
  | container name kind =>
      refine Json.readable_obj (by simp) ?_
      have hbody : Readable 2 (.obj [("name", .str name), ("kind", .str kind.name)]) := by
        refine Json.readable_obj (by simp) ?_
        simp [Json.readable_str]
      simpa using hbody
  | optional name source =>
      refine Json.readable_obj (by simp) ?_
      simpa using readable_copied name source
  | required name source =>
      refine Json.readable_obj (by simp) ?_
      simpa using readable_copied name source

theorem Template.readable (t : Template) : Readable 5 t.toJson := by
  have hfields : Readable 4 (.arr (t.fields.map FieldRule.toJson)) := by
    refine Json.readable_arr fun x hx => ?_
    obtain ⟨field, -, rfl⟩ := List.mem_map.mp hx
    exact field.readable
  have hprefixes : Readable 4 (.arr (t.prefixes.map Json.str)) := by
    refine Json.readable_arr fun x hx => ?_
    obtain ⟨text, -, rfl⟩ := List.mem_map.mp hx
    exact Json.readable_str text
  refine Json.readable_obj (by simp) ?_
  simp [Json.readable_str, hfields, hprefixes]

theorem Config.readable (c : Config) : Readable 1 c.toJson := by
  refine Json.readable_obj (by simp) ?_
  simp [Json.readable_str, Json.readable_bool]

theorem Diagnostic.readable (d : Diagnostic) : Readable 1 d.toJson := by
  obtain ⟨severity, code, path, message⟩ := d
  cases path with
  | none =>
      refine Json.readable_obj (by simp) ?_
      simp [Json.readable_str]
  | some path =>
      refine Json.readable_obj (by simp) ?_
      simp [Json.readable_str]

/-- No property is a real number. -/
def PropertySet.IntegersOnly (s : PropertySet) : Prop :=
  ∀ e ∈ s.entries, e.2.toJson.IntegersOnly

theorem PropertySet.readable {s : PropertySet} (h : s.IntegersOnly) :
    Readable 1 s.toJson := by
  refine Json.readable_obj ?_ fun e he => ?_
  · have hkeys : Entries.keys (s.entries.map fun e => (e.1, e.2.toJson)) =
        Entries.keys s.entries := by
      simp [Entries.keys]
    rw [hkeys]
    exact s.nodup
  · obtain ⟨e', he', rfl⟩ := List.mem_map.mp he
    exact Json.readable_toJson (h e' he')

theorem Request.readable {r : Request} (hproperties : r.properties.IntegersOnly)
    (hsystem : r.systemProperties.IntegersOnly) :
    Readable 2 r.toJson := by
  rw [toJson_eq]
  refine Json.readable_obj r.nodup_keys_members fun e he => ?_
  rcases eq_of_mem_members he with ⟨name, rfl⟩ | rfl | rfl
  · exact Json.readable_str name
  · exact PropertySet.readable hproperties
  · exact PropertySet.readable hsystem

/-- **Round trip of the wire forms**: requests without real numbers, templates, settings and
findings are read back from the text that they are written as. -/
theorem wire_round_trip :
    (∀ r : Request, r.properties.IntegersOnly → r.systemProperties.IntegersOnly →
      Request.parse r.toJson.text = .ok r)
      ∧
    (∀ t : Template, (Json.read? t.toJson.text).map Template.ofJson = some (.ok t))
      ∧
    (∀ c : Config, (Json.read? c.toJson.text).map Config.ofJson = some (.ok c))
      ∧
    (∀ d : Diagnostic, (Json.read? d.toJson.text).map Diagnostic.ofJson = some (.ok d)) := by
  refine ⟨fun r hproperties hsystem => ?_, fun t => ?_, fun c => ?_, fun d => ?_⟩
  · have hread := (Request.readable hproperties hsystem).read?_text (by omega)
    simp only [Request.parse, hread]
    exact r.ofJson_toJson
  · rw [t.readable.read?_text (by omega), Option.map_some, Template.restores t]
  · rw [c.readable.read?_text (by omega), Option.map_some, Config.restores c]
  · rw [d.readable.read?_text (by omega), Option.map_some, Diagnostic.restores d]

/-- A request without a name, with an empty key, characters that are escaped and the least
integer. -/
def Request.unusual : Request where
  lifecycleName := none
  properties := .empty
  systemProperties :=
    ⟨[("", .num (.int ⟨-9223372036854775808, by decide, by decide⟩)),
        ("\x01\"\\\n.é", .str "null"), ("0", .null)],
      by decide⟩

theorem wire_round_trip_unusual :
    Request.unusual.properties.IntegersOnly ∧
      Request.unusual.systemProperties.IntegersOnly ∧
      Request.parse Request.unusual.toJson.text = .ok .unusual := by
  have hproperties : Request.unusual.properties.IntegersOnly := by
    intro e he
    cases he
  have hsystem : Request.unusual.systemProperties.IntegersOnly := by
    simp [PropertySet.IntegersOnly, Request.unusual, PropertyValue.toJson, Json.IntegersOnly]
  exact ⟨hproperties, hsystem, wire_round_trip.1 _ hproperties hsystem⟩

end VnfPayload
