import VnfPayload.Proofs.Alike
import VnfPayload.Proofs.Decoding

/-!
# Property sets and their histories

A property set is made by insertions, from a list of pairs or from a JSON object, and insertions
may follow in each case.  Its history is the list of all pairs that went into it, in their order:
`PropertySet.Built`.  However it was built, a set is the one that the pairs of its history give
when they are inserted into an empty set one after the other (`PropertySet.Built.eq_ofPairs`),
and so the history answers every question about it.

Main statements:

* `Json.eqv_obj_iff` says that objects are equal if the look-ups of each key are;
* `PropertySet.eqv_iff` says the same of property sets;
* `PropertySet.representation` says what is known of a set from its history.  Each key stands
  where it was first, with its last value.  A selection by prefixes has each entry once, in their
  order, and sets are equal if all look-ups agree, so whatever the order of their entries.
-/

namespace VnfPayload

namespace Json

/-! ## Equality of objects -/

theorem membersIn_iff (es fs : Entries Json) :
    membersIn es fs = true ↔
      ∀ e ∈ es, ∃ y, Entries.get? fs e.1 = some y ∧ eqv e.2 y = true := by
  induction es with
  | nil =>
      simp [membersIn]
  | cons e es ih =>
      obtain ⟨k, x⟩ := e
      rw [membersIn, Bool.and_eq_true, ih, List.forall_mem_cons]
      cases Entries.get? fs k <;> simp

/-- Objects without repeated keys are equal if the same keys have equal values. -/
theorem eqv_obj_iff {es fs : Entries Json} (hes : (Entries.keys es).Nodup)
    (hfs : (Entries.keys fs).Nodup) :
    eqv (.obj es) (.obj fs) = true ↔
      ∀ key, Option.Rel (fun x y => eqv x y = true) (Entries.get? es key)
        (Entries.get? fs key) := by
  rw [eqv, Bool.and_eq_true, beq_iff_eq, membersIn_iff]
  constructor
  · rintro ⟨hlength, hmembers⟩ key
    have hsubset : Entries.keys es ⊆ Entries.keys fs := by
      intro k hk
      obtain ⟨e, he, rfl⟩ := List.mem_map.mp hk
      obtain ⟨y, hy, -⟩ := hmembers e he
      have hmem : (e.1, y) ∈ fs := Entries.mem_of_get? hy
      exact List.mem_map.mpr ⟨_, hmem, rfl⟩
    cases hget : Entries.get? es key with
    | none =>
        have hkeys := Entries.mem_keys_iff_of_subset hes hsubset (Nat.le_of_eq hlength.symm) key
        rw [Entries.get?_eq_none_iff, hkeys, ← Entries.get?_eq_none_iff] at hget
        rw [hget]
        exact .none
    | some x =>
        obtain ⟨y, hy, hxy⟩ := hmembers _ (Entries.mem_of_get? hget)
        rw [hy]
        exact .some hxy
  · intro h
    constructor
    · exact Entries.length_eq_of_mem_keys_iff hes hfs fun key => mem_keys_iff_of_rel (h key)
    · intro e he
      have hrel := h e.1
      rw [Entries.get?_of_mem hes he] at hrel
      exact exists_of_rel_some hrel

end Json

theorem PropertyValue.eqv_self (v : PropertyValue) : v.eqv v = true := by
  cases v <;> simp [eqv, toJson, Json.eqv, Json.number_eqv_self]

namespace PropertySet

variable {s : PropertySet} {history : List (String × PropertyValue)}

/-- Two look-ups find equal values, or nothing. -/
def Agree (x y : Option PropertyValue) : Prop :=
  Option.Rel (fun v w => v.eqv w = true) x y

/-- Sets are equal if their look-ups agree. -/
theorem eqv_iff (a b : PropertySet) :
    a.eqv b = true ↔ ∀ key, Agree (a.get? key) (b.get? key) := by
  have hkeys : ∀ s : PropertySet,
      (Entries.keys (Entries.mapValues (fun _ => PropertyValue.toJson) s.entries)).Nodup := by
    intro s
    rw [Entries.keys_mapValues]
    exact s.nodup
  refine (Json.eqv_obj_iff (hkeys a) (hkeys b)).trans (forall_congr' fun key => ?_)
  rw [Entries.get?_mapValues, Entries.get?_mapValues]
  exact Json.rel_map_iff

/-- A look-up finds the entry of the key. -/
theorem get?_eq_some_iff (s : PropertySet) (key : String) (v : PropertyValue) :
    s.get? key = some v ↔ (key, v) ∈ s.entries :=
  ⟨Entries.mem_of_get?, Entries.get?_of_mem s.nodup⟩

/-- The order of the entries does not count. -/
theorem eqv_of_perm {a b : PropertySet} (h : a.entries.Perm b.entries) : a.eqv b = true := by
  refine (eqv_iff a b).mpr fun key => ?_
  have hget : a.get? key = b.get? key := by
    ext v
    rw [get?_eq_some_iff, get?_eq_some_iff, h.mem_iff]
  rw [hget]
  cases b.get? key with
  | none =>
      exact .none
  | some v =>
      exact .some v.eqv_self

theorem contains_iff (s : PropertySet) (key : String) :
    s.contains key = true ↔ key ∈ Entries.keys s.entries := by
  rw [contains, Option.isSome_iff_ne_none, ne_eq, get?, Entries.get?_eq_none_iff, not_not]

/-! ## Histories -/

/-- The set was built from the pairs: by insertions one after the other, from the pairs at once,
or from an object of scalars and nulls. -/
inductive Built : List (String × PropertyValue) → PropertySet → Prop
  | empty :
      Built [] .empty
  | insert {history : List (String × PropertyValue)} {s : PropertySet} (h : Built history s)
      (key : String) (v : PropertyValue) :
      Built (history ++ [(key, v)]) (s.insert key v)
  | collected (pairs : List (String × PropertyValue)) :
      Built pairs (.ofPairs pairs)
  | read {pairs : List (String × PropertyValue)} {s : PropertySet}
      (h : ofJson (.obj (pairs.map fun e => (e.1, e.2.toJson))) = .ok s) :
      Built pairs s

theorem ofPairs_append_singleton (pairs : List (String × PropertyValue)) (key : String)
    (v : PropertyValue) :
    ofPairs (pairs ++ [(key, v)]) = (ofPairs pairs).insert key v := by
  rw [ofPairs, List.foldl_append]
  rfl

/-- However a set was built, inserting its history into an empty set gives the same. -/
theorem Built.eq_ofPairs (h : Built history s) : s = ofPairs history := by
  induction h with
  | empty =>
      rfl
  | insert _ key v ih =>
      rw [ih, ofPairs_append_singleton]
  | collected pairs =>
      rfl
  | @read pairs s h =>
      have hread : ofMembers (pairs.map fun e => (e.1, e.2.toJson)) = .ok s := h
      rw [ofMembers_scalars] at hread
      exact (Except.ok.inj hread).symm

/-- The last pair of the key has the value. -/
def LastInserted (history : List (String × PropertyValue)) (key : String) (v : PropertyValue) :
    Prop :=
  ∃ before after, history = before ++ (key, v) :: after ∧ key ∉ Entries.keys after

/-- The keys of a set are those of its history, each at its first place. -/
theorem Built.keys_eq (h : Built history s) :
    Entries.keys s.entries = (Entries.keys history).eraseDups := by
  rw [h.eq_ofPairs, entries_ofPairs, Entries.keys_ofPairs]

theorem Built.get?_iff (h : Built history s) (key : String) (v : PropertyValue) :
    s.get? key = some v ↔ LastInserted history key v := by
  rw [h.eq_ofPairs, get?, entries_ofPairs]
  exact Entries.get?_ofPairs_eq_some_iff history key v

/-- **What is known of a property set from its history**: its keys and values, the answers to all
questions, its JSON form, what prefixes select, and which sets are equal to it. -/
theorem representation :
    (∀ pairs : List (String × PropertyValue), ∃ s,
      ofJson (.obj (pairs.map fun e => (e.1, e.2.toJson))) = .ok s) ∧
    (∀ (history : List (String × PropertyValue)) (s : PropertySet), Built history s →
      ((Entries.keys s.entries).Nodup ∧
        Entries.keys s.entries = (Entries.keys history).eraseDups) ∧
      (∀ key v, s.get? key = some v ↔ LastInserted history key v) ∧
      ((∀ key v, s.get? key = some v ↔ (key, v) ∈ s.entries) ∧
        (∀ key, s.contains key = true ↔ key ∈ Entries.keys s.entries) ∧
        s.size = s.entries.length ∧ (s.isEmpty = true ↔ s.entries = [])) ∧
      ofJson s.toJson = .ok s ∧
      ∀ beginnings : List String,
        (∀ e, e ∈ s.withPrefixes beginnings ↔
          e ∈ s.entries ∧ ∃ text ∈ beginnings, text.toList <+: e.1.toList) ∧
        (Entries.keys (s.withPrefixes beginnings)).Nodup ∧
        (s.withPrefixes beginnings).Sublist s.entries) ∧
    ∀ a b : PropertySet,
      (a.eqv b = true ↔ ∀ key, Agree (a.get? key) (b.get? key)) ∧
      (a.entries.Perm b.entries → a.eqv b = true) := by
  refine ⟨fun pairs => ⟨_, ofMembers_scalars pairs⟩, fun history s h => ?_,
    fun a b => ⟨eqv_iff a b, eqv_of_perm⟩⟩
  refine ⟨⟨s.nodup, h.keys_eq⟩, h.get?_iff, ⟨s.get?_eq_some_iff, s.contains_iff, rfl, ?_⟩,
    s.ofJson_toJson, fun beginnings => ⟨fun e => ?_, ?_, List.filter_sublist⟩⟩
  · exact List.isEmpty_iff
  · rw [withPrefixes, List.mem_filter, startsWithAny_iff]
  · exact (List.filter_sublist.map Prod.fst).nodup s.nodup

/-- The properties of an object, one of them given twice, and then a new and an old one. -/
def revisedHistory : List (String × PropertyValue) :=
  [("a.b", .bool true), ("", .null), ("a.b", .str "x"), ("c", .num (.real (.zero true))),
    ("a.b", .null)]

/-- The set with this history. -/
def revised : PropertySet :=
  ((ofPairs (revisedHistory.take 3)).insert "c" (.num (.real (.zero true)))).insert "a.b" .null

/-- The first key keeps its place, has its last value and is selected once.  The set is equal to
one in another order, in which the zero has another sign. -/
theorem representation_revised :
    Built revisedHistory revised ∧
      Entries.keys revised.entries = ["a.b", "", "c"] ∧
      LastInserted revisedHistory "a.b" .null ∧
      revised.contains "" = true ∧
      ofJson revised.toJson = .ok revised ∧
      ("a.b", .null) ∈ revised.withPrefixes ["a", "b", "a.", "a"] ∧
      (Entries.keys (revised.withPrefixes ["a", "b", "a.", "a"])).Nodup ∧
      Agree (revised.get? "c") (some (.num (.real (.zero false)))) := by
  have hfirst : ofJson (.obj ((revisedHistory.take 3).map fun e => (e.1, e.2.toJson))) =
      .ok (ofPairs (revisedHistory.take 3)) := rfl
  have hbuilt : Built revisedHistory revised :=
    ((Built.read hfirst).insert "c" (.num (.real (.zero true)))).insert "a.b" .null
  obtain ⟨-, hlaws, hequal⟩ := representation
  obtain ⟨⟨-, hkeys⟩, hget, ⟨-, hcontains, -⟩, hread, hselected⟩ := hlaws _ _ hbuilt
  obtain ⟨hmem, hnodup, -⟩ := hselected ["a", "b", "a.", "a"]
  refine ⟨hbuilt, hkeys.trans (by decide), (hget _ _).mp rfl, (hcontains _).mpr (by decide), hread,
    (hmem _).mpr ⟨by decide, "a", by decide, by decide⟩, hnodup, ?_⟩
  exact (hequal revised (ofPairs [("c", .num (.real (.zero false))), ("a.b", .null),
    ("", .null)])).1.mp rfl "c"

end PropertySet

end VnfPayload
