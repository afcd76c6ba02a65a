import VnfPayload.Proofs.MessageShape

/-!
# The values of a message

No value that is asked for is lost, and none is made up.  What stands in a message is the
value of a copied field, the value of a matched property or, in a sequence, a null below a
position that a matched key asks for; a container without items is that of a container field.
A matched value that is not null stands at the route of its key, unless a later key has the same
route.  All of this holds for any template, valid or not, as long as the description of the
request is no null.

The leaves before the properties are folded in are those of `exists_field_of_at?`, and
`Document.origin_of_placeAll?` says what the properties add to them.

Main statements:

* `Generator.leaf_cases` lists the ways in which a leaf comes into a message;
* `Generator.buildDocument_values` is the account of all the values.
-/

namespace VnfPayload

namespace ContainerKind

theorem empty_injective {a b : ContainerKind} (h : a.empty = b.empty) : a = b := by
  refine node_injective ?_
  rw [← kind_empty, ← kind_empty, h]

/-- No step leads into an empty container. -/
theorem child?_empty (c : ContainerKind) (s : Segment) : Json.child? s c.empty = none := by
  cases c <;> cases s <;> rfl

end ContainerKind

namespace Template

/-- A field of that name copies the value. -/
def Copies (t : Template) (ctx : Context) (name : String) (v : PropertyValue) : Prop :=
  ∃ field ∈ t.fields, field.name = name ∧
    ∃ source, field.source? = some source ∧ ctx.value? source = some v

end Template

namespace Generator

open Json (at?)
open Document (Writes)

variable {g : Generator} {operation : Operation} {ctx : Context} {t : Template}
  {doc : Document} {route : List Segment} {node : Json}

/-- No step leads on from what a field makes. -/
theorem at?_cons_of_entry {field : FieldRule} {k : String} {x : Json}
    (h : field.entry? ctx = some (k, x)) (s : Segment) (rest : List Segment) :
    at? (s :: rest) x = none := by
  obtain ⟨-, ⟨kind, -, rfl⟩ | ⟨source, v, -, -, -, rfl⟩⟩ := FieldRule.entry?_cases h
  · rw [Json.at?_cons, kind.child?_empty]
    rfl
  · exact Json.at?_cons_of_not_isContainer (Json.not_isContainer_toJson v) s rest

/-- Below the root there is nothing at first but what the fields make. -/
theorem exists_field_of_at?
    (h : at? route (.obj (Entries.ofPairs (t.fieldEntries ctx))) = some node)
    (hroute : route ≠ []) :
    ∃ k, route = [.key k] ∧ ∃ field ∈ t.fields, field.entry? ctx = some (k, node) := by
  cases route with
  | nil =>
      exact absurd rfl hroute
  | cons s rest =>
      rw [Json.at?_cons] at h
      obtain ⟨x, hchild, hrest⟩ := Option.bind_eq_some_iff.mp h
      cases s with
      | index i =>
          cases hchild
      | key k =>
          have hmem := Entries.mem_of_mem_ofPairs (Entries.mem_of_get? hchild)
          obtain ⟨field, hfield, hentry⟩ := List.mem_filterMap.mp hmem
          cases rest with
          | nil =>
              cases hrest
              exact ⟨k, rfl, field, hfield, hentry⟩
          | cons s rest =>
              rw [at?_cons_of_entry hentry] at hrest
              cases hrest

/-- **The leaves of a message** are copied, or assigned, or nulls that fill up a sequence. -/
theorem leaf_cases
    (hplace : Document.placeAll? (.obj (Entries.ofPairs (t.fieldEntries ctx)))
      (t.matched ctx.properties) = some (.obj doc))
    {v : PropertyValue} (hleaf : at? route (.obj doc) = some v.toJson) :
    (v ≠ .null ∧ ∃ name, route = [.key name] ∧ t.Copies ctx name v) ∨
      Writes (t.matched ctx.properties) route v ∨
      (v = .null ∧ ∃ before i j rest w,
        Writes (t.matched ctx.properties) (before ++ .index i :: rest) w ∧ j < i ∧
          route = before ++ [.index j]) := by
  cases Document.origin_of_placeAll? hplace hleaf with
  | kept h =>
      have hroute : route ≠ [] := by
        rintro rfl
        exact Json.not_isContainer_toJson v ⟨.mapping, by rw [← Option.some.inj h]; rfl⟩
      obtain ⟨k, hk, field, hfield, hentry⟩ := exists_field_of_at? h hroute
      obtain ⟨hname, ⟨kind, -, hempty⟩ | ⟨source, w, hsource, hvalue, hw, hcopied⟩⟩ :=
        FieldRule.entry?_cases hentry
      · exact absurd hempty.symm (Json.empty_ne_toJson kind v)
      · cases PropertyValue.toJson_injective hcopied
        exact Or.inl ⟨hw, k, hk, field, hfield, hname, source, hsource, hvalue⟩
  | assigned w h hnode =>
      cases PropertyValue.toJson_injective hnode
      exact Or.inr (Or.inl h)
  | passed s rest w h hkind hne =>
      exact absurd ⟨s.container, hkind⟩ (Json.not_isContainer_toJson v)
  | padded before i j rest w h hlt hroute hnull =>
      have hv : v = .null := PropertyValue.toJson_injective hnull
      exact Or.inr (Or.inr ⟨hv, before, i, j, rest, w, h, hlt, hroute⟩)

/-- Only a container field leaves an empty container. -/
theorem mem_fields_of_at?_empty
    (hplace : Document.placeAll? (.obj (Entries.ofPairs (t.fieldEntries ctx)))
      (t.matched ctx.properties) = some (.obj doc))
    (hroute : route ≠ []) {c : ContainerKind} (hempty : at? route (.obj doc) = some c.empty) :
    ∃ name, route = [.key name] ∧ .container name c ∈ t.fields := by
  have hfirst := (Document.origin_of_placeAll? hplace hempty).at?_eq_empty
  obtain ⟨k, hk, field, hfield, hentry⟩ := exists_field_of_at? hfirst hroute
  obtain ⟨-, ⟨kind, rfl, hkind⟩ | ⟨source, v, -, -, -, hcopied⟩⟩ :=
    FieldRule.entry?_cases hentry
  · cases ContainerKind.empty_injective hkind
    exact ⟨k, hk, hfield⟩
  · exact absurd hcopied (Json.empty_ne_toJson c v)

/-- **The values of a message** of any template: no matched value gets lost, and each leaf and
each empty container comes from a field or a matched property. -/
theorem buildDocument_values (htemplate : g.templateFor operation ctx = .ok t)
    (hdescription : ctx.description ≠ some .null)
    (hdoc : (g.buildDocument operation ctx).outcome = .ok doc) :
    (∀ before key v later, t.matched ctx.properties = before ++ (key, v) :: later →
        v ≠ .null → (∀ e ∈ later, Path.parse e.1 ≠ Path.parse key) →
        ∃ route, Path.parse key = .ok route ∧ at? route (.obj doc) = some v.toJson) ∧
      (∀ route v, at? route (.obj doc) = some v.toJson → v ≠ .null →
        (∃ name, route = [.key name] ∧ t.Copies ctx name v) ∨
          Writes (t.matched ctx.properties) route v) ∧
      (∀ route, at? route (.obj doc) = some .null →
        Writes (t.matched ctx.properties) route .null ∨
          ∃ before i j rest v,
            Writes (t.matched ctx.properties) (before ++ .index i :: rest) v ∧ j < i ∧
              route = before ++ [.index j]) ∧
      (∀ route c, route ≠ [] → at? route (.obj doc) = some (ContainerKind.empty c) →
        ∃ name, route = [.key name] ∧ .container name c ∈ t.fields) := by
  obtain ⟨-, hplace⟩ := buildDocument_eq_ok htemplate hdescription hdoc
  refine ⟨?_, ?_, ?_, ?_⟩
  · intro before key v later hmatched hv hlast
    rw [hmatched] at hplace
    exact Document.at?_of_placeAll?_of_last hplace hv hlast
  · intro route v hleaf hv
    rcases leaf_cases hplace hleaf with ⟨-, hcopied⟩ | hassigned | ⟨hnull, -⟩
    · exact Or.inl hcopied
    · exact Or.inr hassigned
    · exact absurd hnull hv
  · intro route hleaf
    have hleaf' : at? route (.obj doc) = some PropertyValue.null.toJson := hleaf
    rcases leaf_cases hplace hleaf' with ⟨hne, -⟩ | hassigned | ⟨-, hfilled⟩
    · exact absurd rfl hne
    · exact Or.inl hassigned
    · exact Or.inr hfilled
  · intro route c hroute hempty
    exact mem_fields_of_at?_empty hplace hroute hempty

/-- No later key has the route of `x.w`; a text is copied; a null fills up a sequence. -/
theorem buildDocument_values_overlapping :
    Generator.overlapping.templateFor .heal .overlapping = .ok .overlapping ∧
      Context.overlapping.description ≠ some .null ∧
      (∃ route, Path.parse "x.w" = .ok route ∧
        at? route (.obj Document.overlapping) = some (.str "v")) ∧
      ((∃ name, [.key "c"] = [Segment.key name] ∧
          Template.overlapping.Copies .overlapping name (.str "C")) ∨
        Writes (Template.overlapping.matched Context.overlapping.properties) [.key "c"]
          (.str "C")) ∧
      (Writes (Template.overlapping.matched Context.overlapping.properties)
          [.key "a", .index 0] .null ∨
        ∃ before i j rest v,
          Writes (Template.overlapping.matched Context.overlapping.properties)
            (before ++ .index i :: rest) v ∧ j < i ∧
            [.key "a", .index 0] = before ++ [.index j]) := by
  have htemplate :
      Generator.overlapping.templateFor .heal .overlapping = .ok .overlapping := rfl
  have hdescription : Context.overlapping.description ≠ some .null := by decide
  obtain ⟨hkept, hleaves, hnulls, -⟩ :=
    buildDocument_values htemplate hdescription buildDocument_overlapping
  refine ⟨htemplate, hdescription, ?_, ?_, ?_⟩
  · have hmatched : Template.overlapping.matched Context.overlapping.properties =
        [("x.y.k", .bool true), ("a.1.z", .null)] ++
          ("x.w", .str "v") :: [("w.0", .null), ("a.1.x", .str "X")] := by
      decide
    exact hkept _ "x.w" (.str "v") _ hmatched (by decide) (by decide)
  · exact hleaves [.key "c"] (.str "C") rfl (by decide)
  · exact hnulls [.key "a", .index 0] rfl

end Generator

end VnfPayload
