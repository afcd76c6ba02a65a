import VnfPayload.Proofs.BuiltDocument
import VnfPayload.Proofs.Grammar
import VnfPayload.Proofs.PathText

/-!
# Messages of any depth

A property is folded in at the node that its key names, so the nesting of a message is as
deep as the keys of its request are long.  The family of requests below has one property
each, and `Generator.buildDocument_deep` says which document it gives.
-/

namespace VnfPayload

/-- Sequences of one item within each other. -/
def Json.nested : Nat → Json
  | 0 => .bool true
  | n + 1 => .arr [nested n]

/-- A route with the given number of positions, in the additional parameters. -/
def Path.deepRoute (n : Nat) : List Segment :=
  .key "additionalParams" :: .key "a" :: List.replicate n (.index 0)

/-- The context whose only property has the key of such a route. -/
def Context.deep (n : Nat) : Context where
  properties := .ofPairs [(Path.spell (Path.deepRoute n), .bool true)]
  lifecycleName := none
  description := none

/-- The document that arises from it. -/
def Document.deep (n : Nat) : Document :=
  [("additionalParams", .obj [("a", .nested n)])]

theorem Path.parse_deepRoute (n : Nat) :
    parse (spell (deepRoute n)) = .ok (deepRoute n) := by
  refine parse_spell (by simp [deepRoute]) ?_ ?_
  · intro k hk
    have hkey : k = "additionalParams" ∨ k = "a" := by
      simpa [deepRoute, List.mem_replicate] using hk
    rcases hkey with rfl | rfl <;> simp [IsKey]
  · intro s hs
    simp only [deepRoute, List.mem_cons, List.mem_replicate] at hs
    rcases hs with rfl | rfl | ⟨-, rfl⟩ <;> simp [Segment.Within, maxIndex]

namespace Json

theorem depth_nested (n : Nat) : (nested n).depth = n := by
  induction n with
  | zero =>
      rfl
  | succ n ih =>
      simp [nested, depth, depthItems, ih]

theorem integersOnly_nested (n : Nat) : (nested n).IntegersOnly := by
  induction n with
  | zero =>
      trivial
  | succ n ih =>
      exact ⟨ih, trivial⟩

theorem assign_replicate (n depth : Nat) :
    assign (.bool true) depth (List.replicate n (.index 0)) .null = (nested n, none) := by
  induction n generalizing depth with
  | zero =>
      rfl
  | succ n ih =>
      simp [List.replicate_succ, assign, opened, Segment.container, ContainerKind.empty,
        putAt, nested, ih]

end Json

namespace Document

theorem depth_deep (n : Nat) : (Json.obj (deep n)).depth = n + 2 := by
  simp [deep, Json.depth, Json.depthMembers, Json.depth_nested]

theorem integersOnly_deep (n : Nat) : (Json.obj (deep n)).IntegersOnly :=
  ⟨⟨Json.integersOnly_nested n, trivial⟩, trivial⟩

theorem materialize_deepRoute (n : Nat) :
    materialize [("additionalParams", .obj [])] (Path.spell (Path.deepRoute n))
      (.bool true) = (deep n, .ok ()) := by
  rw [materialize, Path.parse_deepRoute]
  simp [Path.deepRoute, deep, Json.assign, Json.opened, Entries.get?, Entries.insert,
    Json.assign_replicate, ofNode]

end Document

namespace Context

theorem withPrefixes_deep (n : Nat) :
    (deep n).properties.withPrefixes Registry.parameterPrefixes =
      [(Path.spell (Path.deepRoute n), .bool true)] := by
  simp [deep, PropertySet.withPrefixes, PropertySet.ofPairs, PropertySet.startsWithAny,
    Path.spell, Path.join, Path.deepRoute, Segment.chars, PropertySet.insert,
    PropertySet.empty, Entries.insert, Registry.parameterPrefixes, List.intercalate]

/-- The key of the property begins with a letter, so there is no other property. -/
theorem getNonNull?_deep (n : Nat) {key : String} (hkey : key.toList.head? ≠ some 'a') :
    (deep n).properties.getNonNull? key = none := by
  have hne : Path.spell (Path.deepRoute n) ≠ key := by
    rintro rfl
    simp [Path.spell, Path.join, Path.deepRoute, Segment.chars, List.intercalate] at hkey
  simp [deep, PropertySet.getNonNull?, PropertySet.get?, PropertySet.ofPairs,
    PropertySet.insert, PropertySet.empty, Entries.insert, Entries.get?, hne]

end Context

namespace Generator

/-- There are messages of any depth above one. -/
theorem buildDocument_deep (n : Nat) :
    (standard.buildDocument .heal (.deep n)).outcome = .ok (.deep n) := by
  have hversion : standard.resolveVersion (.deep n) = .ok Registry.version2 := by
    have hnone : (Context.deep n).properties.getNonNull? standard.config.versionKey = none :=
      Context.getNonNull?_deep n (by decide)
    simp only [resolveVersion, hnone]
    rfl
  have htemplate : standard.templateFor .heal (.deep n) =
      .ok ⟨.heal, Registry.version2,
        [Registry.mapping "additionalParams", Registry.optional "cause"],
        Registry.parameterPrefixes⟩ := by
    simp only [templateFor, hversion]
    rfl
  have hcause : applyField (.deep n) [("additionalParams", .obj [])]
      (Registry.optional "cause") =
        ⟨[.omitted "cause" (some "cause")], .ok [("additionalParams", .obj [])]⟩ := by
    have hnone : (Context.deep n).properties.getNonNull? "cause" = none :=
      Context.getNonNull?_deep n (by decide)
    simp [applyField, Registry.optional, FieldRule.sourceOf, readSource, hnone,
      FieldSource.key?]
  have hfold : foldIn [("additionalParams", .obj [])]
      ((Context.deep n).properties.withPrefixes Registry.parameterPrefixes) =
        .ok (.deep n) := by
    rw [Context.withPrefixes_deep]
    simp [foldIn, Document.materializeAll, Document.materialize_deepRoute]
  have hfields : (applyFields (.deep n) []
      [Registry.mapping "additionalParams", Registry.optional "cause"]).outcome =
        .ok [("additionalParams", .obj [])] := by
    refine (Run.bind_outcome_eq_ok_iff _ _ _).mpr ⟨[("additionalParams", .obj [])], rfl, ?_⟩
    rw [applyFields, hcause]
    rfl
  rw [buildDocument_outcome htemplate, buildFrom, Run.bind_outcome_eq_ok_iff]
  refine ⟨_, hfields, ?_⟩
  simp only [Run.ofExcept, hfold]

end Generator

end VnfPayload
