import VnfPayload.Proofs.Atomicity
import VnfPayload.Proofs.BatchOrder
import VnfPayload.Proofs.Obstruction
import VnfPayload.Proofs.Provenance

/-!
# Conflicts between properties

An assignment fails because of one node that is in its way (`Json.assign?_eq_none_iff`).
When a property of a list cannot be folded in, that node has an origin.  Either it stood in
the document from the start, and then the property fails on its own; or one of the earlier
properties assigned it or passed through it, and then these two fail together.  A null that
fills up a sequence hinders nothing.  This is `Document.exists_conflict`, and it asks nothing
of the list.

For lists in which no null is assigned on the way to another property, conflicts cannot be
cured either, for independent properties may change places.  So such a list is folded in
exactly if each property and each pair of properties is.
-/

namespace VnfPayload

namespace Document

open Json (at? Hinders)

variable {root : Json}

/-- No property is a null on the way to another one, where it would become a container. -/
def NullsApart (items : List (String × PropertyValue)) : Prop :=
  ∀ a ∈ items, ∀ b ∈ items, a.2 = .null →
    ∀ p q, Path.parse a.1 = .ok p → Path.parse b.1 = .ok q → p <+: q → p = q

theorem NullsApart.of_sublist {items part : List (String × PropertyValue)}
    (h : NullsApart items) (hsub : part.Sublist items) :
    NullsApart part :=
  fun a ha b hb => h a (hsub.subset ha) b (hsub.subset hb)

theorem pairwise_independent {items : List (String × PropertyValue)}
    (hdistinct : items.Pairwise fun a b =>
      ∀ p, Path.parse a.1 = .ok p → Path.parse b.1 ≠ .ok p)
    (hnull : NullsApart items) :
    items.Pairwise Independent := by
  refine hdistinct.imp_of_mem fun {a b} ha hb hab p q hp hq => ?_
  have hne : p ≠ q := fun heq => hab p hp (heq ▸ hq)
  exact ⟨hne, fun hv hpre => hne (hnull a ha b hb hv p q hp hq hpre),
    fun hw hpre => hne (hnull b hb a ha hw q p hq hp hpre).symm⟩

/-- Two properties fail together if the first one leaves a node that hinders the second. -/
theorem placeAll?_pair_eq_none {first item : String × PropertyValue}
    {other route : List Segment} {x : Json} (hparse : Path.parse item.1 = .ok route)
    (hx : Hinders other x route)
    (hleft : ∀ after, place? root first = some after →
      ∃ y, at? other after = some y ∧ x.kind = y.kind) :
    placeAll? root [first, item] = none := by
  rw [placeAll?_cons]
  cases hfirst : place? root first with
  | none =>
      rfl
  | some after =>
      obtain ⟨y, hy, hkind⟩ := hleft after hfirst
      have hitem : place? after item = none := by
        rw [place?, hparse]
        exact (Json.assign?_eq_none_iff _ _ _).mpr ⟨other, y, hy, hx.of_kind_eq hkind⟩
      simp [hitem]

/-- **A failure has one cause**: the document alone, or one of the earlier properties. -/
theorem exists_conflict {before : List (String × PropertyValue)}
    {item : String × PropertyValue} {between : Json}
    (hbefore : placeAll? root before = some between) (hitem : place? between item = none) :
    place? root item = none ∨
      ∃ first ∈ before, placeAll? root [first, item] = none := by
  cases hparse : Path.parse item.1 with
  | error fault =>
      left
      rw [place?, hparse]
  | ok route =>
      rw [place?, hparse] at hitem
      obtain ⟨other, x, hx, hhinders⟩ := (Json.assign?_eq_none_iff _ _ _).mp hitem
      cases origin_of_placeAll? hbefore hx with
      | kept h =>
          left
          rw [place?, hparse]
          exact (Json.assign?_eq_none_iff _ _ _).mpr ⟨other, x, h, hhinders⟩
      | assigned v h hnode =>
          obtain ⟨path, hmem, hpath⟩ := h
          refine Or.inr ⟨(path, v), hmem, placeAll?_pair_eq_none hparse hhinders ?_⟩
          intro after hafter
          rw [place?, hpath] at hafter
          exact ⟨v.toJson, (Json.at?_assign? hafter).2, by rw [hnode]⟩
      | passed s rest v h hkind hne =>
          obtain ⟨path, hmem, hpath⟩ := h
          refine Or.inr ⟨(path, v), hmem, placeAll?_pair_eq_none hparse hhinders ?_⟩
          intro after hafter
          rw [place?, hpath] at hafter
          obtain ⟨-, y, hy⟩ := Json.at?_assign?_above hafter
          exact ⟨_, hy, by rw [hkind, Json.kind_put]⟩
      | padded earlier i j rest v h hlt hroute hnull =>
          rw [hnull] at hhinders
          exact absurd hhinders Json.not_hinders_null

/-- A list that fails has a part of one or two properties that fails. -/
theorem exists_failing_part {doc : Document} {items : List (String × PropertyValue)} {e : Error}
    (h : (doc.materializeAll items).2 = .error e) :
    ∃ part : List (String × PropertyValue), part.Sublist items ∧
      (part.length = 1 ∨ part.length = 2) ∧ placeAll? (.obj doc) part = none := by
  obtain ⟨before, path, value, after, hitems, hbefore, herror⟩ := materializeAll_stops h
  have hplace : place? (.obj (doc.materializeAll items).1) (path, value) = none := by
    rcases materialize_cases (doc.materializeAll items).1 path value with
      ⟨found, -, hrun⟩ | ⟨hnone, -⟩
    · rw [hrun] at herror
      cases herror
    · exact hnone
  have hlast : [(path, value)].Sublist ((path, value) :: after) :=
    List.singleton_sublist.mpr List.mem_cons_self
  rw [hitems]
  rcases exists_conflict ((materializeAll_eq_ok_iff _ _ _).mp hbefore) hplace with
    hown | ⟨first, hmem, hpair⟩
  · refine ⟨[(path, value)], ?_, Or.inl rfl, by simp [hown]⟩
    exact hlast.trans (List.sublist_append_right before _)
  · refine ⟨[first, (path, value)], ?_, Or.inr rfl, hpair⟩
    exact (List.singleton_sublist.mpr hmem).append hlast

/-- A part of a list of independent properties is folded in if the whole list is. -/
theorem exists_placeAll?_of_sublist {items part : List (String × PropertyValue)}
    (hindependent : items.Pairwise Independent) (hsub : part.Sublist items) {after : Json}
    (h : placeAll? root items = some after) :
    ∃ found, placeAll? root part = some found := by
  obtain ⟨rest, hperm⟩ := hsub.exists_perm_append
  have hrel := placeAll?_perm hperm hindependent (Json.Alike.refl root)
  rw [h] at hrel
  obtain ⟨found, hfound, -⟩ := Json.exists_of_rel_some hrel
  rw [placeAll?_append] at hfound
  obtain ⟨between, hbetween, -⟩ := Option.bind_eq_some_iff.mp hfound
  exact ⟨between, hbetween⟩

/-- **Conflicts are pairwise**: a list without repeated routes, in which no null is assigned on
the way to another property, is folded in exactly if its parts of one or two properties are. -/
theorem materializeAll_pairwise {doc : Document} {items : List (String × PropertyValue)}
    (hdistinct : items.Pairwise fun a b =>
      ∀ p, Path.parse a.1 = .ok p → Path.parse b.1 ≠ .ok p)
    (hnull : NullsApart items) :
    (doc.materializeAll items).2 = .ok () ↔
      ∀ part : List (String × PropertyValue), part.Sublist items →
        part.length = 1 ∨ part.length = 2 → (doc.materializeAll part).2 = .ok () := by
  constructor
  · intro h part hsub _
    obtain ⟨after, hafter⟩ := (materializeAll_snd_eq_ok_iff items doc).mp h
    obtain ⟨found, hfound⟩ :=
      exists_placeAll?_of_sublist (pairwise_independent hdistinct hnull) hsub hafter
    obtain ⟨members, rfl⟩ := placeAll?_obj hfound
    exact (materializeAll_snd_eq_ok_iff part doc).mpr ⟨members, hfound⟩
  · intro h
    cases houtcome : (doc.materializeAll items).2 with
    | ok u =>
        rfl
    | error e =>
        obtain ⟨part, hsub, hlength, hnone⟩ := exists_failing_part houtcome
        obtain ⟨found, hfound⟩ :=
          (materializeAll_snd_eq_ok_iff part doc).mp (h part hsub hlength)
        rw [hnone] at hfound
        cases hfound

/-- Each two of four properties go together, and so do all four.  A fifth one goes with all of
them but one, so the five do not go together. -/
theorem materializeAll_pairwise_shared_null :
    (∀ part : List (String × PropertyValue),
        part.Sublist [("z.2", .bool true), ("s.1.k", .str "x"), ("z.0.k", .null),
          ("s.1.n.0", .null)] →
        part.length = 1 ∨ part.length = 2 →
        (materializeAll [("z", .null), ("s", .arr [.bool true])] part).2 = .ok ()) ∧
      (materializeAll [("z", .null), ("s", .arr [.bool true])]
        [("z.2", .bool true), ("z.k", .null)]).2 =
          .error (.structuralConflict "z.k" "z" .mapping .sequence) ∧
      (materializeAll [("z", .null), ("s", .arr [.bool true])]
        [("z.2", .bool true), ("s.1.k", .str "x"), ("z.0.k", .null), ("s.1.n.0", .null),
          ("z.k", .null)]).2 ≠ .ok () := by
  have hz2 : Path.parse "z.2" = .ok [.key "z", .index 2] := rfl
  have hs1k : Path.parse "s.1.k" = .ok [.key "s", .index 1, .key "k"] := rfl
  have hz0k : Path.parse "z.0.k" = .ok [.key "z", .index 0, .key "k"] := rfl
  have hs1n0 : Path.parse "s.1.n.0" = .ok [.key "s", .index 1, .key "n", .index 0] := rfl
  have hzk : Path.parse "z.k" = .ok [.key "z", .key "k"] := rfl
  refine ⟨?_, rfl, fun hall => ?_⟩
  · exact (@materializeAll_pairwise [("z", .null), ("s", .arr [.bool true])]
      [("z.2", .bool true), ("s.1.k", .str "x"), ("z.0.k", .null), ("s.1.n.0", .null)]
      (by simp [hz2, hs1k, hz0k, hs1n0])
      (by simp [NullsApart, hz2, hs1k, hz0k, hs1n0])).mp rfl
  · have hpair := (materializeAll_pairwise (by simp [hz2, hs1k, hz0k, hs1n0, hzk])
      (by simp [NullsApart, hz2, hs1k, hz0k, hs1n0, hzk])).mp hall
        [("z.2", .bool true), ("z.k", .null)] (by decide) (Or.inr rfl)
    cases hpair

end Document

end VnfPayload
