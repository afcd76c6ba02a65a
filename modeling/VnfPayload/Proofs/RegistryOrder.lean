import VnfPayload.Registry
import Mathlib.Data.List.Nodup

/-!
# The templates of a registry

A registry is a sorted list that never has two templates for the same operation and version
(`Template.SameKey`).  Adding a template takes away the one with its key, if there is one, and
leaves the others: `mem_place_iff`.  So what a whole list of templates leaves in an empty
registry are those of them that no later one has the key of (`Template.latest`), in ascending
order: `perm_latest`.
-/

namespace VnfPayload

namespace Template

variable {t u x : Template}

/-- The two templates are for the same operation and version. -/
def SameKey (t u : Template) : Prop :=
  t.operation = u.operation ∧ t.version = u.version

instance (t u : Template) : Decidable (SameKey t u) :=
  inferInstanceAs (Decidable (_ ∧ _))

theorem SameKey.refl (t : Template) : SameKey t t :=
  ⟨rfl, rfl⟩

theorem SameKey.symm (h : SameKey t u) : SameKey u t :=
  ⟨h.1.symm, h.2.symm⟩

theorem SameKey.trans (h : SameKey t u) (h' : SameKey u x) : SameKey t x :=
  ⟨h.1.trans h'.1, h.2.trans h'.2⟩

/-- Of two templates with the same key neither comes first. -/
theorem Precedes.not_sameKey (h : Precedes t u) : ¬ SameKey t u := by
  rintro ⟨hoperation, hversion⟩
  rcases h with hrank | ⟨-, hlt⟩
  · rw [hoperation] at hrank
    exact Nat.lt_irrefl _ hrank
  · rw [hversion] at hlt
    exact String.lt_irrefl _ hlt

/-- The templates of a list that no later one of it has the key of. -/
def latest : List Template → List Template
  | [] => []
  | t :: ts => if ∃ u ∈ ts, u.SameKey t then latest ts else t :: latest ts

theorem mem_of_mem_latest {ts : List Template} (h : x ∈ latest ts) : x ∈ ts := by
  induction ts with
  | nil =>
      exact h
  | cons t ts ih =>
      rw [latest] at h
      split at h
      · exact List.mem_cons_of_mem _ (ih h)
      · rcases List.mem_cons.mp h with rfl | hmem
        · exact List.mem_cons_self
        · exact List.mem_cons_of_mem _ (ih hmem)

/-- The last template for a key is the only one that is left for it. -/
theorem pairwise_latest (ts : List Template) :
    (latest ts).Pairwise fun t u => ¬ SameKey t u := by
  induction ts with
  | nil =>
      exact .nil
  | cons t ts ih =>
      rw [latest]
      split
      · exact ih
      next hnone =>
        refine List.pairwise_cons.mpr ⟨fun u hu hsame => ?_, ih⟩
        exact hnone ⟨u, mem_of_mem_latest hu, hsame.symm⟩

theorem nodup_latest (ts : List Template) : (latest ts).Nodup := by
  refine (pairwise_latest ts).imp fun hne heq => ?_
  subst heq
  exact hne (SameKey.refl _)

/-- A template in front is left if no later one has its key. -/
theorem mem_latest_cons_iff {ts : List Template} :
    x ∈ latest (t :: ts) ↔ x ∈ latest ts ∨ x = t ∧ ∀ u ∈ ts, ¬ SameKey u t := by
  rw [latest]
  split
  next hlater =>
    obtain ⟨u, hu, hsame⟩ := hlater
    constructor
    · exact Or.inl
    · rintro (hmem | ⟨-, hnone⟩)
      · exact hmem
      · exact absurd hsame (hnone u hu)
  next hlater =>
    have hnone : ∀ u ∈ ts, ¬ SameKey u t := fun u hu hsame => hlater ⟨u, hu, hsame⟩
    rw [List.mem_cons]
    constructor
    · rintro (heq | hmem)
      · exact Or.inr ⟨heq, hnone⟩
      · exact Or.inl hmem
    · rintro (hmem | ⟨heq, -⟩)
      · exact Or.inr hmem
      · exact Or.inl heq

end Template

namespace Registry

open Template

variable {t u x : Template} {us : List Template}

/-- A template that is put into a sorted list takes the place of the one with its key. -/
theorem mem_place_iff (hus : us.Pairwise Precedes) :
    x ∈ place t us ↔ x = t ∨ x ∈ us ∧ ¬ SameKey x t := by
  induction us with
  | nil =>
      simp [place]
  | cons u us ih =>
      obtain ⟨hu, hrest⟩ := List.pairwise_cons.mp hus
      rw [place]
      split
      next htu =>
        -- It comes before all others, so none of them has its key.
        have hall : ∀ y ∈ u :: us, ¬ SameKey y t := by
          intro y hy hsame
          rcases List.mem_cons.mp hy with rfl | hmem
          · exact htu.not_sameKey hsame.symm
          · exact (htu.trans (hu y hmem)).not_sameKey hsame.symm
        rw [List.mem_cons]
        constructor
        · exact Or.imp_right fun hmem => ⟨hmem, hall x hmem⟩
        · exact Or.imp_right And.left
      next htu =>
        split
        next hut =>
          rw [List.mem_cons, List.mem_cons, ih hrest]
          constructor
          · rintro (rfl | rfl | ⟨hmem, hne⟩)
            · exact Or.inr ⟨Or.inl rfl, hut.not_sameKey⟩
            · exact Or.inl rfl
            · exact Or.inr ⟨Or.inr hmem, hne⟩
          · rintro (rfl | ⟨rfl | hmem, hne⟩)
            · exact Or.inr (Or.inl rfl)
            · exact Or.inl rfl
            · exact Or.inr (Or.inr ⟨hmem, hne⟩)
        next hut =>
          have hsame : SameKey t u := same_of_not_precedes htu hut
          rw [List.mem_cons, List.mem_cons]
          constructor
          · rintro (rfl | hmem)
            · exact Or.inl rfl
            · refine Or.inr ⟨Or.inr hmem, fun hx => ?_⟩
              exact (hu x hmem).not_sameKey (hsame.symm.trans hx.symm)
          · rintro (rfl | ⟨rfl | hmem, hne⟩)
            · exact Or.inl rfl
            · exact absurd hsame.symm hne
            · exact Or.inr hmem

theorem mem_insert_iff (r : Registry) :
    x ∈ (r.insert t).templates ↔ x = t ∨ x ∈ r.templates ∧ ¬ SameKey x t :=
  mem_place_iff r.sorted

/-- What a list of templates leaves in a registry: the last one for each key, and what was
there for the other keys. -/
theorem mem_insertAll_iff (r : Registry) (ts : List Template) :
    x ∈ (r.insertAll ts).templates ↔
      x ∈ latest ts ∨ x ∈ r.templates ∧ ∀ u ∈ ts, ¬ SameKey u x := by
  induction ts generalizing r with
  | nil =>
      simp [insertAll, latest]
  | cons t ts ih =>
      have hstep : r.insertAll (t :: ts) = (r.insert t).insertAll ts := rfl
      rw [hstep, ih, mem_insert_iff, mem_latest_cons_iff, List.forall_mem_cons]
      constructor
      · rintro (hmem | ⟨rfl | ⟨hmem, hne⟩, hnone⟩)
        · exact Or.inl (Or.inl hmem)
        · exact Or.inl (Or.inr ⟨rfl, hnone⟩)
        · exact Or.inr ⟨hmem, fun hsame => hne hsame.symm, hnone⟩
      · rintro ((hmem | ⟨rfl, hnone⟩) | ⟨hmem, hne, hnone⟩)
        · exact Or.inl hmem
        · exact Or.inr ⟨Or.inl rfl, hnone⟩
        · exact Or.inr ⟨Or.inr ⟨hmem, fun hsame => hne hsame.symm⟩, hnone⟩

/-- Whether there is a template with a key, after one more was added. -/
theorem exists_sameKey_insert_iff (r : Registry) :
    (∃ u ∈ (r.insert t).templates, u.SameKey x) ↔
      (∃ u ∈ r.templates, u.SameKey x) ∨ t.SameKey x := by
  constructor
  · rintro ⟨u, hu, hsame⟩
    rcases (mem_insert_iff r).mp hu with rfl | ⟨hmem, -⟩
    · exact Or.inr hsame
    · exact Or.inl ⟨u, hmem, hsame⟩
  · rintro (⟨u, hmem, hsame⟩ | hsame)
    · by_cases hut : u.SameKey t
      · exact ⟨t, (mem_insert_iff r).mpr (Or.inl rfl), hut.symm.trans hsame⟩
      · exact ⟨u, (mem_insert_iff r).mpr (Or.inr ⟨hmem, hut⟩), hsame⟩
    · exact ⟨t, (mem_insert_iff r).mpr (Or.inl rfl), hsame⟩

theorem exists_sameKey_insertAll_iff (r : Registry) (ts : List Template) :
    (∃ u ∈ (r.insertAll ts).templates, u.SameKey x) ↔
      ∃ u ∈ r.templates ++ ts, u.SameKey x := by
  induction ts generalizing r with
  | nil =>
      simp [insertAll]
  | cons t ts ih =>
      have hstep : r.insertAll (t :: ts) = (r.insert t).insertAll ts := rfl
      simp only [hstep, ih, List.mem_append, or_and_right, exists_or,
        exists_sameKey_insert_iff, List.exists_mem_cons_iff, or_assoc]

theorem insertAll_append (r : Registry) (ts ts' : List Template) :
    r.insertAll (ts ++ ts') = (r.insertAll ts).insertAll ts' :=
  List.foldl_append

theorem nodup_templates (r : Registry) : r.templates.Nodup := by
  refine r.sorted.imp fun hlt heq => ?_
  subst heq
  exact Precedes.irrefl _ hlt

/-- A list of templates leaves in an empty registry the last one for each key. -/
theorem perm_latest (ts : List Template) :
    (empty.insertAll ts).templates.Perm (latest ts) := by
  refine (List.perm_ext_iff_of_nodup (nodup_templates _) (nodup_latest ts)).mpr fun x => ?_
  rw [mem_insertAll_iff]
  simp [empty]

/-- A look-up finds a template exactly if there is one with the key. -/
theorem isSome_get?_iff (r : Registry) (t : Template) :
    (r.get? t.operation t.version).isSome = true ↔ ∃ u ∈ r.templates, u.SameKey t := by
  simp [get?, List.find?_isSome, SameKey]

theorem sameKey_of_get? {r : Registry} (h : r.get? t.operation t.version = some u) :
    u.SameKey t := by
  have hfound := List.find?_some h
  exact of_decide_eq_true hfound

end Registry

end VnfPayload
