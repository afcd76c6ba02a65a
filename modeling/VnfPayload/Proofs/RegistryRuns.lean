import VnfPayload.Proofs.ByteOrder
import VnfPayload.Proofs.RegistryOrder
import VnfPayload.Registry.Builtin
import Mathlib.Data.Finset.Card

/-!
# Runs of registrations

A registry is filled by one call after the other, each of which gives back the template that it
replaces (`Registry.registerEach`).  All that can be asked of the registry afterwards follows
from the list of calls: a look-up finds the last template that was registered for the operation
and version, or the one that was there at the start (`Registry.get?_insertAll`), and the list of
templates holds what the look-ups find in the order of operations and versions.

The order of the calls has no influence if no two of them are for the same operation and
version: `Registry.insertAll_perm`.  `Registry.registerEach_run` says all of this, and that
number and versions are those of the templates.
-/

namespace VnfPayload

theorem Operation.rank_eq_idxOf (op : Operation) : op.rank = Operation.all.idxOf op := by
  cases op <;> rfl

namespace Template

variable {t u : Template}

/-- What a template is registered for. -/
def key (t : Template) : Operation × String :=
  (t.operation, t.version)

theorem key_eq_iff : t.key = u.key ↔ SameKey t u :=
  Prod.mk_inj

/-- By the order in which the operations are declared, and for one operation by the bytes of the
versions. -/
def ListedBefore (t u : Template) : Prop :=
  Operation.all.idxOf t.operation < Operation.all.idxOf u.operation ∨
    t.operation = u.operation ∧ Text.bytes t.version < Text.bytes u.version

theorem precedes_iff_listedBefore : Precedes t u ↔ ListedBefore t u := by
  have hsame : t.operation.rank = u.operation.rank ↔ t.operation = u.operation :=
    ⟨fun h => Operation.rank_injective h, congrArg Operation.rank⟩
  rw [Precedes, hsame, ListedBefore, Operation.rank_eq_idxOf, Operation.rank_eq_idxOf,
    Text.lt_iff_bytes_lt]

/-- The last template of a list for an operation and version. -/
def lastFor (op : Operation) (version : String) (ts : List Template) : Option Template :=
  ts.reverse.find? fun t => t.key = (op, version)

/-- If no two templates have the same key then no later one takes the place of another one. -/
theorem latest_eq_self {ts : List Template} (h : ts.Pairwise fun t u => ¬ SameKey t u) :
    latest ts = ts := by
  induction ts with
  | nil =>
      rfl
  | cons t ts ih =>
      obtain ⟨ht, hts⟩ := List.pairwise_cons.mp h
      rw [latest, if_neg, ih hts]
      rintro ⟨u, hu, hsame⟩
      exact ht u hu hsame.symm

end Template

namespace Registry

open Template

variable {t u : Template} {op : Operation} {version : String}

theorem ext {r r' : Registry} (h : r.templates = r'.templates) : r = r' := by
  cases r
  cases r'
  cases h
  rfl

/-- No two templates of a registry have the same key. -/
theorem nodup_map_key (r : Registry) : (r.templates.map key).Nodup := by
  refine List.pairwise_map.mpr (r.sorted.imp fun hlt heq => ?_)
  exact hlt.not_sameKey (key_eq_iff.mp heq)

theorem eq_of_key_eq {r : Registry} (ht : t ∈ r.templates) (hu : u ∈ r.templates)
    (h : t.key = u.key) : t = u :=
  List.inj_on_of_nodup_map r.nodup_map_key ht hu h

/-- A look-up finds the template of the registry that has the key. -/
theorem get?_eq_some_iff (r : Registry) :
    r.get? op version = some t ↔ t ∈ r.templates ∧ t.key = (op, version) := by
  constructor
  · intro h
    refine ⟨List.mem_of_find?_eq_some h, ?_⟩
    exact key_eq_iff.mpr (sameKey_of_get? (t := ⟨op, version, [], []⟩) h)
  · rintro ⟨ht, hkey⟩
    cases hkey
    cases hget : r.get? t.operation t.version with
    | none =>
        have hsome := (isSome_get?_iff r t).mpr ⟨t, ht, SameKey.refl t⟩
        rw [hget] at hsome
        cases hsome
    | some u =>
        rw [eq_of_key_eq (List.mem_of_find?_eq_some hget) ht
          (key_eq_iff.mpr (sameKey_of_get? hget))]

theorem get?_insert (r : Registry) (t : Template) :
    (r.insert t).get? op version =
      if t.key = (op, version) then some t else r.get? op version := by
  ext x
  rw [get?_eq_some_iff, mem_insert_iff]
  split
  next hkey =>
    rw [Option.some.injEq]
    constructor
    · rintro ⟨rfl | ⟨-, hne⟩, hx⟩
      · rfl
      · exact absurd (key_eq_iff.mp (hx.trans hkey.symm)) hne
    · rintro rfl
      exact ⟨Or.inl rfl, hkey⟩
  next hkey =>
    rw [get?_eq_some_iff]
    constructor
    · rintro ⟨rfl | ⟨hmem, -⟩, hx⟩
      · exact absurd hx hkey
      · exact ⟨hmem, hx⟩
    · rintro ⟨hmem, hx⟩
      refine ⟨Or.inr ⟨hmem, fun hsame => ?_⟩, hx⟩
      exact hkey ((key_eq_iff.mpr hsame).symm.trans hx)

/-- A look-up finds what was registered last, or else what was there before. -/
theorem get?_insertAll (r : Registry) (ts : List Template) :
    (r.insertAll ts).get? op version = (lastFor op version ts).or (r.get? op version) := by
  induction ts using List.reverseRecOn with
  | nil =>
      rfl
  | append_singleton ts t ih =>
      have hstep : r.insertAll (ts ++ [t]) = (r.insertAll ts).insert t := by
        rw [insertAll_append]
        rfl
      rw [hstep, get?_insert, ih, lastFor, lastFor, List.reverse_append, List.reverse_singleton,
        List.singleton_append, List.find?_cons]
      by_cases hkey : t.key = (op, version)
      · simp [hkey]
      · simp [hkey]

/-! ## Runs -/

/-- Registers the templates one after the other, and collects what each call gives back. -/
def registerEach (r : Registry) : List Template → Registry × List (Option Template)
  | [] => (r, [])
  | t :: ts =>
      let (r', replaced) := r.register t
      let (r'', rest) := registerEach r' ts
      (r'', replaced :: rest)

theorem registerEach_fst (r : Registry) (ts : List Template) :
    (r.registerEach ts).1 = r.insertAll ts := by
  induction ts generalizing r with
  | nil =>
      rfl
  | cons t ts ih =>
      exact ih (r.insert t)

theorem length_registerEach (r : Registry) (ts : List Template) :
    (r.registerEach ts).2.length = ts.length := by
  induction ts generalizing r with
  | nil =>
      rfl
  | cons t ts ih =>
      exact congrArg (· + 1) (ih (r.insert t))

/-- A call gives back what a look-up would have found just before it. -/
theorem registerEach_replaced (r : Registry) (before : List Template) (t : Template)
    (after : List Template) :
    (r.registerEach (before ++ t :: after)).2[before.length]? =
      some ((r.registerEach before).1.get? t.operation t.version) := by
  induction before generalizing r with
  | nil =>
      rfl
  | cons u before ih =>
      exact ih (r.insert u)

/-! ## What a registry holds -/

/-- A registry has as many templates as there are keys among those that were put into it. -/
theorem size_insertAll (r : Registry) (ts : List Template) :
    (r.insertAll ts).size = ((r.templates ++ ts).map key).toFinset.card := by
  have hkeys : ((r.insertAll ts).templates.map key).toFinset =
      ((r.templates ++ ts).map key).toFinset := by
    ext ⟨op, version⟩
    have hexists := exists_sameKey_insertAll_iff (x := ⟨op, version, [], []⟩) r ts
    simp only [← key_eq_iff] at hexists
    rw [List.mem_toFinset, List.mem_toFinset, List.mem_map, List.mem_map]
    exact hexists
  rw [← hkeys, List.toFinset_card_of_nodup (nodup_map_key _), List.length_map, size]

theorem pairwise_versions (r : Registry) (op : Operation) :
    (r.versions op).Pairwise fun v w => Text.bytes v < Text.bytes w := by
  refine List.pairwise_map.mpr ((List.pairwise_filter.mpr ?_))
  refine r.sorted.imp fun hlt ht hu => ?_
  have hoperation := (of_decide_eq_true ht).trans (of_decide_eq_true hu).symm
  rcases precedes_iff_listedBefore.mp hlt with hlt | ⟨-, hlt⟩
  · rw [hoperation] at hlt
    exact absurd hlt (Nat.lt_irrefl _)
  · exact hlt

theorem mem_versions_iff (r : Registry) :
    version ∈ r.versions op ↔ ∃ t ∈ r.templates, t.key = (op, version) := by
  simp only [versions, List.mem_map, List.mem_filter, decide_eq_true_iff, and_assoc, key,
    Prod.mk.injEq]

/-- The order of calls for different keys has no influence. -/
theorem insertAll_perm (r : Registry) {ts ts' : List Template} (hperm : ts.Perm ts')
    (h : ts.Pairwise fun t u => ¬ SameKey t u) :
    r.insertAll ts = r.insertAll ts' := by
  have h' : ts'.Pairwise fun t u => ¬ SameKey t u :=
    hperm.pairwise h fun hne hsame => hne hsame.symm
  have hmem : (r.insertAll ts).templates.Perm (r.insertAll ts').templates := by
    refine (List.perm_ext_iff_of_nodup (nodup_templates _) (nodup_templates _)).mpr fun x => ?_
    rw [mem_insertAll_iff, mem_insertAll_iff, latest_eq_self h, latest_eq_self h']
    simp only [hperm.mem_iff]
  refine ext (hmem.eq_of_pairwise (fun t u _ _ htu hut => ?_) (sorted _) (sorted _))
  exact absurd (htu.trans hut) (Precedes.irrefl t)

/-- **What a registry holds after any calls**: `r` and what the calls gave back in `replaced`,
told from the calls and from the registry at the start. -/
theorem registerEach_run (start : Registry) (ts : List Template) {r : Registry}
    {replaced : List (Option Template)} (h : start.registerEach ts = (r, replaced)) :
    (∀ t, t ∈ r.templates ↔ r.get? t.operation t.version = some t) ∧
    (∀ op version t, r.get? op version = some t → t.operation = op ∧ t.version = version) ∧
    r.templates.Pairwise ListedBefore ∧
    (∀ op version, r.get? op version =
      (lastFor op version ts).or (start.get? op version)) ∧
    (replaced.length = ts.length ∧
      ∀ before t after, ts = before ++ t :: after →
        replaced[before.length]? =
          some ((start.registerEach before).1.get? t.operation t.version)) ∧
    (r.size = ((start.templates ++ ts).map key).toFinset.card ∧
      (r.isEmpty = true ↔ r.size = 0)) ∧
    (∀ op, ((r.versions op).Pairwise fun v w => Text.bytes v < Text.bytes w) ∧
      ∀ version, version ∈ r.versions op ↔
        ∃ t ∈ r.templates, t.operation = op ∧ t.version = version) ∧
    ∀ ts' : List Template, ts.Perm ts' → (ts.Pairwise fun t u => ¬ SameKey t u) →
      (start.registerEach ts').1 = r := by
  have hr : r = start.insertAll ts := by
    rw [← registerEach_fst, h]
  have hreplaced : replaced = (start.registerEach ts).2 := by
    rw [h]
  refine ⟨fun t => ?_, fun op version t hget => ?_, ?_, fun op version => ?_, ⟨?_, ?_⟩, ⟨?_, ?_⟩,
    fun op => ⟨r.pairwise_versions op, fun version => ?_⟩, fun ts' hperm hdistinct => ?_⟩
  · rw [get?_eq_some_iff]
    exact (and_iff_left rfl).symm
  · exact Prod.mk_inj.mp ((get?_eq_some_iff r).mp hget).2
  · exact r.sorted.imp precedes_iff_listedBefore.mp
  · rw [hr, get?_insertAll]
  · rw [hreplaced, length_registerEach]
  · rintro before t after rfl
    rw [hreplaced, registerEach_replaced]
  · rw [hr, size_insertAll]
  · rw [isEmpty, size, List.isEmpty_iff, List.length_eq_zero_iff]
  · rw [mem_versions_iff]
    simp only [key, Prod.mk.injEq]
  · rw [registerEach_fst, hr, insertAll_perm start hperm hdistinct]

/-- Two later versions of a template and one of another one. -/
def laterVersions : List Template :=
  [⟨.heal, "9.0.0", [], []⟩, ⟨.heal, "10.0.0", [], []⟩, ⟨.scale, "é", [], []⟩]

/-- Another template for one of these versions. -/
def revised : Template :=
  ⟨.heal, "10.0.0", [], ["additionalParams."]⟩

/-- The template that is registered a second time is found, and the first one is given back. -/
theorem registerEach_run_revised :
    (builtin.registerEach (laterVersions ++ [revised])).1.get? .heal "10.0.0" = some revised ∧
      (builtin.registerEach (laterVersions ++ [revised])).2[3]? =
        some (some ⟨.heal, "10.0.0", [], []⟩) ∧
      (builtin.registerEach laterVersions.reverse).1 = (builtin.registerEach laterVersions).1 := by
  obtain ⟨-, -, -, hget, ⟨-, hreplaced⟩, -⟩ :=
    registerEach_run builtin (laterVersions ++ [revised]) Prod.mk.eta.symm
  obtain ⟨-, -, -, hget', -, -, -, hperm⟩ :=
    registerEach_run builtin laterVersions Prod.mk.eta.symm
  refine ⟨?_, ?_, hperm _ (List.reverse_perm _).symm (by decide)⟩
  · rw [hget]
    rfl
  · refine (hreplaced laterVersions revised [] rfl).trans ?_
    rw [revised, hget']
    rfl

/-- Versions are ordered as text, so ten comes before two. -/
example : (builtin.registerEach laterVersions).1.versions .heal =
    ["10.0.0", "2.4.1", "3.5.1", "9.0.0"] := by
  decide +kernel

end Registry

end VnfPayload
