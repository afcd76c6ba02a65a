import VnfPayload.Entries
import Mathlib.Data.List.Induction
import Mathlib.Data.List.Perm.Subperm

/-!
# Laws of entries

Look-up, insertion and the list of keys together.  Entries are used in two ways: as a
mapping, where only look-ups count, and as a list, where the position of a key counts as
well.  The laws of the second kind ask that no key occurs twice.

Main statements:

* `insert_of_get?` says that inserting what is there already changes nothing;
* `insert_of_notMem` says that a new entry goes to the end;
* `ofPairs_eq_self` says that pairs with different keys are kept as they are;
* `keys_ofPairs` and `get?_ofPairs_eq_some_iff` say what becomes of pairs of which some have the
  same key.
-/

namespace VnfPayload

universe u

namespace Entries

variable {α : Type u}

@[simp] theorem get?_nil (key : String) :
    get? ([] : Entries α) key = none := rfl

theorem get?_cons (k : String) (x : α) (es : Entries α) (key : String) :
    get? ((k, x) :: es) key = if k = key then some x else get? es key := rfl

/-- A look-up fails exactly for the strings that are no keys. -/
theorem get?_eq_none_iff (es : Entries α) (key : String) :
    get? es key = none ↔ key ∉ keys es := by
  induction es with
  | nil =>
      simp
  | cons e es ih =>
      obtain ⟨k, x⟩ := e
      by_cases h : k = key
      · simp [get?_cons, h]
      · simp [get?_cons, h, Ne.symm h, ih]

theorem mem_of_get? {es : Entries α} {key : String} {x : α}
    (h : get? es key = some x) :
    (key, x) ∈ es := by
  induction es with
  | nil =>
      simp at h
  | cons e es ih =>
      obtain ⟨k, y⟩ := e
      rw [get?_cons] at h
      split at h
      next hk =>
        cases h
        simp [hk]
      next =>
        exact List.mem_cons_of_mem _ (ih h)

/-- When no key occurs twice, every entry is the one that a look-up finds. -/
theorem get?_of_mem {es : Entries α} (hes : (keys es).Nodup) {key : String} {x : α}
    (h : (key, x) ∈ es) :
    get? es key = some x := by
  induction es with
  | nil =>
      simp at h
  | cons e es ih =>
      obtain ⟨k, y⟩ := e
      rw [keys_cons, List.nodup_cons] at hes
      rcases List.mem_cons.mp h with heq | hmem
      · cases heq
        simp [get?_cons]
      · have hne : k ≠ key := by
          rintro rfl
          exact hes.1 (List.mem_map_of_mem hmem)
        simpa [get?_cons, hne] using ih hes.2 hmem

/-- A look-up finds the first entry of the key. -/
theorem get?_eq_some_iff (es : Entries α) (key : String) (x : α) :
    get? es key = some x ↔
      ∃ before after, es = before ++ (key, x) :: after ∧ key ∉ keys before := by
  induction es with
  | nil =>
      simp
  | cons e es ih =>
      obtain ⟨k, y⟩ := e
      rw [get?_cons]
      by_cases hk : k = key
      · subst hk
        rw [if_pos rfl, Option.some.injEq]
        constructor
        · rintro rfl
          exact ⟨[], es, rfl, by simp⟩
        · rintro ⟨before, after, heq, hbefore⟩
          cases before with
          | nil =>
              cases heq
              rfl
          | cons first before =>
              cases heq
              exact absurd List.mem_cons_self hbefore
      · rw [if_neg hk, ih]
        constructor
        · rintro ⟨before, after, rfl, hbefore⟩
          exact ⟨(k, y) :: before, after, rfl, by simp [Ne.symm hk, hbefore]⟩
        · rintro ⟨before, after, heq, hbefore⟩
          cases before with
          | nil =>
              cases heq
              exact absurd rfl hk
          | cons first before =>
              cases heq
              exact ⟨before, after, rfl, fun h => hbefore (List.mem_cons_of_mem _ h)⟩

/-- A look-up of a key that is kept finds what it found before. -/
theorem get?_filter {p : String → Bool} {key : String} (h : p key = true) (es : Entries α) :
    get? (es.filter fun e => p e.1) key = get? es key := by
  induction es with
  | nil =>
      rfl
  | cons e es ih =>
      obtain ⟨k, x⟩ := e
      by_cases hk : k = key
      · subst hk
        simp [get?_cons, h]
      · by_cases hp : p k
        · simp [get?_cons, hp, hk, ih]
        · simp [get?_cons, hp, hk, ih]

/-! ## Entries with the same keys -/

universe w

variable {β : Type w} {es : Entries α} {fs : Entries β}

theorem length_eq_of_mem_keys_iff (hes : (keys es).Nodup) (hfs : (keys fs).Nodup)
    (h : ∀ key, key ∈ keys es ↔ key ∈ keys fs) :
    es.length = fs.length := by
  have hperm := (List.perm_ext_iff_of_nodup hes hfs).mpr h
  simpa [keys] using hperm.length_eq

/-- There is no room for another key among entries that are no more. -/
theorem mem_keys_iff_of_subset (hes : (keys es).Nodup) (hsubset : keys es ⊆ keys fs)
    (hlength : fs.length ≤ es.length) (key : String) :
    key ∈ keys es ↔ key ∈ keys fs := by
  have hperm : (keys es).Perm (keys fs) :=
    (List.subperm_of_subset hes hsubset).perm_of_length_le (by simpa [keys] using hlength)
  exact hperm.mem_iff

/-! ## Insertion -/

/-- Inserting the value that a key has already changes nothing. -/
theorem insert_of_get? {es : Entries α} {key : String} {x : α}
    (h : get? es key = some x) :
    insert es key x = es := by
  induction es with
  | nil =>
      simp at h
  | cons e es ih =>
      obtain ⟨k, y⟩ := e
      rw [get?_cons] at h
      split at h
      next hk =>
        cases h
        simp [insert, hk]
      next hk =>
        simp [insert, hk, ih h]

/-- A new entry goes to the end. -/
theorem insert_of_notMem {es : Entries α} {key : String} (h : key ∉ keys es) (y : α) :
    insert es key y = es ++ [(key, y)] := by
  induction es with
  | nil =>
      rfl
  | cons e es ih =>
      obtain ⟨k, x⟩ := e
      rw [keys_cons, List.mem_cons, not_or] at h
      simp [insert, Ne.symm h.1, ih h.2]

/-- The later of two insertions at one key counts. -/
theorem insert_insert (es : Entries α) (key : String) (x y : α) :
    insert (insert es key x) key y = insert es key y := by
  induction es with
  | nil =>
      simp [insert]
  | cons e es ih =>
      obtain ⟨k, z⟩ := e
      by_cases h : k = key
      · simp [insert, h]
      · simp [insert, h, ih]

/-- An insertion at a key that is there already can change places with any other one. -/
theorem insert_comm {es : Entries α} {key other : String} {z : α}
    (hother : get? es other = some z) (hne : other ≠ key) (x y : α) :
    insert (insert es key x) other y = insert (insert es other y) key x := by
  induction es with
  | nil =>
      simp at hother
  | cons e es ih =>
      obtain ⟨k, w⟩ := e
      by_cases hk : k = other
      · have hkey : k ≠ key := fun h => hne (hk.symm.trans h)
        simp [insert, hk, hne]
      · have hrest : get? es other = some z := by
          simpa [get?_cons, hk] using hother
        by_cases hkey : k = key
        · simp [insert, hkey, Ne.symm hne]
        · simp [insert, hk, hkey, ih hrest]

/-- Inserting new and different keys appends the pairs in their order. -/
theorem foldl_insert_of_nodup (pairs : List (String × α)) (es : Entries α)
    (h : (keys es ++ keys pairs).Nodup) :
    pairs.foldl (fun es p => insert es p.1 p.2) es = es ++ pairs := by
  induction pairs generalizing es with
  | nil =>
      simp
  | cons p pairs ih =>
      obtain ⟨k, x⟩ := p
      have hk : k ∉ keys es := by
        intro hmem
        exact (List.nodup_append.mp h).2.2 k hmem k (by simp) rfl
      have hrest : (keys (es ++ [(k, x)]) ++ keys pairs).Nodup := by
        simpa [keys] using h
      rw [List.foldl_cons, insert_of_notMem hk, ih _ hrest]
      simp

theorem mem_of_mem_insert {es : Entries α} {key : String} {y : α} {e : String × α}
    (h : e ∈ insert es key y) :
    e = (key, y) ∨ e ∈ es := by
  induction es with
  | nil =>
      exact Or.inl (List.mem_singleton.mp h)
  | cons e' es ih =>
      obtain ⟨k, x⟩ := e'
      by_cases hk : k = key
      · rw [insert, if_pos hk, List.mem_cons] at h
        rcases h with rfl | hmem
        · exact Or.inl (by rw [hk])
        · exact Or.inr (List.mem_cons_of_mem _ hmem)
      · rw [insert, if_neg hk, List.mem_cons] at h
        rcases h with rfl | hmem
        · exact Or.inr List.mem_cons_self
        · exact (ih hmem).imp_right (List.mem_cons_of_mem _)

theorem mem_of_mem_foldl_insert {pairs : List (String × α)} {es : Entries α} {e : String × α}
    (h : e ∈ pairs.foldl (fun es p => insert es p.1 p.2) es) :
    e ∈ pairs ∨ e ∈ es := by
  induction pairs generalizing es with
  | nil =>
      exact Or.inr h
  | cons p pairs ih =>
      rcases ih h with hmem | hmem
      · exact Or.inl (List.mem_cons_of_mem _ hmem)
      · rcases mem_of_mem_insert hmem with rfl | hmem
        · exact Or.inl List.mem_cons_self
        · exact Or.inr hmem

/-- No entry is there that was not among the pairs. -/
theorem mem_of_mem_ofPairs {pairs : List (String × α)} {e : String × α}
    (h : e ∈ ofPairs pairs) :
    e ∈ pairs :=
  (mem_of_mem_foldl_insert h).resolve_right List.not_mem_nil

/-- Pairs with different keys are kept as they are. -/
theorem ofPairs_eq_self {pairs : List (String × α)} (h : (keys pairs).Nodup) :
    ofPairs pairs = pairs := by
  have hfold := foldl_insert_of_nodup pairs [] (by simpa using h)
  simpa [ofPairs] using hfold

/-! ## Pairs inserted one after the other -/

theorem ofPairs_append_singleton (pairs : List (String × α)) (key : String) (x : α) :
    ofPairs (pairs ++ [(key, x)]) = insert (ofPairs pairs) key x := by
  simp [ofPairs, List.foldl_append]

/-- A key stands where it was inserted first. -/
theorem keys_ofPairs (pairs : List (String × α)) :
    keys (ofPairs pairs) = (keys pairs).eraseDups := by
  induction pairs using List.reverseRecOn with
  | nil =>
      rfl
  | append_singleton pairs p ih =>
      obtain ⟨k, x⟩ := p
      have hkeys : keys (pairs ++ [(k, x)]) = keys pairs ++ [k] := by
        simp [keys]
      rw [ofPairs_append_singleton, keys_insert, ih, hkeys, List.eraseDups_append]
      by_cases hk : k ∈ keys pairs <;> simp [hk, List.removeAll, List.eraseDups_cons]

/-- A look-up finds the value that was inserted last. -/
theorem get?_ofPairs (pairs : List (String × α)) (key : String) :
    get? (ofPairs pairs) key = get? pairs.reverse key := by
  induction pairs using List.reverseRecOn with
  | nil =>
      rfl
  | append_singleton pairs p ih =>
      obtain ⟨k, x⟩ := p
      rw [ofPairs_append_singleton, get?_insert, ih, List.reverse_append, List.reverse_singleton,
        List.singleton_append, get?_cons]

/-- What was inserted last for a key is what counts. -/
theorem get?_ofPairs_eq_some_iff (pairs : List (String × α)) (key : String) (x : α) :
    get? (ofPairs pairs) key = some x ↔
      ∃ before after, pairs = before ++ (key, x) :: after ∧ key ∉ keys after := by
  rw [get?_ofPairs, get?_eq_some_iff]
  constructor
  · rintro ⟨after, before, heq, hafter⟩
    refine ⟨before.reverse, after.reverse, ?_, by simpa [keys] using hafter⟩
    rw [← List.reverse_reverse pairs, heq]
    simp
  · rintro ⟨before, after, rfl, hafter⟩
    exact ⟨after.reverse, before.reverse, by simp, by simpa [keys] using hafter⟩

/-! ## Values changed in place -/

/-- Changes each value, and leaves keys and positions as they are. -/
def mapValues (f : String → α → β) (es : Entries α) : Entries β :=
  es.map fun e => (e.1, f e.1 e.2)

@[simp] theorem keys_mapValues (f : String → α → β) (es : Entries α) :
    keys (mapValues f es) = keys es := by
  simp [keys, mapValues]

theorem get?_mapValues (f : String → α → β) (es : Entries α) (key : String) :
    get? (mapValues f es) key = (get? es key).map (f key) := by
  induction es with
  | nil =>
      rfl
  | cons e es ih =>
      obtain ⟨k, x⟩ := e
      rw [mapValues, List.map_cons, get?_cons, get?_cons, ← mapValues, ih]
      by_cases h : k = key
      · subst h
        simp
      · simp [h]

theorem insert_mapValues (f : String → α → β) (es : Entries α) (key : String) (y : α) :
    insert (mapValues f es) key (f key y) = mapValues f (insert es key y) := by
  induction es with
  | nil =>
      rfl
  | cons e es ih =>
      obtain ⟨k, x⟩ := e
      rw [mapValues, List.map_cons, ← mapValues]
      by_cases h : k = key
      · subst h
        simp [insert, mapValues]
      · rw [insert, if_neg h, insert, if_neg h, ih]
        rfl

theorem mapValues_ofPairs (f : String → α → β) (pairs : List (String × α)) :
    mapValues f (ofPairs pairs) = ofPairs (mapValues f pairs) := by
  have hfold : ∀ (ps : List (String × α)) (es : Entries α),
      mapValues f (ps.foldl (fun es p => insert es p.1 p.2) es) =
        (mapValues f ps).foldl (fun es p => insert es p.1 p.2) (mapValues f es) := by
    intro ps
    induction ps with
    | nil =>
        intro es
        rfl
    | cons p ps ih =>
        intro es
        rw [List.foldl_cons, ih, ← insert_mapValues]
        rfl
  exact hfold pairs []

end Entries

end VnfPayload
