/-!
# Entries in order of first insertion

Mappings, property sets and JSON objects are lists of key and value pairs.  A key
stands where it was first inserted; inserting it again replaces its value in place.

Main statements:

* `get?_insert` says what a look-up finds after an insertion;
* `keys_insert` says that a new key goes to the end and an old one stays;
* `nodup_keys_insert` says that an insertion never makes a key occur twice.
-/

namespace VnfPayload

universe u

/-- Pairs of a key and a value, in the order in which the keys first appeared. -/
abbrev Entries (α : Type u) := List (String × α)

namespace Entries

variable {α : Type u}

/-- The value of the first entry that has the key. -/
def get? : Entries α → String → Option α
  | [], _ => none
  | (k, x) :: es, key => if k = key then some x else get? es key

/-- Replaces the value of a key in place, or appends a new entry. -/
def insert : Entries α → String → α → Entries α
  | [], key, y => [(key, y)]
  | (k, x) :: es, key, y =>
      if k = key then (k, y) :: es else (k, x) :: insert es key y

/-- The keys, in order of their entries. -/
def keys (es : Entries α) : List String :=
  es.map Prod.fst

/-- Inserts the pairs one after the other: a repeated key keeps its first
position and takes its last value. -/
def ofPairs (pairs : List (String × α)) : Entries α :=
  pairs.foldl (fun es p => insert es p.1 p.2) []

@[simp] theorem keys_nil : keys ([] : Entries α) = [] := rfl

@[simp] theorem keys_cons (k : String) (x : α) (es : Entries α) :
    keys ((k, x) :: es) = k :: keys es := rfl

theorem get?_insert (es : Entries α) (key : String) (y : α) (other : String) :
    get? (insert es key y) other = if key = other then some y else get? es other := by
  induction es with
  | nil => simp [insert, get?]
  | cons e es ih =>
      obtain ⟨k, x⟩ := e
      by_cases h : k = key
      · subst h
        by_cases h' : k = other <;> simp [insert, get?, h']
      · by_cases h' : k = other
        · subst h'
          simp [insert, get?, h, Ne.symm h]
        · simp [insert, get?, h, h', ih]

theorem keys_insert (es : Entries α) (key : String) (y : α) :
    keys (insert es key y) = if key ∈ keys es then keys es else keys es ++ [key] := by
  induction es with
  | nil => simp [insert]
  | cons e es ih =>
      obtain ⟨k, x⟩ := e
      by_cases h : k = key
      · simp [insert, h]
      · by_cases h' : key ∈ keys es <;> simp [insert, h, h', ih, Ne.symm h]

theorem nodup_keys_insert {es : Entries α} (h : (keys es).Nodup) (key : String) (y : α) :
    (keys (insert es key y)).Nodup := by
  rw [keys_insert]
  split
  · exact h
  next hk =>
    refine List.nodup_append.mpr ⟨h, by simp, ?_⟩
    intro a ha b hb
    rw [List.mem_singleton] at hb
    subst hb
    intro hab
    exact hk (hab ▸ ha)

theorem nodup_keys_foldl_insert (pairs : List (String × α)) {es : Entries α}
    (h : (keys es).Nodup) :
    (keys (pairs.foldl (fun es p => insert es p.1 p.2) es)).Nodup := by
  induction pairs generalizing es with
  | nil => exact h
  | cons p ps ih => exact ih (nodup_keys_insert h p.1 p.2)

theorem nodup_keys_ofPairs (pairs : List (String × α)) :
    (keys (ofPairs pairs)).Nodup :=
  nodup_keys_foldl_insert pairs List.nodup_nil

end Entries

end VnfPayload
