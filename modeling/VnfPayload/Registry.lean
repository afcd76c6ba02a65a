import VnfPayload.Template

/-!
# Template registries

A registry holds at most one template for each operation and version, in ascending order
of the operations and, for one operation, of the versions as text.

`Registry.register` adds a template or replaces the one for its operation and version.
-/

namespace VnfPayload

/-- Templates in ascending order, one at most for each operation and version. -/
structure Registry where
  templates : List Template
  sorted : templates.Pairwise Template.Precedes
deriving DecidableEq

namespace Registry

/-- The registry without templates. -/
def empty : Registry := ⟨[], .nil⟩

/-- Puts a template at its place in a sorted list. -/
def place (t : Template) : List Template → List Template
  | [] => [t]
  | u :: us =>
      if t.Precedes u then t :: u :: us
      else if u.Precedes t then u :: place t us
      else t :: us

theorem mem_of_mem_place {t x : Template} {us : List Template} (h : x ∈ place t us) :
    x = t ∨ x ∈ us := by
  induction us with
  | nil => simpa [place] using h
  | cons u us ih =>
      unfold place at h
      split at h
      · simpa using h
      · split at h
        · rcases List.mem_cons.mp h with h | h
          · exact .inr (h ▸ List.mem_cons_self)
          · exact (ih h).imp id (List.mem_cons_of_mem u)
        · rcases List.mem_cons.mp h with h | h
          · exact .inl h
          · exact .inr (List.mem_cons_of_mem u h)

theorem pairwise_place (t : Template) {us : List Template}
    (h : us.Pairwise Template.Precedes) : (place t us).Pairwise Template.Precedes := by
  induction us with
  | nil => simp [place]
  | cons u us ih =>
      obtain ⟨hu, hus⟩ := List.pairwise_cons.mp h
      unfold place
      split
      next htu =>
        refine List.pairwise_cons.mpr ⟨fun x hx => ?_, h⟩
        rcases List.mem_cons.mp hx with rfl | hx
        · exact htu
        · exact htu.trans (hu x hx)
      next htu =>
        split
        next hut =>
          refine List.pairwise_cons.mpr ⟨fun x hx => ?_, ih hus⟩
          rcases mem_of_mem_place hx with rfl | hx
          · exact hut
          · exact hu x hx
        next hut =>
          obtain ⟨ho, hv⟩ := Template.same_of_not_precedes htu hut
          refine List.pairwise_cons.mpr ⟨fun x hx => ?_, hus⟩
          simpa [Template.Precedes, ho, hv] using hu x hx

/-- The template for an operation and version. -/
def get? (r : Registry) (operation : Operation) (version : String) : Option Template :=
  r.templates.find? fun t => t.operation = operation ∧ t.version = version

/-- The registry with the template in the place of any other one for the same operation
and version. -/
def insert (r : Registry) (t : Template) : Registry :=
  ⟨place t r.templates, pairwise_place t r.sorted⟩

/-- Adds a template; gives back the one that it replaces, if there is one. -/
def register (r : Registry) (t : Template) : Registry × Option Template :=
  (r.insert t, r.get? t.operation t.version)

/-- Adds templates one after the other. -/
def insertAll (r : Registry) (ts : List Template) : Registry :=
  ts.foldl insert r

/-- The versions with a template for the operation, in ascending order. -/
def versions (r : Registry) (operation : Operation) : List String :=
  (r.templates.filter fun t => t.operation = operation).map Template.version

/-- The number of templates. -/
def size (r : Registry) : Nat :=
  r.templates.length

/-- Whether there are no templates. -/
def isEmpty (r : Registry) : Bool :=
  r.templates.isEmpty

end Registry

end VnfPayload
