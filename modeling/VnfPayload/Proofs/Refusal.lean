import VnfPayload.Proofs.Obstruction
import VnfPayload.Proofs.PathSteps

/-!
# Which properties are refused, and how

A property is refused for its key, which is no path or starts with a position, or for one node
that stands in its way.  `Document.Refusal` lists the four causes, each with its error, in terms
of the key as it is written and of the document as it was before.

A path is refused for the node that is in its way (`Document.refusal_iff_of_ok`); the error
names that node by the pieces of the key, which need not be written as positions are.  What it
says was found there is no null and not of the kind that was asked for.
-/

namespace VnfPayload

namespace Path

variable {path : String} {route : List Segment}

theorem length_pieces_of_parse (h : parse path = .ok route) :
    (pieces path.toList).length = route.length :=
  ((parse_eq_ok_iff path route).mp h).length_eq

/-- The beginning of a path is cut into the first pieces of the path. -/
theorem pieces_take (path : String) {count : Nat} (hcount : 0 < count) :
    pieces (take path count).toList = (pieces path.toList).take count := by
  rw [take, String.toList_ofList]
  refine pieces_join ?_ fun p hp => dot_notMem_of_mem_pieces (List.mem_of_mem_take hp)
  rw [Ne, List.take_eq_nil_iff, not_or]
  exact ⟨Nat.ne_of_gt hcount, pieces_ne_nil _⟩

/-- All the pieces of a path make the path. -/
theorem take_length_of_parse (h : parse path = .ok route) :
    take path route.length = path := by
  rw [take, ← length_pieces_of_parse h, List.take_length, join_pieces, String.ofList_toList]

/-- A text is known by its pieces. -/
theorem pieces_injective {a b : String} (h : pieces a.toList = pieces b.toList) : a = b := by
  apply String.toList_injective
  rw [← join_pieces a.toList, h, join_pieces]

end Path

namespace Document

open Json (at? Admits Obstructs)

/-- The node at a proper beginning of the steps is in the way: it is neither a null nor a
container of the kind that the next step asks for. -/
def Blocks (doc : Document) (p before : List Segment) (s : Segment) (x : Json) : Prop :=
  (∃ rest, p = before ++ s :: rest) ∧ at? before (.obj doc) = some x ∧ x ≠ .null ∧
    x.kind ≠ s.container.node

/-- Why a document refuses a property with the key `path`, and the error for each cause. -/
inductive Refusal (doc : Document) (path : String) : Error → Prop
  /-- The key is no path. -/
  | malformed {fault : PathFault} (hparse : Path.parse path = .error fault) :
      Refusal doc path (.malformedPath path fault)
  /-- The key starts with a position, but a document is a mapping. -/
  | root {i : Nat} {rest : List Segment} (hparse : Path.parse path = .ok (.index i :: rest)) :
      Refusal doc path (.structuralConflict path "" .sequence .mapping)
  /-- Some steps lead to a node that has no slot for the next one.  The error names the node by
  the pieces of the key that lead there. -/
  | blocked {p before : List Segment} {s : Segment} {x : Json} {node : String}
      (hparse : Path.parse path = .ok p) (hbefore : before ≠ [])
      (hblocks : Blocks doc p before s x)
      (hnode : node.toList.splitOn '.' = (path.toList.splitOn '.').take before.length) :
      Refusal doc path (.structuralConflict path node s.container.node x.kind)
  /-- All steps lead to a container, which is not replaced. -/
  | occupied {p : List Segment} {x : Json} (hparse : Path.parse path = .ok p)
      (hx : at? p (.obj doc) = some x) (hcontainer : x.IsContainer) :
      Refusal doc path (.structuralConflict path path .scalar x.kind)

variable {doc : Document} {path : String} {p before : List Segment} {s : Segment} {x : Json}

theorem not_admits_iff (s : Segment) (x : Json) :
    ¬ Admits s x ↔ x ≠ .null ∧ x.kind ≠ s.container.node := by
  rw [Admits, not_or]
  cases x <;> simp [Json.kind]

theorem Blocks.obstructs (h : Blocks doc p before s x) : Obstructs (.obj doc) p before x := by
  obtain ⟨⟨rest, hp⟩, hx, hkind⟩ := h
  exact ⟨hx, .blocked s rest hp ((not_admits_iff s x).mpr hkind)⟩

/-- The beginning of the key for a node, by its pieces. -/
theorem eq_take_iff {node : String} (hbefore : before ≠ []) :
    node = Path.take path before.length ↔
      node.toList.splitOn '.' = (path.toList.splitOn '.').take before.length := by
  rw [← Path.pieces_eq_splitOn, ← Path.pieces_eq_splitOn,
    ← Path.pieces_take path (List.length_pos_iff.mpr hbefore)]
  exact ⟨fun h => by rw [h], Path.pieces_injective⟩

/-- The error that a node in the way leads to. -/
theorem refusal_of_obstructs (hparse : Path.parse path = .ok p)
    (h : Obstructs (.obj doc) p before x) :
    Refusal doc path (.structuralConflict path (Path.take path before.length)
      (Path.wanted p before.length) x.kind) := by
  obtain ⟨hx, h⟩ := h
  cases h with
  | occupied hroute h =>
      subst hroute
      rw [Path.take_length_of_parse hparse, Path.wanted_length]
      exact .occupied hparse hx h
  | blocked s rest hroute h =>
      subst hroute
      rw [Path.wanted_append]
      cases before with
      | nil =>
          -- The document is a mapping, so only a position asks it for something else.
          cases hx
          cases s with
          | key k =>
              exact absurd (Or.inr rfl) h
          | index i =>
              exact .root hparse
      | cons t before =>
          have hne := List.cons_ne_nil t before
          exact .blocked hparse hne ⟨⟨rest, rfl⟩, hx, (not_admits_iff s x).mp h⟩
            ((eq_take_iff hne).mp rfl)

theorem exists_obstructs_of_refusal (hparse : Path.parse path = .ok p) {e : Error}
    (h : Refusal doc path e) :
    ∃ before x, Obstructs (.obj doc) p before x ∧
      e = .structuralConflict path (Path.take path before.length)
        (Path.wanted p before.length) x.kind := by
  cases h with
  | malformed hparse' =>
      rw [hparse] at hparse'
      cases hparse'
  | root hparse' =>
      obtain rfl := Except.ok.inj (hparse.symm.trans hparse')
      refine ⟨[], .obj doc, ⟨rfl, Json.hinders_nil_iff.mpr ?_⟩, rfl⟩
      rintro (hnull | hkind)
      · cases hnull
      · cases hkind
  | @blocked p' before s x node hparse' hbefore hblocks hnode =>
      obtain rfl := Except.ok.inj (hparse.symm.trans hparse')
      refine ⟨before, x, hblocks.obstructs, ?_⟩
      obtain ⟨rest, rfl⟩ := hblocks.1
      rw [(eq_take_iff hbefore).mpr hnode, Path.wanted_append]
  | occupied hparse' hx hcontainer =>
      obtain rfl := Except.ok.inj (hparse.symm.trans hparse')
      refine ⟨p, _, ⟨hx, .occupied rfl hcontainer⟩, ?_⟩
      rw [Path.take_length_of_parse hparse, Path.wanted_length]

/-- A key that is no path has no other cause to be refused. -/
theorem refusal_iff_of_error {fault : PathFault} (hparse : Path.parse path = .error fault)
    (e : Error) :
    Refusal doc path e ↔ e = .malformedPath path fault := by
  constructor
  · intro h
    cases h with
    | malformed hparse' =>
        rw [Except.error.inj (hparse.symm.trans hparse')]
    | root hparse' =>
        cases hparse.symm.trans hparse'
    | blocked hparse' =>
        cases hparse.symm.trans hparse'
    | occupied hparse' =>
        cases hparse.symm.trans hparse'
  · rintro rfl
    exact .malformed hparse

/-- A path is refused for the node that is in its way. -/
theorem refusal_iff_of_ok (hparse : Path.parse path = .ok p) (e : Error) :
    Refusal doc path e ↔
      ∃ before x, Obstructs (.obj doc) p before x ∧
        e = .structuralConflict path (Path.take path before.length)
          (Path.wanted p before.length) x.kind := by
  constructor
  · exact exists_obstructs_of_refusal hparse
  · rintro ⟨before, x, h, rfl⟩
    exact refusal_of_obstructs hparse h

/-- A property is refused for one of the causes, and for each of them. -/
theorem materialize_snd_eq_error_iff (doc : Document) (path : String) (v : PropertyValue)
    (e : Error) :
    (doc.materialize path v).2 = .error e ↔ Refusal doc path e := by
  cases hparse : Path.parse path with
  | error fault =>
      rw [refusal_iff_of_error hparse, materialize, hparse]
      simp [eq_comm]
  | ok p =>
      rw [refusal_iff_of_ok hparse, materialize, hparse]
      dsimp only
      constructor
      · intro h
        cases hclash : (Json.assign v 0 p (.obj doc)).2 with
        | none =>
            rw [hclash] at h
            cases h
        | some clash =>
            obtain ⟨before, x, hobstructs, rfl⟩ :=
              (Json.assign_snd_eq_some_iff v 0 p _ clash).mp hclash
            rw [hclash] at h
            refine ⟨before, x, hobstructs, ?_⟩
            rw [← Except.error.inj h, Nat.zero_add]
      · rintro ⟨before, x, hobstructs, rfl⟩
        rw [(Json.assign_snd_eq_some_iff v 0 p _ _).mpr ⟨before, x, hobstructs, rfl⟩,
          Nat.zero_add]

/-- The subject of an error is the key.  What was found is no null, and not what was asked
for. -/
theorem Refusal.kinds_ne {e : Error} (h : Refusal doc path e) :
    e.subject? = some path ∧
      ∀ key node expected found, e = .structuralConflict key node expected found →
        found ≠ .null ∧ found ≠ expected := by
  cases hparse : Path.parse path with
  | error fault =>
      rw [(refusal_iff_of_error hparse e).mp h]
      exact ⟨rfl, nofun⟩
  | ok p =>
      obtain ⟨before, x, hobstructs, rfl⟩ := (refusal_iff_of_ok hparse e).mp h
      refine ⟨rfl, ?_⟩
      rintro _ _ _ _ ⟨⟩
      exact hobstructs.2.kind_ne

/-- **Refusals**: a property is refused exactly for the causes of `Refusal`, with the error of the
cause, and at most one node on its way can be the cause. -/
theorem materialize_refusal :
    (∀ (doc : Document) (path : String) (v : PropertyValue) (e : Error),
      (doc.materialize path v).2 = .error e ↔ Refusal doc path e) ∧
    (∀ (doc : Document) (path : String) (e : Error), Refusal doc path e →
      e.subject? = some path ∧
        ∀ key node expected found, e = .structuralConflict key node expected found →
          found ≠ .null ∧ found ≠ expected) ∧
    (∀ (doc : Document) (p before before' : List Segment) (s s' : Segment) (x x' : Json),
      Blocks doc p before s x → Blocks doc p before' s' x' → before = before') :=
  ⟨materialize_snd_eq_error_iff, fun _ _ _ h => h.kinds_ne,
    fun _ _ _ _ _ _ _ _ h h' => h.obstructs.unique h'.obstructs⟩

/-- The key `a.01.k` asks for a key of the scalar at position 1, which the error names as it is
written.  The sequence before it is of the kind that is asked for. -/
theorem materialize_refusal_leading_zero :
    (materialize [("a", .arr [.null, .str "v"])] "a.01.k" (.bool true)).2 =
        .error (.structuralConflict "a.01.k" "a.01" .mapping .scalar) ∧
      (Error.structuralConflict "a.01.k" "a.01" .mapping .scalar).subject? = some "a.01.k" ∧
      ∀ before s x,
        Blocks [("a", .arr [.null, .str "v"])] [.key "a", .index 1, .key "k"] before s x →
        before = [.key "a", .index 1] := by
  have hblocks : Blocks [("a", .arr [.null, .str "v"])] [.key "a", .index 1, .key "k"]
      [.key "a", .index 1] (.key "k") (.str "v") :=
    ⟨⟨[], rfl⟩, rfl, nofun, nofun⟩
  have hrefusal : Refusal [("a", .arr [.null, .str "v"])] "a.01.k"
      (.structuralConflict "a.01.k" "a.01" .mapping .scalar) :=
    .blocked rfl (List.cons_ne_nil _ _) hblocks rfl
  refine ⟨(materialize_refusal.1 _ _ _ _).mpr hrefusal,
    (materialize_refusal.2.1 _ _ _ hrefusal).1, fun before s x h => ?_⟩
  exact materialize_refusal.2.2 _ _ _ _ _ _ _ _ h hblocks

end Document

end VnfPayload
