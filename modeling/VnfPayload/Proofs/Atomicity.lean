import VnfPayload.Proofs.Assignment

/-!
# Failed assignments change nothing

An assignment creates mappings, sequences, nulls and keys on its way down, before it knows
whether it will reach its end, and nothing is taken back when it does not.  Still the
document that a failure leaves behind is the one that it found.  The reason is that of
`Json.assign_of_none`: what an assignment creates stands below a null or is new, and from
there on nothing can stand in its way.

For a list of properties, folded in up to the first error, it follows that the document is
what the properties before the offending one have made of it.
-/

namespace VnfPayload

namespace Document

theorem materialize_fst_of_error {doc : Document} {path : String} {value : PropertyValue}
    {e : Error} (h : (doc.materialize path value).2 = .error e) :
    (doc.materialize path value).1 = doc := by
  rcases materialize_cases doc path value with ⟨found, hplace, hrun⟩ | ⟨hplace, e', hrun⟩
  · rw [hrun] at h
    cases h
  · rw [hrun]

/-- Where a list of properties stops: at a property that cannot be folded into the document
that the ones before it have made. -/
theorem materializeAll_stops {doc : Document} {items : List (String × PropertyValue)}
    {e : Error} (h : (doc.materializeAll items).2 = .error e) :
    ∃ before path value after,
      items = before ++ (path, value) :: after ∧
      doc.materializeAll before = ((doc.materializeAll items).1, .ok ()) ∧
      ((doc.materializeAll items).1.materialize path value).2 = .error e := by
  induction items generalizing doc with
  | nil =>
      cases h
  | cons item items ih =>
      obtain ⟨path, value⟩ := item
      rcases materialize_cases doc path value with
        ⟨found, hplace, hrun⟩ | ⟨hplace, e', hrun⟩
      · have hall : doc.materializeAll ((path, value) :: items) =
            found.materializeAll items := by
          simp [materializeAll, hrun]
        rw [hall] at h ⊢
        obtain ⟨before, path', value', after, hitems, hbefore, herror⟩ := ih h
        refine ⟨(path, value) :: before, path', value', after, ?_, ?_, herror⟩
        · rw [hitems, List.cons_append]
        · simp [materializeAll, hrun, hbefore]
      · have hall : doc.materializeAll ((path, value) :: items) = (doc, .error e') := by
          simp [materializeAll, hrun]
        rw [hall] at h ⊢
        refine ⟨[], path, value, items, rfl, rfl, ?_⟩
        rw [hrun]
        exact h

/-- **Failures are atomic.**  An assignment that fails leaves the document as it was,
and a list of properties that stops at an error leaves what the properties before the
offending one have made. -/
theorem materialize_atomic :
    (∀ (doc : Document) (path : String) (value : PropertyValue) (e : Error),
        (doc.materialize path value).2 = .error e →
        (doc.materialize path value).1 = doc)
      ∧
    (∀ (doc : Document) (items : List (String × PropertyValue)) (e : Error),
        (doc.materializeAll items).2 = .error e →
        ∃ before path value after,
          items = before ++ (path, value) :: after ∧
          doc.materializeAll before = ((doc.materializeAll items).1, .ok ()) ∧
          ((doc.materializeAll items).1.materialize path value).2 = .error e) :=
  ⟨fun _ _ _ _ h => materialize_fst_of_error h, fun _ _ _ h => materializeAll_stops h⟩

/-- The second of two properties asks for a key of what the first has made a sequence, past
a mapping that it would have to extend. -/
theorem materialize_atomic_key_of_sequence :
    (materialize [("a", .obj [("b", .arr [.null])])] "a.b.k.0" (.bool true)).2 =
        .error (.structuralConflict "a.b.k.0" "a.b" .mapping .sequence) ∧
      (materialize [("a", .obj [("b", .arr [.null])])] "a.b.k.0" (.bool true)).1 =
        [("a", .obj [("b", .arr [.null])])] ∧
      (materializeAll [("a", .null)] [("a.b.0", .null), ("a.b.k.0", .bool true)]).2 =
        .error (.structuralConflict "a.b.k.0" "a.b" .mapping .sequence) ∧
      ∃ before path value after,
        [("a.b.0", .null), ("a.b.k.0", .bool true)] = before ++ (path, value) :: after ∧
        materializeAll [("a", .null)] before =
          ((materializeAll [("a", .null)] [("a.b.0", .null), ("a.b.k.0", .bool true)]).1,
            .ok ()) ∧
        (materialize
            (materializeAll [("a", .null)] [("a.b.0", .null), ("a.b.k.0", .bool true)]).1
            path value).2 =
          .error (.structuralConflict "a.b.k.0" "a.b" .mapping .sequence) :=
  ⟨rfl, materialize_atomic.1 _ _ _ _ rfl, rfl, materialize_atomic.2 _ _ _ rfl⟩

end Document

end VnfPayload
