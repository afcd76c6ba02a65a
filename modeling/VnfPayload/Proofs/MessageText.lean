import VnfPayload.Proofs.DeepMessage
import VnfPayload.Proofs.Reading

/-!
# Messages are read back

The text of a document is the document as long as it is not nested deeper than the reader
follows.  The writer has no such limit, so there are messages whose properties cannot be
extracted: a property with a long key is enough.

Main statements:

* `Json.read?_text` and `Json.read?_prettyText` say what a text is read as;
* `Generator.text_round_trip` says it of documents and of the messages of a generator.
-/

namespace VnfPayload

namespace Json

variable {j : Json}

theorem read?_text (hj : j.WellFormed) (hints : j.IntegersOnly) :
    read? j.text = if j.depth ≤ maxDepth then some j else none := by
  rw [read?, text, String.toList_ofList]
  exact readChars?_of_written (written_compact j hints) hj

theorem read?_prettyText (hj : j.WellFormed) (hints : j.IntegersOnly) :
    read? j.prettyText = if j.depth ≤ maxDepth then some j else none := by
  rw [read?, prettyText, String.toList_ofList]
  exact readChars?_of_written (written_prettyAt 0 j hints) hj

end Json

namespace Generator

open Json (read?)

theorem read?_write (g : Generator) {doc : Document} (hdoc : (Json.obj doc).WellFormed)
    (hints : (Json.obj doc).IntegersOnly) :
    read? (g.write doc) =
      if (Json.obj doc).depth ≤ Json.maxDepth then some (.obj doc) else none := by
  unfold write
  split
  · exact Json.read?_prettyText hdoc hints
  · exact Json.read?_text hdoc hints

/-- The properties of a message that is an object are those of the object. -/
theorem extractProperties_of_read? (g : Generator) {message : String} {doc : Document}
    (h : read? message = some (.obj doc)) :
    (g.extractProperties message).outcome = .ok doc.flatten := by
  simp only [extractProperties, h]
  rfl

theorem extractProperties_of_read?_eq_none (g : Generator) {message : String}
    (h : read? message = none) :
    (g.extractProperties message).outcome = .error (.parse .malformed) := by
  simp only [extractProperties, h]
  rfl

/-- Texts of documents and messages of a generator are read back if the nesting is at most
127 deep, and are refused by the reader if it is deeper. -/
theorem text_round_trip :
    (∀ doc : Document, (Json.obj doc).WellFormed → (Json.obj doc).IntegersOnly →
      ((Json.obj doc).depth ≤ 127 →
        read? (Json.obj doc).text = some (.obj doc) ∧
        read? (Json.obj doc).prettyText = some (.obj doc)) ∧
      (127 < (Json.obj doc).depth →
        read? (Json.obj doc).text = none ∧
        read? (Json.obj doc).prettyText = none))
      ∧
    (∀ (g : Generator) (operation : Operation) (ctx : Context) (message : String),
      (g.generate operation ctx).outcome = .ok message →
      ∃ doc, (g.buildDocument operation ctx).outcome = .ok doc ∧
        ((Json.obj doc).IntegersOnly →
          ((Json.obj doc).depth ≤ 127 →
            (g.extractProperties message).outcome = .ok doc.flatten) ∧
          (127 < (Json.obj doc).depth →
            (g.extractProperties message).outcome = .error (.parse .malformed)))) := by
  constructor
  · intro doc hdoc hints
    rw [Json.read?_text hdoc hints, Json.read?_prettyText hdoc hints]
    constructor
    · intro hdepth
      simp [Json.maxDepth, hdepth]
    · intro hdepth
      simp [Json.maxDepth, Nat.not_le.mpr hdepth]
  · intro g operation ctx message hmessage
    obtain ⟨doc, hbuild, rfl⟩ := (generate_outcome_eq_ok_iff message).mp hmessage
    refine ⟨doc, hbuild, fun hints => ?_⟩
    have hread := read?_write g (wellFormed_of_buildDocument hbuild) hints
    constructor
    · intro hdepth
      exact extractProperties_of_read? g (hread.trans (if_pos hdepth))
    · intro hdepth
      exact extractProperties_of_read?_eq_none g
        (hread.trans (if_neg (Nat.not_le.mpr hdepth)))

/-- A document with escapes, both ends of the integers and empty containers; and the
messages that are just shallow enough and just too deep. -/
theorem text_round_trip_at_limit :
    (∃ low high : WideInt, low.val = -9223372036854775808 ∧ high.val = 18446744073709551615 ∧
      read? (Json.obj [("\x01\"\\\né", .arr [.num (.int low), .num (.int high), .arr []]),
          ("", .obj [])]).prettyText =
        some (.obj [("\x01\"\\\né", .arr [.num (.int low), .num (.int high), .arr []]),
          ("", .obj [])])) ∧
    (∃ message, (standard.generate .heal (.deep 125)).outcome = .ok message ∧
      (standard.extractProperties message).outcome = .ok (Document.deep 125).flatten) ∧
    (∃ message, (standard.generate .heal (.deep 126)).outcome = .ok message ∧
      (standard.extractProperties message).outcome = .error (.parse .malformed)) ∧
    read? (Json.obj (Document.deep 126)).text = none := by
  have hdepth : 127 < (Json.obj (Document.deep 126)).depth := by
    rw [Document.depth_deep]
    decide
  refine ⟨?_, ?_, ?_, ?_⟩
  · refine ⟨⟨_, by decide, by decide⟩, ⟨_, by decide, by decide⟩, rfl, rfl, ?_⟩
    refine ((text_round_trip.1 _ ?_ ?_).1 (by decide)).2
    · simp [Json.WellFormed, Json.WellFormedMembers, Json.WellFormedItems]
    · simp [Json.IntegersOnly, Json.IntegersOnlyMembers, Json.IntegersOnlyItems]
  · have hmessage := (generate_outcome_eq_ok_iff _).mpr ⟨_, buildDocument_deep 125, rfl⟩
    obtain ⟨doc, hdoc, hread⟩ := text_round_trip.2 standard .heal (.deep 125) _ hmessage
    cases (buildDocument_deep 125).symm.trans hdoc
    exact ⟨_, hmessage, (hread (Document.integersOnly_deep 125)).1
      (Nat.le_of_eq (Document.depth_deep 125))⟩
  · have hmessage := (generate_outcome_eq_ok_iff _).mpr ⟨_, buildDocument_deep 126, rfl⟩
    obtain ⟨doc, hdoc, hread⟩ := text_round_trip.2 standard .heal (.deep 126) _ hmessage
    cases (buildDocument_deep 126).symm.trans hdoc
    exact ⟨_, hmessage, (hread (Document.integersOnly_deep 126)).2 hdepth⟩
  · have hwf := wellFormed_of_buildDocument (buildDocument_deep 126)
    exact ((text_round_trip.1 _ hwf (Document.integersOnly_deep 126)).2 hdepth).1

end Generator

end VnfPayload
