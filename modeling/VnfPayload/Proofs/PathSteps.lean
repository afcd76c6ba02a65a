import VnfPayload.Proofs.PathText
import Mathlib.Data.List.Forall2

/-!
# The steps of a path

A text is a path exactly if each of its pieces stands for a step, and then it names these
steps in order (`parse_eq_ok_iff`).  So the keys among the steps of a path are such that a
path can spell them, and its positions are within the limit: `keysAre_of_parse` and
`within_of_parse`.
-/

namespace VnfPayload

namespace Path

/-- A piece is not empty and stands for a step. -/
def Names (piece : List Char) (s : Segment) : Prop :=
  piece ≠ [] ∧ segment piece = .ok s

theorem segments_eq_ok_iff (first : Bool) (ps : List (List Char)) (route : List Segment) :
    segments first ps = .ok route ↔ List.Forall₂ Names ps route := by
  induction ps generalizing first route with
  | nil =>
      cases route <;> simp [segments]
  | cons p ps ih =>
      rw [segments, List.forall₂_cons_left_iff]
      by_cases hp : p = []
      · simp [hp, Names]
      · cases hs : segment p with
        | error fault =>
            simp [hp, hs, Names, bind, Except.bind]
        | ok s =>
            simp only [Names, hs, ← ih false]
            cases segments false ps with
            | error fault =>
                simp [hp, bind, Except.bind]
            | ok ss =>
                simp [hp, bind, Except.bind, pure, Except.pure, eq_comm (a := route)]

theorem parse_eq_ok_iff (path : String) (route : List Segment) :
    parse path = .ok route ↔ List.Forall₂ Names (pieces path.toList) route := by
  unfold parse
  split
  next hempty =>
    rw [List.isEmpty_iff.mp hempty]
    cases route <;> simp [pieces, Names]
  next =>
    exact segments_eq_ok_iff true _ route

/-! ## Pieces and their steps -/

theorem dot_notMem_of_mem_pieces {cs p : List Char} (h : p ∈ pieces cs) : '.' ∉ p := by
  induction cs generalizing p with
  | nil =>
      have hp : p = [] := by
        simpa [pieces] using h
      simp [hp]
  | cons c cs ih =>
      rw [pieces] at h
      split at h
      · rcases List.mem_cons.mp h with rfl | hmem
        · simp
        · exact ih hmem
      next hc =>
        split at h
        · have hp : p = [c] := by
            simpa using h
          simp [hp, Ne.symm hc]
        next q qs hpieces =>
          rcases List.mem_cons.mp h with rfl | hmem
          · have hq : '.' ∉ q := ih (hpieces ▸ List.mem_cons_self)
            simp [Ne.symm hc, hq]
          · exact ih (hpieces ▸ List.mem_cons_of_mem _ hmem)

/-- A piece is a position within the limit, or it is a key as it stands. -/
theorem segment_eq_ok {piece : List Char} {s : Segment} (h : segment piece = .ok s) :
    (∃ i, s = .index i ∧ i ≤ maxIndex) ∨
      (s = .key (String.ofList piece) ∧ piece.all Char.isDigit = false) := by
  unfold segment at h
  by_cases hdigits : piece.all Char.isDigit
  · rw [if_pos hdigits] at h
    dsimp only at h
    split at h
    next hle =>
      exact Or.inl ⟨_, (Except.ok.inj h).symm, hle⟩
    next =>
      cases h
  · rw [if_neg hdigits] at h
    exact Or.inr ⟨(Except.ok.inj h).symm, Bool.eq_false_iff.mpr hdigits⟩

theorem within_of_names {piece : List Char} {s : Segment} (h : Names piece s) :
    s.Within := by
  rcases segment_eq_ok h.2 with ⟨i, rfl, hle⟩ | ⟨rfl, -⟩
  · exact hle
  · trivial

theorem toList_of_names {piece : List Char} {k : String} (h : Names piece (.key k)) :
    k.toList = piece := by
  rcases segment_eq_ok h.2 with ⟨i, hkey, -⟩ | ⟨hkey, -⟩
  · cases hkey
  · rw [Segment.key.inj hkey, String.toList_ofList]

theorem isKey_of_names {piece : List Char} {k : String} (hdot : '.' ∉ piece)
    (h : Names piece (.key k)) :
    IsKey k := by
  have hpiece := toList_of_names h
  rcases segment_eq_ok h.2 with ⟨i, hkey, -⟩ | ⟨-, hdigits⟩
  · cases hkey
  · refine ⟨?_, by rwa [hpiece], by rwa [hpiece]⟩
    rintro rfl
    exact h.1 hpiece.symm

/-! ## The steps of a path -/

variable {path : String} {route : List Segment}

theorem exists_names_of_parse (h : parse path = .ok route) {s : Segment} (hs : s ∈ route) :
    ∃ piece ∈ pieces path.toList, Names piece s := by
  have hnames := (parse_eq_ok_iff path route).mp h
  clear h
  generalize pieces path.toList = ps at hnames ⊢
  induction hnames with
  | nil =>
      cases hs
  | cons hname hnames ih =>
      rcases List.mem_cons.mp hs with rfl | hmem
      · exact ⟨_, List.mem_cons_self, hname⟩
      · obtain ⟨piece, hpiece, hname⟩ := ih hmem
        exact ⟨piece, List.mem_cons_of_mem _ hpiece, hname⟩

theorem keysAre_of_parse (h : parse path = .ok route) : KeysAre IsKey route := by
  intro k hk
  obtain ⟨piece, hpiece, hname⟩ := exists_names_of_parse h hk
  exact isKey_of_names (dot_notMem_of_mem_pieces hpiece) hname

theorem within_of_parse (h : parse path = .ok route) : ∀ s ∈ route, s.Within := by
  intro s hs
  obtain ⟨piece, -, hname⟩ := exists_names_of_parse h hs
  exact within_of_names hname

theorem pieces_ne_nil (cs : List Char) : pieces cs ≠ [] := by
  rw [pieces_eq_splitOn]
  exact List.splitOn_ne_nil _ _

theorem ne_nil_of_parse (h : parse path = .ok route) : route ≠ [] := by
  rintro rfl
  have hnames := (parse_eq_ok_iff path []).mp h
  exact pieces_ne_nil _ (List.forall₂_nil_right_iff.mp hnames)

/-- The first piece of a path is its first key. -/
theorem take_one_of_parse {k : String} {rest : List Segment}
    (h : parse path = .ok (.key k :: rest)) :
    take path 1 = k := by
  have hnames := (parse_eq_ok_iff path _).mp h
  obtain ⟨piece, ps, hname, -, hpieces⟩ := List.forall₂_cons_right_iff.mp hnames
  rw [take, hpieces, List.take_succ_cons, List.take_zero]
  apply String.toList_injective
  simp [join, toList_of_names hname]

/-- A path with a dot has several steps. -/
theorem ne_singleton_of_parse (h : parse path = .ok route) (hdot : '.' ∈ path.toList)
    (s : Segment) :
    route ≠ [s] := by
  rintro rfl
  have hlength := ((parse_eq_ok_iff path _).mp h).length_eq
  obtain ⟨piece, hpieces⟩ := List.length_eq_one_iff.mp hlength
  have hpiece : piece = path.toList := by
    simpa [hpieces, join] using join_pieces path.toList
  exact dot_notMem_of_mem_pieces (hpieces ▸ List.mem_cons_self) (hpiece ▸ hdot)

end Path

end VnfPayload
