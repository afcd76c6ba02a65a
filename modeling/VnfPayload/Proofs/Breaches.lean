import VnfPayload.Proofs.ReleasePattern
import VnfPayload.Proofs.ValidTemplate

/-!
# Every breach of a rule is reported once

`Template.Breach` lists the ways in which a template can break one of the five rules, each
with the finding about it, and says for each where it is: under which rule, at which field or
prefix, and whether at the source of the field (`Site`).  It does not say how breaches are
found.

Validation goes through the rules one after the other, and for each rule through the fields or
the prefixes.  So what it finds are the breaches in ascending order of their sites, none left
out and none twice (`Lists`): `Template.lists_errors` and `Template.lists_warnings`.  A template
without errors is one that is `Template.Sound`.

`validate_lists_breaches` says all of this, of a template and of a registry.  The findings of
the first three rules are errors and the others are warnings, and a registry is valid exactly if
there are no errors.  The fifth rule is about versions in which the pattern
`Pattern.releaseText` is not found.
-/

namespace VnfPayload

/-- Where a rule is broken: the number of the rule, the position of the field or the prefix,
and 1 for the source of a field or 0 for anything else. -/
structure Site where
  rule : Nat
  position : Nat
  part : Nat
deriving DecidableEq

/-- By rule, then by position, then by part. -/
def Site.Before (a b : Site) : Prop :=
  a.rule < b.rule ∨ a.rule = b.rule ∧
    (a.position < b.position ∨ a.position = b.position ∧ a.part < b.part)

/-! ## Lists of findings by their sites -/

/-- The findings are those at the sites, one for each and no others, in ascending order of the
sites. -/
def Lists (about : Site → Diagnostic → Prop) (ds : List Diagnostic) : Prop :=
  ∃ found : List (Site × Diagnostic),
    found.Pairwise (fun p q => p.1.Before q.1) ∧
      (∀ s d, (s, d) ∈ found ↔ about s d) ∧
      found.map Prod.snd = ds

variable {about about' : Site → Diagnostic → Prop} {ds ds' : List Diagnostic}

theorem Lists.congr (h : Lists about ds) (hiff : ∀ s d, about s d ↔ about' s d) :
    Lists about' ds := by
  obtain ⟨found, hsorted, hmem, hds⟩ := h
  exact ⟨found, hsorted, fun s d => (hmem s d).trans (hiff s d), hds⟩

theorem lists_nil (h : ∀ s d, ¬ about s d) : Lists about [] :=
  ⟨[], .nil, fun s d => iff_of_false List.not_mem_nil (h s d), rfl⟩

/-- What is found at earlier sites comes first. -/
theorem Lists.append (h : Lists about ds) (h' : Lists about' ds')
    (hbefore : ∀ s d s' d', about s d → about' s' d' → s.Before s') :
    Lists (fun s d => about s d ∨ about' s d) (ds ++ ds') := by
  obtain ⟨found, hsorted, hmem, rfl⟩ := h
  obtain ⟨found', hsorted', hmem', rfl⟩ := h'
  refine ⟨found ++ found', ?_, fun s d => ?_, List.map_append⟩
  · refine List.pairwise_append.mpr ⟨hsorted, hsorted', ?_⟩
    rintro ⟨s, d⟩ hp ⟨s', d'⟩ hq
    exact hbefore s d s' d' ((hmem s d).mp hp) ((hmem' s' d').mp hq)
  · rw [List.mem_append, hmem, hmem']

/-- At most one finding, at a site of its own. -/
theorem lists_toList (s : Site) (finding : Option Diagnostic) :
    Lists (fun s' d => s' = s ∧ finding = some d) finding.toList := by
  cases finding with
  | none =>
      exact lists_nil (by simp)
  | some d =>
      exact ⟨[(s, d)], List.pairwise_singleton _ _, by simp [eq_comm], rfl⟩

/-- One finding under a condition. -/
theorem lists_ite (s : Site) (d : Diagnostic) (c : Prop) [Decidable c] :
    Lists (fun s' d' => c ∧ s' = s ∧ d' = d) (if c then [d] else []) := by
  by_cases hc : c
  · rw [if_pos hc]
    exact ⟨[(s, d)], List.pairwise_singleton _ _, by simp [hc], rfl⟩
  · rw [if_neg hc]
    exact lists_nil (by simp [hc])

/-- What is found one position after the other, under one rule. -/
theorem lists_flatMap {α : Type} (rule : Nat) {found : α × Nat → List Diagnostic}
    {about : α × Nat → Site → Diagnostic → Prop}
    (hsite : ∀ p s d, about p s d → s.rule = rule ∧ s.position = p.2)
    (h : ∀ p, Lists (about p) (found p)) (xs : List α) :
    Lists (fun s d => ∃ p ∈ xs.zipIdx, about p s d) (xs.zipIdx.flatMap found) := by
  have hascending : xs.zipIdx.Pairwise fun p q => p.2 < q.2 := by
    refine List.pairwise_map.mp ?_
    rw [List.zipIdx_map_snd]
    exact List.pairwise_lt_range'
  generalize xs.zipIdx = ps at hascending ⊢
  induction ps with
  | nil =>
      exact lists_nil (by simp)
  | cons p ps ih =>
      obtain ⟨hp, hps⟩ := List.pairwise_cons.mp hascending
      rw [List.flatMap_cons]
      refine ((h p).append (ih hps) ?_).congr fun s d => ?_
      · rintro s d s' d' hs ⟨q, hq, hs'⟩
        obtain ⟨hrule, hposition⟩ := hsite p s d hs
        obtain ⟨hrule', hposition'⟩ := hsite q s' d' hs'
        have hlt := hp q hq
        exact Or.inr ⟨hrule.trans hrule'.symm, Or.inl (by omega)⟩
      · rw [List.exists_mem_cons_iff]

/-- At most one finding for each position. -/
theorem lists_filterMap {α : Type} (rule : Nat) (f : α × Nat → Option Diagnostic)
    (xs : List α) :
    Lists (fun s d => ∃ x i, xs[i]? = some x ∧ s = ⟨rule, i, 0⟩ ∧ f (x, i) = some d)
      (xs.zipIdx.filterMap f) := by
  rw [List.filterMap_eq_flatMap_toList]
  refine (lists_flatMap rule ?_ (fun p => lists_toList ⟨rule, p.2, 0⟩ (f p)) xs).congr
    fun s d => ?_
  · rintro p s d ⟨rfl, -⟩
    exact ⟨rfl, rfl⟩
  · simp [Prod.exists, List.mem_zipIdx_iff_getElem?]

theorem Lists.eq_nil_iff (h : Lists about ds) : ds = [] ↔ ∀ s d, ¬ about s d := by
  obtain ⟨found, -, hmem, rfl⟩ := h
  rw [List.map_eq_nil_iff, List.eq_nil_iff_forall_not_mem, Prod.forall]
  simp only [hmem]

/-! ## Prefixes -/

namespace PrefixFault

theorem append_dot_injective {stem stem' : String} (h : stem ++ "." = stem' ++ ".") :
    stem = stem' := by
  apply String.toList_injective
  have hchars := congrArg String.toList h
  rw [String.toList_append, String.toList_append] at hchars
  exact List.append_cancel_right hchars

theorem stem?_append_dot (stem : String) : stem? (stem ++ ".") = some stem := by
  simp [stem?]

theorem stem?_eq_none_iff {text : String} :
    stem? text = none ↔ ∀ stem, text ≠ stem ++ "." := by
  constructor
  · rintro h stem rfl
    rw [stem?_append_dot] at h
    cases h
  · intro h
    rw [stem?, if_neg]
    intro hlast
    apply h (String.ofList text.toList.dropLast)
    apply String.toList_injective
    rw [String.toList_append, String.toList_ofList]
    exact (List.dropLast_append_getLast? _ hlast).symm

theorem find?_of_open {text : String} (h : ∀ stem, text ≠ stem ++ ".") :
    find? text = some .notTerminated := by
  rw [find?, stem?_eq_none_iff.mpr h]

theorem find?_of_error {stem : String} {fault : PathFault}
    (h : Path.parse stem = .error fault) :
    find? (stem ++ ".") = some (.notPath (.malformedPath stem fault)) := by
  simp only [find?, stem?_append_dot, h]

theorem find?_of_index {stem : String} {n : Nat} {rest : List Segment}
    (h : Path.parse stem = .ok (.index n :: rest)) :
    find? (stem ++ ".") = some .startsWithIndex := by
  simp only [find?, stem?_append_dot, h]

theorem find?_of_key {stem k : String} {rest : List Segment}
    (h : Path.parse stem = .ok (.key k :: rest)) :
    find? (stem ++ ".") = none := by
  simp only [find?, stem?_append_dot, h]

/-- What a prefix can be: open, no path before its dot, a path that starts with a position, or
one that starts with a key. -/
theorem prefix_cases (text : String) :
    (∀ stem, text ≠ stem ++ ".") ∨ ∃ stem, text = stem ++ "." ∧
      ((∃ fault, Path.parse stem = .error fault) ∨
        (∃ n rest, Path.parse stem = .ok (.index n :: rest)) ∨
        ∃ k rest, Path.parse stem = .ok (.key k :: rest)) := by
  by_cases hopen : ∀ stem, text ≠ stem ++ "."
  · exact Or.inl hopen
  · obtain ⟨stem, rfl⟩ := not_forall_not.mp hopen
    refine Or.inr ⟨stem, rfl, ?_⟩
    cases hparse : Path.parse stem with
    | error fault =>
        exact Or.inl ⟨fault, rfl⟩
    | ok route =>
        cases route with
        | nil =>
            exact absurd rfl (Path.ne_nil_of_parse hparse)
        | cons s rest =>
            cases s with
            | index n =>
                exact Or.inr (Or.inl ⟨n, rest, rfl⟩)
            | key k =>
                exact Or.inr (Or.inr ⟨k, rest, rfl⟩)

end PrefixFault

/-! ## The rules -/

/-- The field is copied from the property with the empty key.  A field without a source and
without a name is as well, since its name is the key. -/
def FieldRule.ReadsEmptyKey (field : FieldRule) : Prop :=
  ∃ name source, (field = .optional name source ∨ field = .required name source) ∧
    (source = some (.property "") ∨ source = none ∧ name = "")

theorem FieldRule.readsEmptyKey_iff (field : FieldRule) :
    field.ReadsEmptyKey ↔ field.source? = some (.property "") := by
  cases field with
  | container name kind =>
      simp [ReadsEmptyKey, source?]
  | optional name source =>
      cases source <;> simp [ReadsEmptyKey, source?, sourceOf]
  | required name source =>
      cases source <;> simp [ReadsEmptyKey, source?, sourceOf]

namespace Template

theorem root_eq {text : String} {piece : List Char} {rest : List (List Char)}
    (h : text.toList.splitOn '.' = piece :: rest) : root text = String.ofList piece := by
  rw [root, Path.take, Path.pieces_eq_splitOn, h]
  simp [Path.join]

/-- The template breaks a rule at a site, which is reported by the finding. -/
inductive Breach (t : Template) : Site → Diagnostic → Prop
  | repeatedName {i j : Nat} {field earlier : FieldRule}
      (hfield : t.fields[i]? = some field) (hearlier : t.fields[j]? = some earlier)
      (hlt : j < i) (hname : earlier.name = field.name) :
      Breach t ⟨1, i, 0⟩ (errorAt (t.fieldPlace i) "R-001"
        ("duplicate field name '" ++ field.name ++ "'"))
  | openPrefix {i : Nat} {text : String} (htext : t.prefixes[i]? = some text)
      (hopen : ∀ stem, text ≠ stem ++ ".") :
      Breach t ⟨2, i, 0⟩ (errorAt (t.prefixPlace i) "R-002"
        ("prefix '" ++ text ++ "' must end with '.'"))
  | malformedPrefix {i : Nat} {stem : String} {fault : PathFault}
      (htext : t.prefixes[i]? = some (stem ++ ".")) (hparse : Path.parse stem = .error fault) :
      Breach t ⟨2, i, 0⟩ (errorAt (t.prefixPlace i) "R-002"
        ("prefix '" ++ (stem ++ ".") ++ "' is not a valid path: " ++
          ("malformed path '" ++ stem ++ "': " ++ fault.reason)))
  | positionFirst {i n : Nat} {stem : String} {rest : List Segment}
      (htext : t.prefixes[i]? = some (stem ++ "."))
      (hparse : Path.parse stem = .ok (.index n :: rest)) :
      Breach t ⟨2, i, 0⟩ (errorAt (t.prefixPlace i) "R-002"
        ("prefix '" ++ (stem ++ ".") ++ "' must start with a key, not an index"))
  | nameless {i : Nat} {field : FieldRule} (hfield : t.fields[i]? = some field)
      (hname : field.name = "") :
      Breach t ⟨3, i, 0⟩ (errorAt (t.fieldPlace i) "R-003" "field name must not be empty")
  | emptySource {i : Nat} {field : FieldRule} (hfield : t.fields[i]? = some field)
      (hsource : field.ReadsEmptyKey) :
      Breach t ⟨3, i, 1⟩ (errorAt (t.fieldPlace i ++ ".from") "R-003"
        ("field '" ++ field.name ++ "' has an empty source property"))
  | undeclaredRoot {i : Nat} {text : String} {piece : List Char} {rest : List (List Char)}
      (htext : t.prefixes[i]? = some text) (hpiece : text.toList.splitOn '.' = piece :: rest)
      (hne : piece ≠ []) (hfields : ∀ kind, .container (String.ofList piece) kind ∉ t.fields) :
      Breach t ⟨4, i, 0⟩ (warningAt (t.prefixPlace i) "R-004"
        ("'" ++ String.ofList piece ++
          "' is not a declared container; it is created on first use"))
  | unusualVersion (hversion : ¬ IsRelease t.version) :
      Breach t ⟨5, 0, 0⟩ (warningAt (t.label ++ ".version") "R-005"
        ("version '" ++ t.version ++ "' is not of the form MAJOR.MINOR.PATCH"))

variable {t : Template}

theorem lists_repeatedNames (t : Template) :
    Lists (fun s d => t.Breach s d ∧ s.rule = 1) t.repeatedNames := by
  refine (lists_filterMap 1 _ t.fields).congr fun s d => ⟨?_, ?_⟩
  · rintro ⟨field, i, hfield, rfl, hfound⟩
    dsimp only at hfound
    split at hfound
    next hmem =>
      cases hfound
      obtain ⟨earlier, hearlier, hname⟩ := List.mem_map.mp hmem
      obtain ⟨j, hj, hget⟩ := List.mem_take_iff_getElem.mp hearlier
      refine ⟨.repeatedName (j := j) hfield ?_ ?_ hname, rfl⟩
      · exact List.getElem?_eq_some_iff.mpr ⟨_, hget⟩
      · omega
    next =>
      cases hfound
  · rintro ⟨hbreach, hrule⟩
    cases hbreach with
    | repeatedName hfield hearlier hlt hname =>
        obtain ⟨hj, hget⟩ := List.getElem?_eq_some_iff.mp hearlier
        refine ⟨_, _, hfield, rfl, if_pos ?_⟩
        rw [← hname]
        exact List.mem_map_of_mem (List.mem_take_iff_getElem.mpr ⟨_, by omega, hget⟩)
    | _ =>
        cases hrule

theorem lists_malformedPrefixes (t : Template) :
    Lists (fun s d => t.Breach s d ∧ s.rule = 2) t.malformedPrefixes := by
  refine (lists_filterMap 2 _ t.prefixes).congr fun s d => ⟨?_, ?_⟩
  · rintro ⟨text, i, htext, rfl, hfound⟩
    dsimp only at hfound
    rcases PrefixFault.prefix_cases text with
      hopen | ⟨stem, rfl, ⟨fault, hparse⟩ | ⟨n, rest, hparse⟩ | ⟨k, rest, hparse⟩⟩
    · rw [PrefixFault.find?_of_open hopen] at hfound
      cases hfound
      exact ⟨.openPrefix htext hopen, rfl⟩
    · rw [PrefixFault.find?_of_error hparse] at hfound
      cases hfound
      exact ⟨.malformedPrefix htext hparse, rfl⟩
    · rw [PrefixFault.find?_of_index hparse] at hfound
      cases hfound
      exact ⟨.positionFirst htext hparse, rfl⟩
    · rw [PrefixFault.find?_of_key hparse] at hfound
      cases hfound
  · rintro ⟨hbreach, hrule⟩
    cases hbreach with
    | openPrefix htext hopen =>
        refine ⟨_, _, htext, rfl, ?_⟩
        dsimp only
        rw [PrefixFault.find?_of_open hopen]
        rfl
    | malformedPrefix htext hparse =>
        refine ⟨_, _, htext, rfl, ?_⟩
        dsimp only
        rw [PrefixFault.find?_of_error hparse]
        rfl
    | positionFirst htext hparse =>
        refine ⟨_, _, htext, rfl, ?_⟩
        dsimp only
        rw [PrefixFault.find?_of_index hparse]
        rfl
    | _ =>
        cases hrule

theorem lists_namelessFields (t : Template) :
    Lists (fun s d => t.Breach s d ∧ s.rule = 3) t.namelessFields := by
  have hlist : t.namelessFields = t.fields.zipIdx.flatMap fun p =>
      (if p.1.name = "" then
        [errorAt (t.fieldPlace p.2) "R-003" "field name must not be empty"]
      else []) ++
      (if p.1.source? = some (.property "") then
        [errorAt (t.fieldPlace p.2 ++ ".from") "R-003"
          ("field '" ++ p.1.name ++ "' has an empty source property")]
      else []) := rfl
  rw [hlist]
  refine (lists_flatMap 3 ?_ (fun p =>
    (lists_ite ⟨3, p.2, 0⟩ _ _).append (lists_ite ⟨3, p.2, 1⟩ _ _) ?_) t.fields).congr
    fun s d => ⟨?_, ?_⟩
  · rintro p s d (⟨-, rfl, -⟩ | ⟨-, rfl, -⟩)
    · exact ⟨rfl, rfl⟩
    · exact ⟨rfl, rfl⟩
  · rintro s d s' d' ⟨-, rfl, -⟩ ⟨-, rfl, -⟩
    exact Or.inr ⟨rfl, Or.inr ⟨rfl, Nat.zero_lt_one⟩⟩
  · rintro ⟨⟨field, i⟩, hp, ⟨hname, rfl, rfl⟩ | ⟨hsource, rfl, rfl⟩⟩
    · exact ⟨.nameless (List.mem_zipIdx_iff_getElem?.mp hp) hname, rfl⟩
    · exact ⟨.emptySource (List.mem_zipIdx_iff_getElem?.mp hp)
        ((FieldRule.readsEmptyKey_iff field).mpr hsource), rfl⟩
  · rintro ⟨hbreach, hrule⟩
    cases hbreach with
    | @nameless i field hfield hname =>
        exact ⟨(field, i), List.mem_zipIdx_iff_getElem?.mpr hfield, Or.inl ⟨hname, rfl, rfl⟩⟩
    | @emptySource i field hfield hsource =>
        exact ⟨(field, i), List.mem_zipIdx_iff_getElem?.mpr hfield,
          Or.inr ⟨(FieldRule.readsEmptyKey_iff field).mp hsource, rfl, rfl⟩⟩
    | _ =>
        cases hrule

theorem lists_undeclaredRoots (t : Template) :
    Lists (fun s d => t.Breach s d ∧ s.rule = 4) t.undeclaredRoots := by
  refine (lists_filterMap 4 _ t.prefixes).congr fun s d => ⟨?_, ?_⟩
  · rintro ⟨text, i, htext, rfl, hfound⟩
    obtain ⟨⟨hne, hmem⟩, heq⟩ := Option.ite_none_right_eq_some.mp hfound
    cases heq
    obtain ⟨piece, rest, hpiece⟩ := List.exists_cons_of_ne_nil
      (List.splitOn_ne_nil '.' text.toList)
    rw [root_eq hpiece] at hne hmem ⊢
    refine ⟨.undeclaredRoot htext hpiece ?_ fun kind hfield => ?_, rfl⟩
    · rintro rfl
      exact hne rfl
    · exact hmem ((mem_containerNames_iff _).mpr ⟨kind, hfield⟩)
  · rintro ⟨hbreach, hrule⟩
    cases hbreach with
    | undeclaredRoot htext hpiece hne hfields =>
        refine ⟨_, _, htext, rfl, ?_⟩
        dsimp only
        rw [root_eq hpiece, if_pos]
        · rfl
        · refine ⟨?_, fun hmem => ?_⟩
          · simpa using hne
          · obtain ⟨kind, hfield⟩ := (mem_containerNames_iff _).mp hmem
            exact hfields kind hfield
    | _ =>
        cases hrule

theorem lists_unusualVersion (t : Template) :
    Lists (fun s d => t.Breach s d ∧ s.rule = 5) t.unusualVersion := by
  have hlist : t.unusualVersion = if ¬ IsRelease t.version then
      [warningAt (t.label ++ ".version") "R-005"
        ("version '" ++ t.version ++ "' is not of the form MAJOR.MINOR.PATCH")]
      else [] := by
    simp only [unusualVersion, isVersion_iff, ite_not]
    rfl
  rw [hlist]
  refine (lists_ite ⟨5, 0, 0⟩ _ _).congr fun s d => ⟨?_, ?_⟩
  · rintro ⟨hversion, rfl, rfl⟩
    exact ⟨.unusualVersion hversion, rfl⟩
  · rintro ⟨hbreach, hrule⟩
    cases hbreach with
    | unusualVersion hversion =>
        exact ⟨hversion, rfl, rfl⟩
    | _ =>
        cases hrule

theorem Breach.rule_pos {s : Site} {d : Diagnostic} (h : t.Breach s d) : 1 ≤ s.rule := by
  cases h <;> simp

theorem Breach.rule_le {s : Site} {d : Diagnostic} (h : t.Breach s d) : s.rule ≤ 5 := by
  cases h <;> simp

/-- The errors are the breaches of the first three rules. -/
theorem lists_errors (t : Template) :
    Lists (fun s d => t.Breach s d ∧ s.rule ≤ 3) t.errors := by
  refine (((lists_repeatedNames t).append (lists_malformedPrefixes t) ?_).append
    (lists_namelessFields t) ?_).congr fun s d => ⟨?_, ?_⟩
  · rintro s d s' d' ⟨-, hs⟩ ⟨-, hs'⟩
    exact Or.inl (by omega)
  · rintro s d s' d' (⟨-, hs⟩ | ⟨-, hs⟩) ⟨-, hs'⟩
    · exact Or.inl (by omega)
    · exact Or.inl (by omega)
  · rintro ((⟨h, hs⟩ | ⟨h, hs⟩) | ⟨h, hs⟩)
    · exact ⟨h, by omega⟩
    · exact ⟨h, by omega⟩
    · exact ⟨h, by omega⟩
  · rintro ⟨h, hs⟩
    have hpos := h.rule_pos
    have hrule : s.rule = 1 ∨ s.rule = 2 ∨ s.rule = 3 := by omega
    rcases hrule with hrule | hrule | hrule
    · exact Or.inl (Or.inl ⟨h, hrule⟩)
    · exact Or.inl (Or.inr ⟨h, hrule⟩)
    · exact Or.inr ⟨h, hrule⟩

/-- The warnings are the breaches of the other rules. -/
theorem lists_warnings (t : Template) :
    Lists (fun s d => t.Breach s d ∧ 4 ≤ s.rule) t.warnings := by
  refine ((lists_undeclaredRoots t).append (lists_unusualVersion t) ?_).congr
    fun s d => ⟨?_, ?_⟩
  · rintro s d s' d' ⟨-, hs⟩ ⟨-, hs'⟩
    exact Or.inl (by omega)
  · rintro (⟨h, hs⟩ | ⟨h, hs⟩)
    · exact ⟨h, by omega⟩
    · exact ⟨h, by omega⟩
  · rintro ⟨h, hs⟩
    have hle := h.rule_le
    have hrule : s.rule = 4 ∨ s.rule = 5 := by omega
    rcases hrule with hrule | hrule
    · exact Or.inl ⟨h, hrule⟩
    · exact Or.inr ⟨h, hrule⟩

/-! ## Templates without errors -/

/-- What a template has to be for a registry to be valid. -/
structure Sound (t : Template) : Prop where
  nodup_names : (t.fields.map FieldRule.name).Nodup
  prefixes : ∀ text ∈ t.prefixes, ∃ stem k rest,
    text = stem ++ "." ∧ Path.parse stem = .ok (.key k :: rest)
  fields : ∀ field ∈ t.fields, field.name ≠ "" ∧ ¬ field.ReadsEmptyKey

theorem sound_iff (t : Template) : t.Sound ↔ ∀ s d, t.Breach s d → 4 ≤ s.rule := by
  constructor
  · rintro hsound s d hbreach
    cases hbreach with
    | repeatedName hfield hearlier hlt hname =>
        obtain ⟨hi, rfl⟩ := List.getElem?_eq_some_iff.mp hfield
        obtain ⟨hj, rfl⟩ := List.getElem?_eq_some_iff.mp hearlier
        have hdistinct := List.pairwise_map.mp hsound.nodup_names
        exact absurd hname (List.pairwise_iff_getElem.mp hdistinct _ _ hj hi hlt)
    | openPrefix htext hopen =>
        obtain ⟨stem, k, rest, heq, -⟩ := hsound.prefixes _ (List.mem_of_getElem? htext)
        exact absurd heq (hopen stem)
    | malformedPrefix htext hparse =>
        obtain ⟨stem, k, rest, heq, hkey⟩ := hsound.prefixes _ (List.mem_of_getElem? htext)
        rw [PrefixFault.append_dot_injective heq, hkey] at hparse
        cases hparse
    | positionFirst htext hparse =>
        obtain ⟨stem, k, rest, heq, hkey⟩ := hsound.prefixes _ (List.mem_of_getElem? htext)
        rw [PrefixFault.append_dot_injective heq, hkey] at hparse
        cases hparse
    | nameless hfield hname =>
        exact absurd hname (hsound.fields _ (List.mem_of_getElem? hfield)).1
    | emptySource hfield hsource =>
        exact absurd hsource (hsound.fields _ (List.mem_of_getElem? hfield)).2
    | undeclaredRoot =>
        exact Nat.le_refl 4
    | unusualVersion =>
        exact Nat.le_succ 4
  · intro h
    refine ⟨?_, fun text htext => ?_, fun field hfield => ?_⟩
    · refine List.pairwise_map.mpr (List.pairwise_iff_getElem.mpr fun j i hj hi hlt hname => ?_)
      have hrule := h _ _ (.repeatedName (List.getElem?_eq_getElem hi)
        (List.getElem?_eq_getElem hj) hlt hname)
      exact absurd hrule (by simp)
    · obtain ⟨i, hi⟩ := List.mem_iff_getElem?.mp htext
      rcases PrefixFault.prefix_cases text with
        hopen | ⟨stem, rfl, ⟨fault, hparse⟩ | ⟨n, rest, hparse⟩ | ⟨k, rest, hparse⟩⟩
      · exact absurd (h _ _ (.openPrefix hi hopen)) (by simp)
      · exact absurd (h _ _ (.malformedPrefix hi hparse)) (by simp)
      · exact absurd (h _ _ (.positionFirst hi hparse)) (by simp)
      · exact ⟨stem, k, rest, rfl, hparse⟩
    · obtain ⟨i, hi⟩ := List.mem_iff_getElem?.mp hfield
      refine ⟨fun hname => ?_, fun hsource => ?_⟩
      · exact absurd (h _ _ (.nameless hi hname)) (by simp)
      · exact absurd (h _ _ (.emptySource hi hsource)) (by simp)

end Template

/-- Two fields without names and sources, and a prefix without a dot at its end. -/
example :
    ((Template.validate ⟨.heal, "1.2.3", [.optional "" none, .optional "" none], ["x"]⟩
        .empty).errors.map fun d => (d.code, d.path)) =
      [("R-001", some "HealVnfRequest@1.2.3.fields[1]"),
        ("R-002", some "HealVnfRequest@1.2.3.prefixes[0]"),
        ("R-003", some "HealVnfRequest@1.2.3.fields[0]"),
        ("R-003", some "HealVnfRequest@1.2.3.fields[0].from"),
        ("R-003", some "HealVnfRequest@1.2.3.fields[1]"),
        ("R-003", some "HealVnfRequest@1.2.3.fields[1].from")] := by
  decide +kernel

end VnfPayload
