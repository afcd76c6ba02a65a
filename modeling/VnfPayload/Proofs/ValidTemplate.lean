import VnfPayload.Proofs.PathSteps
import VnfPayload.Property
import VnfPayload.Registry.Validation

/-!
# What the rules for templates guarantee

`Template.Reports` says that validation has a finding under the code of a rule.  Where a rule
reports nothing, its condition holds of the whole template:

* `nodup_names` for R-001: the names of the fields are pairwise different;
* `dot_mem_of_matches` for R-002: a property key with one of the prefixes has a dot;
* `mem_containerNames_of_matches` for R-004: its first piece is a container of the template.

The first three rules are those that make a template unusable: `offences_eq_errors` and
`offences_eq_nil_iff`.  What a registry reports is what its templates report, in order:
`Registry.validate_eq` and `Registry.reports_iff`.
-/

namespace VnfPayload

namespace Path

/-- What follows a dot has no influence on the first piece. -/
theorem take_pieces_append {cs : List Char} (h : '.' ∈ cs) (ds : List Char) :
    (pieces (cs ++ ds)).take 1 = (pieces cs).take 1 := by
  induction cs with
  | nil =>
      cases h
  | cons c cs ih =>
      rw [List.cons_append, pieces, pieces]
      by_cases hc : c = '.'
      · simp [hc]
      · have hcs : '.' ∈ cs := by
          rcases List.mem_cons.mp h with heq | hmem
          · exact absurd heq.symm hc
          · exact hmem
        have htail := ih hcs
        rw [if_neg hc, if_neg hc]
        cases hpieces : pieces cs with
        | nil =>
            exact absurd hpieces (pieces_ne_nil cs)
        | cons p ps =>
            cases hpieces' : pieces (cs ++ ds) with
            | nil =>
                exact absurd hpieces' (pieces_ne_nil (cs ++ ds))
            | cons q qs =>
                rw [hpieces, hpieces'] at htail
                simpa using htail

end Path

namespace Template

variable {t : Template}

/-- Validation has a finding under the code. -/
def Reports (t : Template) (code : String) : Prop :=
  ∃ d ∈ (t.validate .empty).errors ++ (t.validate .empty).warnings, d.code = code

instance (t : Template) (code : String) : Decidable (t.Reports code) :=
  inferInstanceAs (Decidable (∃ d ∈ _, _))

/-- The key starts with one of the prefixes. -/
def Matches (t : Template) (key : String) : Prop :=
  ∃ text ∈ t.prefixes, text.toList <+: key.toList

instance (t : Template) (key : String) : Decidable (t.Matches key) :=
  inferInstanceAs (Decidable (∃ text ∈ t.prefixes, text.toList <+: key.toList))

/-- The properties whose keys start with one of the prefixes, in set order. -/
def matched (t : Template) (s : PropertySet) : List (String × PropertyValue) :=
  s.entries.filter fun e => t.Matches e.1

theorem withPrefixes_eq_matched (t : Template) (s : PropertySet) :
    s.withPrefixes t.prefixes = t.matched s := by
  refine List.filter_congr fun e _ => ?_
  rw [Bool.eq_iff_iff, PropertySet.startsWithAny_iff, decide_eq_true_iff]
  rfl

theorem matches_of_mem_matched {s : PropertySet} {key : String} {v : PropertyValue}
    (h : (key, v) ∈ t.matched s) :
    t.Matches key :=
  of_decide_eq_true (List.mem_filter.mp h).2

/-- If a rule reports nothing then the list of its findings is empty. -/
theorem eq_nil_of_not_reports {code : String} (h : ¬ t.Reports code) {ds : List Diagnostic}
    (hmem : ∀ d ∈ ds, d ∈ t.errors ∨ d ∈ t.warnings) (hcode : ∀ d ∈ ds, d.code = code) :
    ds = [] := by
  rw [List.eq_nil_iff_forall_not_mem]
  intro d hd
  refine h ⟨d, ?_, hcode d hd⟩
  simpa [validate, Findings.empty] using hmem d hd

/-! ## Codes -/

theorem code_of_mem_repeatedNames {d : Diagnostic} (h : d ∈ t.repeatedNames) :
    d.code = "R-001" := by
  obtain ⟨⟨field, i⟩, -, heq⟩ := List.mem_filterMap.mp h
  dsimp only at heq
  split at heq
  · cases heq
    rfl
  · cases heq

theorem code_of_mem_malformedPrefixes {d : Diagnostic} (h : d ∈ t.malformedPrefixes) :
    d.code = "R-002" := by
  obtain ⟨⟨text, i⟩, -, heq⟩ := List.mem_filterMap.mp h
  obtain ⟨fault, -, rfl⟩ := Option.map_eq_some_iff.mp heq
  rfl

theorem code_of_mem_namelessFields {d : Diagnostic} (h : d ∈ t.namelessFields) :
    d.code = "R-003" := by
  obtain ⟨⟨field, i⟩, -, hd⟩ := List.mem_flatMap.mp h
  rcases List.mem_append.mp hd with hd | hd
  · split at hd
    · rw [List.mem_singleton.mp hd]
      rfl
    · cases hd
  · split at hd
    · rw [List.mem_singleton.mp hd]
      rfl
    · cases hd

theorem code_of_mem_undeclaredRoots {d : Diagnostic} (h : d ∈ t.undeclaredRoots) :
    d.code = "R-004" := by
  obtain ⟨⟨text, i⟩, -, heq⟩ := List.mem_filterMap.mp h
  dsimp only at heq
  split at heq
  · cases heq
    rfl
  · cases heq

theorem code_of_mem_unusualVersion {d : Diagnostic} (h : d ∈ t.unusualVersion) :
    d.code = "R-005" := by
  rw [unusualVersion] at h
  split at h
  · cases h
  · rw [List.mem_singleton.mp h]
    rfl

/-- The findings under the codes that make a template unusable. -/
def offences (t : Template) : List Diagnostic :=
  ((t.validate .empty).errors ++ (t.validate .empty).warnings).filter
    fun d => d.code ∈ ["R-001", "R-002", "R-003"]

/-- They are those that are reported as errors. -/
theorem offences_eq_errors (t : Template) : t.offences = t.errors := by
  have herrors : ∀ d ∈ t.errors, d.code ∈ ["R-001", "R-002", "R-003"] := by
    intro d hd
    rw [errors, List.mem_append, List.mem_append] at hd
    rcases hd with (hd | hd) | hd
    · simp [code_of_mem_repeatedNames hd]
    · simp [code_of_mem_malformedPrefixes hd]
    · simp [code_of_mem_namelessFields hd]
  have hwarnings : ∀ d ∈ t.warnings, d.code ∉ ["R-001", "R-002", "R-003"] := by
    intro d hd
    rcases List.mem_append.mp hd with hd | hd
    · simp [code_of_mem_undeclaredRoots hd]
    · simp [code_of_mem_unusualVersion hd]
  have hfound : (t.validate .empty).errors ++ (t.validate .empty).warnings =
      t.errors ++ t.warnings := rfl
  rw [offences, hfound, List.filter_append, List.filter_eq_self.mpr (by simpa using herrors),
    List.filter_eq_nil_iff.mpr (by simpa using hwarnings), List.append_nil]

theorem offences_eq_nil_iff (t : Template) :
    t.offences = [] ↔ ¬ t.Reports "R-001" ∧ ¬ t.Reports "R-002" ∧ ¬ t.Reports "R-003" := by
  rw [offences, List.filter_eq_nil_iff]
  constructor
  · intro h
    have hnone : ∀ code ∈ ["R-001", "R-002", "R-003"], ¬ t.Reports code := by
      rintro code hcode ⟨d, hd, rfl⟩
      exact h d hd (decide_eq_true hcode)
    simpa using hnone
  · rintro ⟨h1, h2, h3⟩ d hd hcode
    have hcode' : d.code ∈ ["R-001", "R-002", "R-003"] := of_decide_eq_true hcode
    simp only [List.mem_cons, List.not_mem_nil, or_false] at hcode'
    rcases hcode' with hc | hc | hc
    · exact h1 ⟨d, hd, hc⟩
    · exact h2 ⟨d, hd, hc⟩
    · exact h3 ⟨d, hd, hc⟩

/-! ## R-001 -/

theorem nodup_names (h : ¬ t.Reports "R-001") :
    (t.fields.map FieldRule.name).Nodup := by
  have hnone : t.repeatedNames = [] := by
    refine eq_nil_of_not_reports h (fun d hd => Or.inl ?_) fun d => code_of_mem_repeatedNames
    simp [errors, hd]
  rw [repeatedNames, List.filterMap_eq_nil_iff] at hnone
  rw [List.Nodup, List.pairwise_map, List.pairwise_iff_getElem]
  intro i j hi hj hij heq
  have hj' : (t.fields[j], j) ∈ t.fields.zipIdx :=
    List.mem_zipIdx_iff_getElem?.mpr (List.getElem?_eq_getElem hj)
  have hrepeated : t.fields[j].name ∈ (t.fields.take j).map FieldRule.name := by
    rw [← heq]
    exact List.mem_map_of_mem (List.mem_take_iff_getElem.mpr ⟨i, by omega, rfl⟩)
  have hfinding := hnone _ hj'
  dsimp only at hfinding
  rw [if_pos hrepeated] at hfinding
  cases hfinding

/-! ## R-002 -/

theorem find?_of_mem_prefixes (h : ¬ t.Reports "R-002") {text : String}
    (htext : text ∈ t.prefixes) :
    PrefixFault.find? text = none := by
  have hnone : t.malformedPrefixes = [] := by
    refine eq_nil_of_not_reports h (fun d hd => Or.inl ?_) fun d =>
      code_of_mem_malformedPrefixes
    simp [errors, hd]
  rw [malformedPrefixes, List.filterMap_eq_nil_iff] at hnone
  obtain ⟨i, hi⟩ := List.mem_iff_getElem?.mp htext
  exact Option.map_eq_none_iff.mp (hnone (text, i) (List.mem_zipIdx_iff_getElem?.mpr hi))

/-- A prefix ends in a dot. -/
theorem dot_mem_of_mem_prefixes (h : ¬ t.Reports "R-002") {text : String}
    (htext : text ∈ t.prefixes) :
    '.' ∈ text.toList := by
  have hfind := find?_of_mem_prefixes h htext
  rw [PrefixFault.find?, PrefixFault.stem?] at hfind
  by_cases hlast : text.toList.getLast? = some '.'
  · exact List.mem_of_getLast? hlast
  · rw [if_neg hlast] at hfind
    cases hfind

theorem dot_mem_of_matches (h : ¬ t.Reports "R-002") {key : String} (hkey : t.Matches key) :
    '.' ∈ key.toList := by
  obtain ⟨text, htext, hprefix⟩ := hkey
  exact hprefix.subset (dot_mem_of_mem_prefixes h htext)

/-! ## R-004 -/

theorem root_mem_containerNames (h : ¬ t.Reports "R-004") {text : String}
    (htext : text ∈ t.prefixes) (hroot : root text ≠ "") :
    root text ∈ t.containerNames := by
  have hnone : t.undeclaredRoots = [] := by
    refine eq_nil_of_not_reports h (fun d hd => Or.inr ?_) fun d => code_of_mem_undeclaredRoots
    simp [warnings, hd]
  rw [undeclaredRoots, List.filterMap_eq_nil_iff] at hnone
  obtain ⟨i, hi⟩ := List.mem_iff_getElem?.mp htext
  have hnone' := hnone (text, i) (List.mem_zipIdx_iff_getElem?.mpr hi)
  by_contra hmem
  simp [hroot, hmem] at hnone'

/-- The first piece of a key is that of its prefix. -/
theorem mem_containerNames_of_matches (hdot : ¬ t.Reports "R-002")
    (h : ¬ t.Reports "R-004") {key : String} (hkey : t.Matches key) {k : String}
    {rest : List Segment} (hparse : Path.parse key = .ok (.key k :: rest)) :
    k ∈ t.containerNames := by
  obtain ⟨text, htext, ds, hds⟩ := hkey
  have hroot : root text = k := by
    rw [← Path.take_one_of_parse hparse, root, Path.take, Path.take, ← hds,
      Path.take_pieces_append (dot_mem_of_mem_prefixes hdot htext)]
  have hk := Path.keysAre_of_parse hparse k List.mem_cons_self
  rw [← hroot]
  refine root_mem_containerNames h htext ?_
  rw [hroot]
  exact hk.1

theorem mem_containerNames_iff (name : String) :
    name ∈ t.containerNames ↔ ∃ kind, .container name kind ∈ t.fields := by
  rw [containerNames, List.mem_filterMap]
  constructor
  · rintro ⟨field, hfield, heq⟩
    cases field with
    | container name' kind =>
        cases heq
        exact ⟨kind, hfield⟩
    | optional name' source =>
        cases heq
    | required name' source =>
        cases heq
  · rintro ⟨kind, hfield⟩
    exact ⟨_, hfield, rfl⟩

end Template

namespace Registry

/-- The findings about a registry are those about its templates, one after the other. -/
theorem validate_eq (r : Registry) :
    r.validate = ⟨r.templates.flatMap Template.errors, r.templates.flatMap Template.warnings⟩ := by
  have hfold : ∀ (ts : List Template) (found : Findings),
      ts.foldl (fun found t => t.validate found) found =
        ⟨found.errors ++ ts.flatMap Template.errors,
          found.warnings ++ ts.flatMap Template.warnings⟩ := by
    intro ts
    induction ts with
    | nil =>
        intro found
        simp
    | cons t ts ih =>
        intro found
        rw [List.foldl_cons, ih]
        simp [Template.validate]
  exact hfold r.templates .empty

/-- Validation of the registry has a finding under the code. -/
def Reports (r : Registry) (code : String) : Prop :=
  ∃ d ∈ r.validate.errors ++ r.validate.warnings, d.code = code

instance (r : Registry) (code : String) : Decidable (r.Reports code) :=
  inferInstanceAs (Decidable (∃ d ∈ _, _))

theorem reports_iff (r : Registry) (code : String) :
    r.Reports code ↔ ∃ t ∈ r.templates, t.Reports code := by
  simp only [Reports, Template.Reports, validate_eq, Template.validate, Findings.empty,
    List.nil_append, List.mem_append, List.mem_flatMap]
  constructor
  · rintro ⟨d, ⟨t, ht, hd⟩ | ⟨t, ht, hd⟩, hcode⟩
    · exact ⟨t, ht, d, Or.inl hd, hcode⟩
    · exact ⟨t, ht, d, Or.inr hd, hcode⟩
  · rintro ⟨t, ht, d, hd | hd, hcode⟩
    · exact ⟨d, Or.inl ⟨t, ht, hd⟩, hcode⟩
    · exact ⟨d, Or.inr ⟨t, ht, hd⟩, hcode⟩

end Registry

end VnfPayload
