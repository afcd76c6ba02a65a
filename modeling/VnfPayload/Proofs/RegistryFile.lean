import VnfPayload.Proofs.RegistryOrder
import VnfPayload.Proofs.ValidTemplate
import VnfPayload.Registry.File

/-!
# What a registry file gives

A file asks for templates in an order: the built-in ones, if it wants them, and then its own.
The last one for each operation and version counts, and only those that count are validated:
a template that is replaced by a later one may be anything.  The file is refused as a whole
if one of them breaks a rule.

The findings come in the order of the registry and not in that of the file, so the first of
them is about the least template that breaks a rule: `Registry.parse_file`.  Each replacement is
an event.
-/

namespace VnfPayload

namespace RegistryFile

variable {file : RegistryFile}

/-- The built-in templates, if the file wants them. -/
def inherited (file : RegistryFile) : List Template :=
  if file.includeBuiltin then Registry.templates2 ++ Registry.templates3 else []

/-- One event for each template whose key an earlier one has. -/
def replacements (earlier : List Template) : List Template → List Event
  | [] => []
  | t :: ts =>
      (if ∃ u ∈ earlier, u.SameKey t then [.replaced t.operation t.version] else []) ++
        replacements (earlier ++ [t]) ts

/-- The registry of all templates that the file asks for. -/
def merged (file : RegistryFile) : Registry :=
  Registry.empty.insertAll (file.inherited ++ file.templates)

theorem base_eq (file : RegistryFile) : file.base = Registry.empty.insertAll file.inherited := by
  rw [base, inherited]
  split
  · rfl
  · rfl

/-- A registry knows the keys of the templates that were put into it, so the ones it replaces
are those that come again. -/
theorem registerAll_eq (ts : List Template) {r : Registry} {earlier : List Template}
    (h : ∀ t : Template, (∃ u ∈ r.templates, u.SameKey t) ↔ ∃ u ∈ earlier, u.SameKey t) :
    registerAll r ts = (r.insertAll ts, replacements earlier ts) := by
  induction ts generalizing r earlier with
  | nil =>
      rfl
  | cons t ts ih =>
      have hnext : ∀ x : Template, (∃ u ∈ (r.insert t).templates, u.SameKey x) ↔
          ∃ u ∈ earlier ++ [t], u.SameKey x := by
        intro x
        rw [Registry.exists_sameKey_insert_iff, h]
        simp only [List.mem_append, List.mem_singleton, or_and_right, exists_or, exists_eq_left]
      simp only [registerAll, Registry.register, ih hnext, replacements, ← h,
        ← Registry.isSome_get?_iff]
      cases hget : r.get? t.operation t.version with
      | none =>
          rfl
      | some u =>
          obtain ⟨hoperation, hversion⟩ := Registry.sameKey_of_get? hget
          simp only [hoperation, hversion]
          rfl

/-- The whole run of a file: what was replaced, the warnings, and the registry or its errors. -/
theorem toRegistry_eq (file : RegistryFile) :
    file.toRegistry =
      ⟨replacements file.inherited file.templates ++
          (file.merged.templates.flatMap Template.warnings).map .registryWarning,
        match file.merged.templates.flatMap Template.errors with
        | [] => .ok file.merged
        | first :: rest => .error (.invalidRegistry (rest.length + 1) first)⟩ := by
  have hregister : registerAll file.base file.templates =
      (file.merged, replacements file.inherited file.templates) := by
    rw [merged, Registry.insertAll_append, ← base_eq]
    refine registerAll_eq _ fun t => ?_
    rw [base_eq, Registry.exists_sameKey_insertAll_iff]
    rfl
  rw [toRegistry, hregister]
  simp only [Registry.validate_eq]
  cases file.merged.templates.flatMap Template.errors with
  | nil =>
      simp [bind, Run.bind, Run.emitAll, pure, Run.pure, Run.ofExcept]
  | cons first rest =>
      simp [bind, Run.bind, Run.emitAll, Run.ofExcept]

/-- In ascending order the first error is one about the least template that has any. -/
theorem exists_least_offender {m : List Template} (hm : m.Pairwise Template.Precedes)
    {first : Diagnostic} {rest : List Diagnostic}
    (h : m.flatMap Template.errors = first :: rest) :
    ∃ t ∈ m, t.errors.head? = some first ∧
      ∀ u ∈ m, u.errors ≠ [] → u = t ∨ t.Precedes u := by
  induction m with
  | nil =>
      cases h
  | cons t m ih =>
      obtain ⟨ht, hrest⟩ := List.pairwise_cons.mp hm
      rw [List.flatMap_cons] at h
      cases herrors : t.errors with
      | nil =>
          rw [herrors, List.nil_append] at h
          obtain ⟨u, hu, hfirst, hleast⟩ := ih hrest h
          refine ⟨u, List.mem_cons_of_mem _ hu, hfirst, fun x hx hne => ?_⟩
          rcases List.mem_cons.mp hx with rfl | hmem
          · exact absurd herrors hne
          · exact hleast x hmem hne
      | cons d ds =>
          rw [herrors, List.cons_append, List.cons.injEq] at h
          refine ⟨t, List.mem_cons_self, ?_, fun x hx _ => ?_⟩
          · rw [herrors, h.1]
            rfl
          · rcases List.mem_cons.mp hx with rfl | hmem
            · exact Or.inl rfl
            · exact Or.inr (ht x hmem)

/-- An event of replacement is a line in the log about a template of the file. -/
theorem of_mem_replacements {earlier ts : List Template} {event : Event}
    (h : event ∈ replacements earlier ts) :
    ∃ t ∈ ts, event = .replaced t.operation t.version := by
  induction ts generalizing earlier with
  | nil =>
      cases h
  | cons t ts ih =>
      rcases List.mem_append.mp h with hfirst | hrest
      · split at hfirst
        · exact ⟨t, List.mem_cons_self, List.mem_singleton.mp hfirst⟩
        · cases hfirst
      · obtain ⟨u, hu, heq⟩ := ih hrest
        exact ⟨u, List.mem_cons_of_mem _ hu, heq⟩

/-- No template of a list offends exactly if validation finds no error in any of them. -/
theorem flatMap_errors_eq_nil_iff (m : List Template) :
    m.flatMap Template.errors = [] ↔
      ∀ t ∈ m, ¬ t.Reports "R-001" ∧ ¬ t.Reports "R-002" ∧ ¬ t.Reports "R-003" := by
  rw [List.flatMap_eq_nil_iff]
  simp only [← Template.offences_eq_errors, Template.offences_eq_nil_iff]

end RegistryFile

/-- The templates of a registry that was read keep the rules. -/
theorem Registry.not_reports_of_parse {text : String} {r : Registry}
    (h : (Registry.parse text).outcome = .ok r) :
    ∀ t ∈ r.templates,
      ¬ t.Reports "R-001" ∧ ¬ t.Reports "R-002" ∧ ¬ t.Reports "R-003" := by
  unfold Registry.parse at h
  split at h
  · cases h
  next members _ =>
    split at h
    · cases h
    next file _ =>
      rw [RegistryFile.toRegistry_eq] at h
      dsimp only at h
      split at h
      next herrors =>
        cases h
        exact (RegistryFile.flatMap_errors_eq_nil_iff _).mp herrors
      next =>
        cases h

namespace RegistryFile

/-- Three templates by position: an offender that the third one replaces, and one that it
does not replace. -/
def offendersText : String :=
  "templates:\n- [HealVnfRequest, b, [], [p]]\n- [HealVnfRequest, a, [], [p]]\n" ++
    "- [HealVnfRequest, b, [], []]\n"

/-- The members of this file. -/
def offendersMembers : Entries Json :=
  [("templates", .arr
    [.arr [.str "HealVnfRequest", .str "b", .arr [], .arr [.str "p"]],
      .arr [.str "HealVnfRequest", .str "a", .arr [], .arr [.str "p"]],
      .arr [.str "HealVnfRequest", .str "b", .arr [], .arr []]])]

/-- The offender that no later template replaces. -/
def keptOffender : Template :=
  ⟨.heal, "a", [], ["p"]⟩

/-- The template that takes the place of the other offender. -/
def replacement : Template :=
  ⟨.heal, "b", [], []⟩

/-- What the file says. -/
def offendersFile : RegistryFile :=
  ⟨false, [⟨.heal, "b", [], ["p"]⟩, keptOffender, replacement]⟩

end RegistryFile

end VnfPayload
