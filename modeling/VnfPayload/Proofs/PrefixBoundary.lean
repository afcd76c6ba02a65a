import VnfPayload.Proofs.Breaches
import VnfPayload.Proofs.BuildFailure
import VnfPayload.Proofs.PathGrammar
import VnfPayload.Proofs.Refusal
import VnfPayload.Proofs.RegistryFile

/-!
# Prefixes end between pieces

The prefixes of a template are compared with property keys as texts.  A prefix on which R-002
reports nothing ends in a dot, so the comparison respects the pieces of the key: the key
starts with the prefix exactly if it has the pieces of the prefix and one more
(`Path.isPrefix_dot_iff`).  In particular its first piece is that of the prefix, and that
piece is the name of a key.

So two ways to fail are closed to a registry that keeps R-002.  A folded key is never refused
for its beginning, and it never asks the document itself to be anything but a mapping.
`sound_prefixes` says all of this.
-/

namespace VnfPayload

namespace Path

/-- A key starts with a text and a dot exactly if it has the pieces of the text and more. -/
theorem isPrefix_dot_iff (stem key : List Char) :
    stem ++ ['.'] <+: key ↔ ∃ piece rest, pieces key = pieces stem ++ piece :: rest := by
  constructor
  · rintro ⟨ds, rfl⟩
    obtain ⟨piece, rest, hrest⟩ := List.exists_cons_of_ne_nil (pieces_ne_nil ds)
    refine ⟨piece, rest, ?_⟩
    rw [List.append_assoc, List.singleton_append, pieces_append_dot, hrest]
  · rintro ⟨piece, rest, hkey⟩
    -- The further pieces are those of the text that they make when joined.
    have hdot : ∀ p ∈ piece :: rest, '.' ∉ p := by
      intro p hp
      exact dot_notMem_of_mem_pieces (hkey ▸ List.mem_append_right _ hp)
    have hsame : pieces key = pieces (stem ++ '.' :: join (piece :: rest)) := by
      rw [pieces_append_dot, pieces_join (List.cons_ne_nil _ _) hdot, hkey]
    refine ⟨join (piece :: rest), ?_⟩
    rw [List.append_assoc, List.singleton_append, ← join_pieces key, hsame, join_pieces]

/-- The empty text has one piece, which is empty. -/
theorem ne_empty_of_pieces {text : String} {piece : List Char} {rest : List (List Char)}
    (hpieces : pieces text.toList = piece :: rest) (hne : piece ≠ []) :
    text ≠ "" := by
  rintro rfl
  exact hne (List.cons.inj hpieces).1.symm

/-- Only an empty first piece is a leading separator. -/
theorem ne_leadingSeparator_of_parse {path : String} {piece : List Char}
    {rest : List (List Char)} {fault : PathFault}
    (hpieces : pieces path.toList = piece :: rest) (hne : piece ≠ [])
    (h : parse path = .error fault) :
    fault ≠ .empty ∧ fault ≠ .leadingSeparator := by
  rcases (parse_eq_error_iff path fault).mp h with ⟨hempty, -⟩ | ⟨-, hfirst⟩
  · exact absurd hempty (ne_empty_of_pieces hpieces hne)
  · obtain ⟨before, p, after, hsplit, -, hoffence⟩ := hfirst
    rw [← pieces_eq_splitOn, hpieces] at hsplit
    rw [List.nil_append] at hoffence
    cases hoffence with
    | leading after =>
        exact absurd (List.cons.inj hsplit).1 hne
    | _ =>
        simp

end Path

/-- The reasons of these two faults are those of no other fault. -/
theorem PathFault.reason_ne {fault : PathFault}
    (h : fault ≠ .empty ∧ fault ≠ .leadingSeparator) :
    fault.reason ≠ "path is empty" ∧ fault.reason ≠ "leading separator" := by
  cases fault with
  | empty =>
      exact absurd rfl h.1
  | leadingSeparator =>
      exact absurd rfl h.2
  | trailingSeparator =>
      decide
  | emptySegment =>
      decide
  | indexTooLarge piece =>
      -- The reason of a large position begins with another letter.
      have hhead : (indexTooLarge piece).reason.toList.head? = some 'i' := by
        simp only [reason, String.toList_append, List.head?_append]
        rfl
      refine ⟨fun heq => ?_, fun heq => ?_⟩
      · rw [heq] at hhead
        revert hhead
        decide
      · rw [heq] at hhead
        revert hhead
        decide

/-! ## Prefixes that R-002 accepts -/

namespace PrefixFault

/-- A prefix without a finding is a path that starts with a key, and a dot. -/
theorem exists_stem_of_find? {text : String} (h : find? text = none) :
    ∃ stem k rest,
      text = stem ++ "." ∧ Path.parse stem = .ok (.key k :: rest) := by
  rcases prefix_cases text with
    hopen | ⟨stem, rfl, ⟨fault, hparse⟩ | ⟨n, rest, hparse⟩ | ⟨k, rest, hparse⟩⟩
  · cases (find?_of_open hopen).symm.trans h
  · cases (find?_of_error hparse).symm.trans h
  · cases (find?_of_index hparse).symm.trans h
  · exact ⟨stem, k, rest, rfl, hparse⟩

end PrefixFault

/-- The first piece of a folded key is the name of a key. -/
theorem Template.exists_key_of_matches {t : Template} (h : ¬ t.Reports "R-002")
    {path : String} (hpath : t.Matches path) :
    ∃ piece rest k, Path.pieces path.toList = piece :: rest ∧ Path.Names piece (.key k) := by
  obtain ⟨text, htext, hprefix⟩ := hpath
  obtain ⟨stem, k, steps, rfl, hparse⟩ :=
    PrefixFault.exists_stem_of_find? (find?_of_mem_prefixes h htext)
  rw [String.toList_append] at hprefix
  obtain ⟨piece, rest, hpieces⟩ := (Path.isPrefix_dot_iff _ _).mp hprefix
  obtain ⟨first, others, hname, -, hstem⟩ :=
    List.forall₂_cons_right_iff.mp ((Path.parse_eq_ok_iff _ _).mp hparse)
  rw [hstem, List.cons_append] at hpieces
  exact ⟨first, _, k, hpieces, hname⟩

/-! ## Folded keys -/

/-- A property whose first piece is the name of a key is never refused for that piece, and
the document never stands in its way. -/
theorem Document.materialize_of_key {doc : Document} {path : String} {v : PropertyValue}
    {piece : List Char} {rest : List (List Char)} {k : String} {e : Error}
    (hpieces : Path.pieces path.toList = piece :: rest) (hname : Path.Names piece (.key k))
    (h : (doc.materialize path v).2 = .error e) :
    (∃ fault, e = .malformedPath path fault ∧
        fault ≠ .empty ∧ fault ≠ .leadingSeparator) ∨
      ∃ node expected found, e = .structuralConflict path node expected found ∧
        node ≠ "" := by
  have hpath := Path.ne_empty_of_pieces hpieces hname.1
  cases (materialize_snd_eq_error_iff doc path v e).mp h with
  | @malformed fault hparse =>
      exact Or.inl ⟨fault, rfl, Path.ne_leadingSeparator_of_parse hpieces hname.1 hparse⟩
  | root hparse =>
      have hnames := (Path.parse_eq_ok_iff _ _).mp hparse
      rw [hpieces, List.forall₂_cons] at hnames
      cases hnames.1.2.symm.trans hname.2
  | @blocked p before s x node hparse hbefore hblocks hnode =>
      refine Or.inr ⟨node, _, _, rfl, ?_⟩
      -- The node is named by the first piece and perhaps further ones.
      obtain ⟨n, hn⟩ := Nat.exists_eq_add_of_lt (List.length_pos_iff.mpr hbefore)
      rw [← Path.pieces_eq_splitOn, ← Path.pieces_eq_splitOn, hpieces, hn, List.take_succ_cons]
        at hnode
      exact Path.ne_empty_of_pieces hnode hname.1
  | occupied hparse hx hcontainer =>
      exact Or.inr ⟨path, _, _, rfl, hpath⟩

namespace Generator

variable {g : Generator} {operation : Operation} {ctx : Context}

/-- No building with a registry that keeps R-002 fails at the root of the document or at the
beginning of a key. -/
theorem buildDocument_of_sound_prefixes (h : ¬ g.registry.Reports "R-002") {e : Error}
    (herror : (g.buildDocument operation ctx).outcome = .error e) :
    (∀ path expected found, e ≠ .structuralConflict path "" expected found) ∧
      ∀ path fault, e = .malformedPath path fault →
        fault.reason ≠ "path is empty" ∧ fault.reason ≠ "leading separator" := by
  cases buildFailure_of_buildDocument herror with
  | version found =>
      exact ⟨nofun, nofun⟩
  | template version =>
      exact ⟨nofun, nofun⟩
  | field name source =>
      exact ⟨nofun, nofun⟩
  | @property t doc path v e htemplate hmatched hmaterialize =>
      have ht : ¬ t.Reports "R-002" := fun hreports =>
        h ((g.registry.reports_iff _).mpr ⟨t, htemplate, hreports⟩)
      obtain ⟨piece, rest, k, hpieces, hname⟩ :=
        Template.exists_key_of_matches ht (Template.matches_of_mem_matched hmatched)
      rcases Document.materialize_of_key hpieces hname hmaterialize with
        ⟨fault, rfl, hfault⟩ | ⟨node, expected, found, rfl, hnode⟩
      · refine ⟨nofun, ?_⟩
        rintro _ _ ⟨⟩
        exact PathFault.reason_ne hfault
      · refine ⟨?_, nofun⟩
        rintro _ _ _ ⟨⟩
        exact hnode rfl

end Generator

theorem Registry.not_reports_prefix_of_parse {text : String} {r : Registry}
    (h : (Registry.parse text).outcome = .ok r) :
    ¬ r.Reports "R-002" := by
  intro hreports
  obtain ⟨t, ht, hfound⟩ := (r.reports_iff _).mp hreports
  exact (Registry.not_reports_of_parse h t ht).2.1 hfound

/-- A sound prefix compares pieces. -/
theorem PrefixFault.startsWithAny_iff {text : String} (h : find? text = none) :
    ∃ stem, text = stem ++ "." ∧
      ∀ key, PropertySet.startsWithAny key [text] = true ↔
        ∃ piece rest,
          Path.pieces key.toList = Path.pieces stem.toList ++ piece :: rest := by
  obtain ⟨stem, k, steps, rfl, -⟩ := exists_stem_of_find? h
  refine ⟨stem, rfl, fun key => ?_⟩
  rw [← Path.isPrefix_dot_iff, PropertySet.startsWithAny_iff]
  simp

/-- **Sound prefixes** end between pieces, and with a registry of such prefixes, as every file
gives it, no building fails for the root of the document or the beginning of a key. -/
theorem sound_prefixes :
    (∀ text, PrefixFault.find? text = none →
      ∃ stem, text = stem ++ "." ∧
        ∀ key, PropertySet.startsWithAny key [text] = true ↔
          ∃ piece rest,
            Path.pieces key.toList = Path.pieces stem.toList ++ piece :: rest)
      ∧
    (∀ (g : Generator) (operation : Operation) (ctx : Context) (e : Error),
      ¬ g.registry.Reports "R-002" →
      (g.buildDocument operation ctx).outcome = .error e →
      (∀ path expected found, e ≠ .structuralConflict path "" expected found) ∧
        ∀ path fault, e = .malformedPath path fault →
          fault.reason ≠ "path is empty" ∧ fault.reason ≠ "leading separator")
      ∧
    (∀ text r, (Registry.parse text).outcome = .ok r → ¬ r.Reports "R-002") :=
  ⟨fun _ h => PrefixFault.startsWithAny_iff h,
    fun _ _ _ _ h herror => Generator.buildDocument_of_sound_prefixes h herror,
    fun _ _ h => Registry.not_reports_prefix_of_parse h⟩

/-- A registry of one template that folds in the keys below `a`. -/
def Registry.dotted : Registry :=
  Registry.empty.insertAll [⟨.heal, "1", [], ["a."]⟩]

/-- The file that gives this registry. -/
def Registry.dottedText : String :=
  "templates:\n- operation: HealVnfRequest\n  version: '1'\n  fields: []\n" ++
    "  prefixes: [a.]\n"

/-- A generator with this registry, for requests that ask for no version. -/
def Generator.dotted : Generator where
  registry := .dotted
  config := { Config.standard with defaultVersion := "1" }
  isSensitive := fun _ => false

/-- A key that is the prefix and nothing more. -/
def Context.dotted : Context where
  properties := .ofPairs [("a.", .bool true)]
  lifecycleName := none
  description := none

/-- A key that is all of the prefix has an empty last piece; it is refused for that one. -/
theorem sound_prefixes_bare_prefix :
    (∃ stem, "a." = stem ++ "." ∧
        ∀ key, PropertySet.startsWithAny key ["a."] = true ↔
          ∃ piece rest,
            Path.pieces key.toList = Path.pieces stem.toList ++ piece :: rest) ∧
      (Generator.dotted.buildDocument .heal .dotted).outcome =
        .error (.malformedPath "a." .trailingSeparator) ∧
      (∀ path fault, Error.malformedPath "a." .trailingSeparator = .malformedPath path fault →
        fault.reason ≠ "path is empty" ∧ fault.reason ≠ "leading separator") ∧
      (Registry.parse Registry.dottedText).outcome = .ok .dotted ∧
      ¬ Registry.dotted.Reports "R-002" := by
  have hrun : (Generator.dotted.buildDocument .heal .dotted).outcome =
      .error (.malformedPath "a." .trailingSeparator) := by
    decide +kernel
  have hread : (Registry.parse Registry.dottedText).outcome = .ok .dotted := by
    decide +kernel
  have hkept : ¬ Registry.dotted.Reports "R-002" := sound_prefixes.2.2 _ _ hread
  exact ⟨sound_prefixes.1 "a." (by decide +kernel), hrun,
    (sound_prefixes.2.1 _ _ _ _ hkept hrun).2, hread, hkept⟩

end VnfPayload
