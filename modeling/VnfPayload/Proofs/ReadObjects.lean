import VnfPayload.Proofs.Entries
import VnfPayload.Proofs.WellFormed
import VnfPayload.Json.Reader

/-!
# Objects that are read

An object may repeat a key in its text.  `Json.Spelled` is the grammar of the texts that are
read: it gives a value as it stands in the text, with all members of its objects.  `Json.merged`
is what becomes of such a value.  In every object of it, however deep it lies, a repeated key
keeps its first place and takes its last value.

What is read is a spelled value after merging (`Json.exists_spelled_of_read?`), so it repeats no
key (`Json.wellFormed_of_read?`).

`Json.memberPairs?` gives the members of an object before their own keys are merged, and
`Json.exists_memberPairs_of_read?` says what becomes of them.
-/

namespace VnfPayload.Json

/-- What is neither an array nor an object can be the value of a property. -/
theorem exists_value_of_readScalar {cs rest : List Char} {j : Json}
    (h : readScalar cs = some (j, rest)) :
    ∃ v : PropertyValue, v.toJson = j := by
  have hword : ∀ (word cs : List Char) (v : PropertyValue),
      readWord word v.toJson cs = some (j, rest) → v.toJson = j := by
    intro word cs v h
    obtain ⟨rest', -, heq⟩ := Option.map_eq_some_iff.mp h
    exact (Prod.mk.inj heq).1
  unfold readScalar at h
  split at h
  · cases h
  · obtain ⟨r, -, heq⟩ := Option.map_eq_some_iff.mp h
    exact ⟨.str _, (Prod.mk.inj heq).1⟩
  · exact ⟨.null, hword _ _ .null h⟩
  · exact ⟨.bool true, hword _ _ (.bool true) h⟩
  · exact ⟨.bool false, hword _ _ (.bool false) h⟩
  · obtain ⟨r, -, heq⟩ := Option.map_eq_some_iff.mp h
    exact ⟨.num _, (Prod.mk.inj heq).1⟩

/-! ## Values as they stand in a text -/

mutual

/-- The value with the repeated keys of all its objects merged. -/
def merged : Json → Json
  | .arr items => .arr (mergedItems items)
  | .obj members => .obj (Entries.ofPairs (mergedMembers members))
  | j => j

/-- The items, each with its repeated keys merged. -/
def mergedItems : List Json → List Json
  | [] => []
  | x :: items => merged x :: mergedItems items

/-- The members with the repeated keys of their values merged, and not yet their own. -/
def mergedMembers : List (String × Json) → List (String × Json)
  | [] => []
  | (k, x) :: members => (k, merged x) :: mergedMembers members

end

@[simp] theorem merged_toJson (v : PropertyValue) : merged v.toJson = v.toJson := by
  cases v <;> rfl

theorem mergedMembers_eq_mapValues (members : List (String × Json)) :
    mergedMembers members = Entries.mapValues (fun _ => merged) members := by
  induction members with
  | nil =>
      rfl
  | cons e members ih =>
      rw [mergedMembers, ih]
      rfl

/-- Each key of an object stands where it is first. -/
theorem keys_ofPairs_mergedMembers (members : List (String × Json)) :
    Entries.keys (Entries.ofPairs (mergedMembers members)) =
      (Entries.keys members).eraseDups := by
  rw [mergedMembers_eq_mapValues, Entries.keys_ofPairs, Entries.keys_mapValues]

/-- Each key of an object has the value that stands last, itself merged. -/
theorem get?_ofPairs_mergedMembers (members : List (String × Json)) (key : String) :
    Entries.get? (Entries.ofPairs (mergedMembers members)) key =
      (Entries.get? members.reverse key).map merged := by
  rw [mergedMembers_eq_mapValues, ← Entries.mapValues_ofPairs, Entries.get?_mapValues,
    Entries.get?_ofPairs]

mutual

/-- `Spelled j cs rest`: the text `cs` begins with the value `j`, whose objects may repeat keys,
and goes on with `rest`. -/
inductive Spelled : Json → List Char → List Char → Prop
  | scalar {v : PropertyValue} {cs rest : List Char}
      (h : readScalar (skipBlanks cs) = some (v.toJson, rest)) :
      Spelled v.toJson cs rest
  | emptyArr {cs inner rest : List Char}
      (hopen : skipBlanks cs = '[' :: inner) (hclose : skipBlanks inner = ']' :: rest) :
      Spelled (.arr []) cs rest
  | arr {items : List Json} {cs inner rest : List Char}
      (hopen : skipBlanks cs = '[' :: inner) (h : SpelledItems items (skipBlanks inner) rest) :
      Spelled (.arr items) cs rest
  | emptyObj {cs inner rest : List Char}
      (hopen : skipBlanks cs = '\x7b' :: inner)
      (hclose : skipBlanks inner = '\x7d' :: rest) :
      Spelled (.obj []) cs rest
  | obj {members : List (String × Json)} {cs inner rest : List Char}
      (hopen : skipBlanks cs = '\x7b' :: inner)
      (h : SpelledMembers members (skipBlanks inner) rest) :
      Spelled (.obj members) cs rest

/-- The items of an array, of which there is at least one, and its closing bracket. -/
inductive SpelledItems : List Json → List Char → List Char → Prop
  | last {x : Json} {cs after rest : List Char}
      (hx : Spelled x cs after) (hclose : skipBlanks after = ']' :: rest) :
      SpelledItems [x] cs rest
  | more {x : Json} {items : List Json} {cs after next rest : List Char}
      (hx : Spelled x cs after) (hcomma : skipBlanks after = ',' :: next)
      (hitems : SpelledItems items next rest) :
      SpelledItems (x :: items) cs rest

/-- The members of an object, of which there is at least one, and its closing brace. -/
inductive SpelledMembers : List (String × Json) → List Char → List Char → Prop
  | last {k : List Char} {x : Json} {cs quoted colon value after rest : List Char}
      (hquote : skipBlanks cs = '"' :: quoted) (hkey : Quoted.read quoted = some (k, colon))
      (hcolon : skipBlanks colon = ':' :: value) (hx : Spelled x value after)
      (hclose : skipBlanks after = '\x7d' :: rest) :
      SpelledMembers [(String.ofList k, x)] cs rest
  | more {k : List Char} {x : Json} {members : List (String × Json)}
      {cs quoted colon value after next rest : List Char}
      (hquote : skipBlanks cs = '"' :: quoted) (hkey : Quoted.read quoted = some (k, colon))
      (hcolon : skipBlanks colon = ':' :: value) (hx : Spelled x value after)
      (hcomma : skipBlanks after = ',' :: next)
      (hmembers : SpelledMembers members next rest) :
      SpelledMembers ((String.ofList k, x) :: members) cs rest

end

mutual

/-- What the reader gives is the value of the text after merging. -/
theorem exists_spelled_of_readValue {fuel depth : Nat} {cs rest : List Char} {j : Json}
    (h : readValue fuel depth cs = some (j, rest)) :
    ∃ raw, Spelled raw cs rest ∧ raw.merged = j := by
  match fuel with
  | 0 =>
      simp [readValue] at h
  | fuel + 1 =>
      rw [readValue] at h
      split at h
      next inner hopen =>
        split at h
        · cases h
        · split at h
          next hclose =>
            cases h
            exact ⟨.arr [], .emptyArr hopen hclose, rfl⟩
          · obtain ⟨r, hr, heq⟩ := Option.map_eq_some_iff.mp h
            cases heq
            obtain ⟨raw, hraw, hmerged⟩ := exists_spelledItems_of_readItems hr
            exact ⟨.arr raw, .arr hopen hraw, congrArg _ hmerged⟩
      next inner hopen =>
        split at h
        · cases h
        · split at h
          next hclose =>
            cases h
            exact ⟨.obj [], .emptyObj hopen hclose, rfl⟩
          · obtain ⟨r, hr, heq⟩ := Option.map_eq_some_iff.mp h
            cases heq
            obtain ⟨raw, hraw, hmerged⟩ := exists_spelledMembers_of_readMembers hr
            refine ⟨.obj raw, .obj hopen hraw, ?_⟩
            rw [merged, hmerged]
      · obtain ⟨v, rfl⟩ := exists_value_of_readScalar h
        exact ⟨v.toJson, .scalar h, merged_toJson v⟩

theorem exists_spelledItems_of_readItems {fuel depth : Nat} {cs rest : List Char}
    {items : List Json} (h : readItems fuel depth cs = some (items, rest)) :
    ∃ raw, SpelledItems raw cs rest ∧ mergedItems raw = items := by
  match fuel with
  | 0 =>
      simp [readItems] at h
  | fuel + 1 =>
      rw [readItems] at h
      split at h
      · cases h
      next x after hx =>
        obtain ⟨first, hfirst, rfl⟩ := exists_spelled_of_readValue hx
        split at h
        next hclose =>
          cases h
          exact ⟨[first], .last hfirst hclose, rfl⟩
        next hcomma =>
          obtain ⟨r, hr, heq⟩ := Option.map_eq_some_iff.mp h
          cases heq
          obtain ⟨raw, hraw, hmerged⟩ := exists_spelledItems_of_readItems hr
          exact ⟨first :: raw, .more hfirst hcomma hraw, congrArg _ hmerged⟩
        · cases h

theorem exists_spelledMembers_of_readMembers {fuel depth : Nat} {cs rest : List Char}
    {pairs : List (String × Json)} (h : readMembers fuel depth cs = some (pairs, rest)) :
    ∃ raw, SpelledMembers raw cs rest ∧ mergedMembers raw = pairs := by
  match fuel with
  | 0 =>
      simp [readMembers] at h
  | fuel + 1 =>
      rw [readMembers] at h
      split at h
      next quoted hquote =>
        split at h
        · cases h
        next k colon hkey =>
          split at h
          next value hcolon =>
            split at h
            · cases h
            next x after hx =>
              obtain ⟨first, hfirst, rfl⟩ := exists_spelled_of_readValue hx
              split at h
              next hclose =>
                cases h
                exact ⟨[(String.ofList k, first)], .last hquote hkey hcolon hfirst hclose, rfl⟩
              next hcomma =>
                obtain ⟨r, hr, heq⟩ := Option.map_eq_some_iff.mp h
                cases heq
                obtain ⟨raw, hraw, hmerged⟩ := exists_spelledMembers_of_readMembers hr
                exact ⟨(String.ofList k, first) :: raw,
                  .more hquote hkey hcolon hfirst hcomma hraw, congrArg _ hmerged⟩
              · cases h
          · cases h
      · cases h

end

/-! ## Texts that are read -/

theorem exists_readValue_of_read? {text : String} {j : Json} (h : read? text = some j) :
    ∃ rest, readValue (2 * text.toList.length + 2) maxDepth text.toList = some (j, rest) ∧
      skipBlanks rest = [] := by
  unfold read? readChars? at h
  split at h
  next j' rest hread =>
    split at h
    next hend =>
      cases h
      exact ⟨rest, hread, List.isEmpty_iff.mp hend⟩
    · cases h
  next =>
    cases h

/-- **What is read** is the value that the whole text spells, with its repeated keys merged. -/
theorem exists_spelled_of_read? {text : String} {j : Json} (h : read? text = some j) :
    ∃ raw rest, Spelled raw text.toList rest ∧ skipBlanks rest = [] ∧ raw.merged = j := by
  obtain ⟨rest, hread, hend⟩ := exists_readValue_of_read? h
  obtain ⟨raw, hraw, hmerged⟩ := exists_spelled_of_readValue hread
  exact ⟨raw, rest, hraw, hend, hmerged⟩

/-- Merging repeated keys leaves an object that repeats none. -/
theorem wellFormed_ofPairs {pairs : List (String × Json)}
    (h : WellFormedMembers pairs) :
    WellFormed (.obj (Entries.ofPairs pairs)) := by
  rw [wellFormedMembers_iff] at h
  rw [wellFormed_obj_iff]
  exact ⟨Entries.nodup_keys_ofPairs pairs, fun e he => h e (Entries.mem_of_mem_ofPairs he)⟩

mutual

theorem wellFormed_merged : (j : Json) → WellFormed j.merged
  | .null | .bool _ | .num _ | .str _ => trivial
  | .arr items => wellFormedItems_merged items
  | .obj members => wellFormed_ofPairs (wellFormedMembers_merged members)

theorem wellFormedItems_merged : (items : List Json) → WellFormedItems (mergedItems items)
  | [] => trivial
  | x :: items => ⟨wellFormed_merged x, wellFormedItems_merged items⟩

theorem wellFormedMembers_merged :
    (members : List (String × Json)) → WellFormedMembers (mergedMembers members)
  | [] => trivial
  | (_, x) :: members => ⟨wellFormed_merged x, wellFormedMembers_merged members⟩

end

/-- What is read repeats no key. -/
theorem wellFormed_of_read? {text : String} {j : Json} (h : read? text = some j) :
    WellFormed j := by
  obtain ⟨raw, -, -, -, rfl⟩ := exists_spelled_of_read? h
  exact wellFormed_merged raw

/-- The members that the text of an object gives, with their values merged and not yet their
keys. -/
def memberPairs? (text : String) : Option (List (String × Json)) :=
  match skipBlanks text.toList with
  | '\x7b' :: rest =>
      match skipBlanks rest with
      | '\x7d' :: _ => some []
      | rest => (readMembers (2 * text.toList.length + 1) (maxDepth - 1) rest).map Prod.fst
  | _ => none

/-- The members of an object that is read are those of its text, with their values merged and
then each key at its first place and with its last value. -/
theorem exists_memberPairs_of_read? {text : String} {members : Entries Json}
    (h : read? text = some (.obj members)) :
    ∃ raw rest, Spelled (.obj raw) text.toList rest ∧ skipBlanks rest = [] ∧
      memberPairs? text = some (mergedMembers raw) ∧
      members = Entries.ofPairs (mergedMembers raw) := by
  obtain ⟨rest, hread, hend⟩ := exists_readValue_of_read? h
  rw [readValue] at hread
  unfold memberPairs?
  split at hread
  · split at hread
    · cases hread
    · split at hread
      · cases hread
      · obtain ⟨r, -, heq⟩ := Option.map_eq_some_iff.mp hread
        cases heq
  next inner hopen =>
    rw [hopen]
    split at hread
    · cases hread
    · split at hread
      next hclose =>
        cases hread
        simp only [hclose]
        exact ⟨[], rest, .emptyObj hopen hclose, hend, rfl, rfl⟩
      next hclose =>
        obtain ⟨r, hr, heq⟩ := Option.map_eq_some_iff.mp hread
        cases heq
        obtain ⟨raw, hraw, hmerged⟩ := exists_spelledMembers_of_readMembers hr
        refine ⟨raw, r.2, .obj hopen hraw, hend, ?_, ?_⟩
        · simp only [hr, Option.map_some, hmerged]
        · rw [hmerged]
  · obtain ⟨v, hv⟩ := exists_value_of_readScalar hread
    cases v <;> cases hv

end VnfPayload.Json
