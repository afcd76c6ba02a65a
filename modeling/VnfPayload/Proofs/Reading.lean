import VnfPayload.Proofs.Entries
import VnfPayload.Proofs.Grammar
import VnfPayload.Proofs.IntegerText
import VnfPayload.Proofs.QuotedText

/-!
# Every written text is read

The reader gives back the value of every text of the grammar, and it is the depth of the
value alone that can make it refuse.  It goes from the left to the right, so that a text
is read the same whatever follows it; only a number has to be ended by what follows.

Fuel is spent once a character and once a level, which twice the length of the text covers.

Main statements:

* `readValue_of_written` says what the reader makes of a text and what follows it;
* `readChars?_of_written` says what it makes of the text alone.
-/

namespace VnfPayload.Json

theorem skipBlanks_append {gap : List Char} (hgap : Blanks gap) (cs : List Char) :
    skipBlanks (gap ++ cs) = skipBlanks cs := by
  induction gap with
  | nil =>
      rfl
  | cons c gap ih =>
      have hc : isBlank c = true := hgap c List.mem_cons_self
      have htail : Blanks gap := fun d hd => hgap d (List.mem_cons_of_mem c hd)
      rw [List.cons_append, skipBlanks, List.dropWhile_cons_of_pos hc]
      exact ih htail

@[simp] theorem skipBlanks_cons {c : Char} (hc : isBlank c = false) (cs : List Char) :
    skipBlanks (c :: cs) = c :: cs := by
  simp [skipBlanks, hc]

theorem skipBlanks_skipBlanks (cs : List Char) :
    skipBlanks (skipBlanks cs) = skipBlanks cs := by
  induction cs with
  | nil =>
      rfl
  | cons c cs ih =>
      cases hc : isBlank c with
      | true =>
          have htail : skipBlanks (c :: cs) = skipBlanks cs := by simp [skipBlanks, hc]
          rw [htail, ih]
      | false =>
          rw [skipBlanks_cons hc, skipBlanks_cons hc]

/-- Whether there are blanks in front makes no difference to the readers. -/
theorem readValue_congr {cs ds : List Char} (h : skipBlanks cs = skipBlanks ds)
    (fuel depth : Nat) :
    readValue fuel depth cs = readValue fuel depth ds := by
  cases fuel with
  | zero =>
      simp [readValue]
  | succ fuel =>
      rw [readValue, readValue, h]

theorem readItems_congr {cs ds : List Char} (h : skipBlanks cs = skipBlanks ds)
    (fuel depth : Nat) :
    readItems fuel depth cs = readItems fuel depth ds := by
  cases fuel with
  | zero =>
      simp [readItems]
  | succ fuel =>
      rw [readItems, readItems, readValue_congr h]

theorem readMembers_congr {cs ds : List Char} (h : skipBlanks cs = skipBlanks ds)
    (fuel depth : Nat) :
    readMembers fuel depth cs = readMembers fuel depth ds := by
  cases fuel with
  | zero =>
      simp [readMembers]
  | succ fuel =>
      rw [readMembers, readMembers, h]

theorem endsNumber_append {gap : List Char} (hgap : Blanks gap) {c : Char}
    (hc : continuesNumber c = false) (rest : List Char) :
    EndsNumber (gap ++ c :: rest) := by
  cases gap with
  | nil =>
      exact hc
  | cons d gap =>
      have hd : isBlank d = true := hgap d List.mem_cons_self
      simp only [isBlank, Bool.or_eq_true, decide_eq_true_eq] at hd
      rcases hd with ((rfl | rfl) | rfl) | rfl <;> rfl

theorem readScalar_int (n : WideInt) {rest : List Char} (hrest : EndsNumber rest) :
    readScalar (n.text ++ rest) = some (.num (.int n), rest) := by
  have hread := readNumber_text n hrest
  obtain ⟨c, cs, hcons, hc⟩ := exists_text_cons n
  have hquote : c ≠ '"' := ne_of_startsNumber hc rfl
  have hn : c ≠ 'n' := ne_of_startsNumber hc rfl
  have ht : c ≠ 't' := ne_of_startsNumber hc rfl
  have hf : c ≠ 'f' := ne_of_startsNumber hc rfl
  rw [hcons, List.cons_append] at hread ⊢
  simp [readScalar, hquote, hn, ht, hf, hread]

/-- How a text of a value begins: no blank and no closing bracket. -/
theorem exists_written_cons {j : Json} {cs : List Char} (h : Written j cs) :
    ∃ c tail, cs = c :: tail ∧ isBlank c = false ∧ c ≠ ']' := by
  cases h with
  | int n =>
      obtain ⟨c, tail, hcons, hc⟩ := exists_text_cons n
      exact ⟨c, tail, hcons, isBlank_of_startsNumber hc, ne_of_startsNumber hc rfl⟩
  | _ =>
      exact ⟨_, _, rfl, by decide, by decide⟩

/-- What is neither an array nor an object is read by the reader of scalars. -/
theorem readValue_eq_readScalar {c : Char} (hc : isBlank c = false) (harr : c ≠ '[')
    (hobj : c ≠ '\x7b') (fuel depth : Nat) (cs : List Char) :
    readValue (fuel + 1) depth (c :: cs) = readScalar (c :: cs) := by
  simp [readValue, skipBlanks_cons hc, harr, hobj]

/-- An array that is not empty is read item by item, one level deeper. -/
theorem readValue_arr {items : List Json} {cs : List Char} (h : WrittenItems items cs)
    (fuel depth : Nat) (rest : List Char) :
    readValue (fuel + 1) depth ('[' :: cs ++ rest) =
      if depth = 0 then none
      else (readItems fuel (depth - 1) (cs ++ rest)).map fun r => (.arr r.1, r.2) := by
  have hhead : ∃ c tail, skipBlanks (cs ++ rest) = c :: tail ∧ c ≠ ']' := by
    cases h with
    | last hbefore hx hafter | more hbefore hx hitems =>
        obtain ⟨c, tail, rfl, hc, hclose⟩ := exists_written_cons hx
        rw [List.append_assoc, skipBlanks_append hbefore]
        exact ⟨c, _, skipBlanks_cons hc _, hclose⟩
  obtain ⟨c, tail, hskip, hclose⟩ := hhead
  have hitems : readItems fuel (depth - 1) (c :: tail) =
      readItems fuel (depth - 1) (cs ++ rest) :=
    readItems_congr (by rw [← hskip, skipBlanks_skipBlanks]) _ _
  have hopen : skipBlanks ('[' :: (cs ++ rest)) = '[' :: (cs ++ rest) :=
    skipBlanks_cons rfl _
  simp [readValue, hopen, hskip, hclose, hitems]

/-- An object that is not empty is read member by member, one level deeper. -/
theorem readValue_obj {members : List (String × Json)} {cs : List Char}
    (h : WrittenMembers members cs) (fuel depth : Nat) (rest : List Char) :
    readValue (fuel + 1) depth ('\x7b' :: cs ++ rest) =
      if depth = 0 then none
      else (readMembers fuel (depth - 1) (cs ++ rest)).map fun r =>
        (.obj (Entries.ofPairs r.1), r.2) := by
  have hhead : ∃ tail, skipBlanks (cs ++ rest) = '"' :: tail := by
    cases h with
    | last hbefore hbetween hx hafter | more hbefore hbetween hx hmembers =>
        rw [List.append_assoc, skipBlanks_append hbefore]
        exact ⟨_, skipBlanks_cons rfl _⟩
  obtain ⟨tail, hskip⟩ := hhead
  have hmembers : readMembers fuel (depth - 1) ('"' :: tail) =
      readMembers fuel (depth - 1) (cs ++ rest) :=
    readMembers_congr (by rw [← hskip, skipBlanks_skipBlanks]) _ _
  have hopen : skipBlanks ('\x7b' :: (cs ++ rest)) = '\x7b' :: (cs ++ rest) :=
    skipBlanks_cons rfl _
  simp [readValue, hopen, hskip, hmembers]

/-- What the reader of members does once it has a key, a value and what follows them. -/
def readMemberEnd (fuel depth : Nat) (k : String) (r : Json × List Char) :
    Option (List (String × Json) × List Char) :=
  match skipBlanks r.2 with
  | '\x7d' :: rest => some ([(k, r.1)], rest)
  | ',' :: rest => (readMembers fuel depth rest).map fun rs => ((k, r.1) :: rs.1, rs.2)
  | _ => none

theorem readMembers_eq_bind {k : String} {before between : List Char}
    (hbefore : Blanks before) (hbetween : Blanks between)
    (fuel depth : Nat) (cs : List Char) :
    readMembers (fuel + 1) depth
        (before ++ (Quoted.write k ++ ':' :: (between ++ cs))) =
      (readValue fuel depth cs).bind (readMemberEnd fuel depth k) := by
  obtain ⟨inner, htext, hread⟩ := Quoted.read_write k (':' :: (between ++ cs))
  have hquote : skipBlanks ('"' :: inner) = '"' :: inner := skipBlanks_cons rfl _
  have hcolon : skipBlanks (':' :: (between ++ cs)) = ':' :: (between ++ cs) :=
    skipBlanks_cons rfl _
  have hvalue := readValue_congr (skipBlanks_append hbetween cs) fuel depth
  rw [readMembers_congr (skipBlanks_append hbefore _), htext, readMembers, hquote]
  simp only [hread, hcolon, hvalue, String.ofList_toList]
  cases readValue fuel depth cs with
  | none =>
      rfl
  | some r =>
      rfl

/-- A container that is read one level deeper is read if its nodes are less deep. -/
theorem map_deeper {α β : Type} (f : α → β) (a : α) (inner depth : Nat) :
    (if depth = 0 then none
      else (if inner ≤ depth - 1 then some a else none).map f) =
      if inner + 1 ≤ depth then some (f a) else none := by
  cases depth with
  | zero =>
      simp
  | succ depth =>
      by_cases h : inner ≤ depth <;> simp [h]

mutual

/-- A text of a value is read up to its end, unless the value is too deep. -/
theorem readValue_of_written {j : Json} {cs : List Char} (h : Written j cs)
    (hj : WellFormed j) (fuel depth : Nat) (hfuel : 2 * cs.length ≤ fuel)
    {rest : List Char} (hrest : EndsNumber rest) :
    readValue fuel depth (cs ++ rest) =
      if j.depth ≤ depth then some (j, rest) else none := by
  cases fuel with
  | zero =>
      obtain ⟨c, tail, rfl, -⟩ := exists_written_cons h
      simp at hfuel
  | succ fuel =>
      match h with
      | .null =>
          exact readValue_eq_readScalar rfl (by decide) (by decide) _ _ _
      | .yes =>
          exact readValue_eq_readScalar rfl (by decide) (by decide) _ _ _
      | .no =>
          exact readValue_eq_readScalar rfl (by decide) (by decide) _ _ _
      | .int n =>
          have hread := readScalar_int n hrest
          obtain ⟨c, tail, hcons, hc⟩ := exists_text_cons n
          have hblank : isBlank c = false := isBlank_of_startsNumber hc
          have harr : c ≠ '[' := ne_of_startsNumber hc rfl
          have hobj : c ≠ '\x7b' := ne_of_startsNumber hc rfl
          rw [hcons, List.cons_append] at hread ⊢
          rw [readValue_eq_readScalar hblank harr hobj, hread]
          simp [Json.depth]
      | .str s =>
          obtain ⟨inner, htext, hread⟩ := Quoted.read_write s rest
          rw [htext, readValue_eq_readScalar rfl (by decide) (by decide)]
          simp [readScalar, hread, Json.depth]
      | .emptyArr =>
          cases depth <;> simp [readValue, skipBlanks, isBlank, Json.depth, depthItems]
      | .arr hitems =>
          rw [List.length_cons] at hfuel
          have hread := readItems_of_written hitems hj fuel (depth - 1) (by omega) rest
          rw [readValue_arr hitems, hread, map_deeper]
          rfl
      | .emptyObj =>
          cases depth <;> simp [readValue, skipBlanks, isBlank, Json.depth, depthMembers]
      | .obj hmembers =>
          rw [List.length_cons] at hfuel
          have hread := readMembers_of_written hmembers hj.2 fuel (depth - 1) (by omega) rest
          rw [readValue_obj hmembers, hread, map_deeper, Entries.ofPairs_eq_self hj.1]
          rfl

/-- A text of items is read up to its bracket, unless one of the items is too deep. -/
theorem readItems_of_written {items : List Json} {cs : List Char}
    (h : WrittenItems items cs) (hitems : WellFormedItems items)
    (fuel depth : Nat) (hfuel : 2 * cs.length ≤ fuel) (rest : List Char) :
    readItems fuel depth (cs ++ rest) =
      if depthItems items ≤ depth then some (items, rest) else none := by
  cases fuel with
  | zero =>
      cases h <;> simp at hfuel
  | succ fuel =>
      match h with
      | @WrittenItems.last x before cs after hbefore hx hafter =>
          simp only [List.length_append, List.length_cons] at hfuel
          have hend : EndsNumber (after ++ ']' :: rest) := endsNumber_append hafter rfl rest
          have hread := readValue_of_written hx hitems.1 fuel depth (by omega) hend
          have hclose : skipBlanks (after ++ ']' :: rest) = ']' :: rest := by
            rw [skipBlanks_append hafter, skipBlanks_cons rfl]
          simp only [List.append_assoc, List.cons_append, List.nil_append]
          rw [readItems_congr (skipBlanks_append hbefore _), readItems, hread]
          by_cases hdepth : x.depth ≤ depth <;> simp [hdepth, depthItems, hclose]
      | @WrittenItems.more x items before cs tail hbefore hx htail =>
          simp only [List.length_append, List.length_cons] at hfuel
          have hend : EndsNumber (',' :: (tail ++ rest)) := rfl
          have hread := readValue_of_written hx hitems.1 fuel depth (by omega) hend
          have hreads := readItems_of_written htail hitems.2 fuel depth (by omega) rest
          have hcomma : skipBlanks (',' :: (tail ++ rest)) = ',' :: (tail ++ rest) :=
            skipBlanks_cons rfl _
          simp only [List.append_assoc, List.cons_append]
          rw [readItems_congr (skipBlanks_append hbefore _), readItems, hread]
          simp only [depthItems, Nat.max_le]
          by_cases hdepth : x.depth ≤ depth
          · by_cases hdepths : depthItems items ≤ depth <;>
              simp [hdepth, hdepths, hcomma, hreads]
          · simp [hdepth]

/-- A text of members is read up to its brace, unless one of the values is too deep. -/
theorem readMembers_of_written {members : List (String × Json)} {cs : List Char}
    (h : WrittenMembers members cs) (hmembers : WellFormedMembers members)
    (fuel depth : Nat) (hfuel : 2 * cs.length ≤ fuel) (rest : List Char) :
    readMembers fuel depth (cs ++ rest) =
      if depthMembers members ≤ depth then some (members, rest) else none := by
  cases fuel with
  | zero =>
      cases h <;> simp at hfuel
  | succ fuel =>
      match h with
      | @WrittenMembers.last k x before between cs after hbefore hbetween hx hafter =>
          simp only [List.length_append, List.length_cons] at hfuel
          have hend : EndsNumber (after ++ '\x7d' :: rest) := endsNumber_append hafter rfl rest
          have hread := readValue_of_written hx hmembers.1 fuel depth (by omega) hend
          have hclose : skipBlanks (after ++ '\x7d' :: rest) = '\x7d' :: rest := by
            rw [skipBlanks_append hafter, skipBlanks_cons rfl]
          simp only [List.append_assoc, List.cons_append, List.nil_append]
          rw [readMembers_eq_bind hbefore hbetween, hread]
          by_cases hdepth : x.depth ≤ depth <;>
            simp [hdepth, depthMembers, readMemberEnd, hclose]
      | @WrittenMembers.more k x members before between cs tail hbefore hbetween hx htail =>
          simp only [List.length_append, List.length_cons] at hfuel
          have hend : EndsNumber (',' :: (tail ++ rest)) := rfl
          have hread := readValue_of_written hx hmembers.1 fuel depth (by omega) hend
          have hreads := readMembers_of_written htail hmembers.2 fuel depth (by omega) rest
          have hcomma : skipBlanks (',' :: (tail ++ rest)) = ',' :: (tail ++ rest) :=
            skipBlanks_cons rfl _
          simp only [List.append_assoc, List.cons_append]
          rw [readMembers_eq_bind hbefore hbetween, hread]
          simp only [depthMembers, Nat.max_le]
          by_cases hdepth : x.depth ≤ depth
          · by_cases hdepths : depthMembers members ≤ depth <;>
              simp [hdepth, hdepths, readMemberEnd, hcomma, hreads]
          · simp [hdepth]

end

/-- What the reader makes of a text alone. -/
theorem readChars?_of_written {j : Json} {cs : List Char} (h : Written j cs)
    (hj : WellFormed j) :
    readChars? cs = if j.depth ≤ maxDepth then some j else none := by
  have hend : EndsNumber [] := trivial
  have hread := readValue_of_written h hj (2 * cs.length + 2) maxDepth (by omega) hend
  rw [List.append_nil] at hread
  rw [readChars?, hread]
  by_cases hdepth : j.depth ≤ maxDepth <;> simp [hdepth, skipBlanks]

end VnfPayload.Json
