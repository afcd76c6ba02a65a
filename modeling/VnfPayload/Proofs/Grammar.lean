import VnfPayload.Json.Writer
import VnfPayload.Json.Reader

/-!
# Texts of a value

`Written` is the grammar of the texts that are written for a value.  Words, integers and
quoted text are written in one way; blanks may stand before an item or a key, after a colon
and before a closing bracket.  There is no rule for a number that is no integer.

The compact text and the indented text of a value differ in their blanks alone, so both are
texts in this sense: see `written_compact` and `written_prettyAt`.
-/

namespace VnfPayload.Json

mutual

/-- Every number of the value is an integer. -/
def IntegersOnly : Json → Prop
  | .num (.real _) => False
  | .arr items => IntegersOnlyItems items
  | .obj members => IntegersOnlyMembers members
  | _ => True

/-- Every number of the items is an integer. -/
def IntegersOnlyItems : List Json → Prop
  | [] => True
  | x :: items => IntegersOnly x ∧ IntegersOnlyItems items

/-- Every number of the members' values is an integer. -/
def IntegersOnlyMembers : List (String × Json) → Prop
  | [] => True
  | (_, x) :: members => IntegersOnly x ∧ IntegersOnlyMembers members

end

/-- A text of blanks, which may be empty. -/
def Blanks (gap : List Char) : Prop :=
  ∀ c ∈ gap, isBlank c = true

mutual

/-- The texts of a value, without blanks around them. -/
inductive Written : Json → List Char → Prop
  | null :
      Written .null ['n', 'u', 'l', 'l']
  | yes :
      Written (.bool true) ['t', 'r', 'u', 'e']
  | no :
      Written (.bool false) ['f', 'a', 'l', 's', 'e']
  | int (n : WideInt) :
      Written (.num (.int n)) n.text
  | str (s : String) :
      Written (.str s) (Quoted.write s)
  | emptyArr :
      Written (.arr []) ['[', ']']
  | arr {items : List Json} {cs : List Char}
      (h : WrittenItems items cs) :
      Written (.arr items) ('[' :: cs)
  | emptyObj :
      Written (.obj []) ['\x7b', '\x7d']
  | obj {members : List (String × Json)} {cs : List Char}
      (h : WrittenMembers members cs) :
      Written (.obj members) ('\x7b' :: cs)

/-- The texts of items, of which there is at least one, with the closing bracket. -/
inductive WrittenItems : List Json → List Char → Prop
  | last {x : Json} {before cs after : List Char}
      (hbefore : Blanks before) (hx : Written x cs) (hafter : Blanks after) :
      WrittenItems [x] (before ++ (cs ++ (after ++ [']'])))
  | more {x : Json} {items : List Json} {before cs tail : List Char}
      (hbefore : Blanks before) (hx : Written x cs) (hitems : WrittenItems items tail) :
      WrittenItems (x :: items) (before ++ (cs ++ ',' :: tail))

/-- The texts of members, of which there is at least one, with the closing brace. -/
inductive WrittenMembers : List (String × Json) → List Char → Prop
  | last {k : String} {x : Json} {before between cs after : List Char}
      (hbefore : Blanks before) (hbetween : Blanks between) (hx : Written x cs)
      (hafter : Blanks after) :
      WrittenMembers [(k, x)]
        (before ++ (Quoted.write k ++ ':' :: (between ++ (cs ++ (after ++ ['\x7d'])))))
  | more {k : String} {x : Json} {members : List (String × Json)}
      {before between cs tail : List Char}
      (hbefore : Blanks before) (hbetween : Blanks between) (hx : Written x cs)
      (hmembers : WrittenMembers members tail) :
      WrittenMembers ((k, x) :: members)
        (before ++ (Quoted.write k ++ ':' :: (between ++ (cs ++ ',' :: tail))))

end

theorem blanks_nil : Blanks [] := by
  simp [Blanks]

theorem blanks_space : Blanks [' '] := by
  simp [Blanks, isBlank]

theorem blanks_lineBreak (level : Nat) : Blanks (lineBreak level) := by
  intro c hc
  rcases List.mem_cons.mp hc with rfl | hspace
  · rfl
  · rw [(List.mem_replicate.mp hspace).2]
    rfl

mutual

/-- The compact text is a text of the value. -/
theorem written_compact (j : Json) (hj : IntegersOnly j) :
    Written j (compact j) := by
  match j with
  | .null =>
      exact .null
  | .bool true =>
      exact .yes
  | .bool false =>
      exact .no
  | .num (.int n) =>
      exact .int n
  | .num (.real _) =>
      exact hj.elim
  | .str s =>
      exact .str s
  | .arr [] =>
      exact .emptyArr
  | .arr (x :: items) =>
      exact .arr (writtenItems_compact items hj.2 (written_compact x hj.1))
  | .obj [] =>
      exact .emptyObj
  | .obj ((k, x) :: members) =>
      exact .obj (writtenMembers_compact members hj.2 k (written_compact x hj.1))

theorem writtenItems_compact (items : List Json) (hitems : IntegersOnlyItems items)
    {x : Json} (hx : Written x (compact x)) :
    WrittenItems (x :: items) (compact x ++ compactItems items) := by
  match items with
  | [] =>
      exact .last blanks_nil hx blanks_nil
  | y :: items =>
      exact .more blanks_nil hx
        (writtenItems_compact items hitems.2 (written_compact y hitems.1))

theorem writtenMembers_compact (members : List (String × Json))
    (hmembers : IntegersOnlyMembers members) (k : String)
    {x : Json} (hx : Written x (compact x)) :
    WrittenMembers ((k, x) :: members)
      (Quoted.write k ++ ':' :: (compact x ++ compactMembers members)) := by
  match members with
  | [] =>
      exact .last blanks_nil blanks_nil hx blanks_nil
  | (k', y) :: members =>
      exact .more blanks_nil blanks_nil hx
        (writtenMembers_compact members hmembers.2 k' (written_compact y hmembers.1))

end

mutual

/-- The indented text is a text of the value, at any level. -/
theorem written_prettyAt (level : Nat) (j : Json) (hj : IntegersOnly j) :
    Written j (prettyAt level j) := by
  match j with
  | .null =>
      exact .null
  | .bool true =>
      exact .yes
  | .bool false =>
      exact .no
  | .num (.int n) =>
      exact .int n
  | .num (.real _) =>
      exact hj.elim
  | .str s =>
      exact .str s
  | .arr [] =>
      exact .emptyArr
  | .arr (x :: items) =>
      exact .arr (writtenItems_pretty level items hj.2
        (written_prettyAt (level + 1) x hj.1))
  | .obj [] =>
      exact .emptyObj
  | .obj ((k, x) :: members) =>
      exact .obj (writtenMembers_pretty level members hj.2 k
        (written_prettyAt (level + 1) x hj.1))

theorem writtenItems_pretty (level : Nat) (items : List Json)
    (hitems : IntegersOnlyItems items)
    {x : Json} (hx : Written x (prettyAt (level + 1) x)) :
    WrittenItems (x :: items)
      (lineBreak (level + 1) ++ (prettyAt (level + 1) x ++ prettyItems level items)) := by
  match items with
  | [] =>
      exact .last (blanks_lineBreak _) hx (blanks_lineBreak _)
  | y :: items =>
      exact .more (blanks_lineBreak _) hx
        (writtenItems_pretty level items hitems.2 (written_prettyAt _ y hitems.1))

theorem writtenMembers_pretty (level : Nat) (members : List (String × Json))
    (hmembers : IntegersOnlyMembers members) (k : String)
    {x : Json} (hx : Written x (prettyAt (level + 1) x)) :
    WrittenMembers ((k, x) :: members)
      (lineBreak (level + 1) ++ (Quoted.write k ++ ':' :: ' ' ::
        (prettyAt (level + 1) x ++ prettyMembers level members))) := by
  match members with
  | [] =>
      exact .last (blanks_lineBreak _) blanks_space hx (blanks_lineBreak _)
  | (k', y) :: members =>
      exact .more (blanks_lineBreak _) blanks_space hx
        (writtenMembers_pretty level members hmembers.2 k'
          (written_prettyAt _ y hmembers.1))

end

end VnfPayload.Json
