import VnfPayload.Entries
import VnfPayload.Number

/-!
# JSON values

Objects keep the order of their members.  `Json.WellFormed` says that no object of a
value repeats a key, which holds of every value that is read or built here.
`Json.eqv` compares values without regard to the order of members.
-/

namespace VnfPayload

/-- A JSON value; the members of an object are kept in their order, repeated keys included. -/
inductive Json where
  | null
  | bool (b : Bool)
  | num (n : Number)
  | str (s : String)
  | arr (items : List Json)
  | obj (members : List (String × Json))

namespace Json

mutual

/-- Decides equality of values, order of members included. -/
def decEq : (a b : Json) → Decidable (a = b)
  | .null, .null => .isTrue rfl
  | .bool a, .bool b => decidable_of_iff (a = b) (by simp)
  | .num a, .num b => decidable_of_iff (a = b) (by simp)
  | .str a, .str b => decidable_of_iff (a = b) (by simp)
  | .arr a, .arr b =>
      match decEqItems a b with
      | .isTrue h => .isTrue (by rw [h])
      | .isFalse h => .isFalse (by simpa using h)
  | .obj a, .obj b =>
      match decEqMembers a b with
      | .isTrue h => .isTrue (by rw [h])
      | .isFalse h => .isFalse (by simpa using h)
  | .null, .bool _ | .null, .num _ | .null, .str _ | .null, .arr _ | .null, .obj _
  | .bool _, .null | .bool _, .num _ | .bool _, .str _ | .bool _, .arr _ | .bool _, .obj _
  | .num _, .null | .num _, .bool _ | .num _, .str _ | .num _, .arr _ | .num _, .obj _
  | .str _, .null | .str _, .bool _ | .str _, .num _ | .str _, .arr _ | .str _, .obj _
  | .arr _, .null | .arr _, .bool _ | .arr _, .num _ | .arr _, .str _ | .arr _, .obj _
  | .obj _, .null | .obj _, .bool _ | .obj _, .num _ | .obj _, .str _ | .obj _, .arr _ =>
      .isFalse (by simp)

/-- Decides equality of the items of two arrays. -/
def decEqItems : (a b : List Json) → Decidable (a = b)
  | [], [] => .isTrue rfl
  | [], _ :: _ => .isFalse (by simp)
  | _ :: _, [] => .isFalse (by simp)
  | x :: xs, y :: ys =>
      match decEq x y, decEqItems xs ys with
      | .isTrue h, .isTrue h' => .isTrue (by rw [h, h'])
      | .isFalse h, _ => .isFalse (by simp [h])
      | _, .isFalse h => .isFalse (by simp [h])

/-- Decides equality of the members of two objects. -/
def decEqMembers : (a b : List (String × Json)) → Decidable (a = b)
  | [], [] => .isTrue rfl
  | [], _ :: _ => .isFalse (by simp)
  | _ :: _, [] => .isFalse (by simp)
  | (j, x) :: xs, (k, y) :: ys =>
      match decEq x y, decEqMembers xs ys with
      | .isTrue h, .isTrue h' =>
          if hk : j = k then .isTrue (by rw [h, h', hk]) else .isFalse (by simp [hk])
      | .isFalse h, _ => .isFalse (by simp [h])
      | _, .isFalse h => .isFalse (by simp [h])

end

instance : DecidableEq Json := decEq

mutual

/-- Equality of values: members of an object may come in any order. -/
def eqv : Json → Json → Bool
  | .null, .null => true
  | .bool a, .bool b => a == b
  | .num a, .num b => a.eqv b
  | .str a, .str b => a == b
  | .arr xs, .arr ys => eqvItems xs ys
  | .obj es, .obj fs => es.length == fs.length && membersIn es fs
  | _, _ => false

/-- Equality of items, each with the one at its position. -/
def eqvItems : List Json → List Json → Bool
  | [], [] => true
  | x :: xs, y :: ys => eqv x y && eqvItems xs ys
  | _, _ => false

/-- Whether each member has an equal one of the same key among the others. -/
def membersIn : List (String × Json) → List (String × Json) → Bool
  | [], _ => true
  | (k, x) :: es, fs =>
      (match Entries.get? fs k with
        | some y => eqv x y
        | none => false) && membersIn es fs

end

mutual

/-- No object of the value repeats a key. -/
def WellFormed : Json → Prop
  | .arr xs => WellFormedItems xs
  | .obj es => (Entries.keys es).Nodup ∧ WellFormedMembers es
  | _ => True

/-- No object of the items repeats a key. -/
def WellFormedItems : List Json → Prop
  | [] => True
  | x :: xs => WellFormed x ∧ WellFormedItems xs

/-- No object of the members' values repeats a key. -/
def WellFormedMembers : List (String × Json) → Prop
  | [] => True
  | (_, x) :: es => WellFormed x ∧ WellFormedMembers es

end

mutual

/-- How deep arrays and objects are nested; a scalar has depth zero. -/
def depth : Json → Nat
  | .arr xs => depthItems xs + 1
  | .obj es => depthMembers es + 1
  | _ => 0

/-- How deep the deepest of the items is nested. -/
def depthItems : List Json → Nat
  | [] => 0
  | x :: xs => max (depth x) (depthItems xs)

/-- How deep the deepest of the members' values is nested. -/
def depthMembers : List (String × Json) → Nat
  | [] => 0
  | (_, x) :: es => max (depth x) (depthMembers es)

end

/-- The member of an object; other values have none. -/
def member? : Json → String → Option Json
  | .obj es, key => Entries.get? es key
  | _, _ => none

end Json

end VnfPayload
