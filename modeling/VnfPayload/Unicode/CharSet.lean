/-!
# Sets of characters

A set of characters is a list of ranges of code points, ascending and apart from each
other.
-/

namespace VnfPayload.Unicode

/-- Ranges of code points, ascending and apart. -/
structure CharSet where
  ranges : List (Nat × Nat)
deriving DecidableEq

namespace CharSet

/-- The largest code point. -/
def last : Nat := 0x10FFFF

/-- The set without characters. -/
def empty : CharSet := ⟨[]⟩

/-- The set of all code points. -/
def all : CharSet := ⟨[(0, last)]⟩

/-- The code points from the first up to the last one. -/
def ofRange (first last : Nat) : CharSet := ⟨[(first, last)]⟩

/-- The set of one character. -/
def ofChar (c : Char) : CharSet := ofRange c.toNat c.toNat

/-- Whether a code point is in the set. -/
def containsCode (s : CharSet) (n : Nat) : Bool :=
  s.ranges.any fun r => r.1 ≤ n && n ≤ r.2

/-- Whether a character is in the set. -/
def contains (s : CharSet) (c : Char) : Bool :=
  s.containsCode c.toNat

/-- Joins ascending ranges that touch, after a first range. -/
def joinFrom (a b : Nat) : List (Nat × Nat) → List (Nat × Nat)
  | [] => [(a, b)]
  | (c, d) :: rest =>
      if c ≤ b + 1 then joinFrom a (max b d) rest else (a, b) :: joinFrom c d rest

/-- Joins ascending ranges that touch. -/
def join : List (Nat × Nat) → List (Nat × Nat)
  | [] => []
  | (a, b) :: rest => joinFrom a b rest

/-- What is in one of the sets or in both. -/
def union (s t : CharSet) : CharSet :=
  ⟨join (List.merge s.ranges t.ranges fun r q => r.1 ≤ q.1)⟩

/-- The set of ascending ranges, which may touch. -/
def ofRanges (ranges : List (Nat × Nat)) : CharSet :=
  ⟨join ranges⟩

/-- The gaps between ranges, from a code point on. -/
def gapsFrom (n : Nat) : List (Nat × Nat) → List (Nat × Nat)
  | [] => if n ≤ last then [(n, last)] else []
  | (a, b) :: rest => if n < a then (n, a - 1) :: gapsFrom (b + 1) rest else gapsFrom (b + 1) rest

/-- What is not in the set. -/
def complement (s : CharSet) : CharSet :=
  ⟨gapsFrom 0 s.ranges⟩

/-- What is in both sets. -/
def inter (s t : CharSet) : CharSet :=
  (s.complement.union t.complement).complement

/-- What is in the first set only. -/
def diff (s t : CharSet) : CharSet :=
  s.inter t.complement

/-- What is in one of the sets only. -/
def symmDiff (s t : CharSet) : CharSet :=
  (s.diff t).union (t.diff s)

end CharSet

/-! ## Runs -/

/-- Reads runs from labels and decimal lengths; `label` is kept in reverse. -/
def readRunsFrom (label : List Char) (length : Nat) : List Char → List (String × Nat)
  | [] => [(String.ofList label.reverse, length)]
  | c :: cs =>
      if c.isDigit then readRunsFrom label (10 * length + (c.toNat - '0'.toNat)) cs
      else if length = 0 then readRunsFrom (c :: label) 0 cs
      else (String.ofList label.reverse, length) :: readRunsFrom [c] 0 cs

/-- The runs that a text lists, each as a label and a length. -/
def readRuns (text : String) : List (String × Nat) :=
  readRunsFrom [] 0 text.toList

/-- The ranges of the runs with an accepted label, from a code point on. -/
def rangesOfRuns (accepts : String → Bool) (n : Nat) :
    List (String × Nat) → List (Nat × Nat)
  | [] => []
  | (label, length) :: rest =>
      if accepts label then (n, n + length - 1) :: rangesOfRuns accepts (n + length) rest
      else rangesOfRuns accepts (n + length) rest

/-- The characters of the runs with an accepted label. -/
def ofRuns (runs : List (String × Nat)) (accepts : String → Bool) : CharSet :=
  CharSet.ofRanges (rangesOfRuns accepts 0 runs)

end VnfPayload.Unicode
