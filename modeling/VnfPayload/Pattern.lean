import VnfPayload.Unicode.Property
import VnfPayload.Unicode.CaseFold

/-!
# Patterns

A pattern is a regular expression over characters, with assertions about the place where it
matches.  `Pattern.ends` computes the positions at which matches end from those at which
they may begin, so its cost does not grow with the number of ways to match.

`Pattern.isIn` says whether a pattern matches anywhere in a text.
-/

namespace VnfPayload

open Unicode (CharSet)

/-- A condition on the place where a pattern matches. -/
inductive Assertion where
  | textStart
  | textEnd
  | lineStart
  | lineEnd
  /-- The start of a line that may end with a carriage return. -/
  | lineStartCr
  /-- The end of a line that may end with a carriage return. -/
  | lineEndCr
  | wordBoundary
  | noWordBoundary
  | wordStart
  | wordEnd
  /-- No character of a word stands before. -/
  | wordStartHalf
  /-- No character of a word stands after. -/
  | wordEndHalf
deriving DecidableEq

/-- A regular expression over characters. -/
inductive Pattern where
  /-- Matches where it begins. -/
  | empty
  /-- Matches one of the characters. -/
  | chars (set : CharSet)
  /-- Matches where the condition holds; words are made of the given characters. -/
  | assertion (a : Assertion) (word : CharSet)
  | seq (p q : Pattern)
  | alt (p q : Pattern)
  /-- Matches at least `min` times in a row, and at most `max` times if that is given. -/
  | repeated (p : Pattern) (min : Nat) (max : Option Nat)
deriving DecidableEq

namespace Assertion

/-- Whether the condition holds between two characters; there is none before the text and
after it. -/
def holds (a : Assertion) (word : CharSet) (before after : Option Char) : Bool :=
  let wordBefore := before.any word.contains
  let wordAfter := after.any word.contains
  match a with
  | .textStart => before.isNone
  | .textEnd => after.isNone
  | .lineStart => before.isNone || before = some '\n'
  | .lineEnd => after.isNone || after = some '\n'
  | .lineStartCr =>
      before.isNone || before = some '\n' || (before = some '\r' && after ≠ some '\n')
  | .lineEndCr =>
      after.isNone || after = some '\r' || (after = some '\n' && before ≠ some '\r')
  | .wordBoundary => wordBefore != wordAfter
  | .noWordBoundary => wordBefore == wordAfter
  | .wordStart => !wordBefore && wordAfter
  | .wordEnd => wordBefore && !wordAfter
  | .wordStartHalf => !wordBefore
  | .wordEndHalf => !wordAfter

end Assertion

namespace Pattern

/-- The size of the pattern with its repetitions written out; a set counts by its ranges. -/
def size : Pattern → Nat
  | .empty => 1
  | .chars s => max 1 s.ranges.length
  | .assertion .. => 1
  | .seq p q => p.size + q.size
  | .alt p q => p.size + q.size + 1
  | .repeated p _ (some max) => max * (p.size + 1)
  | .repeated p min none => (min + 1) * (p.size + 1)

/-- Positions in ascending order. -/
abbrev Positions := List Nat

/-- The positions of either list, again in ascending order. -/
def unite (ps qs : Positions) : Positions :=
  (List.merge ps (qs.filter fun q => !ps.contains q) fun p q => p ≤ q)

/-- Applies a step so many times. -/
def iterate (f : Positions → Positions) : (times : Nat) → Positions → Positions
  | 0, ps => ps
  | times + 1, ps => iterate f times (f ps)

/-- Adds what up to so many steps lead to from the newest positions, until nothing is
new. -/
def reach (f : Positions → Positions) : (times : Nat) → (all newest : Positions) → Positions
  | 0, all, _ => all
  | times + 1, all, newest =>
      let next := (f newest).filter fun p => !all.contains p
      if next.isEmpty then all else reach f times (unite all next) next

/-- The character before a position, if there is one. -/
def before (text : Array Char) (i : Nat) : Option Char :=
  if i = 0 then none else text[i - 1]?

/-- Where matches end that begin at one of the positions.  A match never ends before it
begins, so repetitions beyond the number of positions add nothing: each of them stays where
it is. -/
def ends (text : Array Char) : Pattern → Positions → Positions
  | .empty, ps => ps
  | .chars set, ps =>
      ps.filterMap fun i => if text[i]?.any set.contains then some (i + 1) else none
  | .assertion a word, ps =>
      ps.filter fun i => a.holds word (before text i) text[i]?
  | .seq p q, ps => ends text q (ends text p ps)
  | .alt p q, ps => unite (ends text p ps) (ends text q ps)
  | .repeated p min max, ps =>
      let start := iterate (ends text p) (Nat.min min (text.size + 1)) ps
      let more := match max with
        | some m => m - min
        | none => text.size + 1
      reach (ends text p) more start start

/-- Whether the pattern matches somewhere in the text. -/
def isIn (p : Pattern) (text : String) : Bool :=
  let cs := text.toList.toArray
  !(p.ends cs (List.range (cs.size + 1))).isEmpty

end Pattern

end VnfPayload
