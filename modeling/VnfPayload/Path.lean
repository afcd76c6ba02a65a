import VnfPayload.Node

/-!
# Property paths

A property path such as `extVirtualLinks.0.resourceId` names a node of a document by
pieces between dots.  A piece made only of ASCII digits is a position in a sequence,
every other piece is a key of a mapping.

`Path.parse` accepts the texts whose pieces are all non-empty and whose positions do not
exceed `Path.maxIndex`.  Its fault is that of the leftmost offending piece.
-/

namespace VnfPayload

/-- One step of a path: a key of a mapping or a position in a sequence. -/
inductive Segment where
  | key (name : String)
  | index (position : Nat)
deriving DecidableEq

/-- The kind of container that a step is looked up in. -/
def Segment.container : Segment → ContainerKind
  | .key _ => .mapping
  | .index _ => .sequence

/-- What is wrong with the text of a path. -/
inductive PathFault where
  | empty
  | leadingSeparator
  | trailingSeparator
  | emptySegment
  | indexTooLarge (piece : String)
deriving DecidableEq

namespace Path

/-- The largest position that a path may name. -/
def maxIndex : Nat := 4096

/-- The pieces between dots; a text without a dot is one piece. -/
def pieces : List Char → List (List Char)
  | [] => [[]]
  | c :: cs =>
      if c = '.' then [] :: pieces cs
      else
        match pieces cs with
        | [] => [[c]]
        | p :: ps => (c :: p) :: ps

/-- The text of pieces with dots between them. -/
def join (ps : List (List Char)) : List Char :=
  List.intercalate ['.'] ps

/-- The step that a non-empty piece stands for. -/
def segment (piece : List Char) : Except PathFault Segment :=
  if piece.all Char.isDigit then
    let n := Nat.ofDigitChars 10 piece 0
    if n ≤ maxIndex then .ok (.index n)
    else .error (.indexTooLarge (String.ofList piece))
  else .ok (.key (String.ofList piece))

/-- The fault of an empty piece: `first` says that no piece stands before it, `last`
that none stands after it. -/
def emptyPiece (first last : Bool) : PathFault :=
  if first then .leadingSeparator
  else if last then .trailingSeparator
  else .emptySegment

/-- The steps of pieces, up to the first one that offends; `first` says that none stands before.
-/
def segments (first : Bool) : List (List Char) → Except PathFault (List Segment)
  | [] => .ok []
  | piece :: rest =>
      if piece.isEmpty then .error (emptyPiece first rest.isEmpty)
      else do
        let s ← segment piece
        let ss ← segments false rest
        return s :: ss

/-- The steps of a path. -/
def parse (path : String) : Except PathFault (List Segment) :=
  if path.toList.isEmpty then .error .empty
  else segments true (pieces path.toList)

/-- The part of a path made of its first pieces, as it is written. -/
def take (path : String) (count : Nat) : String :=
  String.ofList (join ((pieces path.toList).take count))

end Path

namespace PathFault

/-- The reason that is given for a fault. -/
def reason : PathFault → String
  | .empty => "path is empty"
  | .leadingSeparator => "leading separator"
  | .trailingSeparator => "trailing separator"
  | .emptySegment => "empty segment"
  | .indexTooLarge piece => s!"index {piece} exceeds limit {Path.maxIndex}"

end PathFault

end VnfPayload
