import VnfPayload.Yaml.Lexer.Scan

/-!
# YAML nodes

`Node.ofTokens?` builds the node of a document from its tokens.  A text holds one document;
what follows it may be anything that is not the beginning of another one.

An alias stands for the node that its anchor was last put on.  A node that is still being
built cannot be referred to.
-/

namespace VnfPayload.Yaml

/-- What a tag says about a node, as far as it matters. -/
inductive TagKind where
  /-- The scalar is text. -/
  | text
  /-- The node is null. -/
  | null
  /-- Nothing that matters here. -/
  | other
deriving DecidableEq

/-- A node of a document, with aliases replaced by what they stand for. -/
inductive Node where
  | scalar (plain : Bool) (tag : Option TagKind) (text : String)
  | sequence (items : List Node)
  | mapping (pairs : List (Node × Node))

namespace Node

/-- A scalar that is not written at all. -/
def absent : Node :=
  .scalar true none ""

/-- The tokens that are left, the nodes that anchors stand on, and the declared handles. -/
structure Input where
  tokens : List Token
  /-- The nodes of the anchors, latest first; a node that is being built is none. -/
  anchors : List (String × Option Node)
  handles : List (String × String)

/-- A step of the building, which may fail. -/
abbrev Build := StateT Input Option

/-- The next token; after the last one there is nothing but invalid tokens. -/
def peek : Build Token := do
  return (← get).tokens.head?.getD .invalid

/-- Passes a token. -/
def advance : Build Unit :=
  modify fun s => { s with tokens := s.tokens.drop 1 }

/-- Whether one of the tokens is next. -/
def nextIsOneOf (ts : List Token) : Build Bool := do
  return ts.contains (← peek)

/-- Passes the token if it is next; says whether it was. -/
def accept (t : Token) : Build Bool := do
  if (← peek) = t then
    advance
    return true
  else return false

/-- The full name of a tag: the handle replaced by what it was declared to stand for. -/
def tagName (handles : List (String × String)) (handle suffix : String) : Option String :=
  match handles.find? fun h => h.1 = handle with
  | some h => some (h.2 ++ suffix)
  | none =>
      if handle = "!!" then some ("tag:yaml.org,2002:" ++ suffix)
      else if 2 ≤ handle.length && handle.startsWith "!" && handle.endsWith "!" then none
      else some (handle ++ suffix)

/-- The kind of a tag by its full name. -/
def tagKind (name : String) : TagKind :=
  if name = "tag:yaml.org,2002:str" || name = "!" then .text
  else if name = "tag:yaml.org,2002:null" then .null
  else .other

/-- The kind of a tag, whose handle has to be declared. -/
def buildTag (handle suffix : String) : Build TagKind := do
  match tagName (← get).handles handle suffix with
  | some name => return tagKind name
  | none => failure

/-- Puts an anchor, if there is one, on a node. -/
def setAnchor (name : Option String) (node : Option Node) : Build Unit :=
  match name with
  | some name => modify fun s => { s with anchors := (name, node) :: s.anchors }
  | none => pure ()

/-- The anchor and the tag of a node, in either order. -/
def properties : Build (Option String × Option TagKind) := do
  match ← peek with
  | .anchor name =>
      advance
      setAnchor (some name) none
      match ← peek with
      | .tag handle suffix =>
          advance
          return (some name, some (← buildTag handle suffix))
      | _ => return (some name, none)
  | .tag handle suffix =>
      advance
      let kind ← buildTag handle suffix
      match ← peek with
      | .anchor name =>
          advance
          setAnchor (some name) none
          return (some name, some kind)
      | _ => return (none, some kind)
  | _ => return (none, none)

mutual

/-- Builds a node.  Block collections are allowed only outside flow collections; a block
sequence that is a value need not be indented. -/
def build : (steps : Nat) → (inBlock mayHang : Bool) → Build Node
  | 0, _, _ => failure
  | steps + 1, inBlock, mayHang => do
      match ← peek with
      | .alias name =>
          advance
          match (← get).anchors.find? fun a => a.1 = name with
          | some (_, some node) => return node
          | _ => failure
      | _ =>
          let (anchor, tag) ← properties
          let node ← match ← peek with
            | .scalar plain text => do
                advance
                pure (.scalar plain tag text)
            | .flowSequenceStart => do
                advance
                pure (.sequence (← flowItems steps true))
            | .flowMappingStart => do
                advance
                pure (.mapping (← flowPairs steps true))
            | .blockEntry =>
                if mayHang then do pure (.sequence (← hangingItems steps)) else
                if anchor.isSome || tag.isSome then pure (.scalar true tag "") else failure
            | .blockSequenceStart =>
                if inBlock then do
                  advance
                  pure (.sequence (← blockItems steps))
                else if anchor.isSome || tag.isSome then pure (.scalar true tag "") else failure
            | .blockMappingStart =>
                if inBlock then do
                  advance
                  pure (.mapping (← blockPairs steps))
                else if anchor.isSome || tag.isSome then pure (.scalar true tag "") else failure
            | .invalid => failure
            | _ => if anchor.isSome || tag.isSome then pure (.scalar true tag "") else failure
          setAnchor anchor (some node)
          return node

/-- The items of a block sequence, and its end. -/
def blockItems : (steps : Nat) → Build (List Node)
  | 0 => failure
  | steps + 1 => do
      if ← accept .blockEnd then return []
      else if ← accept .blockEntry then
        let item ←
          if ← nextIsOneOf [.blockEntry, .blockEnd] then pure absent
          else build steps true false
        return item :: (← blockItems steps)
      else failure

/-- The items of a block sequence that is not indented. -/
def hangingItems : (steps : Nat) → Build (List Node)
  | 0 => failure
  | steps + 1 => do
      if ← accept .blockEntry then
        let item ←
          if ← nextIsOneOf [.blockEntry, .key, .value, .blockEnd] then pure absent
          else build steps true false
        return item :: (← hangingItems steps)
      else return []

/-- The pairs of a block mapping, and its end. -/
def blockPairs : (steps : Nat) → Build (List (Node × Node))
  | 0 => failure
  | steps + 1 => do
      if ← accept .blockEnd then return []
      else
        let key ←
          if ← accept .key then
            if ← nextIsOneOf [.key, .value, .blockEnd] then pure absent
            else build steps true true
          else if ← nextIsOneOf [.value] then pure absent
          else failure
        let value ←
          if ← accept .value then
            if ← nextIsOneOf [.key, .value, .blockEnd] then pure absent
            else build steps true true
          else pure absent
        return (key, value) :: (← blockPairs steps)

/-- The pairs of a flow mapping, and its end. -/
def flowPairs : (steps : Nat) → (first : Bool) → Build (List (Node × Node))
  | 0, _ => failure
  | steps + 1, first => do
      if ← accept .flowMappingEnd then return []
      else
        let go ← if first then pure true else accept .flowEntry
        if !go then failure
        else if ← accept .flowMappingEnd then return []
        else
          let keyed ← accept .key
          let key ←
            if keyed then
              if ← nextIsOneOf [.value, .flowEntry, .flowMappingEnd] then pure absent
              else build steps false false
            else if ← nextIsOneOf [.value] then pure absent
            else build steps false false
          let value ←
            if ← accept .value then
              if ← nextIsOneOf [.flowEntry, .flowMappingEnd] then pure absent
              else build steps false false
            else pure absent
          return (key, value) :: (← flowPairs steps false)

/-- The items of a flow sequence, and its end.  A pair among them is a mapping. -/
def flowItems : (steps : Nat) → (first : Bool) → Build (List Node)
  | 0, _ => failure
  | steps + 1, first => do
      if ← accept .flowSequenceEnd then return []
      else
        let go ← if first then pure true else accept .flowEntry
        if !go then failure
        else if ← accept .flowSequenceEnd then return []
        else
          let item ←
            if ← accept .key then do
              let key ←
                if ← nextIsOneOf [.value, .flowEntry, .flowSequenceEnd] then pure absent
                else build steps false false
              let value ←
                if ← accept .value then
                  if ← nextIsOneOf [.flowEntry, .flowSequenceEnd] then pure absent
                  else build steps false false
                else pure absent
              pure (.mapping [(key, value)])
            else build steps false false
          return item :: (← flowItems steps false)

end

/-- Passes the directives before a document.  Neither the version nor the meaning of a
handle may be given twice. -/
def directives : (steps : Nat) → (version : Bool) → List (String × String) → Build Unit
  | 0, _, _ => failure
  | steps + 1, version, handles => do
      match ← peek with
      | .versionDirective =>
          if version then failure
          else
            advance
            directives steps true handles
      | .tagDirective handle start =>
          if handles.any fun h => h.1 = handle then failure
          else
            advance
            directives steps version ((handle, start) :: handles)
      | _ => modify fun s => { s with handles := handles }

/-- Whether a token can only stand outside a document. -/
def isOutside : Token → Bool
  | .versionDirective => true
  | .tagDirective .. => true
  | .documentStart => true
  | .documentEnd => true
  | .streamEnd => true
  | _ => false

/-- Passes the marks that end a document. -/
def passEnds : (steps : Nat) → Build Unit
  | 0 => failure
  | steps + 1 => do
      if ← accept .documentEnd then passEnds steps else pure ()

/-- Whether the next token begins a document by a mark or a directive. -/
def beginsExplicitly : Build Bool := do
  match ← peek with
  | .versionDirective => return true
  | .tagDirective .. => return true
  | .documentStart => return true
  | _ => return false

/-- Passes directives and the mark that begins a document. -/
def beginExplicitly (steps : Nat) : Build Unit := do
  directives steps false []
  if ← accept .documentStart then pure () else failure

/-- The node of the first document; a text without a document is an absent scalar. -/
def firstDocument (steps : Nat) : Build Node := do
  passEnds steps
  if (← peek) = .streamEnd then return absent
  else if ← beginsExplicitly then
    beginExplicitly steps
    if isOutside (← peek) then return absent else build steps true false
  else build steps true false

/-- Ends the document; says whether a mark ended it.  A directive can follow only a
mark. -/
def endDocument : Build Bool := do
  match ← peek with
  | .invalid => failure
  | .documentEnd =>
      advance
      return true
  | .versionDirective => failure
  | .tagDirective .. => failure
  | _ => return false

/-- Whether a node can begin here. -/
def beginsNode : Build Bool := do
  match ← peek with
  | .alias name =>
      return (← get).anchors.any fun a => a.1 = name
  | _ =>
      let (anchor, tag) ← properties
      match ← peek with
      | .scalar .. => return true
      | .flowSequenceStart => return true
      | .flowMappingStart => return true
      | .blockSequenceStart => return true
      | .blockMappingStart => return true
      | .invalid => return false
      | _ => return anchor.isSome || tag.isSome

/-- Whether another document begins; `marked` says whether a mark ended the one before. -/
def beginsAnother (steps : Nat) (marked : Bool) : Build Bool := do
  passEnds steps
  if (← peek) = .streamEnd then return false
  else if ← beginsExplicitly then
    beginExplicitly steps
    if isOutside (← peek) then return true else beginsNode
  else if marked then beginsNode
  else return false

/-- The node of the document, after which no other one may begin. -/
def document (steps : Nat) : Build Node := do
  let node ← firstDocument steps
  let marked ← endDocument
  let s ← get
  match (beginsAnother steps marked).run s with
  | some (true, _) => failure
  | _ => return node

/-- The node of a text of one document.  Each step passes a token or goes one level
deeper. -/
def ofTokens? (ts : List Token) : Option Node :=
  ((document (4 * ts.length + 4)).run ⟨ts, [], []⟩).map Prod.fst

end Node

end VnfPayload.Yaml
