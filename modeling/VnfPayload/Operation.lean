/-!
# Lifecycle operations

The lifecycle operations of a virtual network function, each known on the wire by the
type of its request message.
-/

namespace VnfPayload

/-- The lifecycle operations that a message can ask for. -/
inductive Operation where
  | create
  | instantiate
  | heal
  | scale
  | changeCurrentVnfPkg
  | changeExtVnfConnectivity
  | changeVnfFlavour
deriving DecidableEq

namespace Operation

/-- The operations in their order. -/
def all : List Operation :=
  [.create, .instantiate, .heal, .scale, .changeCurrentVnfPkg, .changeExtVnfConnectivity,
    .changeVnfFlavour]

/-- The type of the request message of an operation. -/
def messageType : Operation → String
  | .create => "CreateVnfRequest"
  | .instantiate => "InstantiateVnfRequest"
  | .heal => "HealVnfRequest"
  | .scale => "ScaleVnfRequest"
  | .changeCurrentVnfPkg => "ChangeCurrentVnfPkgRequest"
  | .changeExtVnfConnectivity => "ChangeExtVnfConnectivityRequest"
  | .changeVnfFlavour => "ChangeVnfFlavourRequest"

/-- The place of an operation among the others, by which registries are sorted. -/
def rank : Operation → Nat
  | .create => 0
  | .instantiate => 1
  | .heal => 2
  | .scale => 3
  | .changeCurrentVnfPkg => 4
  | .changeExtVnfConnectivity => 5
  | .changeVnfFlavour => 6

/-- The text with every ASCII capital letter made small. -/
def foldCase (s : String) : List Char :=
  s.toList.map Char.toLower

/-- The operation whose message type is the text, ASCII letters in either case. -/
def ofName? (name : String) : Option Operation :=
  all.find? fun op => foldCase op.messageType = foldCase name

theorem rank_injective {a b : Operation} (h : a.rank = b.rank) : a = b := by
  cases a <;> cases b <;> simp_all [rank]

end Operation

end VnfPayload
