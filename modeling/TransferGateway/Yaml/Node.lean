import TransferGateway.Yaml.Token

/-!
# Nodes of YAML

The nesting of a document.  A document that breaks off holds a broken node at the place where it
does, so that what stands before can still be read.
-/

namespace TransferGateway.Yaml

/-- What may be written in front of a node. -/
structure NodeProperties where
  /-- Where the node begins, its properties included. -/
  mark : Mark
  /-- The number of the anchor. -/
  anchor : Option Nat := none
  tag : Option Tag := none
deriving DecidableEq, Repr, Inhabited

/-- A scalar. -/
structure Scalar where
  style : ScalarStyle
  text : String
deriving DecidableEq, Repr, Inhabited

/-- A node of a document. -/
inductive Node where
  | scalar (properties : NodeProperties) (scalar : Scalar)
  | sequence (properties : NodeProperties) (items : List Node)
  | mapping (properties : NodeProperties) (entries : List (Node × Node))
  | alias (mark : Mark) (anchor : Nat)
  /-- The document cannot be read from here on. -/
  | broken (cause : SyntaxError)
  /-- There is no document at all. -/
  | absent (mark : Mark)
deriving Repr, Inhabited

namespace Node

/-- An empty plain scalar. -/
def empty (properties : NodeProperties) : Node := .scalar properties ⟨.plain, ""⟩

mutual

/-- The first place in a node where the document breaks off. -/
def failure? : Node → Option SyntaxError
  | .broken cause => some cause
  | .sequence _ items => failureIn? items
  | .mapping _ entries => failureAmong? entries
  | _ => none

/-- The first place in a list of nodes where the document breaks off. -/
def failureIn? : List Node → Option SyntaxError
  | [] => none
  | node :: rest =>
    match failure? node with
    | some e => some e
    | none => failureIn? rest

/-- The first place in a list of entries where the document breaks off. -/
def failureAmong? : List (Node × Node) → Option SyntaxError
  | [] => none
  | (key, value) :: rest =>
    match failure? key with
    | some e => some e
    | none =>
      match failure? value with
      | some e => some e
      | none => failureAmong? rest

end

/-- A node under the number of its anchor, if it has one. -/
def anchorEntry (properties : NodeProperties) (node : Node) : List (Nat × Node) :=
  match properties.anchor with
  | some n => [(n, node)]
  | none => []

mutual

/-- The anchored nodes in a node, in the order in which they begin. -/
def anchored : Node → List (Nat × Node)
  | .scalar properties s => anchorEntry properties (.scalar properties s)
  | .sequence properties items =>
    anchorEntry properties (.sequence properties items) ++ anchoredIn items
  | .mapping properties entries =>
    anchorEntry properties (.mapping properties entries) ++ anchoredAmong entries
  | _ => []

/-- The anchored nodes in a list of nodes. -/
def anchoredIn : List Node → List (Nat × Node)
  | [] => []
  | node :: rest => anchored node ++ anchoredIn rest

/-- The anchored nodes in a list of entries. -/
def anchoredAmong : List (Node × Node) → List (Nat × Node)
  | [] => []
  | (key, value) :: rest => anchored key ++ anchored value ++ anchoredAmong rest

end

mutual

/-- The size of a node, and whether the document breaks off in it.  A scalar or an alias counts
one; a collection counts one for its start and one for its end, if it has an end. -/
def extent : Node → Nat × Bool
  | .broken _ => (0, true)
  | .sequence _ items =>
    let (size, cut) := extentIn items
    (if cut then size + 1 else size + 2, cut)
  | .mapping _ entries =>
    let (size, cut) := extentAmong entries
    (if cut then size + 1 else size + 2, cut)
  | _ => (1, false)

/-- The size of the nodes in a list up to a break. -/
def extentIn : List Node → Nat × Bool
  | [] => (0, false)
  | node :: rest =>
    let (size, cut) := extent node
    if cut then (size, true)
    else
      let (others, cut) := extentIn rest
      (size + others, cut)

/-- The size of the nodes in a list of entries up to a break. -/
def extentAmong : List (Node × Node) → Nat × Bool
  | [] => (0, false)
  | (key, value) :: rest =>
    let (keySize, cut) := extent key
    if cut then (keySize, true)
    else
      let (valueSize, cut) := extent value
      if cut then (keySize + valueSize, true)
      else
        let (others, cut) := extentAmong rest
        (keySize + valueSize + others, cut)

end

end Node

/-- The first document of a text. -/
structure Document where
  root : Node
  /-- What went wrong after the root. -/
  ending : Option SyntaxError := none
deriving Repr, Inhabited

/-- The size of what could be read of a document. -/
def Document.size (d : Document) : Nat := d.root.extent.1

/-- What aliases stand for: the nodes of the anchor numbers, the one that began last first. -/
def Document.targets (d : Document) : List (Nat × Node) := d.root.anchored.reverse

end TransferGateway.Yaml
