import SizeSweep.Yaml.Event

/-!
YAML documents as trees.  A tree grows event by event; an alias stays in the tree and is looked up
among the nodes of the document by the place where the node under its anchor begins.  The tree of a
malformed text is cut where the events break off.
-/

namespace SizeSweep.Yaml

/-- A tree of scalars, sequences and mappings. -/
inductive Node where
  | scalar (text : String) (style : ScalarStyle) (tag : Option Bytes)
  | sequence (items : List Node) (tag : Option Bytes)
  | mapping (entries : List (Node × Node)) (tag : Option Bytes)
  /-- The node that begins with an event of the document. -/
  | reference (position : Nat)
  /-- What cannot be read for a fault of the text. -/
  | cut (fault : Fault)

/-- The node that stands where nothing is written. -/
def Node.nothing : Node := .scalar "" .plain none

/-! ### Growing trees -/

/-- A sequence or mapping whose end has not been met. -/
structure Opened where
  position : Nat
  isMapping : Bool
  tag : Option Bytes
  /-- Its parts so far, the last one first: items, or keys and values in turn. -/
  parts : List Node := []

/-- The keys and values of a list in which they take turns. -/
def pairs : List Node → List (Node × Node)
  | key :: value :: rest => (key, value) :: pairs rest
  | _ => []

/-- The node of a collection that ends. -/
def Opened.node (opened : Opened) : Node :=
  if opened.isMapping then .mapping (pairs opened.parts.reverse) opened.tag
  else .sequence opened.parts.reverse opened.tag

/-- What is known of a tree in the middle of its events. -/
structure Growth where
  position : Nat := 0
  opened : List Opened := []
  root : Option Node := none
  nodes : List (Nat × Node) := []

namespace Growth

/-- Puts a node where the next one belongs. -/
def add (node : Node) (g : Growth) : Growth :=
  match g.opened with
  | [] => { g with root := some node }
  | inner :: outer => { g with opened := { inner with parts := node :: inner.parts } :: outer }

/-- Puts a node that begins with a given event where the next one belongs. -/
def complete (position : Nat) (node : Node) (g : Growth) : Growth :=
  { g with nodes := (position, node) :: g.nodes }.add node

def close (g : Growth) : Growth :=
  match g.opened with
  | [] => g
  | inner :: outer => { g with opened := outer }.complete inner.position inner.node

/-- Takes an event in.  Where the nodes under anchors begin is given by their numbers. -/
def step (beginnings : List (Nat × Nat)) (g : Growth) (event : Event) : Growth :=
  let here := g.position
  let g := { g with position := here + 1 }
  match event with
  | .scalar text style tag _ => g.complete here (.scalar text style tag)
  | .openSequence tag _ => { g with opened := ⟨here, false, tag, []⟩ :: g.opened }
  | .openMapping tag _ => { g with opened := ⟨here, true, tag, []⟩ :: g.opened }
  | .close => g.close
  | .reference anchor => g.add (.reference ((beginnings.lookup anchor).getD here))

/-- Cuts the tree here: every open collection ends with what cannot be read, which for a mapping
may be a value or a whole entry. -/
def breakOff (fault : Fault) (g : Growth) : Growth :=
  if g.opened.isEmpty then if g.root.isSome then g else g.add (.cut fault)
  else g.opened.foldl (fun g _ => ((g.add (.cut fault)).add (.cut fault)).close) g

end Growth

/-! ### Documents -/

structure Document where
  root : Option Node
  nodes : List (Nat × Node)
  /-- What is wrong with the text, if anything is. -/
  fault : Option Fault

namespace Document

/-- Where the nodes under anchors begin, by the numbers of the anchors.  The last of several nodes
with one number counts. -/
def beginnings (events : List Event) : List (Nat × Nat) :=
  (events.zipIdx.filterMap fun (event, position) => event.anchor?.map (·, position)).reverse

def ofText (text : String) : Document :=
  let (events, fault) := events text
  let grown := events.foldl (Growth.step (beginnings events)) {}
  let grown := match fault with
    | none => grown
    | some fault => grown.breakOff fault
  { root := grown.root, nodes := grown.nodes, fault }

/-- The node itself, or the one that an alias stands for. -/
def deref (document : Document) : Node → Node
  | .reference position => (document.nodes.lookup position).getD Node.nothing
  | node => node

end Document

end SizeSweep.Yaml
