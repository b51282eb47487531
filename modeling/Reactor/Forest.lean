import Reactor.Failure
import Std.Data.HashMap

namespace Reactor

abbrev NodeId := Nat

structure Forest where
  nodes : Array Descriptor
  byKey : Std.HashMap DescriptorKey NodeId
  aggregators : Array NodeId
  /-- For each module entry the aggregator that declared it last. -/
  declared : Std.HashMap DescriptorKey NodeId

inductive Registration
  | aggregator (id : NodeId)
  | leaf (id : NodeId)
  deriving DecidableEq, Repr

structure Lineage where
  owner : Option NodeId
  chain : List NodeId
  deriving DecidableEq, Repr

/-- Builds that extend the framework directly name this parent, which is nobody's own. -/
def frameworkParent : ArtifactKey := ⟨"org.springframework.boot", "spring-boot-starter-parent"⟩

namespace Descriptor

variable (d : Descriptor)

def descriptorKey : DescriptorKey := d.path.descriptorKey

def moduleKeys : List DescriptorKey := d.modules.map (moduleDescriptorKey d.directory)

def ownParent? : Option ArtifactKey :=
  (d.parentCoordinate?.map Coordinate.key).filter (· ≠ frameworkParent)

end Descriptor

namespace Forest

def empty : Forest := ⟨#[], ∅, #[], ∅⟩

variable (f : Forest)

def size : Nat := f.nodes.size

def idOf? (path : Path) : Option NodeId := f.byKey[path.descriptorKey]?

/-- A descriptor with a known key changes nothing and gets the number of the one known. -/
def register (d : Descriptor) : Forest × NodeId :=
  match f.byKey[d.descriptorKey]? with
  | some id => (f, id)
  | none =>
    let id := f.nodes.size
    ({ nodes := f.nodes.push d
       byKey := f.byKey.insert d.descriptorKey id
       aggregators := if d.isAggregator then f.aggregators.push id else f.aggregators
       declared := d.moduleKeys.foldl (fun m k ↦ m.insert k id) f.declared }, id)

def registration (id : NodeId) : Registration :=
  if f.nodes[id]?.any Descriptor.isAggregator then .aggregator id else .leaf id

def declaringAggregator? (path : Path) : Option NodeId := f.declared[path.descriptorKey]?

def nodeWith? (key : ArtifactKey) (id : NodeId) : Option (NodeId × Descriptor) :=
  (f.nodes[id]?.filter (·.key == key)).map (id, ·)

/-- The first descriptor of an artifact: aggregators come before all others. -/
def find? (key : ArtifactKey) : Option (NodeId × Descriptor) :=
  (f.aggregators.toList.findSome? (f.nodeWith? key)).or
    ((List.range f.size).findSome? fun id ↦ (f.nodeWith? key id).filter (!·.2.isAggregator))

/-- The parents from `parent` on. Every step leads to an artifact not visited before, so no chain
is longer than the forest. -/
def parentsFrom (start : Descriptor) :
    Nat → List ArtifactKey → Option ArtifactKey → Except Failure (List NodeId)
  | _, _, none => .ok []
  | remaining, visited, some parent =>
    match f.find? parent with
    | none => .ok []
    | some (id, node) =>
      match remaining with
      | 0 => .error (.cyclic start.path node.key)
      | remaining + 1 =>
        if node.key ∈ visited then .error (.cyclic start.path node.key)
        else (parentsFrom start remaining (node.key :: visited) node.ownParent?).map (id :: ·)

def parentChain (d : Descriptor) : Except Failure (List NodeId) :=
  f.parentsFrom d f.size [d.key] d.ownParent?

/-- Whether a module entry leads to the leaf, or to a descriptor of the same artifact. -/
def declaresLeaf (aggregator leaf : Descriptor) : Bool :=
  aggregator.moduleKeys.any fun key ↦
    key == leaf.descriptorKey
      || ((f.byKey[key]?.bind (f.nodes[·]?)).any (·.key == leaf.key))

/-- Whether the walk from a descriptor to its declaring aggregator, and on to that one's, meets
`aggregator`. The walk is determined by where it stands, so as many steps as there are nodes
suffice. -/
def isDeclaredBelow (aggregator : NodeId) : Nat → Path → Bool
  | 0, _ => false
  | steps + 1, path =>
    match f.declaringAggregator? path with
    | none => false
    | some id =>
      id == aggregator
        || match f.nodes[id]? with
          | some node => isDeclaredBelow aggregator steps node.path
          | none => false

def isDescendant (leaf : Descriptor) (aggregator : NodeId) : Bool :=
  f.nodes[aggregator]?.any (f.declaresLeaf · leaf)
    || f.isDeclaredBelow aggregator f.size leaf.path

def owns (leaf : Descriptor) (id : NodeId) : Bool :=
  f.nodes[id]?.any Descriptor.isAggregator && f.isDescendant leaf id

def lineage (leaf : Descriptor) : Except Failure Lineage :=
  (f.parentChain leaf).map fun chain ↦ ⟨chain.find? (f.owns leaf), chain⟩

/-- The descriptor of a coordinate, unless both have a version and the two are known to differ. -/
def load (c : Coordinate) : Option Descriptor :=
  (f.find? c.key).bind fun (_, d) ↦
    match c.version, d.coordinate.version with
    | some wanted, some known => if wanted ≠ known && !hasPlaceholder known then none else some d
    | _, _ => some d

end Forest

end Reactor
