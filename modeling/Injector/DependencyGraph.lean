import Injector.Key
/-!
The graph of dependencies: its nodes hold keys, and each dependency is an arc between the nodes
of its source and its target. Keys and dependencies are held once, however often they are added.
The distinct items of a list, in their order, rank the items; they are what a node is asked for.
Cycles are found in a directed graph that is given by its edges between numbered nodes.
-/
namespace Injector.Ranking

variable {α : Type}

section Ordered

variable [Ord α]

/-- Ordered items with one more in its place, unless it is there already. -/
def insert (item : α) : List α → List α
  | [] => [item]
  | first :: rest =>
      match compare item first with
      | .lt => item :: first :: rest
      | .eq => first :: rest
      | .gt => first :: insert item rest

/-- The distinct items of a list, in their order. -/
def distinct (items : List α) : List α :=
  items.foldr insert []

/-- The place of an item among ordered items, from zero. -/
def rank (ordered : List α) (item : α) : Nat :=
  ordered.findIdx fun other => compare item other == .eq

def ranks (items : List α) : List Nat :=
  items.map (rank (distinct items))

end Ordered

/-- The number of different items of a list, told apart by equality alone. -/
def countDifferent [BEq α] (items : List α) : Nat :=
  items.eraseDups.length

end Injector.Ranking

namespace Injector.Digraph

/-- The edges whose target is left by some edge again; the edges of a cycle are among them. -/
def prune (edges : List (Nat × Nat)) : List (Nat × Nat) :=
  edges.filter fun edge => edges.any fun next => next.1 == edge.2

/-- The edges from which a walk never has to stop. Each round of pruning that changes something
removes an edge, so as many rounds as there are edges reach the end. -/
def core (edges : List (Nat × Nat)) : List (Nat × Nat) :=
  edges.length.repeat prune edges

/-- Whether some walk along the edges comes back to where it began. -/
def hasCycle (edges : List (Nat × Nat)) : Bool :=
  !(core edges).isEmpty

end Injector.Digraph

namespace Injector

/-- A dependency between numbered nodes. -/
structure Arc where
  source : Nat
  target : Nat
  dependency : Dependency
  deriving DecidableEq

/-- The nodes are numbered in the order in which their keys came; the index has the number of the
node of each key. -/
structure DependencyGraph where
  nodes : List Key
  arcs : List Arc
  index : List (Key × Nat)

namespace DependencyGraph

def empty : DependencyGraph :=
  ⟨[], [], []⟩

/-- The number of the node that the index has for a key, if it has one. -/
def node? (graph : DependencyGraph) (key : Key) : Option Nat :=
  graph.index.lookup key

/-- The number of the node that holds a key, and the graph with that node. -/
def withNode (graph : DependencyGraph) (key : Key) : Nat × DependencyGraph :=
  match graph.node? key with
  | some node => (node, graph)
  | none =>
      let node := graph.nodes.length
      (node, { graph with nodes := graph.nodes ++ [key], index := (key, node) :: graph.index })

def arcsBetween (graph : DependencyGraph) (source target : Nat) : List Arc :=
  graph.arcs.filter fun arc => arc.source == source && arc.target == target

/-- The graph with an arc, which is added unless its nodes are joined by its dependency already. -/
def withArc (graph : DependencyGraph) (arc : Arc) : DependencyGraph :=
  if (graph.arcsBetween arc.source arc.target).any fun other => other.dependency == arc.dependency
  then graph
  else { graph with arcs := graph.arcs ++ [arc] }

/-- The graph with a dependency and with the nodes of its source and its target. -/
def addDependency (graph : DependencyGraph) (dependency : Dependency) : DependencyGraph :=
  let (source, graph) := graph.withNode dependency.source
  let (target, graph) := graph.withNode dependency.target
  graph.withArc ⟨source, target, dependency⟩

def addDependencies (graph : DependencyGraph) (dependencies : List Dependency) :
    DependencyGraph :=
  dependencies.foldl addDependency graph

def contains (graph : DependencyGraph) (key : Key) : Bool :=
  (graph.node? key).isSome

/-- The dependencies of a key, each once, in the order of dependencies. -/
def dependenciesOf (graph : DependencyGraph) (key : Key) : List Dependency :=
  match graph.node? key with
  | none => []
  | some node =>
      Ranking.distinct ((graph.arcs.filter fun arc => arc.source == node).map (·.dependency))

/-- The arcs whose target must be made before their source. -/
def eagerEdges (graph : DependencyGraph) : List (Nat × Nat) :=
  (graph.arcs.filter fun arc => !arc.dependency.lazy).map fun arc => (arc.source, arc.target)

/-- Whether some key would have to be made before itself. -/
def hasEagerCycle (graph : DependencyGraph) : Bool :=
  Digraph.hasCycle graph.eagerEdges

end DependencyGraph

end Injector
