import Std.Data.ExtTreeMap
import Std.Data.ExtTreeSet
import SyscallTrace.Thread

/-!
# Lineage

Who started whom, as far as it was observed. The observations may come in any order, repeat each
other and contradict each other, so the relation need not be a tree in the strict sense: it can have
cycles, and a thread can have several parents (specification §3, §4.7).

- `LineageTree.insert`: one observation.
- `LineageTree.descendants`: the threads below some roots, found without visiting one twice.
-/

namespace SyscallTrace

/-- A set of threads. -/
abbrev TidSet := Std.ExtTreeSet Tid

/-- What is known of a thread. -/
structure LineageNode where
  /-- Empty for a thread that was only seen as a parent. -/
  command : String := ""
  /-- The threads it started, in the order in which they were observed. -/
  children : List Tid := []
  deriving DecidableEq, Repr, Inhabited

/-- The observed threads. -/
structure LineageTree where
  nodes : Std.ExtTreeMap Tid LineageNode := ∅

namespace LineageTree

/-- No observation. -/
def empty : LineageTree := {}

/-- What is known of a thread, nothing if it was not observed. -/
def node (tree : LineageTree) (tid : Tid) : LineageNode := (tree.nodes[tid]?).getD {}

/-- Notes the command of a thread. -/
def setCommand (tree : LineageTree) (tid : Tid) (command : String) : LineageTree :=
  { nodes := tree.nodes.insert tid { tree.node tid with command } }

/-- Notes a child, once. -/
def addChild (tree : LineageTree) (parent child : Tid) : LineageTree :=
  let node := tree.node parent
  if node.children.contains child then { nodes := tree.nodes.insert parent node }
  else { nodes := tree.nodes.insert parent { node with children := node.children ++ [child] } }

/-- Notes a thread, its parent and its command. The kernel is no thread and no parent, and no
thread is its own parent. -/
def insert (tree : LineageTree) (tid parent : Tid) (command : String) : LineageTree :=
  if tid.isKernel then tree
  else
    let tree := tree.setCommand tid command
    if parent.isKernel || parent == tid then tree else tree.addChild parent tid

/-- Whether a thread was observed. -/
def contains (tree : LineageTree) (tid : Tid) : Bool := tree.nodes.contains tid

/-- The command of a thread that was observed. -/
def command? (tree : LineageTree) (tid : Tid) : Option String :=
  (tree.nodes[tid]?).map (·.command)

/-- The threads that a thread started. -/
def children (tree : LineageTree) (tid : Tid) : List Tid := (tree.node tid).children

/-- The number of threads that were observed. -/
def size (tree : LineageTree) : Nat := tree.nodes.size

/-- Whether nothing was observed. -/
def isEmpty (tree : LineageTree) : Bool := tree.nodes.isEmpty

/-! ## Descendants -/

/-- Every thread that was started by another one, each once. -/
def started (tree : LineageTree) : List Tid :=
  (tree.nodes.toList.flatMap (·.2.children)).eraseDups

/-- Collects the threads of `pending` and those below them, as long as they are among the
`remaining` ones. A thread that was found does not remain, so that a cycle comes to an end. -/
def gather (tree : LineageTree) (remaining pending : List Tid) : List Tid :=
  match _found : pending.find? remaining.contains with
  | none => []
  | some tid => tid :: tree.gather (remaining.erase tid) (tree.children tid ++ pending)
termination_by remaining.length
decreasing_by
  have hmem : tid ∈ remaining := List.contains_iff_mem.mp (List.find?_some _found)
  have hlen := List.length_erase_of_mem hmem
  have hpos := List.length_pos_of_mem hmem
  omega

/-- The threads below some roots. A root is among them only if it is below a root itself. -/
def descendants (tree : LineageTree) (roots : List Tid) : TidSet :=
  Std.ExtTreeSet.ofList (tree.gather tree.started (roots.flatMap tree.children))

end LineageTree

end SyscallTrace
