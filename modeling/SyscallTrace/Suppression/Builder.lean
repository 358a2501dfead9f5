import SyscallTrace.Suppression.Engine

/-!
# Building an engine

An engine starts among threads that already run. While these are scanned, records arrive, and a
thread may be seen long before the one that started it. So a `SuppressionBuilder` keeps the lineage
of all it observes beside the engine; at the end everything below a suppressed thread is suppressed
too, and the lineage is dropped (specification §15.4).

- `SuppressionBuilder.observe`: a thread found by the scan.
- `SuppressionBuilder.observeRecord`: a record that arrives meanwhile.
- `SuppressionBuilder.finalize`: the engine.
-/

namespace SyscallTrace

/-- What is denylisted and suppressed from the start. -/
structure SuppressionConfig where
  commands : List String := []
  tids : List Tid := []
  deriving DecidableEq, Repr

/-- An engine, and the lineage of what was observed. -/
structure SuppressionBuilder where
  engine : Engine := .empty
  tree : LineageTree := .empty

namespace SuppressionBuilder

/-- Denylists a command. -/
def addCommand (b : SuppressionBuilder) (command : String) : SuppressionBuilder :=
  { b with engine := b.engine.addCommand command }

/-- Suppresses a thread, unless it is the kernel. -/
def suppress (b : SuppressionBuilder) (tid : Tid) : SuppressionBuilder :=
  { b with engine := b.engine.suppress tid }

/-- Suppresses a thread, and tells whether that can be done. -/
def trySuppress (b : SuppressionBuilder) (tid : Tid) : Bool × SuppressionBuilder :=
  (!tid.isKernel, b.suppress tid)

/-- A builder that has observed nothing. -/
def ofConfig (config : SuppressionConfig) : SuppressionBuilder :=
  config.tids.foldl suppress (config.commands.foldl addCommand {})

/-- Notes a thread found by the scan, and tells whether its command made it suppressed. -/
def observe (b : SuppressionBuilder) (tid parent : Tid) (command : String) :
    Bool × SuppressionBuilder :=
  let b := { b with tree := b.tree.insert tid parent command }
  if b.engine.isDenylisted command then b.trySuppress tid else (false, b)

/-- The lineage with what a record tells. -/
def recordLineage (tree : LineageTree) (record : Record) : LineageTree :=
  if record.event.isLineage then
    match Ancestry.ofRecord? record with
    | some ancestry => tree.insert record.tid ancestry.parent ancestry.command
    | none => tree
  else tree

/-- Decides on a record, and notes the lineage that it tells. -/
def observeRecord (b : SuppressionBuilder) (record : Record) : Verdict × SuppressionBuilder :=
  let (verdict, engine) := b.engine.process record
  (verdict, { engine, tree := recordLineage b.tree record })

/-- The engine in which everything below a suppressed thread is suppressed. -/
def finalize (b : SuppressionBuilder) : Engine :=
  (b.tree.descendants b.engine.tids.toList).toList.foldl Engine.suppress b.engine

end SuppressionBuilder

end SyscallTrace
