import SyscallTrace.Config.Components
import SyscallTrace.Pipeline
import SyscallTrace.Record.Describe
import SyscallTrace.Replay.Options
import SyscallTrace.Suppression.Scan
import SyscallTrace.Text.Table

/-!
# Replaying a capture

A capture is one batch of records. `ReplayOptions.run` reads the configuration, builds the
suppression engine, and sends the capture through a pipeline; `Replay.output` is what is shown of
it, a table of the records and a table of the counters (specification §10).
-/

namespace SyscallTrace

/-- Why a capture cannot be replayed. -/
inductive ReplayError where
  | unreadableConfig (path : String) (error : ConfigError)
  | invalidConfig (error : ConfigError)
  | unreadableCapture (path : String) (fault : FileFault)
  deriving DecidableEq, Repr

/-- What was tried, and then what was wrong with it. -/
def ReplayError.chain : ReplayError → List String
  | .unreadableConfig path error => ["loading " ++ path, error.message]
  | .invalidConfig error => ["invalid suppression configuration", error.message]
  | .unreadableCapture path fault => ["reading " ++ path, fault.message]

/-- What was tried and what was wrong, in one line. -/
def ReplayError.message (e : ReplayError) : String := ": ".intercalate e.chain

/-- A replayed capture. -/
structure Replay where
  outcomes : List Outcome
  stats : PipelineStats
  /-- Whether suppressed records are shown too. -/
  showSuppressed : Bool

namespace ReplayOptions

/-- The section of a configuration file that is about suppression. -/
def configSection : String := "suppression"

/-- The start of the suppression engine that the configuration file asks for. -/
def configured (options : ReplayOptions) (files : String → Except FileFault Bytes) :
    Except ReplayError SuppressionConfig :=
  match options.configFile with
  | none => .ok {}
  | some path =>
    match Config.load path (files path) configSection with
    | .error e => .error (.unreadableConfig path e)
    | .ok c => (SuppressionConfig.ofConfig c).mapError .invalidConfig

/-- Replays the capture. The contents of files are given by their paths, and `threads` are those
that are running. -/
def run (options : ReplayOptions) (files : String → Except FileFault Bytes)
    (threads : List ScannedThread) : Except ReplayError Replay := do
  let config ← options.configured files
  let config := { config with commands := config.commands ++ options.commands }
  let engine := ((SuppressionBuilder.ofConfig config).observeAll threads).finalize
  let capture ← (files options.capture).mapError (.unreadableCapture options.capture)
  let (outcomes, pipeline) := (Pipeline.ofEngine engine).ingest capture
  return { outcomes, stats := pipeline.stats, showSuppressed := options.showSuppressed }

end ReplayOptions

namespace Replay

/-- The cells for a record. -/
def row (r : Record) : List String := [r.time.text, r.tid.text, r.event.schema.name, r.describe]

/-- The outcomes that are shown. -/
def shown (r : Replay) : List Outcome :=
  r.outcomes.filter fun o => r.showSuppressed || !o.isSuppressed

/-- The table of the records. -/
def records (r : Replay) : Table where
  heads := ["TIMESTAMP", "TID", "EVENT", "PARAMS"]
  rows := r.shown.map (row ·.record)

/-- The table of the counters. -/
def counters (s : PipelineStats) : Table where
  heads := ["COUNTER", "VALUE"]
  rows :=
    [("passed", s.passed), ("suppressed", s.suppressed), ("truncated", s.truncated),
      ("unknown type", s.unknownType), ("malformed", s.malformed),
      ("dropped bytes", s.droppedBytes)].map fun (name, value) => [name, toString value.toNat]

/-- The lines that are shown. -/
def output (r : Replay) : List String := r.records.draw ++ (counters r.stats).draw

/-- Whether every record of the capture could be decoded. -/
def isClean (r : Replay) : Bool := r.stats.decodeErrors == 0

end Replay

end SyscallTrace
