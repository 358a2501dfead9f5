import SyscallTrace.Record.Reader
import SyscallTrace.Suppression.Engine

/-!
# The consumer

A `Pipeline` takes batches of records. It decodes them one after the other, asks the suppression
engine for a verdict on each, and keeps count of everything that happened, bytes that were thrown
away included (specification §15.5).

- `Pipeline.ingest`: one batch.
-/

namespace SyscallTrace

/-- What happened to the records so far. -/
structure PipelineStats where
  passed : UInt64 := 0
  suppressed : UInt64 := 0
  /-- Records that went on after the end of their batch. -/
  truncated : UInt64 := 0
  /-- Records of an unknown event. -/
  unknownType : UInt64 := 0
  /-- Records with lengths that do not agree. -/
  malformed : UInt64 := 0
  /-- Bytes of records that could not be decoded, and of all that was behind a lost boundary. -/
  droppedBytes : UInt64 := 0
  deriving DecidableEq, Repr, Inhabited

namespace PipelineStats

/-- The number of records that could not be decoded. -/
def decodeErrors (s : PipelineStats) : UInt64 := s.truncated + s.unknownType + s.malformed

/-- Counts a record that could not be decoded. -/
def countError (s : PipelineStats) : DecodeError → PipelineStats
  | .truncatedHeader _ | .truncatedRecord _ _ => { s with truncated := s.truncated + 1 }
  | .unknownEvent _ => { s with unknownType := s.unknownType + 1 }
  | .tooManyParams _ | .lengthMismatch _ _ | .paramOutOfBounds _ _ _ _ _ =>
    { s with malformed := s.malformed + 1 }

/-- Counts a verdict. -/
def countVerdict (s : PipelineStats) : Verdict → PipelineStats
  | .pass => { s with passed := s.passed + 1 }
  | .suppress => { s with suppressed := s.suppressed + 1 }

/-- Counts bytes that were thrown away. -/
def drop (s : PipelineStats) (size : Nat) : PipelineStats :=
  { s with droppedBytes := s.droppedBytes + UInt64.ofNat size }

end PipelineStats

/-- A record, and what became of it. -/
structure Outcome where
  record : Record
  verdict : Verdict
  deriving DecidableEq, Repr

/-- Whether the record was not passed on. -/
def Outcome.isSuppressed (o : Outcome) : Bool := o.verdict == .suppress

/-- An engine, and what happened so far. -/
structure Pipeline where
  engine : Engine
  stats : PipelineStats := {}

namespace Pipeline

/-- A pipeline that has seen nothing. -/
def ofEngine (engine : Engine) : Pipeline := { engine }

/-- Takes what is left of a batch. A record that cannot be decoded is thrown away; once the
boundary is lost, so is the rest. -/
def ingestFrom (p : Pipeline) (reader : Reader) : List Outcome × Pipeline :=
  match _h : reader.next with
  | (none, _) => ([], p)
  | (some (.error e), rest) =>
    let stats := p.stats.countError e
    if rest.stopped then ([], { p with stats := stats.drop rest.remaining })
    else ingestFrom { p with stats := stats.drop (reader.remaining - rest.remaining) } rest
  | (some (.ok record), rest) =>
    let (verdict, engine) := p.engine.process record
    let (outcomes, p) := ingestFrom { engine, stats := p.stats.countVerdict verdict } rest
    ({ record, verdict } :: outcomes, p)
termination_by reader.measure
decreasing_by all_goals exact Reader.measure_next_lt _h

/-- Takes a batch of records, and tells what became of each that could be decoded. -/
def ingest (p : Pipeline) (batch : Bytes) : List Outcome × Pipeline :=
  p.ingestFrom (Reader.ofBytes batch)

end Pipeline

end SyscallTrace
