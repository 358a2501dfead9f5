import SyscallTrace.Pipeline
import SyscallTrace.Proofs.Record.Framing

/-!
# Batches

The reader of a batch is forgotten when the batch is done; the engine and the counters are kept. So
a batch may be cut in two wherever a framed chunk ends: what was behind the cut is read as before,
by an engine that the chunks before the cut have left in the same state (specification §15.5).

- `Pipeline.take`: what one framed chunk leads to.
- `Pipeline.ingest_framed`, `Pipeline.ingest_lost`: a batch that starts with a framed chunk, and one
  that does not.
- `Pipeline.ingest_flatten_append`: **where a batch ends between records does not matter**.
-/

namespace SyscallTrace

namespace Pipeline

/-- What one framed chunk leads to: a verdict if it decodes, else a loss of all its bytes. -/
def take (p : Pipeline) (chunk : Bytes) : Option Outcome × Pipeline :=
  match Record.decode chunk with
  | .error e => (none, { p with stats := (p.stats.countError e).drop chunk.length })
  | .ok record =>
    let (verdict, engine) := p.engine.process record
    (some { record, verdict }, { engine, stats := p.stats.countVerdict verdict })

theorem take_of_error (p : Pipeline) {chunk : Bytes} {e : DecodeError}
    (h : Record.decode chunk = .error e) :
    p.take chunk = (none, { p with stats := (p.stats.countError e).drop chunk.length }) := by
  rw [take, h]

theorem take_of_ok (p : Pipeline) {chunk : Bytes} {record : Record}
    (h : Record.decode chunk = .ok record) :
    p.take chunk = (some { record, verdict := (p.engine.process record).1 },
      { engine := (p.engine.process record).2
        stats := p.stats.countVerdict (p.engine.process record).1 }) := by
  rw [take, h]

/-- One turn of the loop. -/
theorem ingestFrom_eq (p : Pipeline) (reader : Reader) :
    p.ingestFrom reader =
      match reader.next with
      | (none, _) => ([], p)
      | (some (.error e), rest) =>
        if rest.stopped then ([], { p with stats := (p.stats.countError e).drop rest.remaining })
        else
          ingestFrom
            { p with
              stats := (p.stats.countError e).drop (reader.remaining - rest.remaining) } rest
      | (some (.ok record), rest) =>
        let (verdict, engine) := p.engine.process record
        let (outcomes, q) := ingestFrom { engine, stats := p.stats.countVerdict verdict } rest
        ({ record, verdict } :: outcomes, q) := by
  rw [ingestFrom]
  split
  · rename_i hnext
    rw [hnext]
  · rename_i hnext
    rw [hnext]
  · rename_i hnext
    rw [hnext]

/-! ## One batch -/

/-- Nothing happens in an empty batch. -/
theorem ingest_nil (p : Pipeline) : p.ingest [] = ([], p) := by
  rw [ingest, ingestFrom_eq, Reader.next_nil]

/-- **A batch that starts with a framed chunk** is the chunk and another batch. -/
theorem ingest_framed (p : Pipeline) {chunk : Bytes} (h : Record.Framed chunk) (rest : Bytes) :
    p.ingest (chunk ++ rest) =
      ((p.take chunk).1.toList ++ ((p.take chunk).2.ingest rest).1,
        ((p.take chunk).2.ingest rest).2) := by
  have hnext := Reader.next_framed h rest
  rw [ingest]
  cases hdecode : Record.decode chunk with
  | error e =>
    have hskipped : (Reader.ofBytes (chunk ++ rest)).remaining - (Reader.ofBytes rest).remaining =
        chunk.length := by
      show (chunk ++ rest).length - rest.length = chunk.length
      rw [List.length_append, Nat.add_sub_cancel]
    rw [hdecode] at hnext
    rw [ingestFrom_eq, hnext, take_of_error p hdecode]
    dsimp only
    rw [hskipped]
    rfl
  | ok record =>
    rw [hdecode] at hnext
    rw [ingestFrom_eq, hnext, take_of_ok p hdecode]
    rfl

/-- **A batch without a boundary** is lost, with all its bytes. -/
theorem ingest_lost (p : Pipeline) {batch : Bytes} (hne : batch ≠ [])
    (h : (Reader.ofBytes batch).boundary? = none) :
    ∃ e, p.ingest batch =
      ([], { p with stats := (p.stats.countError e).drop batch.length }) := by
  obtain ⟨e, -, -, hnext⟩ := Reader.next_lost hne h
  refine ⟨e, ?_⟩
  rw [ingest, ingestFrom_eq, hnext]
  rfl

/-! ## Two batches -/

/-- **Where a batch ends between records does not matter.** Framed chunks, decodable or not, and the
bytes behind them lead to the same outcomes in the same order, the same counters and the same
engine, whether they come in one batch or in two. -/
theorem ingest_flatten_append (p : Pipeline) {chunks : List Bytes}
    (h : ∀ chunk ∈ chunks, Record.Framed chunk) (rest : Bytes) :
    let first := p.ingest chunks.flatten
    let second := first.2.ingest rest
    p.ingest (chunks.flatten ++ rest) = (first.1 ++ second.1, second.2) := by
  induction chunks generalizing p with
  | nil =>
    rw [List.flatten_nil, ingest_nil]
    rfl
  | cons chunk chunks ih =>
    rw [List.forall_mem_cons] at h
    have hrest := ih (p.take chunk).2 h.2
    dsimp only at hrest ⊢
    rw [List.flatten_cons, List.append_assoc, ingest_framed p h.1, ingest_framed p h.1, hrest,
      List.append_assoc]

/-- A record of an unknown event, and the start of a thread by a suppressed one. What the new thread
does is hidden behind the cut as it is in front of it. -/
theorem ingest_connect_behind_clone :
    let unknown : Header := { time := ⟨1⟩, tid := ⟨7⟩, length := 26, tag := 9, count := 0 }
    let clone : Header := { time := ⟨2⟩, tid := ⟨9⟩, length := 62, tag := 223, count := 14 }
    let connect : Header := { time := ⟨3⟩, tid := ⟨9⟩, length := 26, tag := 22, count := 0 }
    let parts : List Bytes := [[], [], [], [], [], [5, 0, 0, 0, 0, 0, 0, 0], [], [], [], [], [], [],
      [], []]
    let chunks := [unknown.toBytes, Record.layout clone .cloneExit parts]
    let p := ofEngine (Engine.empty.suppress ⟨5⟩)
    let first := p.ingest chunks.flatten
    let second := first.2.ingest connect.toBytes
    (∀ chunk ∈ chunks, Record.Framed chunk) ∧
      p.ingest (chunks.flatten ++ connect.toBytes) = (first.1 ++ second.1, second.2) ∧
      second.1.map Outcome.isSuppressed = [true] := by
  intro unknown clone connect parts chunks p first second
  have hframed : ∀ chunk ∈ chunks, Record.Framed chunk := by decide
  have hfirst : first.2 = ((p.take unknown.toBytes).2.take
      (Record.layout clone .cloneExit parts)).2 := by
    have hcut : chunks.flatten = unknown.toBytes ++
        (Record.layout clone .cloneExit parts ++ []) := rfl
    show (p.ingest chunks.flatten).2 = _
    rw [hcut, ingest_framed p (hframed _ (.head _)),
      ingest_framed _ (hframed _ (.tail _ (.head _))), ingest_nil]
  have hsecond : second.1 = (first.2.take connect.toBytes).1.toList := by
    have hconnect : Record.Framed connect.toBytes := by decide
    show (first.2.ingest connect.toBytes).1 = _
    rw [← List.append_nil connect.toBytes, ingest_framed first.2 hconnect, ingest_nil,
      List.append_nil, List.append_nil]
  refine ⟨hframed, ingest_flatten_append p hframed _, ?_⟩
  rw [hsecond, hfirst]
  decide +kernel

end Pipeline

end SyscallTrace
