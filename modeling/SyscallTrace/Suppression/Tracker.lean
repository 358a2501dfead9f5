import SyscallTrace.Suppression.Engine

/-!
# Sharing an engine

Several clients share one engine. They put their requests into a mailbox, and the owner of the
engine serves them one after the other, in the order in which they arrived. An update is put into
the mailbox and that is all; a client that sent a query waits for the reply (specification
§5, §15.4).

Once the owner is gone, nothing is accepted any more.

- `Tracker.send`, `Tracker.serve?`: a request goes into the mailbox, the owner serves the oldest.
- `Tracker.ask`, `Tracker.tell`: what a client does.
-/

namespace SyscallTrace

/-- A change of the engine. -/
inductive EngineUpdate where
  | addCommand (command : String)
  | clearCommands
  | suppress (tid : Tid)
  | clearTids
  deriving DecidableEq, Repr

/-- A question to the engine. The verdict on a record may change the engine too. -/
inductive EngineQuery where
  | process (record : Record)
  | isSuppressed (tid : Tid)
  | stats
  deriving DecidableEq, Repr

/-- The answer to a question. -/
inductive EngineReply where
  | verdict (verdict : Verdict)
  | suppressed (answer : Bool)
  | stats (suppressed : UInt64) (tids : Nat)
  deriving DecidableEq, Repr

namespace Engine

/-- Makes a change. -/
def update (e : Engine) : EngineUpdate → Engine
  | .addCommand command => e.addCommand command
  | .clearCommands => e.clearCommands
  | .suppress tid => e.suppress tid
  | .clearTids => e.clearTids

/-- Answers a question. -/
def answer (e : Engine) : EngineQuery → EngineReply × Engine
  | .process record =>
    let (verdict, e) := e.process record
    (.verdict verdict, e)
  | .isSuppressed tid => (.suppressed (e.isSuppressed tid), e)
  | .stats => (.stats e.suppressed e.size, e)

end Engine

/-- What a client wants. -/
inductive EngineRequest where
  | update (update : EngineUpdate)
  | query (query : EngineQuery)
  deriving DecidableEq, Repr

/-- Does what a client wants. Updates have no reply. -/
def Engine.serve (e : Engine) : EngineRequest → Option EngineReply × Engine
  | .update update => (none, e.update update)
  | .query query =>
    let (reply, e) := e.answer query
    (some reply, e)

/-- A request and the client that sent it. -/
structure Letter where
  client : Nat
  request : EngineRequest
  deriving DecidableEq, Repr

/-- An engine, its mailbox, and whether its owner is still there. -/
structure Tracker where
  engine : Engine
  mailbox : List Letter := []
  running : Bool := true

/-- Why a request is not served. -/
inductive TrackerError where
  | stopped
  deriving DecidableEq, Repr

/-- Says that nobody is there. -/
def TrackerError.message : TrackerError → String
  | .stopped => "suppression tracker stopped"

namespace Tracker

/-- A tracker without requests. -/
def ofEngine (engine : Engine) : Tracker := { engine }

/-- Puts a request at the end of the mailbox. -/
def send (t : Tracker) (letter : Letter) : Except TrackerError Tracker :=
  if t.running then .ok { t with mailbox := t.mailbox ++ [letter] } else .error .stopped

/-- Serves the oldest request: who sent it, what the reply is, and the tracker behind it. -/
def serve? (t : Tracker) : Option (Nat × Option EngineReply × Tracker) :=
  match t.mailbox with
  | [] => none
  | letter :: mailbox =>
    let (reply, engine) := t.engine.serve letter.request
    some (letter.client, reply, { t with engine, mailbox })

/-- Serves all requests in an engine, and gives the reply to the last of them. -/
def serveAll (e : Engine) (last : Option EngineReply) : List Letter → Option EngineReply × Engine
  | [] => (last, e)
  | letter :: mailbox =>
    let (reply, e) := e.serve letter.request
    serveAll e reply mailbox

/-- The owner goes away, and takes the mailbox along. -/
def stop (t : Tracker) : Tracker := { t with mailbox := [], running := false }

/-- A client sends an update and goes on. -/
def tell (t : Tracker) (client : Nat) (update : EngineUpdate) : Except TrackerError Tracker :=
  t.send ⟨client, .update update⟩

/-- A client sends a query and waits for the reply, while no other client sends anything. -/
def ask (t : Tracker) (client : Nat) (query : EngineQuery) :
    Except TrackerError (EngineReply × Tracker) := do
  let t ← t.send ⟨client, .query query⟩
  match serveAll t.engine none t.mailbox with
  | (some reply, engine) => .ok (reply, { t with engine, mailbox := [] })
  | (none, _) => .error .stopped

end Tracker

end SyscallTrace
