import SyscallTrace.Suppression.Tracker

/-!
# A shared engine acts like an engine of one's own

Clients that share an engine do not see it. They send letters, which are on their way for a while,
pile up in the mailbox of the owner, and are served at last. In between anything can happen: a
client goes on sending while it waits for a reply, and letters of different clients overtake each
other. All that is taken for granted is that no letter is lost, and that those of one client arrive
in the order in which it sent them (specification §5, §15.4).

Whatever the interleaving, there is an order of all requests in which an engine that nobody shares
would have returned the same replies. Each client finds its own requests in that order as it sent
them, each of them once, and the order only grows: what was served before stays in front of what is
sent later.

- `Engine.Returns`, `Engine.Sequential`: calls on an engine that nobody shares.
- `Exchange.Step`, `Exchange.Run`: what can happen between clients and the owner.
- `Exchange.Explained`: an order of calls that explains all that the clients were told.
- `Exchange.Explained.step`, `Exchange.Explained.run`: one more step has an explanation, and so has
  every run.
- `Exchange.exists_settled`: no letter waits forever.
- `Exchange.linearizable`: **sharing an engine is linearizable**.
- `Exchange.run_tell`, `Exchange.run_ask`: clients that take turns are a special case.
-/

namespace SyscallTrace

/-- A request that was served: who had sent it, and what the client was told. -/
structure Served where
  letter : Letter
  reply : Option EngineReply
  deriving DecidableEq, Repr

/-- The letters of one client. -/
def lettersOf (client : Nat) (letters : List Letter) : List Letter :=
  letters.filter (·.client == client)

/-! ## An engine that nobody shares -/

namespace Engine

/-- What a call on an engine returns, and the engine behind it. Changes return nothing. -/
inductive Returns : Engine → EngineRequest → Option EngineReply → Engine → Prop
  | addCommand (e : Engine) (command : String) :
    Returns e (.update (.addCommand command)) none (e.addCommand command)
  | clearCommands (e : Engine) : Returns e (.update .clearCommands) none e.clearCommands
  | suppress (e : Engine) (tid : Tid) : Returns e (.update (.suppress tid)) none (e.suppress tid)
  | clearTids (e : Engine) : Returns e (.update .clearTids) none e.clearTids
  | process (e : Engine) (record : Record) :
    Returns e (.query (.process record)) (some (.verdict (e.process record).1)) (e.process record).2
  | isSuppressed (e : Engine) (tid : Tid) :
    Returns e (.query (.isSuppressed tid)) (some (.suppressed (e.isSuppressed tid))) e
  | stats (e : Engine) : Returns e (.query .stats) (some (.stats e.suppressed e.size)) e

/-- Calls one after the other, each with what it returns. -/
inductive Sequential : Engine → List Served → Engine → Prop
  | nil (e : Engine) : Sequential e [] e
  | cons {e e' e'' : Engine} {s : Served} {order : List Served}
    (hcall : e.Returns s.letter.request s.reply e') (hrest : Sequential e' order e'') :
    Sequential e (s :: order) e''

/-- The owner of a shared engine makes the call that the client wanted. -/
theorem returns_serve (e : Engine) (request : EngineRequest) :
    e.Returns request (e.serve request).1 (e.serve request).2 := by
  cases request with
  | update change =>
    cases change with
    | addCommand command => exact .addCommand e command
    | clearCommands => exact .clearCommands e
    | suppress tid => exact .suppress e tid
    | clearTids => exact .clearTids e
  | query question =>
    cases question with
    | process record => exact .process e record
    | isSuppressed tid => exact .isSuppressed e tid
    | stats => exact .stats e

theorem sequential_append_iff {e e'' : Engine} {order more : List Served} :
    e.Sequential (order ++ more) e'' ↔ ∃ e', e.Sequential order e' ∧ e'.Sequential more e'' := by
  induction order generalizing e with
  | nil =>
    constructor
    · intro h
      exact ⟨e, .nil e, h⟩
    · rintro ⟨e', hnil, h⟩
      cases hnil
      exact h
  | cons s order ih =>
    constructor
    · intro h
      cases h with
      | cons hcall hrest =>
        obtain ⟨e', horder, hmore⟩ := ih.mp hrest
        exact ⟨e', .cons hcall horder, hmore⟩
    · rintro ⟨e', horder, hmore⟩
      cases horder with
      | cons hcall hrest => exact .cons hcall (ih.mpr ⟨e', hrest, hmore⟩)

end Engine

/-! ## Clients and the owner -/

namespace Tracker

theorem send_eq_ok_iff {t t' : Tracker} {letter : Letter} :
    t.send letter = .ok t' ↔
      t.running = true ∧ { t with mailbox := t.mailbox ++ [letter] } = t' := by
  unfold send
  split
  · rename_i hrunning
    simp only [Except.ok.injEq, hrunning, true_and]
  · rename_i hstopped
    simp only [reduceCtorEq, hstopped, Bool.false_eq_true, false_and]

theorem serve?_eq_some_iff {t t' : Tracker} {client : Nat} {reply : Option EngineReply} :
    t.serve? = some (client, reply, t') ↔
      ∃ letter mailbox, t.mailbox = letter :: mailbox ∧ letter.client = client ∧
        (t.engine.serve letter.request).1 = reply ∧
        { t with engine := (t.engine.serve letter.request).2, mailbox } = t' := by
  unfold serve?
  constructor
  · intro h
    split at h
    · cases h
    · rename_i letter mailbox hmailbox
      cases h
      exact ⟨letter, mailbox, hmailbox, rfl, rfl, rfl⟩
  · rintro ⟨letter, mailbox, hmailbox, rfl, rfl, rfl⟩
    rw [hmailbox]

end Tracker

/-- A tracker, the letters on their way to it in the order in which they were sent, and what its
owner has told the clients, the latest last. -/
structure Exchange where
  tracker : Tracker
  inFlight : List Letter := []
  replies : List (Nat × Option EngineReply) := []

namespace Exchange

/-- An exchange in which nobody has sent anything. -/
def start (e : Engine) : Exchange := { tracker := .ofEngine e }

/-- What one client was told, the latest last. -/
def repliesTo (x : Exchange) (client : Nat) : List (Option EngineReply) :=
  (x.replies.filter (·.1 == client)).map (·.2)

/-- Nothing is on its way, and nothing waits to be served. -/
def Settled (x : Exchange) : Prop := x.inFlight = [] ∧ x.tracker.mailbox = []

/-- What can happen, and the letters that a client sends when it does. -/
inductive Step : Exchange → List Letter → Exchange → Prop
  /-- A client sends a letter, whether it waits for a reply or not. -/
  | send (x : Exchange) (letter : Letter) :
    Step x [letter] { x with inFlight := x.inFlight ++ [letter] }
  /-- A letter arrives. It may overtake others, but none of its own client. -/
  | arrive {x : Exchange} {letter : Letter} {before behind : List Letter} {tracker : Tracker}
    (hflight : x.inFlight = before ++ letter :: behind)
    (hfirst : ∀ other ∈ before, other.client ≠ letter.client)
    (hsend : x.tracker.send letter = .ok tracker) :
    Step x [] { x with tracker, inFlight := before ++ behind }
  /-- The owner serves the oldest letter of the mailbox. -/
  | serve {x : Exchange} {client : Nat} {reply : Option EngineReply} {tracker : Tracker}
    (hserve : x.tracker.serve? = some (client, reply, tracker)) :
    Step x [] { x with tracker, replies := x.replies ++ [(client, reply)] }

/-- What can happen one after the other, and all letters that are sent meanwhile. -/
inductive Run : Exchange → List Letter → Exchange → Prop
  | nil (x : Exchange) : Run x [] x
  | cons {x y z : Exchange} {letters sent : List Letter} (hstep : x.Step letters y)
    (hrest : Run y sent z) : Run x (letters ++ sent) z

/-- The letter that has been on its way for the longest time arrives. -/
theorem Step.arriveFirst {x : Exchange} {letter : Letter} {behind : List Letter} {tracker : Tracker}
    (hflight : x.inFlight = letter :: behind) (hsend : x.tracker.send letter = .ok tracker) :
    x.Step [] { x with tracker, inFlight := behind } :=
  @Step.arrive x letter [] behind tracker hflight (fun _ hnone => (nomatch hnone)) hsend

theorem Run.send {x y : Exchange} (letter : Letter) {sent : List Letter}
    (hrest : Run { x with inFlight := x.inFlight ++ [letter] } sent y) :
    Run x (letter :: sent) y :=
  .cons (.send x letter) hrest

/-! ## Explanations -/

/-- An order of calls explains an exchange. -/
structure Explained (e : Engine) (sent : List Letter) (order : List Served) (x : Exchange) :
    Prop where
  /-- On an engine that nobody shares the calls return what they are said to return, and lead to
  the engine that is shared. -/
  sequential : e.Sequential order x.tracker.engine
  /-- The clients were told what the calls returned. -/
  replies : x.replies = order.map fun s => (s.letter.client, s.reply)
  /-- Each client's letters are in the order as it sent them, but for the last ones, which wait. -/
  letters : ∀ client,
    lettersOf client (order.map (·.letter)) ++
      lettersOf client (x.tracker.mailbox ++ x.inFlight) = lettersOf client sent
  /-- The owner is still there. -/
  running : x.tracker.running = true

theorem explained_start (e : Engine) : (start e).Explained e [] [] := by
  refine { sequential := .nil e, replies := rfl, letters := ?_, running := rfl }
  intro client
  rfl

theorem lettersOf_append (client : Nat) (letters more : List Letter) :
    lettersOf client (letters ++ more) = lettersOf client letters ++ lettersOf client more :=
  List.filter_append ..

/-- No client sees a difference when a letter overtakes those of others. -/
theorem lettersOf_overtake {letter : Letter} {before : List Letter}
    (hfirst : ∀ other ∈ before, other.client ≠ letter.client) (client : Nat)
    (behind : List Letter) :
    lettersOf client (letter :: (before ++ behind)) =
      lettersOf client (before ++ letter :: behind) := by
  by_cases hclient : letter.client = client
  · -- of this client's letters there is none in front
    have hnone : lettersOf client before = [] := by
      refine List.filter_eq_nil_iff.mpr fun other hother heq => ?_
      exact hfirst other hother ((beq_iff_eq.mp heq).trans hclient.symm)
    have hfront : lettersOf client (letter :: (before ++ behind)) =
        letter :: lettersOf client (before ++ behind) :=
      List.filter_cons_of_pos (beq_iff_eq.mpr hclient)
    have hmiddle : lettersOf client (letter :: behind) = letter :: lettersOf client behind :=
      List.filter_cons_of_pos (beq_iff_eq.mpr hclient)
    rw [hfront, lettersOf_append, lettersOf_append, hmiddle, hnone]
    rfl
  · have hother : ∀ letters, lettersOf client (letter :: letters) = lettersOf client letters :=
      fun letters => List.filter_cons_of_neg (mt beq_iff_eq.mp hclient)
    rw [hother, lettersOf_append, lettersOf_append, hother]

/-- At some place of the order a letter gets a reply, and the calls in front of that place include
just these letters of a client. -/
def RepliedBehind (e : Engine) (order : List Served) (client : Nat) (own : List Letter)
    (letter : Letter) (reply : Option EngineReply) : Prop :=
  ∃ earlier later before behind, order = earlier ++ ⟨letter, reply⟩ :: later ∧
    lettersOf client (earlier.map (·.letter)) = own ∧ e.Sequential earlier before ∧
    before.Returns letter.request reply behind

/-- Where the `n`-th of the members that pass a test stands among all members. -/
theorem exists_split_of_filter {α : Type} {test : α → Bool} {as : List α} {n : Nat} {a : α}
    (h : (as.filter test)[n]? = some a) :
    ∃ earlier later, as = earlier ++ a :: later ∧
      earlier.filter test = (as.filter test).take n := by
  obtain ⟨hn, hget⟩ := List.getElem?_eq_some_iff.mp h
  have hsplit : as.filter test = (as.filter test).take n ++ a :: (as.filter test).drop (n + 1) := by
    rw [← hget, List.getElem_cons_drop, List.take_append_drop]
  obtain ⟨front, rest, heq, hfront, hrest⟩ := List.filter_eq_append_iff.mp hsplit
  obtain ⟨between, later, rfl, hbetween, -, -⟩ := List.filter_eq_cons_iff.mp hrest
  refine ⟨front ++ between, later, ?_, ?_⟩
  · rw [heq, List.append_assoc]
  · rw [List.filter_append, hfront, List.filter_eq_nil_iff.mpr hbetween, List.append_nil]

namespace Explained

variable {e : Engine} {sent : List Letter} {order : List Served} {x : Exchange}

/-- **One more step has an explanation**, which adds to the one before it. Only the owner adds to
it, and that is where a request takes effect. -/
theorem step (h : x.Explained e sent order) {letters : List Letter} {y : Exchange}
    (hstep : x.Step letters y) :
    ∃ more, y.Explained e (sent ++ letters) (order ++ more) := by
  cases hstep with
  | send letter =>
    -- what is sent waits behind all that waits already
    refine ⟨[], ?_⟩
    rw [List.append_nil]
    refine { sequential := h.sequential, replies := h.replies, letters := ?_, running := h.running }
    intro client
    show _ ++ lettersOf client (x.tracker.mailbox ++ (x.inFlight ++ [letter])) = _
    rw [← List.append_assoc, lettersOf_append, ← List.append_assoc, h.letters, lettersOf_append]
  | @arrive letter before behind tracker hflight hfirst hsend =>
    -- what arrives waits as before, with only letters of others overtaken
    obtain ⟨hrunning, rfl⟩ := Tracker.send_eq_ok_iff.mp hsend
    refine ⟨[], ?_⟩
    rw [List.append_nil, List.append_nil]
    refine { sequential := h.sequential, replies := h.replies, letters := ?_, running := hrunning }
    intro client
    show _ ++ lettersOf client ((x.tracker.mailbox ++ [letter]) ++ (before ++ behind)) = _
    rw [← h.letters client, hflight, List.append_assoc, List.singleton_append, lettersOf_append,
      lettersOf_append, lettersOf_overtake hfirst]
  | serve hserve =>
    obtain ⟨letter, mailbox, hmailbox, rfl, rfl, rfl⟩ := Tracker.serve?_eq_some_iff.mp hserve
    refine ⟨[⟨letter, (x.tracker.engine.serve letter.request).1⟩], ?_⟩
    rw [List.append_nil]
    refine { sequential := ?_, replies := ?_, letters := ?_, running := h.running }
    · have hcall := Engine.returns_serve x.tracker.engine letter.request
      exact Engine.sequential_append_iff.mpr ⟨_, h.sequential, .cons hcall (.nil _)⟩
    · rw [h.replies, List.map_append]
      rfl
    · -- the letter moves from the front of the mailbox to the end of the order
      intro client
      rw [← h.letters client, hmailbox, List.map_append, lettersOf_append, List.append_assoc,
        ← lettersOf_append]
      rfl

/-- **Every run has an explanation**, which adds to the one before it. -/
theorem run (h : x.Explained e sent order) {letters : List Letter} {y : Exchange}
    (hrun : x.Run letters y) : ∃ more, y.Explained e (sent ++ letters) (order ++ more) := by
  induction hrun generalizing sent order with
  | nil x =>
    refine ⟨[], ?_⟩
    rw [List.append_nil, List.append_nil]
    exact h
  | cons hstep _ ih =>
    obtain ⟨first, hfirst⟩ := h.step hstep
    obtain ⟨rest, hrest⟩ := ih hfirst
    refine ⟨first ++ rest, ?_⟩
    rw [← List.append_assoc, ← List.append_assoc]
    exact hrest

/-- When nothing waits any more, each client finds all that it sent, and each letter is there as
often as it was sent. -/
theorem of_settled (h : x.Explained e sent order) (hsettled : x.Settled) :
    (∀ client, lettersOf client (order.map (·.letter)) = lettersOf client sent) ∧
      (order.map (·.letter)).Perm sent := by
  have hletters : ∀ client, lettersOf client (order.map (·.letter)) = lettersOf client sent := by
    intro client
    have hclient := h.letters client
    rw [hsettled.1, hsettled.2] at hclient
    rw [← hclient]
    exact (List.append_nil _).symm
  refine ⟨hletters, List.perm_iff_count.mpr fun letter => ?_⟩
  have hown : ∀ letters : List Letter,
      (lettersOf letter.client letters).count letter = letters.count letter :=
    fun letters => List.count_filter (beq_iff_eq.mpr rfl)
  rw [← hown (order.map (·.letter)), hletters, hown sent]

/-- **What a reply tells.** The reply that a client got in the `n`-th place is the reply to the
letter that it sent in the `n`-th place, from an engine that has served all letters that the client
had sent before, each once, and none that it sent later. -/
theorem reply_to_letter (h : x.Explained e sent order) {client n : Nat} {letter : Letter}
    {reply : Option EngineReply} (hletter : (lettersOf client sent)[n]? = some letter)
    (hreply : (x.repliesTo client)[n]? = some reply) :
    RepliedBehind e order client ((lettersOf client sent).take n) letter reply := by
  -- the calls of the client, of which both its letters and its replies are images
  let own (s : Served) : Bool := s.letter.client == client
  have hreplies : x.repliesTo client = (order.filter own).map (·.reply) := by
    rw [repliesTo, h.replies, List.filter_map, List.map_map]
    rfl
  have hown : ∀ calls : List Served,
      lettersOf client (calls.map (·.letter)) = (calls.filter own).map (·.letter) :=
    fun calls => List.filter_map
  -- the call in the `n`-th place gave the reply, and it was for the letter in the same place
  rw [hreplies, List.getElem?_map, Option.map_eq_some_iff] at hreply
  obtain ⟨s, hs, rfl⟩ := hreply
  have hlength : n < ((order.filter own).map (·.letter)).length := by
    rw [List.length_map]
    exact (List.getElem?_eq_some_iff.mp hs).1
  have hsent := h.letters client
  rw [hown] at hsent
  have hsame : s.letter = letter := by
    rw [← hsent, List.getElem?_append_left hlength, List.getElem?_map, hs] at hletter
    exact Option.some.inj hletter
  obtain ⟨earlier, later, heq, hearlier⟩ := exists_split_of_filter hs
  have hsequential := h.sequential
  rw [heq, Engine.sequential_append_iff] at hsequential
  obtain ⟨before, hbefore, hcalls⟩ := hsequential
  cases hcalls with
  | @cons _ behind _ _ _ hcall _ =>
    refine ⟨earlier, later, before, behind, ?_, ?_, hbefore, ?_⟩
    · rw [← hsame]
      exact heq
    · rw [← hsent, List.take_append_of_le_length (Nat.le_of_lt hlength), ← List.map_take,
        ← hearlier, hown]
    · rw [← hsame]
      exact hcall

end Explained

/-! ## No letter waits forever -/

/-- How often something can still happen before a client sends the next letter: a letter on its way
has to arrive and to be served. -/
def pending (x : Exchange) : Nat := 2 * x.inFlight.length + x.tracker.mailbox.length

theorem running_step {x y : Exchange} {letters : List Letter} (h : x.Step letters y)
    (hrunning : x.tracker.running = true) : y.tracker.running = true := by
  cases h with
  | send letter => exact hrunning
  | arrive hflight hfirst hsend =>
    obtain ⟨-, rfl⟩ := Tracker.send_eq_ok_iff.mp hsend
    exact hrunning
  | serve hserve =>
    obtain ⟨letter, mailbox, -, rfl, rfl, rfl⟩ := Tracker.serve?_eq_some_iff.mp hserve
    exact hrunning

/-- Whatever happens while no client sends anything, there is less to be done behind it. -/
theorem pending_lt {x y : Exchange} (h : x.Step [] y) : y.pending < x.pending := by
  cases h with
  | @arrive letter before behind tracker hflight hfirst hsend =>
    obtain ⟨-, rfl⟩ := Tracker.send_eq_ok_iff.mp hsend
    simp only [pending, hflight, List.length_append, List.length_cons, List.length_nil]
    omega
  | serve hserve =>
    obtain ⟨letter, mailbox, hmailbox, rfl, rfl, rfl⟩ := Tracker.serve?_eq_some_iff.mp hserve
    simp only [pending, hmailbox, List.length_cons]
    omega

/-- As long as something waits, something can happen. -/
theorem exists_step {x : Exchange} (hrunning : x.tracker.running = true) (h : ¬ x.Settled) :
    ∃ y, x.Step [] y := by
  cases hflight : x.inFlight with
  | cons letter behind =>
    have hsend : x.tracker.send letter = .ok _ := Tracker.send_eq_ok_iff.mpr ⟨hrunning, rfl⟩
    exact ⟨_, .arriveFirst hflight hsend⟩
  | nil =>
    cases hmailbox : x.tracker.mailbox with
    | cons letter mailbox =>
      have hserve := Tracker.serve?_eq_some_iff.mpr ⟨letter, mailbox, hmailbox, rfl, rfl, rfl⟩
      exact ⟨_, .serve hserve⟩
    | nil => exact absurd ⟨hflight, hmailbox⟩ h

/-- **No letter waits forever.** Every exchange comes to an end in which all letters are served. -/
theorem exists_settled {x : Exchange} (hrunning : x.tracker.running = true) :
    ∃ y, x.Run [] y ∧ y.Settled := by
  induction hpending : x.pending using Nat.strongRecOn generalizing x with
  | _ n ih =>
    by_cases hsettled : x.Settled
    · exact ⟨x, .nil x, hsettled⟩
    · obtain ⟨y, hstep⟩ := exists_step hrunning hsettled
      have hlt : y.pending < n := hpending ▸ pending_lt hstep
      obtain ⟨z, hrun, hz⟩ := ih y.pending hlt (running_step hstep hrunning) rfl
      exact ⟨z, .cons hstep hrun, hz⟩

/-! ## Sharing is linearizable -/

/-- **Sharing an engine is linearizable.** However many clients send whatever they like, and however
that interleaves, there is an order of calls on an engine that nobody shares which explains what
they were told and how the shared engine ended up. Each client's letters are in it as that client
sent them, so that its `n`-th reply comes from an engine that has served just its letters before the
`n`-th. Whatever happens next is added behind what is there. All letters can be served, and then
each of them is in the order exactly as often as it was sent. -/
theorem linearizable {e : Engine} {sent : List Letter} {x : Exchange}
    (h : (start e).Run sent x) :
    ∃ order, x.Explained e sent order ∧
      (∀ client n letter reply, (lettersOf client sent)[n]? = some letter →
        (x.repliesTo client)[n]? = some reply →
        RepliedBehind e order client ((lettersOf client sent).take n) letter reply) ∧
      (∀ more y, x.Run more y → ∃ added, y.Explained e (sent ++ more) (order ++ added)) ∧
      (x.Settled → (order.map (·.letter)).Perm sent ∧
        ∀ client, lettersOf client (order.map (·.letter)) = lettersOf client sent) ∧
      ∃ y, x.Run [] y ∧ y.Settled := by
  obtain ⟨order, hexplained⟩ := (explained_start e).run h
  rw [List.nil_append, List.nil_append] at hexplained
  refine ⟨order, hexplained, ?_, ?_, ?_, exists_settled hexplained.running⟩
  · intro client n letter reply hletter hreply
    exact hexplained.reply_to_letter hletter hreply
  · intro more y hrun
    exact hexplained.run hrun
  · intro hsettled
    exact (hexplained.of_settled hsettled).symm

/-- A client suppresses a thread and asks whether it is suppressed. The question of another client
overtakes both. -/
theorem linearizable_overtaken :
    let suppress : Letter := ⟨1, .update (.suppress ⟨7⟩)⟩
    let other : Letter := ⟨2, .query (.isSuppressed ⟨7⟩)⟩
    let question : Letter := ⟨1, .query (.isSuppressed ⟨7⟩)⟩
    let sent := [suppress, other, question]
    ∃ x order, (start .empty).Run sent x ∧ x.Explained .empty sent order ∧
      (lettersOf 1 sent)[1]? = some question ∧
      (x.repliesTo 1)[1]? = some (some (.suppressed true)) ∧
      (x.repliesTo 2)[0]? = some (some (.suppressed false)) ∧
      RepliedBehind .empty order 1 [suppress] question (some (.suppressed true)) ∧
      x.Settled ∧ (order.map (·.letter)).Perm sent := by
  intro suppress other question sent
  let e : Engine := .empty
  let e' : Engine := e.suppress ⟨7⟩
  let x : Exchange :=
    { tracker := .ofEngine e'
      replies := [(2, some (.suppressed (e.isSuppressed ⟨7⟩))), (1, none),
        (1, some (.suppressed (e'.isSuppressed ⟨7⟩)))] }
  have hovertakes : ∀ l ∈ [suppress], l.client ≠ other.client := by decide
  have hrun : (start e).Run sent x := by
    refine .send suppress (.send other ?_)
    refine .cons (@Step.arrive _ other [suppress] [] _ rfl hovertakes rfl) ?_
    -- sent while nothing is served yet
    refine .send question ?_
    refine .cons (.arriveFirst rfl rfl) (.cons (.serve rfl) ?_)
    refine .cons (.arriveFirst rfl rfl) (.cons (.serve rfl) ?_)
    exact .cons (.serve rfl) (.nil x)
  have hreply : (x.repliesTo 1)[1]? = some (some (.suppressed true)) := by decide +kernel
  have hsettled : x.Settled := ⟨rfl, rfl⟩
  obtain ⟨order, hexplained, hreplies, -, hserved, -⟩ := linearizable hrun
  refine ⟨x, order, hrun, hexplained, rfl, hreply, by decide +kernel, ?_, hsettled,
    (hserved hsettled).1⟩
  exact hreplies 1 1 question _ rfl hreply

/-! ## Clients that take turns -/

/-- An update of a client that nobody else interferes with. -/
theorem run_tell {t t' : Tracker} {client : Nat} {change : EngineUpdate}
    (h : t.tell client change = .ok t') (replies : List (Nat × Option EngineReply)) :
    Run { tracker := t, replies } [⟨client, .update change⟩] { tracker := t', replies } := by
  have harrive := Step.arriveFirst (x := ⟨t, [⟨client, .update change⟩], replies⟩) rfl h
  exact .send _ (.cons harrive (.nil _))

/-- The owner serves a mailbox in which some letter is the last one, and tells its client. -/
theorem run_serveAll (e : Engine) (last : Option EngineReply) (mailbox : List Letter)
    (letter : Letter) (running : Bool) (replies : List (Nat × Option EngineReply)) :
    let served := Tracker.serveAll e last (mailbox ++ [letter])
    ∃ told, Run { tracker := { engine := e, mailbox := mailbox ++ [letter], running }, replies } []
      { tracker := { engine := served.2, mailbox := [], running }
        replies := replies ++ told ++ [(letter.client, served.1)] } := by
  induction mailbox generalizing e last replies with
  | nil =>
    refine ⟨[], ?_⟩
    rw [List.append_nil]
    have hserve : Tracker.serve? ⟨e, [letter], running⟩ = some (letter.client, _, _) :=
      Tracker.serve?_eq_some_iff.mpr ⟨letter, [], rfl, rfl, rfl, rfl⟩
    exact .cons (.serve hserve) (.nil _)
  | cons first mailbox ih =>
    have hserve : Tracker.serve? ⟨e, first :: (mailbox ++ [letter]), running⟩ =
        some (first.client, _, _) :=
      Tracker.serve?_eq_some_iff.mpr ⟨first, mailbox ++ [letter], rfl, rfl, rfl, rfl⟩
    obtain ⟨told, hrest⟩ := ih (e.serve first.request).2 (e.serve first.request).1
      (replies ++ [(first.client, (e.serve first.request).1)])
    rw [List.append_assoc replies] at hrest
    exact ⟨_, .cons (.serve hserve) hrest⟩

/-- A query of a client that nobody else interferes with. The owner serves what is in the mailbox,
the query last, and tells the client. -/
theorem run_ask {t t' : Tracker} {client : Nat} {question : EngineQuery} {reply : EngineReply}
    (h : t.ask client question = .ok (reply, t')) (replies : List (Nat × Option EngineReply)) :
    ∃ told, Run { tracker := t, replies } [⟨client, .query question⟩]
      { tracker := t', replies := replies ++ told ++ [(client, some reply)] } := by
  let letter : Letter := ⟨client, .query question⟩
  unfold Tracker.ask at h
  cases hsend : t.send letter with
  | error refused =>
    rw [hsend] at h
    cases h
  | ok arrived =>
    have harrive := Step.arriveFirst (x := ⟨t, [letter], replies⟩) rfl hsend
    obtain ⟨-, rfl⟩ := Tracker.send_eq_ok_iff.mp hsend
    obtain ⟨told, hserved⟩ := run_serveAll t.engine none t.mailbox letter t.running replies
    simp only [letter] at hsend
    rw [hsend] at h
    dsimp only [bind, Except.bind] at h
    cases hall : Tracker.serveAll t.engine none (t.mailbox ++ [letter]) with
    | mk answer engine =>
      rw [hall] at h hserved
      cases answer with
      | none => cases h
      | some answer =>
        cases h
        exact ⟨told, .send letter (.cons harrive hserved)⟩

end Exchange

end SyscallTrace
