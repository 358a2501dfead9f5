import SyscallTrace.Proofs.Suppression.Ancestry
import SyscallTrace.Suppression.Tracker

/-!
# Histories of an engine

An engine that was changed and asked any number of times has forgotten how it came to suppress a
thread. The history has not: a thread is suppressed if and only if some step marked it and no later
step released it. Whether a lineage record marks its thread depends on what was suppressed and
denylisted when it arrived, so marking is a property of a step in its state. The denylist has a
history of its own, of commands added and of clearings (specification §4.7, §15.4).

- `lasts_iff`: what some steps start and others end, behind any sequence of steps.
- `Engine.Step`, `Engine.after`, `Engine.verdicts`: histories, and what they lead to.
- `Engine.Step.Marks`, `Engine.Step.Releases`: the steps that make a thread suppressed, and those
  that let it go.
- `Engine.isSuppressed_step_iff`, `Engine.isDenylisted_step_iff`: what one step does to one thread,
  and to one command.
- `Engine.isDenylisted_after_iff`: the denylisted commands after any history.
- `Engine.suppressed_after_history`: **the suppressed threads after any history**, what is then
  denylisted, and the number of records that were not passed on.
-/

namespace SyscallTrace

/-! ## What lasts -/

/-- What some steps start and others end holds behind a sequence of steps if one of them started it,
or it held before, and no later step ended it. Whether a step starts it may depend on the state that
the step finds. -/
theorem lasts_iff {State Step : Type} {next : State → Step → State} (holds : State → Prop)
    (starts : State → Step → Prop) (ends : Step → Prop) (steps : List Step)
    (hnext : ∀ s ∈ steps, ∀ state, holds (next state s) ↔
      starts state s ∨ (holds state ∧ ¬ ends s)) (state : State) :
    holds (steps.foldl next state) ↔
      (∃ before s later, steps = before ++ s :: later ∧ starts (before.foldl next state) s ∧
        ∀ s' ∈ later, ¬ ends s') ∨ (holds state ∧ ∀ s ∈ steps, ¬ ends s) := by
  induction steps generalizing state with
  | nil => simp
  | cons first rest ih =>
    rw [List.forall_mem_cons] at hnext
    rw [List.foldl_cons, ih hnext.2, hnext.1, List.forall_mem_cons]
    constructor
    · rintro (⟨before, s, later, rfl, hstarts, hlater⟩ | ⟨hstarts | ⟨hbefore, hkeeps⟩, hrest⟩)
      · exact .inl ⟨first :: before, s, later, rfl, hstarts, hlater⟩
      · exact .inl ⟨[], first, rest, rfl, hstarts, hrest⟩
      · exact .inr ⟨hbefore, hkeeps, hrest⟩
    · rintro (⟨before, s, later, heq, hstarts, hlater⟩ | ⟨hbefore, hkeeps, hrest⟩)
      · -- the step that starts it is the first one, or one of the others
        cases before with
        | nil =>
          cases heq
          exact .inr ⟨.inl hstarts, hlater⟩
        | cons first' before =>
          cases heq
          exact .inl ⟨before, s, later, rfl, hstarts, hlater⟩
      · exact .inr ⟨.inr ⟨hbefore, hkeeps⟩, hrest⟩

namespace Engine

/-- What can happen to an engine. -/
inductive Step where
  /-- Commands or threads are added or removed. -/
  | update (update : EngineUpdate)
  /-- A record is decided on. -/
  | process (record : Record)
  deriving DecidableEq, Repr

/-- The verdict that a step gives, if any, and the engine behind the step. -/
def step (e : Engine) : Step → Option Verdict × Engine
  | .update update => (none, e.update update)
  | .process record => ((e.process record).1, (e.process record).2)

/-- The engine behind some steps. -/
def after (e : Engine) : List Step → Engine
  | [] => e
  | s :: steps => (e.step s).2.after steps

/-- The verdicts that some steps give. -/
def verdicts (e : Engine) : List Step → List Verdict
  | [] => []
  | s :: steps => (e.step s).1.toList ++ (e.step s).2.verdicts steps

namespace Step

/-- The steps that make a thread suppressed. A lineage record does so if it is long enough to name
a command, and its parent is suppressed or its command denylisted when it arrives. -/
def Marks (e : Engine) (tid : Tid) : Step → Prop
  | .update (.suppress marked) => marked = tid
  | .process record =>
    record.event.isLineage = true ∧ record.tid = tid ∧
      EventType.commandIndex < record.size ∧
      (e.isSuppressed record.namedParent = true ∨ e.isDenylisted record.namedCommand = true)
  | _ => False

/-- The steps that let a thread go: its own end, and a release of all threads. -/
def Releases (tid : Tid) : Step → Prop
  | .update .clearTids => True
  | .process record => record.event = .procexitEnter ∧ record.tid = tid
  | _ => False

/-- A step that takes its record from the decoder. -/
def IsDecoded : Step → Prop
  | .update _ => True
  | .process record => record.IsDecoded

end Step

/-! ## One step -/

/-- An engine that holds no thread suppresses none. -/
theorem isSuppressed_of_isEmpty {e : Engine} (h : e.tids.isEmpty = true) (tid : Tid) :
    e.isSuppressed tid = false := by
  rw [isSuppressed, Std.ExtTreeSet.isEmpty_iff.mp h, Std.ExtTreeSet.contains_empty,
    Bool.and_false]

/-- An engine that holds no command denylists none. -/
theorem isDenylisted_of_isEmpty {e : Engine} (h : e.commands.isEmpty = true) (command : String) :
    e.isDenylisted command = false := by
  rw [isDenylisted, Std.ExtTreeSet.isEmpty_iff.mp h, Std.ExtTreeSet.contains_empty]

@[simp] theorem isSuppressed_count (e : Engine) (tid : Tid) :
    e.count.isSuppressed tid = e.isSuppressed tid := rfl

/-- A decoded lineage record is suppressed if it is long enough to name a command, and its parent
is suppressed or its command denylisted. -/
theorem processLineage_of_decoded {e : Engine} {record : Record} (h : record.IsDecoded)
    (hlineage : record.event.isLineage = true) :
    e.processLineage record =
      if EventType.commandIndex < record.size ∧
          (e.isSuppressed record.namedParent = true ∨
            e.isDenylisted record.namedCommand = true) then
        (.suppress, e.count.suppress record.tid)
      else (.pass, e) := by
  rw [processLineage]
  by_cases hsize : EventType.commandIndex < record.size
  · rw [Ancestry.ofRecord?_of_decoded h hlineage hsize]
    simp only [Bool.or_eq_true, hsize, true_and]
  · rw [Ancestry.ofRecord?_of_size_le (Nat.le_of_not_lt hsize), if_neg (fun h => hsize h.1)]

/-- What a decoded record does to one thread, the empty engine that looks at no record included. -/
theorem isSuppressed_process_iff {e : Engine} {record : Record} (h : record.IsDecoded)
    {tid : Tid} :
    (e.process record).2.isSuppressed tid = true ↔
      (tid ≠ .kernel ∧ (Step.process record).Marks e tid) ∨
        (e.isSuppressed tid = true ∧ ¬ (Step.process record).Releases tid) := by
  rw [process]
  by_cases hidle : (e.tids.isEmpty && e.commands.isEmpty) = true
  · -- nothing marks, and nobody is there to be released
    rw [if_pos hidle]
    rw [Bool.and_eq_true] at hidle
    have hnone := isSuppressed_of_isEmpty hidle.1
    have hcommand := isDenylisted_of_isEmpty hidle.2
    simp [Step.Marks, hnone, hcommand]
  · rw [if_neg hidle, dispatch]
    by_cases hlineage : record.event.isLineage = true
    · have hexit : record.event ≠ .procexitEnter := by
        intro heq
        rw [heq] at hlineage
        cases hlineage
      rw [if_pos hlineage, processLineage_of_decoded h hlineage]
      by_cases hmark : EventType.commandIndex < record.size ∧
          (e.isSuppressed record.namedParent = true ∨ e.isDenylisted record.namedCommand = true)
      · rw [if_pos hmark, isSuppressed_suppress, isSuppressed_count]
        simp only [Step.Marks, Step.Releases, hlineage, hmark, hexit]
        grind
      · rw [if_neg hmark]
        simp only [Step.Marks, Step.Releases, hexit]
        grind
    · rw [if_neg hlineage]
      by_cases hexit : record.event = .procexitEnter
      · rw [if_pos hexit, isSuppressed_release]
        simp only [Step.Marks, Step.Releases, hexit]
        grind
      · rw [if_neg hexit]
        have hsame : (if e.isSuppressed record.tid = true then (Verdict.suppress, e.count)
            else (Verdict.pass, e)).2.isSuppressed tid = e.isSuppressed tid := by
          split <;> rfl
        rw [hsame]
        simp only [Step.Marks, Step.Releases, hexit]
        grind

/-- **What one step does to one thread.** It is suppressed behind the step if the step marks it, or
if it was suppressed before and the step does not release it. -/
theorem isSuppressed_step_iff {e : Engine} {s : Step} (h : s.IsDecoded) {tid : Tid} :
    (e.step s).2.isSuppressed tid = true ↔
      (tid ≠ .kernel ∧ s.Marks e tid) ∨ (e.isSuppressed tid = true ∧ ¬ s.Releases tid) := by
  cases s with
  | process record => exact isSuppressed_process_iff h
  | update update =>
    cases update with
    | addCommand command => simp [step, update, addCommand, Step.Marks, Step.Releases, isSuppressed]
    | clearCommands => simp [step, update, clearCommands, Step.Marks, Step.Releases, isSuppressed]
    | suppress marked =>
      show (e.suppress marked).isSuppressed tid = true ↔ _
      rw [isSuppressed_suppress]
      simp only [Step.Marks, Step.Releases]
      grind
    | clearTids =>
      show e.clearTids.isSuppressed tid = true ↔ _
      rw [isSuppressed_of_isEmpty (e := e.clearTids) Std.ExtTreeSet.isEmpty_empty]
      simp [Step.Marks, Step.Releases]

/-- What any record leads to, whether it was decoded or not. -/
theorem process_shapes (e : Engine) (record : Record) :
    e.process record = (.pass, e) ∨ e.process record = (.pass, e.release record.tid) ∨
      e.process record = (.suppress, e.count) ∨
      e.process record = (.suppress, e.count.suppress record.tid) := by
  rw [process]
  split
  · exact .inl rfl
  · rw [dispatch]
    split
    · rw [processLineage]
      split
      · exact .inl rfl
      · split
        · exact .inr (.inr (.inr rfl))
        · exact .inl rfl
    · split
      · exact .inr (.inl rfl)
      · split
        · exact .inr (.inr (.inl rfl))
        · exact .inl rfl

theorem suppressed_suppress (e : Engine) (tid : Tid) :
    (e.suppress tid).suppressed = e.suppressed := by
  rw [suppress]
  split <;> rfl

/-- A step counts the record that it suppresses, and nothing else. -/
theorem suppressed_step (e : Engine) (s : Step) :
    (e.step s).2.suppressed =
      e.suppressed + UInt64.ofNat ((e.step s).1.toList.count .suppress) := by
  cases s with
  | update update =>
    have hsame : (e.update update).suppressed = e.suppressed := by
      cases update with
      | suppress tid => exact suppressed_suppress e tid
      | addCommand _ | clearCommands | clearTids => rfl
    show (e.update update).suppressed = e.suppressed + 0
    rw [hsame, UInt64.add_zero]
  | process record =>
    show (e.process record).2.suppressed =
      e.suppressed + UInt64.ofNat ([(e.process record).1].count .suppress)
    rcases e.process_shapes record with heq | heq | heq | heq
    · rw [heq]
      exact (UInt64.add_zero _).symm
    · rw [heq]
      exact (UInt64.add_zero _).symm
    · rw [heq]
      rfl
    · rw [heq]
      exact suppressed_suppress e.count record.tid

/-! ### The denylist -/

theorem commands_suppress (e : Engine) (tid : Tid) : (e.suppress tid).commands = e.commands := by
  rw [suppress]
  split <;> rfl

/-- No record changes the denylist. -/
theorem commands_process (e : Engine) (record : Record) :
    (e.process record).2.commands = e.commands := by
  rcases e.process_shapes record with heq | heq | heq | heq
  · rw [heq]
  · rw [heq]
    rfl
  · rw [heq]
    rfl
  · rw [heq]
    exact commands_suppress e.count record.tid

@[simp] theorem isDenylisted_process (e : Engine) (record : Record) (command : String) :
    (e.process record).2.isDenylisted command = e.isDenylisted command := by
  rw [isDenylisted, commands_process, isDenylisted]

@[simp] theorem isDenylisted_suppress (e : Engine) (tid : Tid) (command : String) :
    (e.suppress tid).isDenylisted command = e.isDenylisted command := by
  rw [isDenylisted, commands_suppress, isDenylisted]

/-- Adding a command denylists it, and no other. -/
theorem isDenylisted_addCommand {e : Engine} {added command : String} :
    (e.addCommand added).isDenylisted command = true ↔
      added = command ∨ e.isDenylisted command = true := by
  rw [isDenylisted, isDenylisted, addCommand, Std.ExtTreeSet.contains_iff_mem,
    Std.ExtTreeSet.contains_iff_mem, Std.ExtTreeSet.mem_insert, Std.compare_eq_iff_eq]

/-- **What one step does to one command.** It is denylisted behind the step if the step adds it, or
if it was denylisted before and the step does not clear the denylist. -/
theorem isDenylisted_step_iff {e : Engine} {s : Step} {command : String} :
    (e.step s).2.isDenylisted command = true ↔
      s = .update (.addCommand command) ∨
        (e.isDenylisted command = true ∧ s ≠ .update .clearCommands) := by
  cases s with
  | process record =>
    show (e.process record).2.isDenylisted command = true ↔ _
    simp
  | update update =>
    -- only the two changes to the denylist matter
    cases update with
    | addCommand added =>
      show (e.addCommand added).isDenylisted command = true ↔ _
      rw [isDenylisted_addCommand]
      simp
    | clearCommands =>
      show e.clearCommands.isDenylisted command = true ↔ _
      rw [isDenylisted_of_isEmpty (e := e.clearCommands) Std.ExtTreeSet.isEmpty_empty]
      simp
    | suppress tid =>
      show (e.suppress tid).isDenylisted command = true ↔ _
      simp
    | clearTids =>
      show e.isDenylisted command = true ↔ _
      simp

/-! ## Histories -/

theorem after_eq_foldl (e : Engine) (steps : List Step) :
    e.after steps = steps.foldl (fun e s => (e.step s).2) e := by
  induction steps generalizing e with
  | nil => rfl
  | cons s steps ih => rw [after, ih, List.foldl_cons]

/-- A thread is suppressed behind some steps if one of them marks it, or it was suppressed before
them, and no later step releases it. -/
theorem isSuppressed_after_iff {steps : List Step} (h : ∀ s ∈ steps, s.IsDecoded) (e : Engine)
    {tid : Tid} :
    (e.after steps).isSuppressed tid = true ↔
      (tid ≠ .kernel ∧ ∃ before s later, steps = before ++ s :: later ∧
        s.Marks (e.after before) tid ∧ ∀ s' ∈ later, ¬ s'.Releases tid) ∨
      (e.isSuppressed tid = true ∧ ∀ s ∈ steps, ¬ s.Releases tid) := by
  have hlasts := lasts_iff (fun e => e.isSuppressed tid = true)
    (fun e s => tid ≠ .kernel ∧ s.Marks e tid) (fun s => s.Releases tid) steps
    (fun s hs e => isSuppressed_step_iff (h s hs)) e
  simp only [← after_eq_foldl] at hlasts
  rw [hlasts]
  grind

/-- A command is denylisted behind some steps if one of them adds it, or it was denylisted before
them, and no later step clears the denylist. -/
theorem isDenylisted_after_iff (e : Engine) (steps : List Step) {command : String} :
    (e.after steps).isDenylisted command = true ↔
      (∃ before later, steps = before ++ .update (.addCommand command) :: later ∧
        .update .clearCommands ∉ later) ∨
      (e.isDenylisted command = true ∧ .update .clearCommands ∉ steps) := by
  have hlasts := lasts_iff (fun e => e.isDenylisted command = true)
    (fun _ s => s = .update (.addCommand command)) (fun s => s = .update .clearCommands)
    steps (fun s _ e => isDenylisted_step_iff) e
  simp only [← after_eq_foldl] at hlasts
  rw [hlasts]
  grind

/-- A history counts the records that it suppresses. -/
theorem suppressed_after (e : Engine) (steps : List Step) :
    (e.after steps).suppressed =
      e.suppressed + UInt64.ofNat ((e.verdicts steps).count .suppress) := by
  induction steps generalizing e with
  | nil => exact (UInt64.add_zero _).symm
  | cons s steps ih =>
    rw [after, ih, suppressed_step, verdicts, List.count_append, UInt64.ofNat_add,
      UInt64.add_assoc]

/-- **The suppressed threads after any history.** A thread is suppressed if and only if it is not
the kernel, and some step marked it in its state after which no step released it. A command is
denylisted if and only if it was added and the denylist was not cleared after that. The engine has
counted the records that it suppressed, as long as 64 bits can tell their number. -/
theorem suppressed_after_history {steps : List Step} (h : ∀ s ∈ steps, s.IsDecoded) :
    (∀ tid, (empty.after steps).isSuppressed tid = true ↔
      tid ≠ .kernel ∧ ∃ before s later, steps = before ++ s :: later ∧
        s.Marks (empty.after before) tid ∧ ∀ s' ∈ later, ¬ s'.Releases tid) ∧
    (∀ command, (empty.after steps).isDenylisted command = true ↔
      ∃ before later, steps = before ++ .update (.addCommand command) :: later ∧
        .update .clearCommands ∉ later) ∧
    ((empty.verdicts steps).count .suppress < UInt64.size →
      (empty.after steps).suppressed.toNat = (empty.verdicts steps).count .suppress) := by
  refine ⟨fun tid => ?_, fun command => ?_, fun hlt => ?_⟩
  · rw [isSuppressed_after_iff h]
    have hempty : empty.isSuppressed tid = false :=
      isSuppressed_of_isEmpty Std.ExtTreeSet.isEmpty_empty tid
    simp [hempty]
  · rw [isDenylisted_after_iff]
    have hempty : empty.isDenylisted command = false :=
      isDenylisted_of_isEmpty Std.ExtTreeSet.isEmpty_empty command
    simp [hempty]
  · have hzero : empty.suppressed = 0 := rfl
    rw [suppressed_after, hzero, UInt64.zero_add, UInt64.toNat_ofNat_of_lt' hlt]

/-- A thread whose parent was suppressed before, and whose command is of no interest. -/
theorem suppressed_after_clone :
    let header : Header := { time := ⟨1⟩, tid := ⟨9⟩, length := 65, tag := 223, count := 14 }
    let parts : List Bytes := [[], [], [], [], [], [5, 0, 0, 0, 0, 0, 0, 0], [], [], [], [], [], [],
      [], [115, 104, 0]]
    let steps := [.update (.suppress ⟨5⟩), .process (Record.ofParts header .cloneExit parts)]
    (∀ s ∈ steps, s.IsDecoded) ∧ (empty.after steps).isSuppressed ⟨9⟩ = true ∧
      (empty.verdicts steps).count .suppress < UInt64.size ∧
      (empty.after steps).suppressed.toNat = 1 := by
  intro header parts steps
  have hdescribes : Record.Describes header .cloneExit parts := by
    refine ⟨rfl, rfl, by decide, rfl, by decide, ?_⟩
    simp only [ParamType.Fits]
    decide
  have hdecoded : ∀ s ∈ steps, s.IsDecoded := by
    intro s hs
    rcases List.mem_cons.mp hs with rfl | hs
    · trivial
    · cases List.mem_singleton.mp hs
      exact ⟨_, hdescribes.decode_layout []⟩
  have hcount : (empty.verdicts steps).count .suppress = 1 := by decide +kernel
  obtain ⟨htids, -, hsuppressed⟩ := suppressed_after_history hdecoded
  refine ⟨hdecoded, (htids ⟨9⟩).mpr ⟨by decide, [.update (.suppress ⟨5⟩)], _, [], rfl, ?_, ?_⟩, ?_,
    ?_⟩
  · refine ⟨rfl, rfl, by decide, .inl ?_⟩
    exact isSuppressed_suppress.mpr (.inl ⟨by decide, by decide⟩)
  · intro s hs
    cases hs
  · rw [hcount]
    decide
  · rw [hsuppressed (by rw [hcount]; decide), hcount]

end Engine

end SyscallTrace
