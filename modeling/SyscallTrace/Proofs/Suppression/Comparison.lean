import SyscallTrace.Proofs.Suppression.Verdict

/-!
# Two runs compared

What one record reads of an engine is little: the denylist, and whether one thread is suppressed,
its parent for a lineage record and its own thread for any other. What it changes is less: whether
its own thread is suppressed, and the count. Two properties of whole runs follow (specification
§4.7).

An engine that denylists more commands and suppresses more threads than another one keeps more of
them suppressed, whatever happens to both, and hides every record that the other one hides. And
records that do not read what the others change may arrive in any order.

- `Record.HiddenBy`: what decides on a record.
- `Engine.process_eq_suppress_iff`, `Engine.mem_tids_process_iff`, `Engine.suppressed_process`: the
  verdict on one record, and the two parts of the engine that it can change.
- `Engine.Within`, `Engine.Within.step`: one engine has no more than another, and what one step
  keeps of that.
- `Engine.suppression_monotone`: **more on the denylist, more hidden**.
- `Record.Independent`, `Engine.independent_records_commute`: **the order of two independent records
  does not matter**.
- `Engine.verdicts_of_independent`, `Engine.after_perm`: the same for any number of them.
-/

namespace SyscallTrace

namespace Record

/-- What hides a record: a lineage record is judged by what it names, the end of a thread is never
hidden, and every other record is judged by its thread. -/
def HiddenBy (r : Record) (e : Engine) : Prop :=
  (r.event.isLineage = true ∧ r.NamesSuppressed e) ∨
    (r.event.isLineage = false ∧ r.event ≠ .procexitEnter ∧ e.isSuppressed r.tid = true)

/-- A lineage record that is long enough to name a command names a thread as its parent. The kernel
does not count: it is what an absent parent reads as. -/
def NamesParent (r : Record) (tid : Tid) : Prop :=
  r.event.isLineage = true ∧ EventType.commandIndex < r.size ∧ r.namedParent = tid ∧ tid ≠ .kernel

/-- Two records of different threads, none of which names the other's thread as its parent. -/
structure Independent (r s : Record) : Prop where
  tid : r.tid ≠ s.tid
  left : ¬ r.NamesParent s.tid
  right : ¬ s.NamesParent r.tid

theorem Independent.symm {r s : Record} (h : r.Independent s) : s.Independent r :=
  { tid := h.tid.symm, left := h.right, right := h.left }

/-- The record of thread 9, which thread 5 has started, and whose command is `sh`. -/
def shell : Record :=
  ofParts { time := ⟨1⟩, tid := ⟨9⟩, length := 65, tag := 223, count := 14 } .cloneExit
    [[], [], [], [], [], [5, 0, 0, 0, 0, 0, 0, 0], [], [], [], [], [], [], [], [115, 104, 0]]

theorem isDecoded_shell : shell.IsDecoded := by
  refine isDecoded_of_describes ⟨rfl, rfl, by decide, rfl, by decide, ?_⟩
  simp only [ParamType.Fits]
  decide

end Record

namespace Engine

/-! ## One record -/

/-- The verdict on a decoded record. -/
theorem process_eq_suppress_iff (e : Engine) {record : Record} (h : record.IsDecoded) :
    (e.process record).1 = .suppress ↔ record.HiddenBy e := by
  unfold Record.HiddenBy
  obtain ⟨hlineage, hnames, heq⟩ | ⟨hlineage, hnames, heq⟩ | ⟨hexit, heq⟩ |
      ⟨hlineage, hexit, hthread, heq⟩ | ⟨hlineage, hexit, hthread, heq⟩ := process_cases e h
  · rw [heq]
    exact ⟨fun _ => .inl ⟨hlineage, hnames⟩, fun _ => rfl⟩
  · rw [heq, hlineage]
    constructor
    · intro hpass
      cases hpass
    · rintro (⟨-, hhides⟩ | ⟨hother, -⟩)
      · exact absurd hhides hnames
      · cases hother
  · rw [heq, hexit]
    constructor
    · intro hpass
      cases hpass
    · rintro (⟨hlineage, -⟩ | ⟨-, hother, -⟩)
      · cases hlineage
      · exact absurd rfl hother
  · rw [heq]
    exact ⟨fun _ => .inr ⟨hlineage, hexit, hthread⟩, fun _ => rfl⟩
  · rw [heq, hlineage, hthread]
    constructor
    · intro hpass
      cases hpass
    · rintro (⟨hother, -⟩ | ⟨-, -, hsuppressed⟩)
      · cases hother
      · cases hsuppressed

/-- What a decoded record does to the suppressed threads. Unlike `isSuppressed_process_iff` this
speaks of the set itself, and so of every engine, whether it keeps the kernel out or not. -/
theorem mem_tids_process_iff (e : Engine) {record : Record} (h : record.IsDecoded) {tid : Tid} :
    tid ∈ (e.process record).2.tids ↔
      (tid ≠ .kernel ∧ (Step.process record).Marks e tid) ∨
        (tid ∈ e.tids ∧ ¬ (Step.process record).Releases tid) := by
  have hexit_of_lineage : record.event.isLineage = true → record.event ≠ .procexitEnter := by
    intro hlineage hexit
    rw [hexit] at hlineage
    cases hlineage
  show tid ∈ (e.process record).2.tids ↔
    (tid ≠ .kernel ∧ record.event.isLineage = true ∧ record.tid = tid ∧
      record.NamesSuppressed e) ∨
    (tid ∈ e.tids ∧ ¬ (record.event = .procexitEnter ∧ record.tid = tid))
  obtain ⟨hlineage, hnames, heq⟩ | ⟨hlineage, hnames, heq⟩ | ⟨hexit, heq⟩ |
      ⟨hlineage, hexit, -, heq⟩ | ⟨hlineage, hexit, -, heq⟩ := process_cases e h
  · have hexit := hexit_of_lineage hlineage
    rw [heq]
    show tid ∈ (e.count.suppress record.tid).tids ↔ _
    rw [mem_tids_suppress]
    show (tid = record.tid ∧ record.tid ≠ .kernel) ∨ tid ∈ e.tids ↔ _
    grind
  · have hexit := hexit_of_lineage hlineage
    rw [heq]
    grind
  · have hlineage : record.event.isLineage = false := by
      rw [hexit]
      rfl
    rw [heq]
    show tid ∈ e.tids.erase record.tid ↔ _
    rw [Std.ExtTreeSet.mem_erase, ne_eq, Std.compare_eq_iff_eq]
    grind
  · rw [heq]
    show tid ∈ e.tids ↔ _
    grind
  · rw [heq]
    grind

/-- A record is counted if it is not passed on. -/
theorem suppressed_process (e : Engine) (record : Record) :
    (e.process record).2.suppressed =
      e.suppressed + UInt64.ofNat ([(e.process record).1].count .suppress) :=
  suppressed_step e (.process record)

/-! ## More on the denylist -/

/-- All that one engine denylists and suppresses, another one denylists and suppresses too. -/
structure Within (a b : Engine) : Prop where
  commands : ∀ command ∈ a.commands, command ∈ b.commands
  tids : ∀ tid ∈ a.tids, tid ∈ b.tids

namespace Within

variable {a b : Engine}

theorem isSuppressed (h : a.Within b) {tid : Tid} (htid : a.isSuppressed tid = true) :
    b.isSuppressed tid = true := by
  rw [isSuppressed_iff] at htid ⊢
  exact ⟨htid.1, h.tids tid htid.2⟩

theorem isDenylisted (h : a.Within b) {command : String}
    (hcommand : a.isDenylisted command = true) : b.isDenylisted command = true := by
  rw [Engine.isDenylisted, Std.ExtTreeSet.contains_iff_mem] at hcommand ⊢
  exact h.commands command hcommand

theorem namesSuppressed (h : a.Within b) {record : Record} (hnames : record.NamesSuppressed a) :
    record.NamesSuppressed b :=
  ⟨hnames.1, hnames.2.imp h.isSuppressed h.isDenylisted⟩

theorem hiddenBy (h : a.Within b) {record : Record} (hhidden : record.HiddenBy a) :
    record.HiddenBy b := by
  rcases hhidden with ⟨hlineage, hnames⟩ | ⟨hlineage, hexit, hthread⟩
  · exact .inl ⟨hlineage, h.namesSuppressed hnames⟩
  · exact .inr ⟨hlineage, hexit, h.isSuppressed hthread⟩

/-- A record marks in the larger engine what it marks in the smaller one, and releases the same
thread in both. -/
theorem process (h : a.Within b) {record : Record} (hdecoded : record.IsDecoded) :
    (a.process record).2.Within (b.process record).2 := by
  constructor
  · intro command hcommand
    rw [commands_process] at hcommand ⊢
    exact h.commands command hcommand
  · intro tid htid
    rw [mem_tids_process_iff _ hdecoded] at htid ⊢
    rcases htid with ⟨hkernel, hlineage, hthread, hnames⟩ | ⟨hmem, hreleases⟩
    · exact .inl ⟨hkernel, hlineage, hthread, h.namesSuppressed hnames⟩
    · exact .inr ⟨h.tids tid hmem, hreleases⟩

/-- A change that is made to both of them. -/
theorem update (h : a.Within b) (change : EngineUpdate) :
    (a.update change).Within (b.update change) := by
  cases change with
  | addCommand command =>
    refine { commands := ?_, tids := h.tids }
    intro other hother
    have hother : other ∈ a.commands.insert command := hother
    show other ∈ b.commands.insert command
    rw [Std.ExtTreeSet.mem_insert] at hother ⊢
    exact hother.imp_right (h.commands other)
  | clearCommands =>
    refine { commands := ?_, tids := h.tids }
    intro command hcommand
    exact absurd hcommand Std.ExtTreeSet.not_mem_empty
  | suppress marked =>
    constructor
    · intro command hcommand
      have hcommand : command ∈ (a.suppress marked).commands := hcommand
      show command ∈ (b.suppress marked).commands
      rw [commands_suppress] at hcommand ⊢
      exact h.commands command hcommand
    · intro tid htid
      have htid : tid ∈ (a.suppress marked).tids := htid
      show tid ∈ (b.suppress marked).tids
      rw [mem_tids_suppress] at htid ⊢
      exact htid.imp_right (h.tids tid)
  | clearTids =>
    refine { commands := h.commands, tids := ?_ }
    intro tid htid
    exact absurd htid Std.ExtTreeSet.not_mem_empty

/-- **What one step keeps.** The larger engine stays larger, and gives no other verdict than the
smaller one where that hides a record. -/
theorem step (h : a.Within b) {s : Step} (hdecoded : s.IsDecoded) :
    (a.step s).2.Within (b.step s).2 ∧
      ((a.step s).1 = some .suppress → (b.step s).1 = some .suppress) := by
  cases s with
  | update change =>
    refine ⟨h.update change, ?_⟩
    intro hverdict
    cases hverdict
  | process record =>
    refine ⟨h.process hdecoded, ?_⟩
    intro hverdict
    have hsuppress : (a.process record).1 = .suppress := Option.some.inj hverdict
    rw [process_eq_suppress_iff a hdecoded] at hsuppress
    exact congrArg some ((process_eq_suppress_iff b hdecoded).mpr (h.hiddenBy hsuppress))

/-- The larger engine stays larger in any history. -/
theorem after (h : a.Within b) {steps : List Step} (hdecoded : ∀ s ∈ steps, s.IsDecoded) :
    (a.after steps).Within (b.after steps) := by
  induction steps generalizing a b with
  | nil => exact h
  | cons s steps ih =>
    rw [List.forall_mem_cons] at hdecoded
    exact ih (h.step hdecoded.1).1 hdecoded.2

/-- In any history the larger engine hides the records that the smaller one hides. -/
theorem verdicts (h : a.Within b) {steps : List Step} (hdecoded : ∀ s ∈ steps, s.IsDecoded)
    {i : Nat} (hverdict : (a.verdicts steps)[i]? = some .suppress) :
    (b.verdicts steps)[i]? = some .suppress := by
  induction steps generalizing a b i with
  | nil => cases hverdict
  | cons s steps ih =>
    rw [List.forall_mem_cons] at hdecoded
    obtain ⟨hwithin, hstep⟩ := h.step hdecoded.1
    cases s with
    -- only records have verdicts, so the place is the same in the rest
    | update change => exact ih hwithin hdecoded.2 hverdict
    | process record =>
      cases i with
      | zero => exact hstep hverdict
      | succ i => exact ih hwithin hdecoded.2 hverdict

end Within

/-- **More on the denylist, more hidden.** Two engines go through the same history, records and
changes alike, and all that the first one denylists and suppresses at its start the second one does
too. Then this is so behind each step, and whenever the first one hides a record, the second one
hides it. -/
theorem suppression_monotone {a b : Engine} (h : a.Within b) {steps : List Step}
    (hdecoded : ∀ s ∈ steps, s.IsDecoded) :
    (∀ n, (a.after (steps.take n)).Within (b.after (steps.take n))) ∧
      ∀ i : Nat, (a.verdicts steps)[i]? = some .suppress →
        (b.verdicts steps)[i]? = some .suppress := by
  constructor
  · intro n
    exact h.after fun s hs => hdecoded s (List.mem_of_mem_take hs)
  · intro i hverdict
    exact h.verdicts hdecoded hverdict

/-- A suppressed thread starts another one, which then connects somewhere. The second engine knows
the command of the new thread as well, until its denylist is cleared. -/
theorem suppression_monotone_clone :
    let a := empty.suppress ⟨5⟩
    let b := a.addCommand "sh"
    let steps := [.process .shell, .update .clearCommands, .process (.bare .connectEnter ⟨9⟩)]
    a.Within b ∧ (∀ s ∈ steps, s.IsDecoded) ∧
      (a.after (steps.take 2)).Within (b.after (steps.take 2)) ∧
      (a.verdicts steps)[1]? = some .suppress ∧ (b.verdicts steps)[1]? = some .suppress := by
  intro a b steps
  have hwithin : a.Within b := by
    refine { commands := ?_, tids := fun _ htid => htid }
    intro command hcommand
    exact Std.ExtTreeSet.mem_insert.mpr (.inr hcommand)
  have hdecoded : ∀ s ∈ steps, s.IsDecoded := by
    refine List.forall_mem_cons.mpr ⟨Record.isDecoded_shell, ?_⟩
    refine List.forall_mem_cons.mpr ⟨trivial, ?_⟩
    exact List.forall_mem_singleton.mpr (Record.isDecoded_bare .connectEnter ⟨9⟩)
  have hhidden : (a.verdicts steps)[1]? = some .suppress := by decide +kernel
  obtain ⟨hafter, hverdicts⟩ := suppression_monotone hwithin hdecoded
  exact ⟨hwithin, hdecoded, hafter 2, hhidden, hverdicts 1 hhidden⟩

/-! ## Records in another order -/

theorem eq_of_parts {a b : Engine} (hcommands : a.commands = b.commands) (htids : a.tids = b.tids)
    (hsuppressed : a.suppressed = b.suppressed) : a = b := by
  cases a
  cases b
  cases hcommands
  cases htids
  cases hsuppressed
  rfl

/-- A record changes nothing for the threads of others. -/
theorem isSuppressed_process_of_ne (e : Engine) {record : Record} (h : record.IsDecoded) {tid : Tid}
    (htid : tid ≠ record.tid) : (e.process record).2.isSuppressed tid = e.isSuppressed tid := by
  rw [Bool.eq_iff_iff, isSuppressed_process_iff h]
  constructor
  · rintro (⟨-, -, hthread, -⟩ | ⟨hsuppressed, -⟩)
    · exact absurd hthread.symm htid
    · exact hsuppressed
  · intro hsuppressed
    exact .inr ⟨hsuppressed, fun hreleases => htid hreleases.2.symm⟩

section

variable {r s : Record}

/-- What a lineage record names is judged behind an independent record as it was before. -/
theorem namesSuppressed_process_iff (e : Engine) (hs : s.IsDecoded) (h : r.Independent s)
    (hlineage : r.event.isLineage = true) :
    r.NamesSuppressed (e.process s).2 ↔ r.NamesSuppressed e := by
  unfold Record.NamesSuppressed
  rw [isDenylisted_process]
  refine and_congr_right fun hsize => or_congr_left ?_
  by_cases hkernel : r.namedParent = .kernel
  · -- the kernel is not suppressed, whatever the record did
    rw [hkernel, isSuppressed_iff, isSuppressed_iff]
    simp only [ne_eq, not_true_eq_false, false_and]
  · have hparent : r.namedParent ≠ s.tid := by
      intro heq
      exact h.left ⟨hlineage, hsize, heq, heq ▸ hkernel⟩
    rw [isSuppressed_process_of_ne e hs hparent]

/-- An independent record does not change what marks a thread. -/
theorem marks_process_iff (e : Engine) (hs : s.IsDecoded) (h : r.Independent s) {tid : Tid} :
    (Step.process r).Marks (e.process s).2 tid ↔ (Step.process r).Marks e tid := by
  show r.event.isLineage = true ∧ r.tid = tid ∧ r.NamesSuppressed (e.process s).2 ↔
    r.event.isLineage = true ∧ r.tid = tid ∧ r.NamesSuppressed e
  refine and_congr_right fun hlineage => ?_
  rw [namesSuppressed_process_iff e hs h hlineage]

/-- **A record is decided on behind an independent one as it was before.** -/
theorem verdict_process (e : Engine) (hr : r.IsDecoded) (hs : s.IsDecoded) (h : r.Independent s) :
    ((e.process s).2.process r).1 = (e.process r).1 := by
  have hhidden : r.HiddenBy (e.process s).2 ↔ r.HiddenBy e := by
    unfold Record.HiddenBy
    rw [isSuppressed_process_of_ne e hs h.tid]
    refine or_congr_left (and_congr_right fun hlineage => ?_)
    exact namesSuppressed_process_iff e hs h hlineage
  rw [← process_eq_suppress_iff _ hr, ← process_eq_suppress_iff _ hr] at hhidden
  cases hbehind : ((e.process s).2.process r).1 with
  | suppress => exact (hhidden.mp hbehind).symm
  | pass =>
    cases hbefore : (e.process r).1 with
    | pass => rfl
    | suppress =>
      rw [hhidden.mpr hbefore] at hbehind
      cases hbehind

/-- **Two independent records lead to the same engine in either order.** -/
theorem process_process (e : Engine) (hr : r.IsDecoded) (hs : s.IsDecoded) (h : r.Independent s) :
    ((e.process r).2.process s).2 = ((e.process s).2.process r).2 := by
  refine eq_of_parts ?_ (Std.ExtTreeSet.ext_mem fun tid => ?_) ?_
  · rw [commands_process, commands_process, commands_process, commands_process]
  · -- what marks a thread names it, and so does what releases it
    have hmarks_r : (Step.process r).Marks e tid → r.tid = tid := fun hmarks => hmarks.2.1
    have hmarks_s : (Step.process s).Marks e tid → s.tid = tid := fun hmarks => hmarks.2.1
    have hreleases_r : (Step.process r).Releases tid → r.tid = tid := fun hreleases => hreleases.2
    have hreleases_s : (Step.process s).Releases tid → s.tid = tid := fun hreleases => hreleases.2
    have htid := h.tid
    rw [mem_tids_process_iff _ hs, mem_tids_process_iff _ hr, mem_tids_process_iff _ hr,
      mem_tids_process_iff _ hs, marks_process_iff e hr h.symm, marks_process_iff e hs h]
    grind
  · rw [suppressed_process, suppressed_process, suppressed_process, suppressed_process,
      verdict_process e hr hs h, verdict_process e hs hr h.symm, UInt64.add_assoc, UInt64.add_assoc,
      UInt64.add_comm (UInt64.ofNat _)]

/-- **The order of two independent records does not matter.** Each gets the verdict that it gets
alone, and the engine behind both is the same: the same threads are suppressed, the same commands
denylisted, and the same number of records was not passed on. -/
theorem independent_records_commute (e : Engine) (hr : r.IsDecoded) (hs : s.IsDecoded)
    (h : r.Independent s) :
    (e.process r).1 = ((e.process s).2.process r).1 ∧
      ((e.process r).2.process s).1 = (e.process s).1 ∧
      ((e.process r).2.process s).2 = ((e.process s).2.process r).2 :=
  ⟨(verdict_process e hr hs h).symm, verdict_process e hs hr h.symm, process_process e hr hs h⟩

end

/-- A thread is started by a suppressed one while another suppressed thread ends. -/
theorem clone_commutes_with_exit :
    let e := (empty.suppress ⟨5⟩).suppress ⟨7⟩
    let r := Record.shell
    let s := Record.bare .procexitEnter ⟨7⟩
    r.IsDecoded ∧ s.IsDecoded ∧ r.Independent s ∧ (e.process r).1 = .suppress ∧
      ((e.process s).2.process r).1 = .suppress ∧
      ((e.process r).2.process s).2 = ((e.process s).2.process r).2 := by
  intro e r s
  have hr : r.IsDecoded := Record.isDecoded_shell
  have hs : s.IsDecoded := Record.isDecoded_bare .procexitEnter ⟨7⟩
  have hindependent : r.Independent s := by
    refine { tid := by decide, left := ?_, right := ?_ }
    · rintro ⟨-, -, hparent, -⟩
      exact absurd hparent (by decide)
    · rintro ⟨hlineage, -⟩
      cases hlineage
  have hhidden : (e.process r).1 = .suppress := by decide +kernel
  obtain ⟨hverdict, -, hengine⟩ := independent_records_commute e hr hs hindependent
  exact ⟨hr, hs, hindependent, hhidden, hverdict.symm.trans hhidden, hengine⟩

/-! ## Any number of records -/

/-- Records that are independent of each other are decided on as if each came first. -/
theorem verdicts_of_independent (e : Engine) {records : List Record}
    (hdecoded : ∀ r ∈ records, r.IsDecoded) (h : records.Pairwise Record.Independent) :
    e.verdicts (records.map .process) = records.map fun r => (e.process r).1 := by
  induction records generalizing e with
  | nil => rfl
  | cons r records ih =>
    rw [List.forall_mem_cons] at hdecoded
    rw [List.pairwise_cons] at h
    have hrest : (e.process r).2.verdicts (records.map .process) =
        records.map fun s => (e.process s).1 := by
      rw [ih _ hdecoded.2 h.2]
      refine List.map_congr_left fun s hs => ?_
      exact verdict_process e (hdecoded.2 s hs) hdecoded.1 (h.1 s hs).symm
    exact congrArg ((e.process r).1 :: ·) hrest

/-- Records that are independent of each other lead to the same engine in any order. -/
theorem after_perm (e : Engine) {records records' : List Record} (hperm : records.Perm records')
    (hdecoded : ∀ r ∈ records, r.IsDecoded) (h : records.Pairwise Record.Independent) :
    e.after (records.map .process) = e.after (records'.map .process) := by
  induction hperm generalizing e with
  | nil => rfl
  | cons r _ ih =>
    rw [List.forall_mem_cons] at hdecoded
    exact ih _ hdecoded.2 (List.pairwise_cons.mp h).2
  | swap r s records =>
    -- the engine behind the two is the same, and so is all that follows
    rw [List.forall_mem_cons, List.forall_mem_cons] at hdecoded
    have hindependent : s.Independent r := (List.pairwise_cons.mp h).1 r (.head _)
    show ((e.process s).2.process r).2.after (records.map .process) =
      ((e.process r).2.process s).2.after (records.map .process)
    rw [process_process e hdecoded.1 hdecoded.2.1 hindependent]
  | trans hperm _ ih ih' =>
    -- independence goes both ways, so it is kept by the order in between
    rw [ih e hdecoded h]
    refine ih' e (fun r hr => hdecoded r (hperm.mem_iff.mpr hr)) ?_
    exact (hperm.pairwise_iff Record.Independent.symm).mp h

end Engine

end SyscallTrace
