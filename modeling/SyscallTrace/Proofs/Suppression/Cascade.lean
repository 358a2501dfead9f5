import SyscallTrace.Proofs.Suppression.Building

/-!
# The cascade of suppression

When a builder is finalized, suppression runs down the lineage. As long as no thread ends before
that, only the observations count, not their order: a thread is suppressed if and only if a chain of
observed parents leads to it from one that was condemned, by its id or by its command (specification
§4.7, §8).

A thread that ends while the builder observes disturbs this on both sides. The engine lets it go,
but the lineage remembers it. So it is suppressed again with its parent, although it has ended; and
what was only seen by the scan below it is not suppressed, although its parent was.

- `SuppressionBuilder.Call.Condemns`: the calls that condemn a thread for itself.
- `SuppressionBuilder.suppressed_iff_below_condemned`: **the closure**, and that it does not depend
  on the order of the calls.
- `SuppressionBuilder.suppressed_after_end_iff`: **a thread that ended** and was not named again.
- `SuppressionBuilder.suppressed_iff_below_marked`: **the cascade whatever ends**.
-/

namespace SyscallTrace

namespace SuppressionBuilder

/-- The calls that condemn a thread for itself: by its id, or by a command of a denylist. -/
def Call.Condemns (commands : List String) (tid : Tid) : Call → Prop
  | .addCommand _ => False
  | .suppress condemned => condemned = tid
  | .observe observed _ command => observed = tid ∧ command ∈ commands
  | .observeRecord record =>
    record.event.isLineage = true ∧ EventType.commandIndex < record.size ∧ record.tid = tid ∧
      record.namedCommand ∈ commands

/-- A chain of observed parents leads to the thread from one that was condemned. -/
def BelowCondemned (commands : List String) (calls : List Call) (tid : Tid) : Prop :=
  ∃ root, root ≠ .kernel ∧ (∃ c ∈ calls, c.Condemns commands root) ∧
    Relation.ReflTransGen (Observed calls) root tid

variable {commands : List String} {calls : List Call}

theorem BelowCondemned.mono {calls' : List Call} (h : ∀ c ∈ calls, c ∈ calls') {tid : Tid}
    (hbelow : BelowCondemned commands calls tid) : BelowCondemned commands calls' tid := by
  obtain ⟨root, hroot, ⟨c, hc, hcondemns⟩, hpath⟩ := hbelow
  exact ⟨root, hroot, ⟨c, h c hc, hcondemns⟩,
    Relation.ReflTransGen.mono (fun _ _ => Observed.mono h) _ _ hpath⟩

theorem BelowCondemned.ne_kernel {tid : Tid} (h : BelowCondemned commands calls tid) :
    tid ≠ .kernel := by
  obtain ⟨root, hroot, -, hpath⟩ := h
  rcases hpath.cases_tail with rfl | ⟨parent, -, hobserved⟩
  · exact hroot
  · exact hobserved.2.1

/-! ## Builders whose denylist is set first -/

theorem isDecoded_denylist (h : ∀ c ∈ calls, c.IsDecoded) :
    ∀ c ∈ commands.map Call.addCommand ++ calls, c.IsDecoded := by
  refine List.forall_mem_append.mpr ⟨fun c hc => ?_, h⟩
  obtain ⟨command, -, rfl⟩ := List.mem_map.mp hc
  trivial

/-- The denylist does not change any more. -/
theorem isDenylisted_denylist_iff (hfixed : ∀ c ∈ calls, ¬ c.Denylists) {command : String} :
    (ofCalls (commands.map Call.addCommand ++ calls)).engine.isDenylisted command = true ↔
      command ∈ commands := by
  rw [isDenylisted_ofCalls_iff, List.mem_append]
  constructor
  · rintro (hcommand | hcall)
    · obtain ⟨command', hcommand', heq⟩ := List.mem_map.mp hcommand
      cases heq
      exact hcommand'
    · exact absurd trivial (hfixed _ hcall)
  · exact fun hcommand => .inl (List.mem_map_of_mem hcommand)

/-- To denylist a command is to observe nothing. -/
theorem observed_denylist_iff {parent child : Tid} :
    Observed (commands.map Call.addCommand ++ calls) parent child ↔ Observed calls parent child := by
  constructor
  · rintro ⟨hparent, hchild, c, hc, hlinks⟩
    rcases List.mem_append.mp hc with hc | hc
    · obtain ⟨command, -, rfl⟩ := List.mem_map.mp hc
      exact hlinks.elim
    · exact ⟨hparent, hchild, c, hc, hlinks⟩
  · exact Observed.mono fun c hc => List.mem_append_right _ hc

/-- A call marks a thread because it condemns it, or because it names a suppressed parent. -/
theorem marks_cases {e : Engine} {c : Call} {tid : Tid}
    (hcommands : ∀ command, e.isDenylisted command = true ↔ command ∈ commands)
    (h : c.Marks e tid) :
    c.Condemns commands tid ∨ ∃ parent, e.isSuppressed parent = true ∧ c.Links parent tid := by
  cases c with
  | addCommand command => exact h.elim
  | suppress marked => exact .inl h
  | observe observed parent command => exact .inl ⟨h.1, (hcommands command).mp h.2⟩
  | observeRecord record =>
    obtain ⟨hlineage, htid, hsize, hparent | hcommand⟩ := h
    · exact .inr ⟨record.namedParent, hparent, hlineage, hsize, htid, rfl⟩
    · exact .inl ⟨hlineage, hsize, htid, (hcommands _).mp hcommand⟩

theorem marks_of_condemns {e : Engine} {c : Call} {tid : Tid}
    (hcommands : ∀ command, e.isDenylisted command = true ↔ command ∈ commands)
    (h : c.Condemns commands tid) : c.Marks e tid := by
  cases c with
  | addCommand command => exact h.elim
  | suppress condemned => exact h
  | observe observed parent command => exact ⟨h.1, (hcommands command).mpr h.2⟩
  | observeRecord record =>
    obtain ⟨hlineage, hsize, htid, hcommand⟩ := h
    exact ⟨hlineage, htid, hsize, .inr ((hcommands _).mpr hcommand)⟩

/-- Whatever ends, the engine holds only threads below a condemned one. -/
theorem belowCondemned_of_isSuppressed (h : ∀ c ∈ calls, c.IsDecoded)
    (hfixed : ∀ c ∈ calls, ¬ c.Denylists) {tid : Tid}
    (htid : (ofCalls (commands.map Call.addCommand ++ calls)).engine.isSuppressed tid = true) :
    BelowCondemned commands calls tid := by
  induction calls using List.reverseRecOn generalizing tid with
  | nil =>
    obtain ⟨-, before, mark, later, hcalls, hmarks, -⟩ :=
      (isSuppressed_ofCalls_iff (isDecoded_denylist h)).mp htid
    have hmem : mark ∈ commands.map Call.addCommand := by
      rw [List.append_nil] at hcalls
      rw [hcalls]
      exact List.mem_append_right _ (List.mem_cons_self ..)
    obtain ⟨command, -, rfl⟩ := List.mem_map.mp hmem
    exact hmarks.elim
  | append_singleton calls c ih =>
    rw [forall_mem_concat] at h hfixed
    have hmono : ∀ c' ∈ calls, c' ∈ calls ++ [c] := fun c' hc' => List.mem_append_left _ hc'
    have hc : c ∈ calls ++ [c] := List.mem_append_right _ (List.mem_singleton_self c)
    rw [← List.append_assoc, ofCalls_concat, isSuppressed_call_iff h.2] at htid
    rcases htid with ⟨hkernel, hmarks⟩ | ⟨hheld, -⟩
    · rcases marks_cases (fun _ => isDenylisted_denylist_iff hfixed.1) hmarks with
        hcondemns | ⟨parent, hparent, hlinks⟩
      · exact ⟨tid, hkernel, ⟨c, hc, hcondemns⟩, .refl⟩
      · -- the parent is below a condemned thread already, and this call observes its child
        obtain ⟨root, hroot, hcondemned, hpath⟩ := (ih h.1 hfixed.1 hparent).mono hmono
        have hobserved : Observed (calls ++ [c]) parent tid :=
          ⟨(Engine.isSuppressed_iff.mp hparent).1, hkernel, c, hc, hlinks⟩
        exact ⟨root, hroot, hcondemned, hpath.tail hobserved⟩
    · exact (ih h.1 hfixed.1 hheld).mono hmono

/-- As long as nothing ends, the engine holds every condemned thread. -/
theorem isSuppressed_of_condemns (h : ∀ c ∈ calls, c.IsDecoded)
    (hfixed : ∀ c ∈ calls, ¬ c.Denylists) {tid : Tid}
    (halive : ∀ c ∈ calls, ¬ c.Ends tid) (hkernel : tid ≠ .kernel) {c : Call} (hc : c ∈ calls)
    (hcondemns : c.Condemns commands tid) :
    (ofCalls (commands.map Call.addCommand ++ calls)).engine.isSuppressed tid = true := by
  obtain ⟨before, later, rfl⟩ := List.append_of_mem hc
  rw [isSuppressed_ofCalls_iff (isDecoded_denylist h)]
  have hbefore : ∀ c' ∈ before, ¬ c'.Denylists :=
    fun c' hc' => hfixed c' (List.mem_append_left _ hc')
  have hmarks : c.Marks (ofCalls (commands.map Call.addCommand ++ before)).engine tid :=
    marks_of_condemns (fun _ => isDenylisted_denylist_iff hbefore) hcondemns
  refine ⟨hkernel, commands.map Call.addCommand ++ before, c, later, ?_, hmarks, ?_⟩
  · rw [List.append_assoc]
  · exact fun c' hc' => halive c' (List.mem_append_right _ (List.mem_cons_of_mem _ hc'))

/-! ## While nothing ends -/

theorem isSuppressed_finalize_iff_belowCondemned (h : ∀ c ∈ calls, c.IsDecoded)
    (hfixed : ∀ c ∈ calls, ¬ c.Denylists)
    (halive : ∀ c ∈ calls, ∀ tid, ¬ c.Ends tid) {tid : Tid} :
    (ofCalls (commands.map Call.addCommand ++ calls)).finalize.isSuppressed tid = true ↔
      BelowCondemned commands calls tid := by
  rw [isSuppressed_finalize_iff (isDecoded_denylist h)]
  have hobserved : Observed (commands.map Call.addCommand ++ calls) = Observed calls :=
    funext fun parent => funext fun child => propext observed_denylist_iff
  rw [hobserved]
  constructor
  · rintro ⟨held, hheld, hpath⟩
    obtain ⟨root, hroot, hcondemned, hpath'⟩ := belowCondemned_of_isSuppressed h hfixed hheld
    exact ⟨root, hroot, hcondemned, hpath'.trans hpath⟩
  · rintro ⟨root, hroot, ⟨c, hc, hcondemns⟩, hpath⟩
    exact ⟨root, isSuppressed_of_condemns h hfixed (fun c' hc' => halive c' hc' root) hroot hc
      hcondemns, hpath⟩

/-- **The closure of suppression, whatever the order of the calls.** If the denylist is set first
and no thread ends, then in the end a thread is suppressed if and only if it is not the kernel and a
chain of observed parents leads to it from a condemned one. So the same calls in another order give
the same suppressed threads. -/
theorem suppressed_iff_below_condemned (h : ∀ c ∈ calls, c.IsDecoded)
    (hfixed : ∀ c ∈ calls, ¬ c.Denylists)
    (halive : ∀ c ∈ calls, ∀ tid, ¬ c.Ends tid) :
    (∀ tid, (ofCalls (commands.map Call.addCommand ++ calls)).finalize.isSuppressed tid = true ↔
      tid ≠ .kernel ∧ ∃ root, root ≠ .kernel ∧ (∃ c ∈ calls, c.Condemns commands root) ∧
        Relation.ReflTransGen (Observed calls) root tid) ∧
    ∀ calls', calls'.Perm calls →
      (ofCalls (commands.map Call.addCommand ++ calls')).finalize.tids =
        (ofCalls (commands.map Call.addCommand ++ calls)).finalize.tids := by
  constructor
  · intro tid
    rw [isSuppressed_finalize_iff_belowCondemned h hfixed halive]
    exact ⟨fun hbelow => ⟨hbelow.ne_kernel, hbelow⟩, fun hbelow => hbelow.2⟩
  · intro calls' hperm
    have hmem : ∀ c ∈ calls', c ∈ calls := fun c => hperm.mem_iff.mp
    have h' : ∀ c ∈ calls', c.IsDecoded := fun c hc => h c (hmem c hc)
    refine Engine.tids_eq_of_isSuppressed (kernel_notMem_finalize (isDecoded_denylist h'))
      (kernel_notMem_finalize (isDecoded_denylist h)) fun tid => ?_
    rw [isSuppressed_finalize_iff_belowCondemned h hfixed halive,
      isSuppressed_finalize_iff_belowCondemned h' (fun c hc => hfixed c (hmem c hc))
        (fun c hc => halive c (hmem c hc))]
    exact ⟨.mono hmem, .mono fun c => hperm.mem_iff.mpr⟩

/-- A thread that was seen before its parent, and its parent before the one with the denylisted
command. -/
theorem suppressed_below_agent :
    let calls := [Call.observe ⟨5⟩ ⟨300⟩ "helper", .observe ⟨300⟩ ⟨400⟩ "worker",
      .observe ⟨400⟩ ⟨1⟩ "agent"]
    (∀ c ∈ calls, c.IsDecoded) ∧ (∀ c ∈ calls, ¬ c.Denylists) ∧
      (∀ c ∈ calls, ∀ tid, ¬ c.Ends tid) ∧
      (ofCalls (["agent"].map Call.addCommand ++ calls)).finalize.isSuppressed ⟨5⟩ = true := by
  intro calls
  have h : ∀ c ∈ calls, c.IsDecoded := by
    simp [calls, Call.IsDecoded]
  have hfixed : ∀ c ∈ calls, ¬ c.Denylists := by
    simp [calls, Call.Denylists]
  have halive : ∀ c ∈ calls, ∀ tid, ¬ c.Ends tid := by
    simp [calls, Call.Ends]
  have hworker : Observed calls ⟨400⟩ ⟨300⟩ :=
    ⟨by decide, by decide, .observe ⟨300⟩ ⟨400⟩ "worker", by simp [calls], rfl, rfl⟩
  have hhelper : Observed calls ⟨300⟩ ⟨5⟩ :=
    ⟨by decide, by decide, .observe ⟨5⟩ ⟨300⟩ "helper", by simp [calls], rfl, rfl⟩
  have hagent : Call.Condemns ["agent"] ⟨400⟩ (.observe ⟨400⟩ ⟨1⟩ "agent") :=
    ⟨rfl, List.mem_singleton_self _⟩
  refine ⟨h, hfixed, halive, ((suppressed_iff_below_condemned h hfixed halive).1 ⟨5⟩).mpr ?_⟩
  exact ⟨by decide, ⟨400⟩, by decide, ⟨_, by simp [calls], hagent⟩,
    (Relation.ReflTransGen.single hworker).tail hhelper⟩

/-! ## Threads that end -/

theorem not_marks_of_ends {e : Engine} {c : Call} {tid : Tid} (h : c.Ends tid) (marked : Tid) :
    ¬ c.Marks e marked := by
  cases c with
  | observeRecord record =>
    rintro ⟨hlineage, -⟩
    rw [h.1] at hlineage
    cases hlineage
  | addCommand command => exact h.elim
  | suppress condemned => exact h.elim
  | observe observed parent command => exact h.elim

/-- The engine does not hold a thread that ended and was not named again. -/
theorem not_isSuppressed_of_ends {before later : List Call} {last : Call} {tid : Tid}
    (h : ∀ c ∈ before ++ last :: later, c.IsDecoded) (hends : last.Ends tid)
    (hlater : ∀ c ∈ later, ¬ c.Names tid) :
    (ofCalls (before ++ last :: later)).engine.isSuppressed tid = false := by
  rw [← Bool.not_eq_true]
  -- the end lets the thread go, and each later call that marked it would name it
  induction later using List.reverseRecOn with
  | nil =>
    rw [forall_mem_concat] at h
    rw [ofCalls_concat, isSuppressed_call_iff h.2]
    rintro (⟨-, hmarks⟩ | ⟨-, hkeeps⟩)
    · exact not_marks_of_ends hends tid hmarks
    · exact hkeeps hends
  | append_singleton later c ih =>
    rw [← List.cons_append, ← List.append_assoc, forall_mem_concat] at h
    rw [forall_mem_concat] at hlater
    rw [← List.cons_append, ← List.append_assoc, ofCalls_concat, isSuppressed_call_iff h.2]
    rintro (⟨-, hmarks⟩ | ⟨hheld, -⟩)
    · exact hlater.2 hmarks.names
    · exact ih h.1 hlater.1 hheld

/-- A thread that the engine does not hold is suppressed in the end if and only if it was observed
below another thread that is. -/
theorem isSuppressed_finalize_iff_parent (h : ∀ c ∈ calls, c.IsDecoded) {tid : Tid}
    (htid : (ofCalls calls).engine.isSuppressed tid = false) :
    (ofCalls calls).finalize.isSuppressed tid = true ↔
      ∃ parent, parent ≠ tid ∧ Observed calls parent tid ∧
        (ofCalls calls).finalize.isSuppressed parent = true := by
  constructor
  · rw [isSuppressed_finalize_iff h]
    rintro ⟨root, hroot, hpath⟩
    rcases Relation.reflTransGen_iff_eq_or_transGen.mp ((path_ofCalls_iff h).mpr hpath) with
      rfl | hpath
    · exact absurd (htid.symm.trans hroot) Bool.false_ne_true
    · obtain ⟨parent, hpath, hchild⟩ := Relation.TransGen.tail'_iff.mp hpath
      obtain ⟨hobserved, hne⟩ := (isChild_ofCalls_iff h).mp hchild
      exact ⟨parent, hne, hobserved,
        (isSuppressed_finalize_iff h).mpr ⟨root, hroot, (path_ofCalls_iff h).mp hpath⟩⟩
  · rintro ⟨parent, -, hobserved, hparent⟩
    obtain ⟨root, hroot, hpath⟩ := (isSuppressed_finalize_iff h).mp hparent
    exact (isSuppressed_finalize_iff h).mpr ⟨root, hroot, hpath.tail hobserved⟩

/-- **A thread that ended, and was not named again**, is suppressed in the end if and only if it was
observed below another thread that is: the engine let it go, but the lineage remembers it. -/
theorem suppressed_after_end_iff {before later : List Call} {last : Call} {tid : Tid}
    (h : ∀ c ∈ before ++ last :: later, c.IsDecoded) (hends : last.Ends tid)
    (hlater : ∀ c ∈ later, ¬ c.Names tid) :
    (ofCalls (before ++ last :: later)).finalize.isSuppressed tid = true ↔
      ∃ parent, parent ≠ tid ∧ Observed (before ++ last :: later) parent tid ∧
        (ofCalls (before ++ last :: later)).finalize.isSuppressed parent = true :=
  isSuppressed_finalize_iff_parent h (not_isSuppressed_of_ends h hends hlater)

/-- A suppressed thread ends. The threads observed below it do not bring it back. -/
theorem ended_thread_stays_free :
    let before := [Call.suppress ⟨11⟩, .observe ⟨12⟩ ⟨11⟩ "sh"]
    let last := Call.observeRecord (.bare .procexitEnter ⟨11⟩)
    let later := [Call.observe ⟨13⟩ ⟨12⟩ "ls"]
    (∀ c ∈ before ++ last :: later, c.IsDecoded) ∧ last.Ends ⟨11⟩ ∧
      (∀ c ∈ later, ¬ c.Names ⟨11⟩) ∧
      (ofCalls (before ++ last :: later)).finalize.isSuppressed ⟨11⟩ = false := by
  intro before last later
  have h : ∀ c ∈ before ++ last :: later, c.IsDecoded := by
    simp [before, last, later, Call.IsDecoded, Record.isDecoded_bare]
  have hends : last.Ends ⟨11⟩ := ⟨rfl, rfl⟩
  have hlater : ∀ c ∈ later, ¬ c.Names ⟨11⟩ := by
    simp [later, Call.Names]
  refine ⟨h, hends, hlater, ?_⟩
  rw [← Bool.not_eq_true, suppressed_after_end_iff h hends hlater]
  rintro ⟨parent, -, ⟨-, -, c, hc, hlinks⟩, -⟩
  have hall : ∀ c ∈ before ++ last :: later, ¬ c.Links parent ⟨11⟩ := by
    simp [before, last, later, Call.Links, Record.bare, Record.ofParts, EventType.isLineage]
  exact hall c hc hlinks

/-- It is not true that a thread that ended, and was not named again, is not suppressed in the end:
its parent may be. -/
theorem ended_child_suppressed_again :
    ¬ ∀ (before later : List Call) (last : Call) (tid : Tid),
      (∀ c ∈ before ++ last :: later, c.IsDecoded) → last.Ends tid →
      (∀ c ∈ later, ¬ c.Names tid) →
      (ofCalls (before ++ last :: later)).finalize.isSuppressed tid = false := by
  intro hall
  let before := [Call.suppress ⟨10⟩, .observe ⟨11⟩ ⟨10⟩ "sh"]
  let last := Call.observeRecord (.bare .procexitEnter ⟨11⟩)
  have h : ∀ c ∈ before ++ [last], c.IsDecoded := by
    simp [before, last, Call.IsDecoded, Record.isDecoded_bare]
  have hparent : (ofCalls (before ++ [last])).engine.isSuppressed ⟨10⟩ = true := by
    decide +kernel
  have hobserved : Observed (before ++ [last]) ⟨10⟩ ⟨11⟩ :=
    ⟨by decide, by decide, .observe ⟨11⟩ ⟨10⟩ "sh", by simp [before], rfl, rfl⟩
  have hsuppressed : (ofCalls (before ++ [last])).finalize.isSuppressed ⟨11⟩ = true :=
    (isSuppressed_finalize_iff h).mpr ⟨⟨10⟩, hparent, .single hobserved⟩
  have hfree := hall before [] last ⟨11⟩ h ⟨rfl, rfl⟩ fun c hc => (nomatch hc)
  exact absurd (hfree.symm.trans hsuppressed) Bool.false_ne_true

/-! ## Whatever ends -/

/-- **The cascade, whatever ends.** In the end a thread is suppressed if and only if a chain of
observed parents leads to it from a thread that some call marked in its state and no later call
ended. -/
theorem suppressed_iff_below_marked (h : ∀ c ∈ calls, c.IsDecoded) {tid : Tid} :
    (ofCalls calls).finalize.isSuppressed tid = true ↔
      ∃ root, (root ≠ .kernel ∧ ∃ before mark later, calls = before ++ mark :: later ∧
          mark.Marks (ofCalls before).engine root ∧ ∀ c ∈ later, ¬ c.Ends root) ∧
        Relation.ReflTransGen (Observed calls) root tid := by
  rw [isSuppressed_finalize_iff h]
  refine exists_congr fun root => ?_
  rw [isSuppressed_ofCalls_iff h]

/-- A thread in the middle of the chain ends, and hands the suppression down all the same. -/
theorem suppressed_below_ended_thread :
    let calls := [Call.suppress ⟨10⟩, .observe ⟨11⟩ ⟨10⟩ "sh", .observe ⟨12⟩ ⟨11⟩ "ls",
      .observeRecord (.bare .procexitEnter ⟨11⟩)]
    (∀ c ∈ calls, c.IsDecoded) ∧ (ofCalls calls).finalize.isSuppressed ⟨12⟩ = true := by
  intro calls
  have h : ∀ c ∈ calls, c.IsDecoded := by
    simp [calls, Call.IsDecoded, Record.isDecoded_bare]
  have hshell : Observed calls ⟨10⟩ ⟨11⟩ :=
    ⟨by decide, by decide, .observe ⟨11⟩ ⟨10⟩ "sh", by simp [calls], rfl, rfl⟩
  have hlist : Observed calls ⟨11⟩ ⟨12⟩ :=
    ⟨by decide, by decide, .observe ⟨12⟩ ⟨11⟩ "ls", by simp [calls], rfl, rfl⟩
  refine ⟨h, (suppressed_iff_below_marked h).mpr ⟨⟨10⟩, ⟨by decide, [], _, _, rfl, rfl, ?_⟩, ?_⟩⟩
  · simp [Call.Ends, Record.bare, Record.ofParts, Record.tid]
  · exact (Relation.ReflTransGen.single hshell).tail hlist

/-- It is not true that all that was observed below a condemned thread, and has not ended, is
suppressed in the end: the condemned thread may have ended before suppression was handed down. -/
theorem child_of_ended_thread_missed :
    ¬ ∀ (commands : List String) (calls : List Call) (root tid : Tid),
      (∀ c ∈ calls, c.IsDecoded) → (∀ c ∈ calls, ¬ c.Denylists) → root ≠ .kernel →
      (∃ c ∈ calls, c.Condemns commands root) →
      Relation.TransGen (Observed calls) root tid → (∀ c ∈ calls, ¬ c.Ends tid) →
      (ofCalls (commands.map Call.addCommand ++ calls)).finalize.isSuppressed tid = true := by
  intro hall
  let calls := [Call.suppress ⟨10⟩, .observe ⟨11⟩ ⟨10⟩ "sh",
    .observeRecord (.bare .procexitEnter ⟨10⟩)]
  have h : ∀ c ∈ calls, c.IsDecoded := by
    simp [calls, Call.IsDecoded, Record.isDecoded_bare]
  have hfixed : ∀ c ∈ calls, ¬ c.Denylists := by
    simp [calls, Call.Denylists]
  have halive : ∀ c ∈ calls, ¬ c.Ends ⟨11⟩ := by
    simp [calls, Call.Ends, Record.bare, Record.ofParts, Record.tid]
  have hobserved : Observed calls ⟨10⟩ ⟨11⟩ :=
    ⟨by decide, by decide, .observe ⟨11⟩ ⟨10⟩ "sh", by simp [calls], rfl, rfl⟩
  have hempty : (ofCalls calls).engine.tids.isEmpty = true := by
    decide +kernel
  have hsuppressed : (ofCalls calls).finalize.isSuppressed ⟨11⟩ = true :=
    hall [] calls ⟨10⟩ ⟨11⟩ h hfixed (by decide) ⟨.suppress ⟨10⟩, by simp [calls], rfl⟩
      (.single hobserved) halive
  obtain ⟨root, hroot, -⟩ := (isSuppressed_finalize_iff h).mp hsuppressed
  exact absurd ((Engine.isSuppressed_of_isEmpty hempty root).symm.trans hroot) Bool.false_ne_true

end SuppressionBuilder

end SyscallTrace
