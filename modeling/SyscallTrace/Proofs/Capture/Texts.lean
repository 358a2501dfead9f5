import SyscallTrace.Proofs.Capture.Finished
import SyscallTrace.Proofs.Capture.Strings
import SyscallTrace.Proofs.Text.Cut

/-!
# Texts that are recorded

A text that a producer has is recorded up to its first NUL, cut to leave room for one in a
parameter. The cut is behind a number of bytes. If it divides no character, what is read back is a
text, and a prefix of the one that was recorded. If it divides one, what is recorded is no text, and
it cannot be read as one (specification §4.3, §15.3).

- `Param.text_ofText`: what is read back of a text.
- `Encoder.text_of_pushed_text`: **a text is read back as a text unless a character is divided**.
- `Encoder.text_not_always_read_back`: a text of which a character is divided.
-/

namespace SyscallTrace

/-- What is read back of a text that was recorded. -/
theorem Param.text_ofText {type : ParamType} (h : type.isString = true) (s : String)
    (settings : CaptureSettings) (memory : Memory) (room : Nat) :
    let chars := s.toList.takeWhile (· != '\x00')
    let limit := maxParamSize - 1
    let front := Describe.cut limit chars
    Param.text
        { type, data := (Value.ofText (Utf8.encode s)).content settings memory room } =
      if (Utf8.bytes front).length = min limit (Utf8.bytes chars).length then
        .ok (String.ofList front)
      else
        .error (.notText ((Utf8.bytes chars).take limit)
          { validUpTo := (Utf8.bytes front).length, errorLength := none }) := by
  intro chars limit front
  have hbytes : Bytes.beforeNul ((Value.ofText (Utf8.encode s)).content settings memory room) =
      (Utf8.bytes chars).take limit := by
    rw [Value.beforeNul_content_ofText, Utf8.encode_eq_bytes, Utf8.beforeNul_bytes]
  have hdecode := Utf8.decode_take limit chars
  rw [← hbytes] at hdecode
  by_cases hwhole : (Utf8.bytes front).length = min limit (Utf8.bytes chars).length
  · rw [if_pos hwhole] at hdecode ⊢
    exact Param.text_of_ok h hdecode
  · rw [if_neg hwhole] at hdecode ⊢
    rw [← hbytes]
    exact Param.text_of_error h hdecode

namespace Encoder

variable {scratch : Scratch} {settings : CaptureSettings} {memory : Memory} {event : EventType}
  {time : Timestamp} {tid : Tid} {e : Encoder} {field : Field}

/-- A value that is taken is the next one that is written. -/
theorem written_cons_of_ok {p : Push} {length : Nat} (hvariant : p.variant = none)
    (hpush : (e.push p.value).1 = .ok length) (after : List Push) :
    e.written (p :: after) = e.bytesOf p.value :: (e.step p).2.written after := by
  have hprepare : e.prepare p = e := by rw [prepare, hvariant]
  have hstep : (e.step p).1 = .ok length := by rw [step, hprepare, hpush]
  rw [written, hstep, hprepare]

/-- An encoder that takes a text next: its next parameter is a string, and there is room for as much
of the text as is recorded. -/
structure TakesText (e : Encoder) (s : String) : Prop where
  isOpen : e.aborted = false
  plain : e.variant = none
  field : ∃ field, e.event.schema.fields[e.pushed]? = some field ∧ field.type.isString = true
  room : min (Bytes.beforeNul (Utf8.encode s)).length (maxParamSize - 1) + 1 ≤ e.scratch.remaining

/-- A text for which there is room is taken. -/
theorem TakesText.push {s : String} (h : e.TakesText s) (he : e.Reachable) :
    ∃ length, (e.push (.ofText (Utf8.encode s))).1 = .ok length := by
  obtain ⟨field, hfield, hstring⟩ := h.field
  have htarget : e.target? (.text (.slice (Utf8.encode s))) = some field :=
    target?_eq_some_iff.mpr ⟨h.isOpen, hfield, .inr hstring⟩
  have hfits : ((Bytes.beforeNul (Utf8.encode s)).take (maxParamSize - 1) ++ [0]).length ≤
      e.scratch.remaining - e.variant.toList.length := by
    rw [length_cut_string, h.plain]
    exact h.room
  have hpush := (push_text_slice he htarget).recorded hfits
  rw [h.plain, Option.toList_none, List.nil_append, recording_of_le (length_cut_string_le _)] at hpush
  exact ⟨_, congrArg Prod.fst hpush⟩

/-- A text that is taken is a parameter of the record that is given away in the end. -/
theorem TakesText.exists_param {s : String} {before : List Push}
    (htakes : (e.run before).2.TakesText s)
    (h : begin scratch settings memory event time tid = .ok e) {after : List Push}
    (hvariants : e.VariantsFit (before ++ { value := .ofText (Utf8.encode s) } :: after)) :
    let last := (e.run (before ++ { value := .ofText (Utf8.encode s) } :: after)).2
    ∃ bytes r type room,
      (last.finishWith .emitPartial).1 =
          .ok (some { bytes, truncated := decide (last.pushed < event.schema.size) }) ∧
        (¬ last.pushed < event.schema.size → last.finish.1 = .ok bytes) ∧
        Record.decode bytes = .ok r ∧ type.isString = true ∧
        r.param (e.run before).2.pushed =
          .ok { type, data := (Value.ofText (Utf8.encode s)).content settings memory room } := by
  intro last
  have hbegun := holds_begin h
  have hheld := holds_run hbegun (variantsFit_append.mp hvariants).1
  have hlast : Holds _ (e.written _) last := holds_run hbegun hvariants
  rw [written_append] at hlast
  have hreached : (e.run before).2.Reachable := (Reachable.begin h).run before
  generalize (e.run before).2 = here at htakes hheld hreached hlast ⊢
  generalize e.written before = parts at hheld hlast
  generalize last = last at hlast ⊢
  obtain ⟨hevent, hsettings, hmemory, hpushed⟩ := hheld.started
  obtain ⟨field, hfield, hstring⟩ := htakes.field
  rw [hevent] at hfield
  -- the text is written behind the values before it
  obtain ⟨length, hpush⟩ := htakes.push hreached
  have hcontent : here.bytesOf (.ofText (Utf8.encode s)) =
      (Value.ofText (Utf8.encode s)).content settings memory here.scratch.remaining := by
    rw [bytesOf, Push.bytes_of_none htakes.plain, hsettings, hmemory]
  rw [written_cons_of_ok rfl hpush, hcontent] at hlast
  obtain ⟨variant, aborted, hparts, hmissing⟩ := hlast
  obtain ⟨bytes, r, hbytes, -, hdecode, -, -, -, -, -, -, hparam⟩ :=
    hparts.exists_record variant aborted
  obtain ⟨hpartial, -⟩ := finishWith_holding hmissing hbytes
  have hfinish := finish_holding hparts hmissing hbytes
  have hread := hparam _ field hfield
  rw [hpushed, List.nil_append, List.getElem?_append_right (Nat.le_refl _), Nat.sub_self] at hread
  rw [hpushed]
  exact ⟨bytes, r, field.type, here.scratch.remaining, hpartial,
    fun hall => (if_neg hall).mp hfinish, hdecode, hstring, hread⟩

/-- **A text is read back as a text unless a character is divided.** There may be other values
before and behind it, whatever becomes of them. The record can be given away, and what is read back
is the longest front of the text that fits, up to the first NUL. -/
theorem text_of_pushed_text (h : begin scratch settings memory event time tid = .ok e) {s : String}
    {before after : List Push}
    (hvariants : e.VariantsFit (before ++ { value := .ofText (Utf8.encode s) } :: after))
    (htakes : (e.run before).2.TakesText s) :
    let last := (e.run (before ++ { value := .ofText (Utf8.encode s) } :: after)).2
    let chars := s.toList.takeWhile (· != '\x00')
    let limit := maxParamSize - 1
    let front := Describe.cut limit chars
    ∃ bytes r param,
      (last.finishWith .emitPartial).1 =
          .ok (some { bytes, truncated := decide (last.pushed < event.schema.size) }) ∧
        (¬ last.pushed < event.schema.size → last.finish.1 = .ok bytes) ∧
        Record.decode bytes = .ok r ∧
        r.param (e.run before).2.pushed = .ok param ∧
        front <+: s.toList ∧
        (Describe.Undivided limit chars → param.text = .ok (String.ofList front)) ∧
        (¬ Describe.Undivided limit chars →
          param.text = .error (.notText ((Utf8.bytes chars).take limit)
            { validUpTo := (Utf8.bytes front).length, errorLength := none })) := by
  intro last chars limit front
  obtain ⟨bytes, r, type, room, hpartial, hfinish, hdecode, hstring, hparam⟩ :=
    htakes.exists_param h hvariants
  have htext := Param.text_ofText hstring s settings memory room
  refine ⟨bytes, r, _, hpartial, hfinish, hdecode, hparam, ?_, ?_, ?_⟩
  · exact (Describe.cut_isPrefixOf limit chars).trans (List.takeWhile_prefix _)
  · intro hwhole
    exact htext.trans (if_pos (Describe.undivided_iff.mp hwhole))
  · intro hdivided
    exact htext.trans (if_neg fun hwhole => hdivided (Describe.undivided_iff.mpr hwhole))

/-- A path of two characters and a NUL, between two numbers. -/
theorem text_of_pushed_path :
    let s : String := "/é\x00b"
    ∃ e bytes r param,
      begin {} {} Memory.none .execveatEnter ⟨1⟩ ⟨7⟩ = .ok e ∧
        e.VariantsFit ([{ value := .i64 (-100) }] ++
          { value := .ofText (Utf8.encode s) } :: [{ value := .u32 0 }]) ∧
        (e.run [{ value := .i64 (-100) }]).2.TakesText s ∧
        (e.run ([{ value := .i64 (-100) }] ++
          { value := .ofText (Utf8.encode s) } :: [{ value := .u32 0 }])).2.finish.1 = .ok bytes ∧
        Record.decode bytes = .ok r ∧ r.param 1 = .ok param ∧ param.text = .ok "/é" := by
  intro s
  let e : Encoder :=
    { scratch := { bytes := List.replicate 32 0 }
      settings := {}
      memory := Memory.none
      event := .execveatEnter
      time := ⟨1⟩
      tid := ⟨7⟩ }
  have h : begin {} {} Memory.none .execveatEnter ⟨1⟩ ⟨7⟩ = .ok e := rfl
  have hvariants : e.VariantsFit ([{ value := .i64 (-100) }] ++
      { value := .ofText (Utf8.encode s) } :: [{ value := .u32 0 }]) := by decide +kernel
  have htakes : (e.run [{ value := .i64 (-100) }]).2.TakesText s :=
    { isOpen := rfl
      plain := rfl
      field := ⟨⟨"pathname", .fsrelpath⟩, rfl, rfl⟩
      room := by decide +kernel }
  have hall : ¬ (e.run ([{ value := .i64 (-100) }] ++
      { value := .ofText (Utf8.encode s) } :: [{ value := .u32 0 }])).2.pushed < 3 := by
    decide +kernel
  have hwhole : Describe.Undivided (maxParamSize - 1) (s.toList.takeWhile (· != '\x00')) :=
    .inl (by decide +kernel)
  obtain ⟨bytes, r, param, -, hfinish, hdecode, hparam, -, htext, -⟩ :=
    text_of_pushed_text h hvariants htakes
  exact ⟨e, bytes, r, param, h, hvariants, htakes, hfinish hall, hdecode, hparam,
    (htext hwhole).trans (by decide +kernel)⟩

/-- A text that is cut need not be read back as a text: characters of two bytes each, and a limit
that is odd. -/
theorem text_not_always_read_back :
    ¬ ∀ (scratch : Scratch) (settings : CaptureSettings) (memory : Memory) (event : EventType)
      (time : Timestamp) (tid : Tid) (e : Encoder) (s : String) (before after : List Push),
      begin scratch settings memory event time tid = .ok e →
        e.VariantsFit (before ++ { value := .ofText (Utf8.encode s) } :: after) →
        (e.run before).2.TakesText s →
        let last := (e.run (before ++ { value := .ofText (Utf8.encode s) } :: after)).2
        ∃ bytes r param t,
          (last.finishWith .emitPartial).1 =
              .ok (some { bytes, truncated := decide (last.pushed < event.schema.size) }) ∧
            Record.decode bytes = .ok r ∧ r.param (e.run before).2.pushed = .ok param ∧
            param.text = .ok t ∧ t.toList <+: s.toList := by
  intro hall
  let cs := List.replicate 32500 'é'
  let s := String.ofList cs
  let e : Encoder :=
    { scratch := { bytes := List.replicate 28 0 }
      settings := {}
      memory := Memory.none
      event := .execveEnter
      time := ⟨1⟩
      tid := ⟨7⟩ }
  have h : begin {} {} Memory.none .execveEnter ⟨1⟩ ⟨7⟩ = .ok e := rfl
  have hvariants : e.VariantsFit ([] ++ { value := .ofText (Utf8.encode s) } :: []) :=
    ⟨fun _ _ hsome => absurd hsome Bool.false_ne_true, trivial⟩
  have htakes : (e.run []).2.TakesText s :=
    { isOpen := rfl
      plain := rfl
      field := ⟨⟨"filename", .fspath⟩, rfl, rfl⟩
      room := Nat.le_trans (Nat.succ_le_succ (Nat.min_le_right _ _)) (by decide) }
  obtain ⟨bytes, r, param, t, hpartial, hdecode, hparam, htext, -⟩ :=
    hall _ _ _ _ _ _ _ _ _ _ h hvariants htakes
  obtain ⟨bytes', r', type, room, hpartial', -, hdecode', hstring, hparam'⟩ :=
    htakes.exists_param h hvariants
  rw [hpartial'] at hpartial
  cases hpartial
  rw [hdecode'] at hdecode
  cases hdecode
  rw [hparam'] at hparam
  cases hparam
  -- no front of the text has an odd number of bytes
  have hdivided : ¬ Describe.Undivided (maxParamSize - 1) (s.toList.takeWhile (· != '\x00')) := by
    have hsize : Char.utf8Size 'é' = 2 := by decide
    have hchars : s.toList.takeWhile (· != '\x00') = cs := by
      rw [String.toList_ofList, List.takeWhile_replicate]
      rfl
    rw [hchars]
    rintro (hle | ⟨front, hfront, hlength⟩)
    · rw [Utf8.length_bytes_replicate, hsize] at hle
      exact absurd hle (by decide)
    · rw [(List.prefix_replicate_iff.mp hfront).2, Utf8.length_bytes_replicate, hsize] at hlength
      have hlimit : maxParamSize - 1 = 64999 := rfl
      omega
  rw [Param.text_ofText hstring, if_neg fun hwhole =>
    hdivided (Describe.undivided_iff.mpr hwhole)] at htext
  cases htext

end Encoder

end SyscallTrace
