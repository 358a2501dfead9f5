import SyscallTrace.Proofs.Capture.Push

/-!
# Runs of pushes

Whatever the pushes of a run give, the encoder holds the values of those that succeeded, in their
order (specification §15.1).

A byte that says which type a value has makes it longer. Where the schema fixes the size of a
parameter there is no room for such a byte, and the encoder does not check this.

- `Encoder.run`, `Encoder.written`: some pushes, and what the successful ones wrote.
- `Encoder.Holds`: the invariant of an encoder, which `Encoder.begin` establishes.
- `Encoder.holds_run`: **an encoder holds what the successful pushes wrote**.
-/

namespace SyscallTrace

namespace Encoder

/-! ## Runs -/

/-- Puts the byte of a value in front of it, if it has one. -/
def prepare (e : Encoder) (p : Push) : Encoder :=
  match p.variant with
  | none => e
  | some variant => e.withVariant variant

/-- One value, and the byte in front of it. -/
def step (e : Encoder) (p : Push) : Except EncodeError Nat × Encoder :=
  (e.prepare p).push p.value

/-- Some values, one after the other, whatever becomes of each. -/
def run : Encoder → List Push → List (Except EncodeError Nat) × Encoder
  | e, [] => ([], e)
  | e, p :: pushes =>
    ((e.step p).1 :: ((e.step p).2.run pushes).1, ((e.step p).2.run pushes).2)

/-- What the successful pushes wrote. -/
def written : Encoder → List Push → List Bytes
  | _, [] => []
  | e, p :: pushes =>
    match (e.step p).1 with
    | .ok _ => (e.prepare p).bytesOf p.value :: (e.step p).2.written pushes
    | .error _ => (e.step p).2.written pushes

/-- Whether each byte in front of a value is written for a parameter of variable size. -/
def VariantsFit : Encoder → List Push → Prop
  | _, [] => True
  | e, p :: pushes =>
    (∀ field ∈ (e.prepare p).target? p.value,
      (e.prepare p).variant.isSome → field.type.isVariable = true) ∧
      (e.step p).2.VariantsFit pushes

instance decidableVariantsFit :
    (e : Encoder) → (pushes : List Push) → Decidable (e.VariantsFit pushes)
  | _, [] => inferInstanceAs (Decidable True)
  | e, p :: pushes =>
    have := decidableVariantsFit (e.step p).2 pushes
    inferInstanceAs (Decidable (_ ∧ _))

/-- Two runs, one after the other. -/
theorem run_append (e : Encoder) (before after : List Push) :
    (e.run (before ++ after)).2 = ((e.run before).2.run after).2 := by
  induction before generalizing e with
  | nil => rfl
  | cons p before ih => exact ih _

/-- What two runs write, one after the other. -/
theorem written_append (e : Encoder) (before after : List Push) :
    e.written (before ++ after) = e.written before ++ (e.run before).2.written after := by
  induction before generalizing e with
  | nil => rfl
  | cons p before ih =>
    rw [List.cons_append, written, written, run, ih]
    split
    · rfl
    · rfl

theorem variantsFit_append {e : Encoder} {before after : List Push} :
    e.VariantsFit (before ++ after) ↔
      e.VariantsFit before ∧ (e.run before).2.VariantsFit after := by
  induction before generalizing e with
  | nil => exact (and_iff_right trivial).symm
  | cons p before ih =>
    rw [List.cons_append, VariantsFit, VariantsFit, run, ih, and_assoc]

/-! ## What an encoder holds -/

/-- What is always true of an encoder that holds some values: they fit, and an event is given up
only before it is complete. -/
inductive Holds (start : Encoder) (parts : List Bytes) : Encoder → Prop
  | mk (variant : Option UInt8) (aborted : Bool) (hparts : start.CanHold parts)
      (hmissing : aborted = true → parts.length < start.event.schema.size) :
      Holds start parts (start.holding parts variant aborted)

/-- Values that are staged are held if each of them fits its field. -/
theorem Holds.of_stages {start e : Encoder} {parts : List Bytes} (h : Stages start parts e)
    (hfits : ∀ p ∈ start.event.schema.fields.zip parts,
      p.1.type.Fits start.event.schema.width p.2.length) : Holds start parts e := by
  obtain ⟨variant, aborted, hparts, hmissing⟩ := h
  exact .mk variant aborted ⟨hparts.count_le, hparts.room, hparts.small, hfits⟩ hmissing

/-- An encoder starts without values. -/
theorem holds_begin {scratch : Scratch} {settings : CaptureSettings} {memory : Memory}
    {event : EventType} {time : Timestamp} {tid : Tid} {e : Encoder}
    (h : begin scratch settings memory event time tid = .ok e) :
    Holds { scratch, settings, memory, event, time, tid } [] e := by
  refine .of_stages (stages_begin h) fun p hp => ?_
  rw [List.zip_nil_right] at hp
  cases hp

/-- What an encoder was started with stays as it is, and it counts the values that it holds. -/
theorem Holds.started {start e : Encoder} {parts : List Bytes} (h : Holds start parts e) :
    e.event = start.event ∧ e.settings = start.settings ∧ e.memory = start.memory ∧
      e.pushed = parts.length := by
  obtain ⟨variant, aborted, -, -⟩ := h
  exact ⟨rfl, rfl, rfl, rfl⟩

theorem prepare_holding (start : Encoder) (parts : List Bytes) (variant : Option UInt8)
    (aborted : Bool) (p : Push) :
    (start.holding parts variant aborted).prepare p =
      start.holding parts (p.variant.or variant) aborted := by
  rw [prepare]
  cases p.variant <;> rfl

/-- **One push of a run.** It fails and the encoder holds what it held, or it succeeds and the
encoder holds one more value. -/
theorem Holds.step {start e : Encoder} {parts : List Bytes} (h : Holds start parts e) {p : Push}
    (hvariant : ∀ field ∈ (e.prepare p).target? p.value,
      (e.prepare p).variant.isSome → field.type.isVariable = true) :
    (∃ error, (e.step p).1 = .error error ∧ Holds start parts (e.step p).2) ∨
      ((e.step p).1 = .ok ((e.prepare p).bytesOf p.value).length ∧
        (e.step p).2.variant = none ∧
        Holds start (parts ++ [(e.prepare p).bytesOf p.value]) (e.step p).2) := by
  obtain ⟨variant, aborted, hparts, hmissing⟩ := h
  rw [Encoder.step]
  rw [prepare_holding] at hvariant ⊢
  -- the pending byte is the one of this value, or one that a refused value left behind
  generalize p.variant.or variant = variant at hvariant ⊢
  have hstages : Stages start parts (start.holding parts variant aborted) :=
    .mk variant aborted hparts.hasRoomFor hmissing
  rcases hstages.push p.value with ⟨error, hresult, hkept⟩ |
    ⟨field, htarget, hsmall, hresult, hnext, hkept⟩
  · exact .inl ⟨error, hresult, .of_stages hkept hparts.fits⟩
  · obtain ⟨-, hfield, haccepts⟩ := target?_eq_some_iff.mp htarget
    have hfits : field.type.Fits start.event.schema.width
        ((start.holding parts variant aborted).bytesOf p.value).length :=
      Push.fits_bytes (p := ⟨p.value, variant⟩) haccepts (hvariant field htarget) hsmall
    exact .inr ⟨hresult, hnext, .of_stages hkept (hparts.fits_concat hfield hfits)⟩

/-- **An encoder holds what the successful pushes wrote.** -/
theorem holds_run {start : Encoder} {pushes : List Push} :
    ∀ {e : Encoder} {parts : List Bytes}, Holds start parts e → e.VariantsFit pushes →
      Holds start (parts ++ e.written pushes) (e.run pushes).2 := by
  induction pushes with
  | nil =>
    intro e parts h _
    rw [written, List.append_nil]
    exact h
  | cons p pushes ih =>
    rintro e parts h ⟨hvariant, hrest⟩
    rw [written, run]
    rcases h.step hvariant with ⟨error, hresult, hheld⟩ | ⟨hresult, -, hheld⟩
    · rw [hresult]
      exact ih hheld hrest
    · rw [hresult]
      have hall := ih hheld hrest
      rwa [List.append_assoc] at hall

/-- A successful push gives the number of bytes that it wrote. -/
theorem toOption_run {start : Encoder} {pushes : List Push} :
    ∀ {e : Encoder} {parts : List Bytes}, Holds start parts e → e.VariantsFit pushes →
      (e.run pushes).1.filterMap Except.toOption = (e.written pushes).map List.length := by
  induction pushes with
  | nil => exact fun _ _ => rfl
  | cons p pushes ih =>
    rintro e parts h ⟨hvariant, hrest⟩
    rw [written, run]
    rcases h.step hvariant with ⟨error, hresult, hheld⟩ | ⟨hresult, -, hheld⟩
    · rw [hresult]
      exact ih hheld hrest
    · rw [hresult]
      exact congrArg _ (ih hheld hrest)

end Encoder

end SyscallTrace
