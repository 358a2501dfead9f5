import SyscallTrace.Capture.Snaplen

/-!
# Snap lengths only grow

A snap length is the greater one of two numbers, the base and what the rules ask for. The rules are
tried in turn, and the first one that matches decides, so it matters that none of them can be lost,
or be overtaken by one that asks for less, when something is added: bytes to the front of a payload,
or ports to full capture. A rule on content needs a fixed number of bytes and looks at no others, so
it goes on matching when more bytes follow; and the rule on full capture, which is tried first, asks
for more than any other (specification §4.4, §8).

- `Snaplen.asked`: the number of bytes that the rules ask for.
- `Snaplen.LooksAt`: a rule that needs some bytes at the front and no others.
- `Snaplen.classify_eq_max`: a snap length is the base or what the rules ask for.
- `Snaplen.classify_monotone`: **adding something never lowers a snap length**.
-/

namespace SyscallTrace

/-- The greater one of two words is their least upper bound. -/
instance lawfulOrderSupUInt32 : Std.LawfulOrderSup UInt32 where
  max_le_iff a b c := by
    show (if a ≤ b then b else a) ≤ c ↔ a ≤ c ∧ b ≤ c
    by_cases hle : a ≤ b
    · rw [if_pos hle]
      exact ⟨fun hb => ⟨Std.le_trans hle hb, hb⟩, And.right⟩
    · have hge : b ≤ a := (Std.le_total (a := a) (b := b)).resolve_left hle
      rw [if_neg hle]
      exact ⟨fun ha => ⟨ha, Std.le_trans hge ha⟩, And.left⟩

namespace Snaplen

/-! ## Rules on content -/

/-- A rule that needs the first `size` bytes of a payload and looks at no others. -/
def LooksAt (size : Nat) (rule : Bytes → Bool) : Prop :=
  ∀ payload, rule payload = (decide (size ≤ payload.length) && rule (payload.take size))

/-- A rule that matches goes on matching when more bytes follow. -/
theorem LooksAt.mono {size : Nat} {rule : Bytes → Bool} (h : LooksAt size rule)
    {front payload : Bytes} (hfront : front <+: payload) (hmatch : rule front = true) :
    rule payload = true := by
  obtain ⟨rest, rfl⟩ := hfront
  rw [h, Bool.and_eq_true, decide_eq_true_iff] at hmatch
  obtain ⟨hlength, htake⟩ := hmatch
  have hlonger : size ≤ (front ++ rest).length := by
    rw [List.length_append]
    exact Nat.le_add_right_of_le hlength
  rw [h, List.take_append_of_le_length hlength, htake, Bool.and_true]
  exact decide_eq_true hlonger

theorem looksAt_isMysql : LooksAt 5 isMysql := by
  intro payload
  match payload with
  | [] | [_] | [_, _] | [_, _, _] | [_, _, _, _] => rfl
  | _ :: _ :: _ :: _ :: _ :: _ =>
    simp [isMysql]

theorem looksAt_isPostgres : LooksAt 7 isPostgres := by
  intro payload
  match payload with
  | [] | [_] | [_, _] | [_, _, _] | [_, _, _, _] | [_, _, _, _, _] | [_, _, _, _, _, _] => rfl
  | _ :: _ :: _ :: _ :: _ :: _ :: _ :: _ =>
    simp [isPostgres]

theorem looksAt_isHttp : LooksAt 5 isHttp := by
  intro payload
  match payload with
  | [] | [_] | [_, _] | [_, _, _] | [_, _, _, _] => rfl
  | _ :: _ :: _ :: _ :: _ :: _ =>
    simp [isHttp]

theorem looksAt_isMongo : LooksAt 16 isMongo := by
  intro payload
  rw [isMongo, isMongo, List.length_take, List.drop_take, List.take_take]
  by_cases hlength : 16 ≤ payload.length
  · rw [Nat.min_eq_left hlength, decide_eq_true hlength]
    rfl
  · rw [decide_eq_false hlength]
    rfl

/-- Whether the front of a payload is that of a request, for one of the protocols that are looked
for at these ports. -/
def isRequest (ports : PortPair) (front : Bytes) : Bool :=
  (ports.either mysqlPort && isMysql front) || (ports.either postgresPort && isPostgres front) ||
    ports.either mongoPort || isMongo front || isHttp front

/-- A request stays a request when more bytes follow. -/
theorem isRequest_mono {ports : PortPair} {front payload : Bytes} (hfront : front <+: payload)
    (h : isRequest ports front = true) : isRequest ports payload = true := by
  simp only [isRequest, Bool.or_eq_true, Bool.and_eq_true] at h ⊢
  rcases h with (((⟨hport, hmatch⟩ | ⟨hport, hmatch⟩) | hport) | hmatch) | hmatch
  · exact .inl (.inl (.inl (.inl ⟨hport, looksAt_isMysql.mono hfront hmatch⟩)))
  · exact .inl (.inl (.inl (.inr ⟨hport, looksAt_isPostgres.mono hfront hmatch⟩)))
  · exact .inl (.inl (.inr hport))
  · exact .inl (.inr (looksAt_isMongo.mono hfront hmatch))
  · exact .inr (looksAt_isHttp.mono hfront hmatch)

/-! ## All rules -/

/-- The number of bytes that the rules ask for, none if no rule matches. -/
def asked (settings : CaptureSettings) (payload : Bytes) (ports : PortPair) : UInt32 :=
  if settings.isFullCapture ports.localPort || settings.isFullCapture ports.remotePort then
    fullCapture
  else if ports.remotePort = settings.statsdPort then extended
  else if ports.remotePort = dnsPort then dns
  else if isRequest ports (payload.take lookaheadSize) then extended
  else 0

/-- No rule asks for more than the one on full capture. -/
theorem asked_le (settings : CaptureSettings) (payload : Bytes) (ports : PortPair) :
    asked settings payload ports ≤ fullCapture := by
  unfold asked
  repeat' split
  all_goals decide

/-- **A snap length is the base or what the rules ask for.** -/
theorem classify_eq_max (settings : CaptureSettings) (base : UInt32) (payload : Bytes)
    (ports : PortPair) :
    classify settings base payload ports = max base (asked settings payload ports) := by
  have hnone : max base 0 = base :=
    Std.le_antisymm (Std.max_le_iff.mpr ⟨Std.le_refl base, UInt32.zero_le⟩) Std.left_le_max
  unfold classify asked
  dsimp only
  rw [← isRequest]
  split
  · rfl
  · split
    · rfl
    · split
      · rfl
      · split
        · rfl
        · exact hnone.symm

/-- What is looked at of a payload is looked at when it goes on. -/
theorem take_mono {front payload : Bytes} (hfront : front <+: payload) :
    front.take lookaheadSize <+: payload.take lookaheadSize :=
  List.prefix_take_iff.mpr
    ⟨(List.take_prefix lookaheadSize front).trans hfront, List.length_take_le lookaheadSize front⟩

/-- Full capture of no fewer ports, of a payload that goes on, is asked for no fewer bytes. -/
theorem asked_mono {settings : CaptureSettings} {range : Option PortRange}
    (hrange : ∀ port, settings.isFullCapture port = true →
      ({ settings with fullCapture := range } : CaptureSettings).isFullCapture port = true)
    {front payload : Bytes} (hfront : front <+: payload) (ports : PortPair) :
    asked settings front ports ≤ asked { settings with fullCapture := range } payload ports := by
  generalize hwider : ({ settings with fullCapture := range } : CaptureSettings) = wider at hrange ⊢
  have hstatsd : wider.statsdPort = settings.statsdPort := by rw [← hwider]
  by_cases hfull : (wider.isFullCapture ports.localPort ||
      wider.isFullCapture ports.remotePort) = true
  · rw [asked.eq_def wider, if_pos hfull]
    exact asked_le settings front ports
  · -- these ports were not captured in full before, so the same rule decides
    have hbefore : ¬ (settings.isFullCapture ports.localPort ||
        settings.isFullCapture ports.remotePort) = true := by
      intro hnarrow
      rw [Bool.or_eq_true] at hfull hnarrow
      exact hfull (hnarrow.imp (hrange _) (hrange _))
    rw [asked, asked, if_neg hbefore, if_neg hfull, hstatsd]
    split
    · exact Std.le_refl _
    · split
      · exact Std.le_refl _
      · by_cases hrequest : isRequest ports (front.take lookaheadSize) = true
        · rw [if_pos hrequest, if_pos (isRequest_mono (take_mono hfront) hrequest)]
          exact Std.le_refl _
        · rw [if_neg hrequest]
          exact UInt32.zero_le

/-- A snap length grows with the base and with what the rules ask for. -/
theorem classify_mono {settings : CaptureSettings} {range : Option PortRange}
    (hrange : ∀ port, settings.isFullCapture port = true →
      ({ settings with fullCapture := range } : CaptureSettings).isFullCapture port = true)
    {base raised : UInt32} (hbase : base ≤ raised) {front payload : Bytes}
    (hfront : front <+: payload) (ports : PortPair) :
    classify settings base front ports ≤
      classify { settings with fullCapture := range } raised payload ports := by
  rw [classify_eq_max, classify_eq_max]
  exact Std.max_le_iff.mpr ⟨Std.le_trans hbase Std.left_le_max,
    Std.le_trans (asked_mono hrange hfront ports) Std.right_le_max⟩

/-- Only the first sixteen bytes of a payload are looked at. -/
theorem classify_take (settings : CaptureSettings) (base : UInt32) (payload : Bytes)
    (ports : PortPair) :
    classify settings base (payload.take lookaheadSize) ports =
      classify settings base payload ports := by
  rw [classify_eq_max, classify_eq_max, asked, asked, List.take_take, Nat.min_self]

/-- **Adding something never lowers a snap length.** It is at least the base and is decided by the
first sixteen bytes of the payload. It grows with the payload, with the base, and with the ports of
full capture. So the rules never lower the snap length of the settings. -/
theorem classify_monotone (settings : CaptureSettings) (base : UInt32) (payload : Bytes)
    (ports : PortPair) :
    base ≤ classify settings base payload ports ∧
      classify settings base (payload.take 16) ports = classify settings base payload ports ∧
      (∀ front, front <+: payload →
        classify settings base front ports ≤ classify settings base payload ports) ∧
      (∀ raised, base ≤ raised →
        classify settings base payload ports ≤ classify settings raised payload ports) ∧
      (∀ range : PortRange,
        (∀ port, settings.isFullCapture port = true → range.contains port = true) →
        classify settings base payload ports ≤
          classify { settings with fullCapture := some range } base payload ports) ∧
      ({ settings with dynamic := false } : CaptureSettings).snaplenFor ports payload ≤
        ({ settings with dynamic := true } : CaptureSettings).snaplenFor ports payload := by
  -- each change is compared with the settings as they are
  have hsame : ∀ port, settings.isFullCapture port = true →
      ({ settings with fullCapture := settings.fullCapture } : CaptureSettings).isFullCapture port =
        true := fun _ h => h
  have hleast : ∀ (settings : CaptureSettings) (base : UInt32),
      base ≤ classify settings base payload ports := by
    intro settings base
    rw [classify_eq_max]
    exact Std.left_le_max
  refine ⟨hleast settings base, classify_take settings base payload ports, ?_, ?_, ?_, ?_⟩
  · intro front hfront
    exact classify_mono hsame (Std.le_refl base) hfront ports
  · intro raised hbase
    exact classify_mono hsame hbase (List.prefix_refl payload) ports
  · intro range hrange
    exact classify_mono hrange (Std.le_refl base) (List.prefix_refl payload) ports
  · exact hleast _ _

/-- The front of a request, without its last byte, is worth less than the request, which a greater
base and full capture of its port are worth no less for. -/
theorem classify_monotone_of_request :
    let settings : CaptureSettings := {}
    let request : Bytes := [0x47, 0x45, 0x54, 0x20, 0x2F]
    let ports : PortPair := { localPort := 40000, remotePort := 8080 }
    let range : PortRange := ⟨8000, 9000⟩
    let worth := classify settings 80 request ports
    request.take 4 <+: request ∧ (80 : UInt32) ≤ 2500 ∧
      (∀ port, settings.isFullCapture port = true → range.contains port = true) ∧
      classify settings 80 (request.take 4) ports = 80 ∧ worth = 2000 ∧
      classify settings 80 (request.take 4) ports ≤ worth ∧
      worth ≤ classify settings 2500 request ports ∧
      worth ≤ classify { settings with fullCapture := some range } 80 request ports := by
  intro settings request ports range worth
  have hfront : request.take 4 <+: request := List.take_prefix 4 request
  have hbase : (80 : UInt32) ≤ 2500 := by decide
  have hrange : ∀ port, settings.isFullCapture port = true → range.contains port = true := by
    intro port hport
    cases hport
  obtain ⟨-, -, hprefix, hraised, hwider, -⟩ := classify_monotone settings 80 request ports
  exact ⟨hfront, hbase, hrange, rfl, rfl, hprefix _ hfront, hraised _ hbase, hwider range hrange⟩

end Snaplen

end SyscallTrace
