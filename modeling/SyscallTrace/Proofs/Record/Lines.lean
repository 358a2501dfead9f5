import SyscallTrace.Proofs.Record.Grammar
import SyscallTrace.Proofs.Record.Integer
import SyscallTrace.Proofs.Text.Cut

/-!
# Lines that describe records

`Record.describe` goes through the fields of a schema and through the parameters of a record side by
side. Were a parameter left out that cannot be had, the names after it would stand with the values
of their neighbours. A decoded record has no such parameter (specification §10).

A long value is cut at the last place between two characters that is not behind the limit. Such a
place is found by going back from the limit, one byte at a time. The start of a text is one, so the
search ends, and it ends after three steps at the latest because no character has more than four
bytes.

- `Describe.lastBoundary?`: the search, and `Describe.lastBoundary?_eq_some_iff`, what it finds.
- `Describe.IsLongestFront`: a front that cannot be extended without passing the limit.
- `Describe.Answers`: what the accessor of the type of a parameter answers.
- `Describe.Shows`: what is shown of a parameter, and `Describe.shows_param`.
- `Record.describe_of_decode`: **the line of a decoded record**.
-/

namespace SyscallTrace

namespace Describe

open Utf8 (bytes)

/-! ## The place of the cut -/

/-- Whether the first `n` bytes of a text are whole characters. -/
def IsBoundary (text : String) (n : Nat) : Prop := (⟨n⟩ : String.Pos.Raw).IsValid text

instance (text : String) : DecidablePred (IsBoundary text) :=
  fun n => inferInstanceAs (Decidable ((⟨n⟩ : String.Pos.Raw).IsValid text))

/-- The last boundary within a number of bytes, searched downwards. Nothing is found if the search
has to go on below zero. -/
def lastBoundary? (text : String) : Nat → Option Nat
  | 0 => if IsBoundary text 0 then some 0 else none
  | n + 1 => if IsBoundary text (n + 1) then some (n + 1) else lastBoundary? text n

/-- A longest front of a text among those that take at most `limit` bytes. -/
structure IsLongestFront (limit : Nat) (text front : String) : Prop where
  exists_back : ∃ back, text = front ++ back
  size_le : front.utf8ByteSize ≤ limit
  longest : ∀ other back, text = other ++ back → other.utf8ByteSize ≤ limit →
    other.utf8ByteSize ≤ front.utf8ByteSize

variable {text front : String} {limit n : Nat}

/-- The boundaries of a text are the ends of its fronts. -/
theorem isBoundary_iff :
    IsBoundary text n ↔ ∃ front back, text = front ++ back ∧ front.utf8ByteSize = n := by
  rw [IsBoundary, String.Pos.Raw.isValid_iff_exists_append]
  refine exists₂_congr fun front back => and_congr_right fun _ => ?_
  rw [String.Pos.Raw.ext_iff, String.byteIdx_rawEndPos, eq_comm]

/-- Where the text can be cut at once, there is no need to go back. -/
theorem lastBoundary?_eq_some_iff_of_isBoundary (h : IsBoundary text limit) :
    lastBoundary? text limit = some n ↔
      n ≤ limit ∧ IsBoundary text n ∧ ∀ m ≤ limit, IsBoundary text m → m ≤ n := by
  have hfound : lastBoundary? text limit = some limit := by
    cases limit <;> exact if_pos h
  rw [hfound, Option.some_inj]
  constructor
  · rintro rfl
    exact ⟨Nat.le_refl _, h, fun m hm _ => hm⟩
  · rintro ⟨hle, -, hlast⟩
    exact Nat.le_antisymm (hlast limit (Nat.le_refl _) h) hle

/-- The search finds the last boundary. -/
theorem lastBoundary?_eq_some_iff :
    lastBoundary? text limit = some n ↔
      n ≤ limit ∧ IsBoundary text n ∧ ∀ m ≤ limit, IsBoundary text m → m ≤ n := by
  induction limit with
  | zero => exact lastBoundary?_eq_some_iff_of_isBoundary String.Pos.Raw.isValid_zero
  | succ limit ih =>
    by_cases hlimit : IsBoundary text (limit + 1)
    · exact lastBoundary?_eq_some_iff_of_isBoundary hlimit
    · -- the limit itself is no boundary, so nothing changes when it is left out
      have hstep : ∀ m, IsBoundary text m → (m ≤ limit + 1 ↔ m ≤ limit) := by
        intro m hm
        have hne : m ≠ limit + 1 := fun h => hlimit (h ▸ hm)
        omega
      rw [lastBoundary?, if_neg hlimit, ih]
      constructor
      · rintro ⟨hle, hn, hlast⟩
        exact ⟨(hstep n hn).mpr hle, hn, fun m hm hb => hlast m ((hstep m hb).mp hm) hb⟩
      · rintro ⟨hle, hn, hlast⟩
        exact ⟨(hstep n hn).mp hle, hn, fun m hm hb => hlast m ((hstep m hb).mpr hm) hb⟩

namespace IsLongestFront

/-- The search ends at the end of the longest front. -/
theorem lastBoundary?_eq (h : IsLongestFront limit text front) :
    lastBoundary? text limit = some front.utf8ByteSize := by
  obtain ⟨back, hback⟩ := h.exists_back
  refine lastBoundary?_eq_some_iff.mpr
    ⟨h.size_le, isBoundary_iff.mpr ⟨front, back, hback, rfl⟩, fun m hm hboundary => ?_⟩
  obtain ⟨other, rest, hrest, rfl⟩ := isBoundary_iff.mp hboundary
  exact h.longest other rest hrest hm

/-- No more than three bytes are lost: the next character would fit otherwise. -/
theorem limit_lt (h : IsLongestFront limit text front) (hlong : limit < text.utf8ByteSize) :
    limit < front.utf8ByteSize + 4 := by
  obtain ⟨back, rfl⟩ := h.exists_back
  rw [String.utf8ByteSize_append] at hlong
  have hsize := h.size_le
  cases hchars : back.toList with
  | nil =>
    have hempty : back = "" := String.toList_eq_nil_iff.mp hchars
    rw [hempty, String.utf8ByteSize_empty] at hlong
    omega
  | cons c cs =>
    -- the front with one character more is too long
    have hback : front ++ back = front.push c ++ String.ofList cs := by
      rw [← String.ofList_toList (s := back), hchars, String.ofList_cons, String.push_eq_append,
        String.append_assoc]
    have hpush := h.longest (front.push c) (String.ofList cs) hback
    rw [String.utf8ByteSize_push] at hpush
    have hpos := c.utf8Size_pos
    have hfour := c.utf8Size_le_four
    omega

end IsLongestFront

/-- What `cut` leaves of a text is its longest front. -/
theorem isLongestFront_cut (limit : Nat) (text : String) :
    IsLongestFront limit text (String.ofList (cut limit text.toList)) where
  exists_back := by
    obtain ⟨back, hback⟩ := cut_isPrefixOf limit text.toList
    exact ⟨String.ofList back, by rw [← String.ofList_append, hback, String.ofList_toList]⟩
  size_le := by
    rw [Utf8.utf8ByteSize_ofList]
    exact length_cut_le limit text.toList
  longest := by
    -- a front that fits is never cut
    rintro other back rfl hsize
    rw [← String.ofList_toList (s := other), Utf8.utf8ByteSize_ofList] at hsize ⊢
    rw [String.ofList_toList, String.toList_append, cut_append hsize, Utf8.utf8ByteSize_ofList,
      bytes, bytes, List.flatMap_append, List.length_append]
    exact Nat.le_add_right _ _

end Describe

/-! ## Values -/

/-- Whether an error is about the bytes of a value, and not about its type, size or place. -/
def ParamError.IsContent : ParamError → Prop
  | .notText _ _ | .payload _ => True
  | .missing _ | .wrongType _ _ | .integerSize _ | .outside _ _ _ => False

namespace Param

variable {p : Param} {e : ParamError}

theorem isContent_of_text (htype : p.type.isString = true) (h : p.text = .error e) :
    e.IsContent := by
  cases hdecode : Utf8.decode (Bytes.beforeNul p.data) with
  | ok chars =>
    rw [text_of_ok htype hdecode] at h
    cases h
  | error error =>
    rw [text_of_error htype hdecode] at h
    cases h
    trivial

/-- What is wrong with a payload is about its bytes. -/
theorem isContent_of_mapError {α : Type} {read : Except PayloadError α}
    (h : read.mapError .payload = .error e) : e.IsContent := by
  cases read with
  | error error =>
    cases h
    trivial
  | ok value => cases h

end Param

/-- The types of which only the number of bytes is shown. -/
theorem ParamType.eq_of_isVariable {type : ParamType} (hvariable : type.isVariable = true)
    (hstring : ¬ type.isString = true) (htuple : type ≠ .socktuple) (haddr : type ≠ .sockaddr)
    (hlist : type ≠ .fdlist) : type = .bytebuf ∨ type = .charbufarray ∨ type = .dyn := by
  cases type <;> simp_all [isVariable, fixedSize?, isString]

namespace Describe

/-- What the accessor of the type of a parameter answers, as a text. Bytes of no further structure
are counted. An integer can always be read. -/
inductive Answers (p : Param) (answer : Except ParamError String) : Prop where
  | text (htype : p.type.isString = true) (hread : p.text = answer)
  | connection (htype : p.type = .socktuple) (hread : p.connection?.map connectionText = answer)
  | address (htype : p.type = .sockaddr) (hread : p.address?.map addressText = answer)
  | descriptors (htype : p.type = .fdlist) (hread : p.descriptors.map descriptorsText = answer)
  | bytes (htype : p.type = .bytebuf ∨ p.type = .charbufarray ∨ p.type = .dyn)
    (hread : .ok s!"<{p.data.length} bytes>" = answer)
  | integer {n : Int64} (htype : p.type.isVariable = false) (hsigned : p.signed? = .ok (some n))
    (hread : .ok (toString n.toInt) = answer)

/-- What is shown of a parameter. -/
inductive Shows (p : Param) : String → Prop where
  | absent (hdata : p.data = []) : Shows p "<NA>"
  | invalid {e : ParamError} (hdata : p.data ≠ []) (hanswer : Answers p (.error e))
    (hcontent : e.IsContent) : Shows p ("<invalid: " ++ e.message ++ ">")
  | whole {text : String} (hdata : p.data ≠ []) (hanswer : Answers p (.ok text))
    (hsize : text.utf8ByteSize ≤ 48) : Shows p text
  | shortened {text front : String} (hdata : p.data ≠ []) (hanswer : Answers p (.ok text))
    (hsize : 48 < text.utf8ByteSize) (hfront : IsLongestFront 48 text front)
    (hkept : 45 ≤ front.utf8ByteSize)
    (hsearch : lastBoundary? text 48 = some front.utf8ByteSize) : Shows p (front ++ "...")

variable {p : Param} {width : PrefixWidth}

/-- A parameter that is present and fits its type is read by the accessor of its type. -/
theorem answers_value (hfits : p.type.Fits width p.data.length) (hdata : p.data ≠ []) :
    Answers p (value p) := by
  rw [value]
  split
  · rename_i hstring
    exact .text hstring rfl
  · rename_i hstring
    split
    · rename_i htype
      exact .connection htype rfl
    · rename_i htype
      exact .address htype rfl
    · rename_i htype
      exact .descriptors htype rfl
    · rename_i htuple haddr hlist
      split
      · rename_i hvariable
        exact .bytes (ParamType.eq_of_isVariable hvariable hstring htuple haddr hlist) rfl
      · rename_i hfixed
        have hvariable : p.type.isVariable = false := Bool.eq_false_iff.mpr hfixed
        obtain ⟨n, hn⟩ := Param.exists_signed?_eq_some hvariable hfits hdata
        have hsigned : p.signed? = .ok (some n) := hn
        rw [hsigned]
        exact .integer hvariable hsigned rfl

theorem eq_error_of_map {α : Type} {read : Except ParamError α} {f : α → String} {e : ParamError}
    (h : read.map f = .error e) : read = .error e := by
  cases read with
  | error error =>
    cases h
    rfl
  | ok value => cases h

/-- The accessor of the right type has nothing to object to but the bytes. -/
theorem Answers.isContent {e : ParamError} (h : Answers p (.error e)) : e.IsContent := by
  cases h with
  | text htype hread => exact Param.isContent_of_text htype hread
  | connection htype hread =>
    have herror := (Param.connection?_eq htype).symm.trans (eq_error_of_map hread)
    exact Param.isContent_of_mapError herror
  | address htype hread =>
    have herror := (Param.address?_eq htype).symm.trans (eq_error_of_map hread)
    exact Param.isContent_of_mapError herror
  | descriptors htype hread =>
    have herror := (Param.descriptors_eq htype).symm.trans (eq_error_of_map hread)
    exact Param.isContent_of_mapError herror
  | bytes _ hread => cases hread
  | integer _ _ hread => cases hread

/-- What is written for a parameter is what is shown of it. -/
theorem shows_param (hfits : p.type.Fits width p.data.length) : Shows p (param p) := by
  rw [param, Param.isEmpty]
  by_cases hdata : p.data = []
  · rw [hdata]
    exact .absent hdata
  · have hpresent : p.data.isEmpty = false := by
      rw [Bool.eq_false_iff, ne_eq, List.isEmpty_iff]
      exact hdata
    have hanswer := answers_value hfits hdata
    rw [hpresent, if_neg Bool.false_ne_true]
    cases hvalue : value p with
    | error e =>
      rw [hvalue] at hanswer
      exact .invalid hdata hanswer hanswer.isContent
    | ok text =>
      rw [hvalue] at hanswer
      dsimp only
      rw [shorten]
      split
      · rename_i hlong
        have hfront : IsLongestFront 48 text _ := isLongestFront_cut maxBytes text
        have hkept := hfront.limit_lt hlong
        exact .shortened hdata hanswer hlong hfront (by omega) hfront.lastBoundary?_eq
      · rename_i hshort
        exact .whole hdata hanswer (Nat.le_of_not_lt hshort)

end Describe

/-! ## Names and values -/

namespace Record

variable {buffer : Bytes} {r : Record}

/-- **The line of a decoded record.** It has one piece for each parameter that the record counts, in
the order of the schema, with a space between each two. The name at an index stands with what is
shown of the parameter at this index, whose type is that of the field. A value that is not shown is
refused for its bytes, and never for its type, its size or its place. -/
theorem describe_of_decode (h : decode buffer = .ok r) :
    ∃ pieces : List String, r.describe = " ".intercalate pieces ∧ pieces.length = r.size ∧
      ∀ i < r.size, ∃ field param shown,
        r.event.schema.fields[i]? = some field ∧ r.param i = .ok param ∧
        param.type = field.type ∧ pieces[i]? = some (field.name ++ "=" ++ shown) ∧
        Describe.Shows param shown := by
  obtain ⟨hlength, hsize⟩ := length_params_of_decode h
  refine ⟨_, rfl, ?_, fun i hi => ?_⟩
  · rw [List.length_map, List.length_zip, hlength, Nat.min_eq_right hsize]
  · obtain ⟨field, param, hfield, hparam, hlisted, htype, hfits⟩ := exists_param_of_lt_size h hi
    refine ⟨field, param, Describe.param param, hfield, hparam, htype, ?_,
      Describe.shows_param hfits⟩
    have hpair : (r.event.schema.fields.zip r.params)[i]? = some (field, param) :=
      List.getElem?_zip_eq_some.mpr ⟨hfield, hlisted⟩
    rw [List.getElem?_map, hpair]
    rfl

/-- A path of forty-nine bytes whose last character is divided by the limit, behind a descriptor
that is absent. -/
theorem describe_divided_path :
    let header : Header := { time := ⟨1⟩, tid := ⟨7⟩, length := 79, tag := 330, count := 2 }
    let path : Bytes := List.replicate 47 0x61 ++ [0xC3, 0xA9]
    ∃ r pieces front, decode (layout header .execveatEnter [[], path]) = .ok r ∧
      r.describe = " ".intercalate pieces ∧ pieces.length = 2 ∧
      pieces[0]? = some "dirfd=<NA>" ∧ pieces[1]? = some ("pathname=" ++ (front ++ "...")) ∧
      45 ≤ front.utf8ByteSize ∧ front.utf8ByteSize ≤ 48 := by
  intro header path
  have h : Describes header .execveatEnter [[], path] := by
    refine ⟨rfl, rfl, by decide, by decide, by decide, ?_⟩
    intro p hp
    cases hp with
    | head => exact .inl rfl
    | tail _ hp =>
      cases hp with
      | head => exact .inr (by decide)
      | tail _ hp => cases hp
  have hdecode := h.decode_layout []
  rw [List.append_nil] at hdecode
  obtain ⟨pieces, hdescribe, hlength, hpieces⟩ := describe_of_decode hdecode
  obtain ⟨dirfd, fd, fdShown, hdirfd, hfd, -, hfdPiece, hfdShows⟩ := hpieces 0 (by decide)
  obtain ⟨pathname, param, shown, hpathname, hparam, -, hpiece, hshows⟩ :=
    hpieces 1 (by decide)
  cases hdirfd
  cases hpathname
  rw [h.param_ofParts rfl rfl] at hfd hparam
  cases hfd
  cases hparam
  have hanswer : ∀ {answer}, Describe.Answers { type := .fsrelpath, data := path } answer →
      answer = .ok (String.ofList (List.replicate 47 'a' ++ ['é'])) := by
    intro answer h
    cases h with
    | text _ hread => exact hread.symm
    | connection htype => cases htype
    | address htype => cases htype
    | descriptors htype => cases htype
    | bytes htype => rcases htype with htype | htype | htype <;> cases htype
    | integer htype => cases htype
  have hlong : 48 < (String.ofList (List.replicate 47 'a' ++ ['é'])).utf8ByteSize := by
    rw [Utf8.utf8ByteSize_ofList]
    decide
  -- the other ways to show the two need bytes, an error or a shorter text
  cases hfdShows with
  | absent =>
    cases hshows with
    | absent hdata => cases hdata
    | invalid _ herror => cases hanswer herror
    | whole _ htext hsize =>
      cases hanswer htext
      exact absurd hlong (Nat.not_lt.mpr hsize)
    | shortened _ _ _ hfront hkept _ =>
      exact ⟨_, pieces, _, hdecode, hdescribe, hlength, hfdPiece, hpiece, hkept, hfront.size_le⟩
  | invalid hdata => exact absurd rfl hdata
  | whole hdata => exact absurd rfl hdata
  | shortened hdata => exact absurd rfl hdata

end Record

end SyscallTrace
