import Mathlib.Data.List.Forall2
import SyscallTrace.Config.Components
import SyscallTrace.Proofs.Text.Numerals

/-!
# Lists in a configuration

A field may hold several values, separated by commas. What stands between two commas is trimmed, and
left out if nothing remains; so a comma too many, at the ends or at the seam of two lists, adds no
value, and blanks around a value do not belong to it. Each of the items that remain is read as a
value, from the first one on, and the first that is none is the fault of the whole list
(specification §11.3).

- `Text.IsTrimmed`, `Text.isTrimmed_trim`, `Text.trim_eq_self_iff`: what trimming is good for.
- `Config.IsItem`: the texts that a list can hold.
- `Config.items_append`, `Config.items_intercalate`: two lists behind each other, and texts that are
  joined by commas.
- `Config.list_eq_ok_iff`, `Config.list_eq_error_iff`: when a list is read, and what is wrong
  otherwise.
- `Config.lists_split_and_join`: **lists are split and joined faithfully**, and so are the names and
  the threads of a `SuppressionConfig`.
-/

namespace SyscallTrace

/-! ## Trimmed texts -/

namespace Text

/-- A text that neither begins nor ends with a blank. -/
def IsTrimmed (cs : List Char) : Prop :=
  (∀ c, cs.head? = some c → isBlank c = false) ∧ ∀ c, cs.getLast? = some c → isBlank c = false

theorem not_isBlank_of_head? {cs : List Char} {c : Char}
    (h : (cs.dropWhile isBlank).head? = some c) : isBlank c = false := by
  have hfirst := List.head?_dropWhile_not isBlank cs
  rw [h] at hfirst
  exact hfirst

theorem trimEnd_isPrefixOf (cs : List Char) : trimEnd cs <+: cs := by
  rw [trimEnd, ← List.reverse_suffix, List.reverse_reverse]
  exact List.dropWhile_suffix _

theorem isTrimmed_trim (cs : List Char) : IsTrimmed (trim cs) := by
  refine ⟨fun c h => ?_, fun c h => ?_⟩
  · obtain ⟨back, hback⟩ := trimEnd_isPrefixOf (cs.dropWhile isBlank)
    have hfirst : (cs.dropWhile isBlank).head? = some c := by
      rw [← hback, List.head?_append]
      exact Option.or_eq_some_iff.mpr (.inl h)
    exact not_isBlank_of_head? hfirst
  · rw [trim, trimEnd, List.getLast?_reverse] at h
    exact not_isBlank_of_head? h

theorem dropWhile_of_head? {cs : List Char} (h : ∀ c, cs.head? = some c → isBlank c = false) :
    cs.dropWhile isBlank = cs := by
  cases cs with
  | nil => rfl
  | cons c cs =>
    have hfirst := h c rfl
    exact List.dropWhile_cons_of_neg (by rw [hfirst]; exact Bool.false_ne_true)

/-- Trimming leaves a text alone if and only if it is trimmed. -/
theorem trim_eq_self_iff {cs : List Char} : trim cs = cs ↔ IsTrimmed cs := by
  refine ⟨fun h => h ▸ isTrimmed_trim cs, fun h => ?_⟩
  have hback : ∀ c, cs.reverse.head? = some c → isBlank c = false := by
    intro c hc
    rw [List.head?_reverse] at hc
    exact h.2 c hc
  rw [trim, dropWhile_of_head? h.1, trimEnd, dropWhile_of_head? hback, List.reverse_reverse]

/-- A digit is no blank. -/
theorem not_isBlank_of_isDigit {c : Char} (h : c.isDigit = true) : isBlank c = false := by
  obtain ⟨hlow, hhigh⟩ := Char.isDigit_iff_toNat.mp h
  change 48 ≤ c.toNat at hlow
  change c.toNat ≤ 57 at hhigh
  simp only [isBlank, Bool.or_eq_false_iff, Bool.and_eq_false_iff, decide_eq_false_iff_not,
    beq_eq_false_iff_ne]
  omega

theorem mem_of_mem_trim {cs : List Char} {c : Char} (h : c ∈ trim cs) : c ∈ cs :=
  (List.dropWhile_suffix isBlank).subset ((trimEnd_isPrefixOf _).subset h)

end Text

namespace Config

/-! ## Items -/

/-- A text that a list can hold: not empty, without commas, and without blanks at its ends. -/
structure IsItem (text : String) : Prop where
  ne_empty : text ≠ ""
  noComma : ',' ∉ text.toList
  trimmed : Text.IsTrimmed text.toList

/-- A comma separates: what is before it, and what is behind it. -/
theorem items_append (a b : String) : items (a ++ "," ++ b) = items a ++ items b := by
  have hchars : (a ++ "," ++ b).toList = a.toList ++ ',' :: b.toList := by
    rw [String.toList_append, String.toList_append, List.append_assoc]
    rfl
  rw [items, hchars, List.splitOn_append_cons_self, List.map_append, List.filter_append,
    List.map_append]
  rfl

theorem items_empty : items "" = [] := by decide

/-- Without a comma there is at most one item. -/
theorem items_of_noComma {text : String} (h : ',' ∉ text.toList) :
    items text =
      if Text.trim text.toList = [] then [] else [String.ofList (Text.trim text.toList)] := by
  rw [items, List.splitOn_eq_singleton h, List.map_singleton]
  split
  · rename_i hblank
    rw [hblank]
    rfl
  · rename_i hsome
    rw [List.filter_cons_of_pos (by exact decide_eq_true hsome)]
    rfl

theorem items_of_isItem {text : String} (h : IsItem text) : items text = [text] := by
  have hne : text.toList ≠ [] := fun hnil => h.ne_empty (String.toList_eq_nil_iff.mp hnil)
  rw [items_of_noComma h.noComma, Text.trim_eq_self_iff.mpr h.trimmed, if_neg hne,
    String.ofList_toList]

/-- Items that are joined by commas are the items of the text. -/
theorem items_intercalate {texts : List String} (h : ∀ text ∈ texts, IsItem text) :
    items (",".intercalate texts) = texts := by
  induction texts with
  | nil => exact items_empty
  | cons text texts ih =>
    obtain ⟨htext, htexts⟩ := List.forall_mem_cons.mp h
    cases texts with
    | nil =>
      rw [String.intercalate_singleton]
      exact items_of_isItem htext
    | cons next texts =>
      rw [String.intercalate_cons_cons, items_append, items_of_isItem htext, ih htexts]
      rfl

/-- There is no comma in a part of a text that was split at its commas. -/
theorem comma_notMem_of_mem_splitOn {cs part : List Char} (h : part ∈ cs.splitOn ',') :
    ',' ∉ part := by
  induction cs generalizing part with
  | nil =>
    rw [List.splitOn_nil, List.mem_singleton] at h
    rw [h]
    exact List.not_mem_nil
  | cons c cs ih =>
    rw [List.splitOn_cons_eq_if_modifyHead] at h
    split at h
    · rcases List.mem_cons.mp h with rfl | h
      · exact List.not_mem_nil
      · exact ih h
    · rename_i hc
      obtain ⟨first, parts, hparts⟩ := List.exists_cons_of_ne_nil (List.splitOn_ne_nil ',' cs)
      rw [hparts, List.modifyHead_cons] at h
      rw [hparts] at ih
      rcases List.mem_cons.mp h with rfl | h
      · -- the character goes to the first part
        intro hmem
        rcases List.mem_cons.mp hmem with rfl | hmem
        · exact hc (beq_self_eq_true _)
        · exact ih List.mem_cons_self hmem
      · exact ih (List.mem_cons_of_mem first h)

/-- No item is empty or has a blank at its ends, and none goes across a comma. -/
theorem isItem_of_mem_items {text item : String} (h : item ∈ items text) : IsItem item := by
  obtain ⟨chars, hchars, rfl⟩ := List.mem_map.mp h
  obtain ⟨htrimmed, hne⟩ := List.mem_filter.mp hchars
  obtain ⟨part, hpart, rfl⟩ := List.mem_map.mp htrimmed
  refine { ne_empty := fun hempty => ?_, noComma := ?_, trimmed := ?_ }
  · exact of_decide_eq_true hne (String.ofList_eq_empty_iff.mp hempty)
  · rw [String.toList_ofList]
    exact fun hmem => comma_notMem_of_mem_splitOn hpart (Text.mem_of_mem_trim hmem)
  · rw [String.toList_ofList]
    exact Text.isTrimmed_trim part

example : items "sshd, cron,,bash " = ["sshd", "cron", "bash"] := by decide

/-- The items in a field. A field that is not there has none. -/
def itemsOf (c : Config) (field : String) : List String := ((c.get? field).map items).getD []

theorem itemsOf_insert (c : Config) (field value : String) :
    (c.insert field value).itemsOf field = items value := by
  rw [itemsOf, get?_insert_self]
  rfl

theorem itemsOf_insert_of_ne (c : Config) {field other : String} (value : String)
    (h : field ≠ other) : (c.insert field value).itemsOf other = c.itemsOf other := by
  rw [itemsOf, get?_insert_of_ne c value h, itemsOf]

theorem isItem_of_mem_itemsOf {c : Config} {field item : String} (h : item ∈ c.itemsOf field) :
    IsItem item := by
  rw [itemsOf] at h
  cases hvalue : c.get? field with
  | none =>
    rw [hvalue] at h
    cases h
  | some value =>
    rw [hvalue] at h
    exact isItem_of_mem_items h

/-! ## Values -/

section

variable {α : Type} {type : FieldType α} {c : Config} {field : String}

/-- The values in a field are those of its items. -/
theorem list_eq_mapM (c : Config) (type : FieldType α) (field : String) :
    c.list type field = (c.itemsOf field).mapM (read type field) := by
  rw [list, itemsOf]
  cases c.get? field <;> rfl

/-- One item more in front. -/
theorem mapM_read_cons (item : String) (items : List String) :
    (item :: items).mapM (read type field) =
      match type.read item with
      | .error fault => .error (.invalid field item fault)
      | .ok value => (items.mapM (read type field)).map (value :: ·) := by
  rw [List.mapM_cons, read]
  cases type.read item with
  | error fault => rfl
  | ok value => cases items.mapM (read type field) <;> rfl

/-- Items are read if each of them has a value. -/
theorem mapM_read_eq_ok_iff {items : List String} {values : List α} :
    items.mapM (read type field) = .ok values ↔
      List.Forall₂ (fun item value => type.read item = .ok value) items values := by
  induction items generalizing values with
  | nil =>
    rw [List.mapM_nil, List.forall₂_nil_left_iff]
    exact Except.ok.injEq [] values ▸ eq_comm
  | cons item items ih =>
    rw [mapM_read_cons, List.forall₂_cons_left_iff]
    cases hread : type.read item with
    | error fault =>
      refine iff_of_false (fun h => nomatch h) ?_
      rintro ⟨value, rest, hvalue, -⟩
      cases hvalue
    | ok value =>
      constructor
      · intro h
        cases hrest : items.mapM (read type field) with
        | error error =>
          rw [hrest] at h
          cases h
        | ok rest =>
          rw [hrest] at h
          cases h
          exact ⟨value, rest, rfl, ih.mp hrest, rfl⟩
      · rintro ⟨value, rest, hvalue, hrest, rfl⟩
        cases hvalue
        rw [ih.mpr hrest]
        rfl

/-- Otherwise the first item without a value is what is wrong. -/
theorem mapM_read_eq_error_iff {items : List String} {error : ConfigError} :
    items.mapM (read type field) = .error error ↔
      ∃ front item back fault, items = front ++ item :: back ∧
        (∀ before ∈ front, ∃ value, type.read before = .ok value) ∧
        type.read item = .error fault ∧ error = .invalid field item fault := by
  induction items with
  | nil =>
    refine iff_of_false (fun h => nomatch h) ?_
    rintro ⟨front, item, back, fault, hitems, -⟩
    exact List.append_ne_nil_of_right_ne_nil front (List.cons_ne_nil item back) hitems.symm
  | cons item items ih =>
    rw [mapM_read_cons]
    constructor
    · intro h
      cases hread : type.read item with
      | error fault =>
        rw [hread] at h
        cases h
        exact ⟨[], item, items, fault, rfl, fun _ hmem => absurd hmem List.not_mem_nil, hread, rfl⟩
      | ok value =>
        rw [hread] at h
        cases hrest : items.mapM (read type field) with
        | ok rest =>
          rw [hrest] at h
          cases h
        | error error' =>
          rw [hrest] at h
          cases h
          obtain ⟨front, bad, back, fault, rfl, hfront, hbad⟩ := ih.mp hrest
          exact ⟨item :: front, bad, back, fault, rfl,
            List.forall_mem_cons.mpr ⟨⟨value, hread⟩, hfront⟩, hbad⟩
    · rintro ⟨front, bad, back, fault, hitems, hfront, hbad, rfl⟩
      -- the item to blame is the first one, or comes after it
      cases front with
      | nil =>
        cases hitems
        rw [hbad]
      | cons first front =>
        cases hitems
        obtain ⟨⟨value, hread⟩, hfront⟩ := List.forall_mem_cons.mp hfront
        rw [hread, ih.mpr ⟨front, bad, back, fault, rfl, hfront, hbad, rfl⟩]
        rfl

/-- A list is read if each of its items has a value. -/
theorem list_eq_ok_iff {values : List α} :
    c.list type field = .ok values ↔
      List.Forall₂ (fun item value => type.read item = .ok value) (c.itemsOf field) values := by
  rw [list_eq_mapM]
  exact mapM_read_eq_ok_iff

/-- A list that is not read has an item without a value, and the first such item is to blame. -/
theorem list_eq_error_iff {error : ConfigError} :
    c.list type field = .error error ↔
      ∃ front item back fault, c.itemsOf field = front ++ item :: back ∧
        (∀ before ∈ front, ∃ value, type.read before = .ok value) ∧
        type.read item = .error fault ∧ error = .invalid field item fault := by
  rw [list_eq_mapM]
  exact mapM_read_eq_error_iff

/-- The values of two lists, one behind the other. -/
theorem list_insert_append (c : Config) (type : FieldType α) (field a b : String) :
    (c.insert field (a ++ "," ++ b)).list type field = do
      let front ← (c.insert field a).list type field
      let back ← (c.insert field b).list type field
      return front ++ back := by
  simp only [list_eq_mapM, itemsOf_insert, items_append, List.mapM_append]

/-- Every item is a text. -/
theorem list_text (c : Config) (field : String) : c.list .text field = .ok (c.itemsOf field) := by
  rw [list_eq_ok_iff]
  exact List.forall₂_same.mpr fun _ _ => rfl

end

end Config

/-! ## What is suppressed from the start -/

namespace SuppressionConfig

open Config (IsItem items items_intercalate)

/-- A field that names a thread holds its id in decimal. -/
theorem read_tid_eq_ok_iff {item : String} {tid : Tid} :
    (FieldType.uint64.map Tid.mk).read item = .ok tid ↔ IsDecimal item.toList tid.raw.toNat := by
  rw [← FieldType.read_uint64_eq_ok_iff]
  show (FieldType.uint64.read item).map Tid.mk = .ok tid ↔ _
  cases FieldType.uint64.read item with
  | error fault => exact iff_of_false (fun h => nomatch h) (fun h => nomatch h)
  | ok n =>
    obtain ⟨raw⟩ := tid
    simp [Except.map]

/-- Names are always read, so all depends on the threads. -/
theorem ofConfig_eq (c : Config) :
    ofConfig c =
      (c.list (FieldType.uint64.map Tid.mk) "suppressed_tids").map fun tids =>
        { commands := c.itemsOf "suppressed_comms", tids } := by
  rw [ofConfig, Config.list_text]
  cases c.list (FieldType.uint64.map Tid.mk) "suppressed_tids" <;> rfl

theorem ofConfig_eq_ok_iff {c : Config} {config : SuppressionConfig} :
    ofConfig c = .ok config ↔
      config.commands = c.itemsOf "suppressed_comms" ∧
        List.Forall₂ (fun item tid => IsDecimal item.toList tid.raw.toNat)
          (c.itemsOf "suppressed_tids") config.tids := by
  simp only [← read_tid_eq_ok_iff]
  rw [ofConfig_eq, ← Config.list_eq_ok_iff]
  obtain ⟨commands, tids⟩ := config
  cases c.list (FieldType.uint64.map Tid.mk) "suppressed_tids" with
  | error error => simp [Except.map]
  | ok read => simp [Except.map, eq_comm]

theorem ofConfig_eq_error_iff {c : Config} {error : ConfigError} :
    ofConfig c = .error error ↔
      c.list (FieldType.uint64.map Tid.mk) "suppressed_tids" = .error error := by
  rw [ofConfig_eq]
  cases c.list (FieldType.uint64.map Tid.mk) "suppressed_tids" with
  | error error => simp [Except.map]
  | ok read => simp [Except.map]

/-- Each item of a list that was read has its value. -/
theorem exists_of_forall₂ {denotes : String → Tid → Prop} {items : List String} {tids : List Tid}
    (h : List.Forall₂ denotes items tids) {item : String} (hitem : item ∈ items) :
    ∃ tid, denotes item tid := by
  induction h with
  | nil => cases hitem
  | cons hfirst _ ih =>
    rcases List.mem_cons.mp hitem with rfl | hitem
    · exact ⟨_, hfirst⟩
    · exact ih hitem

/-- A configuration is refused because of an item that is not the id of a thread. -/
theorem exists_ofConfig_eq_error_iff {c : Config} :
    (∃ error, ofConfig c = .error error) ↔
      ∃ item ∈ c.itemsOf "suppressed_tids", ∀ tid : Tid, ¬ IsDecimal item.toList tid.raw.toNat := by
  constructor
  · rintro ⟨error, herror⟩
    obtain ⟨front, item, back, fault, hitems, -, hread, -⟩ :=
      Config.list_eq_error_iff.mp (ofConfig_eq_error_iff.mp herror)
    refine ⟨item, hitems ▸ List.mem_append_right front List.mem_cons_self, fun tid hdecimal => ?_⟩
    rw [read_tid_eq_ok_iff.mpr hdecimal] at hread
    cases hread
  · rintro ⟨item, hitem, hno⟩
    cases hconfig : ofConfig c with
    | error error => exact ⟨error, rfl⟩
    | ok config =>
      obtain ⟨tid, hdecimal⟩ := exists_of_forall₂ (ofConfig_eq_ok_iff.mp hconfig).2 hitem
      exact absurd hdecimal (hno tid)

/-- The decimal text of a thread can stand in a list. -/
theorem isItem_text (tid : Tid) : IsItem tid.text := by
  obtain ⟨hne, hdigits, -⟩ := tid.isDigits_text
  refine { ne_empty := fun h => hne (h ▸ rfl), noComma := fun h => ?_, trimmed := ⟨?_, ?_⟩ }
  · exact absurd (hdigits ',' h) (by decide)
  · exact fun c hc => Text.not_isBlank_of_isDigit (hdigits c (List.mem_of_head? hc))
  · exact fun c hc => Text.not_isBlank_of_isDigit (hdigits c (List.mem_of_getLast? hc))

/-- Names and threads that are joined by commas are what is suppressed from the start. -/
theorem ofConfig_intercalate (c : Config) {names : List String} (h : ∀ name ∈ names, IsItem name)
    (tids : List Tid) :
    ofConfig ((c.insert "suppressed_comms" (",".intercalate names)).insert "suppressed_tids"
      (",".intercalate (tids.map Tid.text))) = .ok { commands := names, tids } := by
  have htexts : ∀ text ∈ tids.map Tid.text, IsItem text :=
    List.forall_mem_map.mpr fun tid _ => isItem_text tid
  rw [ofConfig_eq_ok_iff, Config.itemsOf_insert, Config.itemsOf_insert_of_ne _ _ (by decide),
    Config.itemsOf_insert, items_intercalate h, items_intercalate htexts]
  exact ⟨rfl, List.forall₂_map_left_iff.mpr (List.forall₂_same.mpr fun tid _ => tid.isDecimal_text)⟩

end SuppressionConfig

/-- **Lists are split and joined faithfully.** With a comma between them, two texts hold the values
of the first and then those of the second; a list is read if every item has a value, and otherwise
the first item without one is to blame. No item is empty, blank or untrimmed, and texts that are
none of these are got back when they are joined by commas. So what is suppressed from the start are
the names and the threads that are listed, in their order, unless an item does not stand for a
thread. -/
theorem Config.lists_split_and_join :
    (∀ (α : Type) (type : FieldType α) (c : Config) (field a b : String),
      (c.insert field (a ++ "," ++ b)).list type field = do
        let front ← (c.insert field a).list type field
        let back ← (c.insert field b).list type field
        return front ++ back) ∧
    (∀ (α : Type) (type : FieldType α) (c : Config) (field : String),
      (∀ values, c.list type field = .ok values ↔
        List.Forall₂ (fun item value => type.read item = .ok value) (c.itemsOf field) values) ∧
      (∀ error, c.list type field = .error error ↔
        ∃ front item back fault, c.itemsOf field = front ++ item :: back ∧
          (∀ before ∈ front, ∃ value, type.read before = .ok value) ∧
          type.read item = .error fault ∧ error = .invalid field item fault)) ∧
    (∀ (c : Config) (field : String), c.list .text field = .ok (c.itemsOf field) ∧
      ∀ item ∈ c.itemsOf field, IsItem item) ∧
    (∀ (c : Config) (field : String) (texts : List String), (∀ text ∈ texts, IsItem text) →
      (c.insert field (",".intercalate texts)).list .text field = .ok texts) ∧
    (∀ c : Config,
      (∀ config, SuppressionConfig.ofConfig c = .ok config ↔
        config.commands = c.itemsOf "suppressed_comms" ∧
          List.Forall₂ (fun item tid => IsDecimal item.toList tid.raw.toNat)
            (c.itemsOf "suppressed_tids") config.tids) ∧
      ((∃ error, SuppressionConfig.ofConfig c = .error error) ↔
        ∃ item ∈ c.itemsOf "suppressed_tids",
          ∀ tid : Tid, ¬ IsDecimal item.toList tid.raw.toNat)) ∧
    (∀ (c : Config) (names : List String) (tids : List Tid), (∀ name ∈ names, IsItem name) →
      SuppressionConfig.ofConfig
          ((c.insert "suppressed_comms" (",".intercalate names)).insert "suppressed_tids"
            (",".intercalate (tids.map Tid.text))) =
        .ok { commands := names, tids }) := by
  refine ⟨fun α type c => list_insert_append c type, fun α type c field => ⟨?_, ?_⟩,
    fun c field => ⟨list_text c field, fun item => isItem_of_mem_itemsOf⟩,
    fun c field texts htexts => ?_, fun c => ⟨?_, ?_⟩,
    fun c names tids hnames => SuppressionConfig.ofConfig_intercalate c hnames tids⟩
  · exact fun values => list_eq_ok_iff
  · exact fun error => list_eq_error_iff
  · rw [list_text, itemsOf_insert, items_intercalate htexts]
  · exact fun config => SuppressionConfig.ofConfig_eq_ok_iff
  · exact SuppressionConfig.exists_ofConfig_eq_error_iff

/-- Two names and two threads. -/
theorem Config.names_and_threads_listed :
    let c := (Config.empty.insert "suppressed_comms" "sshd,cron").insert "suppressed_tids" "12,40"
    (∀ name ∈ ["sshd", "cron"], IsItem name) ∧
      (Config.empty.insert "suppressed_comms" "sshd,cron").list .text "suppressed_comms" =
        .ok ["sshd", "cron"] ∧
      SuppressionConfig.ofConfig c =
        .ok { commands := ["sshd", "cron"], tids := [⟨12⟩, ⟨40⟩] } := by
  intro c
  have hitem : ∀ text : String, text ≠ "" → ',' ∉ text.toList →
      Text.trim text.toList = text.toList → IsItem text := fun text hne hcomma htrim =>
    ⟨hne, hcomma, Text.trim_eq_self_iff.mp htrim⟩
  have hnames : ∀ name ∈ ["sshd", "cron"], IsItem name := by
    rw [List.forall_mem_cons, List.forall_mem_singleton]
    exact ⟨hitem "sshd" (by decide) (by decide) (by decide),
      hitem "cron" (by decide) (by decide) (by decide)⟩
  obtain ⟨-, -, -, hjoined, -, hconfig⟩ := lists_split_and_join
  exact ⟨hnames, hjoined .empty "suppressed_comms" ["sshd", "cron"] hnames,
    hconfig .empty ["sshd", "cron"] [⟨12⟩, ⟨40⟩] hnames⟩

end SyscallTrace
