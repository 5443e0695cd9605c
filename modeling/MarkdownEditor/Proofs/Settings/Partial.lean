import MarkdownEditor.Proofs.Json.Printed
import MarkdownEditor.Proofs.Settings.Decoded

/-!
# Settings that are given in part

An object may give some of the fields, in any order and with unknown members in between. Each
field is what its member spells, and the default where it has none. A known member of the wrong
type spoils the whole, whatever else is there.
-/

namespace MarkdownEditor

set_option autoImplicit false

open Json

/-- The options by their names. -/
def PreviewOptions.flags : List (String × (PreviewOptions → Bool)) :=
  [("tables", tables), ("strikethrough", strikethrough), ("autolink", autolink),
    ("tasklist", tasklist), ("allow_raw_html", allowRawHtml), ("hard_breaks", hardBreaks)]

namespace Settings

variable {α : Type} {name : String} {ms : List (Text × Term)} {v : Term}

def AtMostOnce (name : String) (ms : List (Text × Term)) : Prop :=
  (ms.map Prod.fst).count name.toList ≤ 1

instance (name : String) (ms : List (Text × Term)) : Decidable (AtMostOnce name ms) :=
  inferInstanceAs (Decidable (_ ≤ 1))

/-- The member of that name, if there is one, spells the value; the value is the missing one if
there is none. -/
structure IsField (name : String) (ms : List (Text × Term)) (spells : α → Term → Prop)
    (missing value : α) : Prop where
  given : ∀ v, (name.toList, v) ∈ ms → spells value v
  absent : (∀ v, (name.toList, v) ∉ ms) → value = missing

def SpellsModifier (m : ModifierPreference) (v : Term) : Prop := v = .string m.id.toList

def SpellsLimit (limit : Nat) (v : Term) : Prop := ∃ a, v = .number a ∧ a.natural? = some limit

def SpellsAliases (aliases : Dictionary Text) (v : Term) : Prop :=
  ∃ es : List (Text × Text), v = .object (es.map fun e => (e.1, .string e.2)) ∧
    aliases = .ofList es

def SpellsFlag (b : Bool) (v : Term) : Prop := v = .bool b

def SpellsPreview (options : PreviewOptions) (v : Term) : Prop :=
  ∃ ms, v = .object ms ∧ ∀ flag ∈ PreviewOptions.flags, AtMostOnce flag.1 ms ∧
    IsField flag.1 ms SpellsFlag (flag.2 .default) (flag.2 options)

/-- The settings take each field from the members, or from the defaults. -/
structure Takes (ms : List (Text × Term)) (s : Settings) : Prop where
  modifier : IsField "primary_modifier" ms SpellsModifier default.primaryModifier s.primaryModifier
  limit : IsField "undo_history_limit" ms SpellsLimit default.undoHistoryLimit s.undoHistoryLimit
  aliases : IsField "language_aliases" ms SpellsAliases default.languageAliases s.languageAliases
  preview : IsField "preview" ms SpellsPreview default.preview s.preview

def fieldNames : List String :=
  ["primary_modifier", "undo_history_limit", "language_aliases", "preview"]

/-- Every known member that is there has a value of its type. -/
structure WellTyped (ms : List (Text × Term)) : Prop where
  modifier : ∀ v, ("primary_modifier".toList, v) ∈ ms →
    ∃ m : ModifierPreference, v = .string m.id.toList
  limit : ∀ v, ("undo_history_limit".toList, v) ∈ ms → ∃ a : Numeral, v = .number a ∧
    a.minus = false ∧ a.fraction = none ∧ a.exponent = none ∧
    Text.ofDigits a.whole < 18446744073709551616
  aliases : ∀ v, ("language_aliases".toList, v) ∈ ms →
    ∃ es : List (Text × Text), v = .object (es.map fun e => (e.1, .string e.2))
  preview : ∀ v, ("preview".toList, v) ∈ ms → ∃ inner, v = .object inner ∧
    ∀ flag ∈ PreviewOptions.flags, AtMostOnce flag.1 inner ∧
      ∀ w, (flag.1.toList, w) ∈ inner → ∃ b, w = .bool b

inductive IllTyped : Text × Term → Prop
  | modifier {id : Text} (h : ∀ m : ModifierPreference, id ≠ m.id.toList) :
      IllTyped ("primary_modifier".toList, .string id)
  | limitString (t : Text) : IllTyped ("undo_history_limit".toList, .string t)
  | limitNumber {a : Numeral} (h : a.minus = true ∨ a.fraction ≠ none ∨ a.exponent ≠ none ∨
      18446744073709551616 ≤ Text.ofDigits a.whole) :
      IllTyped ("undo_history_limit".toList, .number a)
  | aliasValue {inner : List (Text × Term)} {e : Text × Term} (he : e ∈ inner)
      (h : ∀ t, e.2 ≠ .string t) : IllTyped ("language_aliases".toList, .object inner)
  | flag {inner : List (Text × Term)} {flag : String × (PreviewOptions → Bool)} {w : Term}
      (hFlag : flag ∈ PreviewOptions.flags) (hw : (flag.1.toList, w) ∈ inner)
      (h : ∀ b, w ≠ .bool b) : IllTyped ("preview".toList, .object inner)

theorem not_mem_of_atMostOnce {before after : List (Text × Term)}
    (h : AtMostOnce name (before ++ (name.toList, v) :: after)) :
    name.toList ∉ before.map Prod.fst ∧ name.toList ∉ after.map Prod.fst := by
  rw [AtMostOnce, List.map_append, List.map_cons, List.count_append, List.count_cons_self] at h
  exact ⟨List.count_eq_zero.mp (by omega), List.count_eq_zero.mp (by omega)⟩

theorem eq_of_atMostOnce {w : Term} (h : AtMostOnce name ms) (hv : (name.toList, v) ∈ ms)
    (hw : (name.toList, w) ∈ ms) : v = w := by
  obtain ⟨before, after, rfl⟩ := List.append_of_mem hv
  obtain ⟨hBefore, hAfter⟩ := not_mem_of_atMostOnce h
  rcases List.mem_append.mp hw with hw | hw
  · exact absurd (List.mem_map_of_mem hw) hBefore
  · rcases List.mem_cons.mp hw with hw | hw
    · exact (Prod.mk.inj hw).2.symm
    · exact absurd (List.mem_map_of_mem hw) hAfter

section

variable {spells : α → Term → Prop} {missing value : α}

theorem isField_of_mem (hOnce : AtMostOnce name ms) (hv : (name.toList, v) ∈ ms)
    (h : spells value v) : IsField name ms spells missing value := by
  refine ⟨fun w hw => ?_, fun hAbsent => absurd hv (hAbsent v)⟩
  rwa [← eq_of_atMostOnce hOnce hv hw]

theorem isField_of_not_mem (h : name.toList ∉ ms.map Prod.fst) :
    IsField name ms spells missing missing :=
  ⟨fun _ hv => absurd (List.mem_map_of_mem hv) h, fun _ => rfl⟩

theorem exists_isField (missing : α) (hOnce : AtMostOnce name ms)
    (h : ∀ v, (name.toList, v) ∈ ms → ∃ a, spells a v) :
    ∃ value, IsField name ms spells missing value := by
  by_cases hKey : name.toList ∈ ms.map Prod.fst
  · obtain ⟨⟨key, v⟩, hv, rfl⟩ := List.mem_map.mp hKey
    obtain ⟨a, ha⟩ := h v hv
    exact ⟨a, isField_of_mem hOnce hv ha⟩
  · exact ⟨missing, isField_of_not_mem hKey⟩

end

end Settings

namespace SettingsReader

open Settings

variable {α σ : Type} {name : String} {ms : List (Text × Term)} {v : Term}

/-- The value of a field once its key was read. -/
def seen (name : String) (value : α) (keys : List Text) : Option α :=
  if name.toList ∈ keys then some value else none

theorem seen_of_not_mem {keys : List Text} (h : name.toList ∉ keys) (value : α) :
    seen name value keys = none :=
  if_neg h

theorem seen_concat_self (name : String) (value : α) (keys : List Text) :
    seen name value (keys ++ [name.toList]) = some value :=
  if_pos (List.mem_append_right keys List.mem_cons_self)

theorem seen_concat_of_ne {key : Text} (h : key ≠ name.toList) (value : α) (keys : List Text) :
    seen name value (keys ++ [key]) = seen name value keys := by
  simp only [seen, List.mem_append, List.mem_singleton, Ne.symm h, or_false]

theorem getD_seen {spells : α → Term → Prop} {missing value : α}
    (h : IsField name ms spells missing value) :
    (seen name value (ms.map Prod.fst)).getD missing = value := by
  unfold seen
  split
  · rfl
  · next hKey =>
    refine (h.absent fun v hv => hKey ?_).symm
    exact List.mem_map_of_mem hv

theorem decodeField_of_some {current : Option α} {set : α → σ} {decode : Term → Option α} {a : α}
    (hCurrent : current = none) (h : decode v = some a) :
    decodeField current set decode v = some (set a) := by
  rw [decodeField, hCurrent, h]
  rfl

theorem decodeField_of_none (current : Option α) (set : α → σ) {decode : Term → Option α}
    (h : decode v = none) : decodeField current set decode v = none := by
  rw [decodeField, h]
  split <;> rfl

section

variable {decode : Text → σ → Term → Option σ}

/-- If a draft shows just the keys that were read, it shows all keys in the end. -/
theorem decodeMembers_eq_some {draft : List Text → σ}
    (h : ∀ before key v after, ms = before ++ (key, v) :: after →
      decode key (draft (before.map Prod.fst)) v = some (draft (before.map Prod.fst ++ [key]))) :
    decodeMembers decode (draft []) ms = some (draft (ms.map Prod.fst)) := by
  suffices hAll : ∀ after before, ms = before ++ after →
      decodeMembers decode (draft (before.map Prod.fst)) after =
        some (draft (ms.map Prod.fst)) from hAll ms [] rfl
  intro after
  -- the members that were read grow at their end while the others shrink
  induction after with
  | nil =>
    intro before hms
    rw [hms, List.append_nil]
    rfl
  | cons m after ih =>
    intro before hms
    obtain ⟨key, v⟩ := m
    have hLater := ih (before ++ [(key, v)]) (by rw [hms, List.append_assoc, List.singleton_append])
    rw [List.map_append, List.map_singleton] at hLater
    rw [decodeMembers, h before key v after hms, Option.bind_some, hLater]

theorem decodeMembers_eq_none {m : Text × Term} (hm : m ∈ ms)
    (h : ∀ state, decode m.1 state m.2 = none) (state : σ) :
    decodeMembers decode state ms = none := by
  induction ms generalizing state with
  | nil => cases hm
  | cons first ms ih =>
    rw [decodeMembers]
    rcases List.mem_cons.mp hm with rfl | hm
    · rw [h state]
      rfl
    · cases decode first.1 state first.2 with
      | none => rfl
      | some next => exact ih hm next

end

theorem decodeField_step {key : Text} {current : Option α} {set : α → σ}
    {decode : Term → Option α} {others : Option σ} {next : σ} (a : α)
    (hField : key = name.toList → current = none ∧ decode v = some a)
    (hOthers : key ≠ name.toList → others = some next)
    (hSet : key = name.toList → set a = next) :
    (if key = name.toList then decodeField current set decode v else others) = some next := by
  split
  · next hKey =>
    obtain ⟨hCurrent, hValue⟩ := hField hKey
    rw [decodeField_of_some hCurrent hValue, hSet hKey]
  · next hKey => exact hOthers hKey

theorem seen_and_decode {spells : α → Term → Prop} {missing value : α} {decode : Term → Option α}
    {key : Text} {before after : List (Text × Term)}
    (hOnce : AtMostOnce name ms) (hField : IsField name ms spells missing value)
    (hDecode : ∀ v, spells value v → decode v = some value)
    (hms : ms = before ++ (key, v) :: after) (hKey : key = name.toList) :
    seen name value (before.map Prod.fst) = none ∧ decode v = some value := by
  subst hms hKey
  refine ⟨seen_of_not_mem (not_mem_of_atMostOnce hOnce).1 value, hDecode v (hField.given v ?_)⟩
  exact List.mem_append_right before List.mem_cons_self

theorem bool?_of_spells {b : Bool} (h : SpellsFlag b v) : v.bool? = some b := by
  rw [h]
  rfl

/-- The draft once the keys were read. -/
def previewDraft (options : PreviewOptions) (keys : List Text) : PreviewDraft :=
  ⟨seen "tables" options.tables keys, seen "strikethrough" options.strikethrough keys,
    seen "autolink" options.autolink keys, seen "tasklist" options.tasklist keys,
    seen "allow_raw_html" options.allowRawHtml keys, seen "hard_breaks" options.hardBreaks keys⟩

section

variable {options : PreviewOptions}
  (h : ∀ flag ∈ PreviewOptions.flags, AtMostOnce flag.1 ms ∧
    IsField flag.1 ms SpellsFlag (flag.2 .default) (flag.2 options))
include h

theorem decodePreviewMember_previewDraft {before after : List (Text × Term)} {key : Text}
    (hms : ms = before ++ (key, v) :: after) :
    decodePreviewMember key (previewDraft options (before.map Prod.fst)) v =
      some (previewDraft options (before.map Prod.fst ++ [key])) := by
  have hField (flag : String × (PreviewOptions → Bool)) (hFlag : flag ∈ PreviewOptions.flags)
      (hKey : key = flag.1.toList) :=
    seen_and_decode (h flag hFlag).1 (h flag hFlag).2 (fun _ => bool?_of_spells) hms hKey
  simp only [PreviewOptions.flags, List.forall_mem_cons] at hField
  obtain ⟨hTables, hStrikethrough, hAutolink, hTasklist, hMarkup, hBreaks, -⟩ := hField
  unfold decodePreviewMember
  refine decodeField_step options.tables hTables (fun hTables => ?_) ?_
  refine decodeField_step options.strikethrough hStrikethrough (fun hStrikethrough => ?_) ?_
  refine decodeField_step options.autolink hAutolink (fun hAutolink => ?_) ?_
  refine decodeField_step options.tasklist hTasklist (fun hTasklist => ?_) ?_
  refine decodeField_step options.allowRawHtml hMarkup (fun hMarkup => ?_) ?_
  refine decodeField_step options.hardBreaks hBreaks (fun hBreaks => ?_) ?_
  -- an unknown key leaves the draft as it is; a known one shows its field and no other
  · simp only [previewDraft, seen_concat_of_ne hTables, seen_concat_of_ne hStrikethrough,
      seen_concat_of_ne hAutolink, seen_concat_of_ne hTasklist, seen_concat_of_ne hMarkup,
      seen_concat_of_ne hBreaks]
  all_goals
    intro hKey
    rw [hKey]
    simp (disch := decide) only [previewDraft, seen_concat_self, seen_concat_of_ne]

/-- An object that spells the options is decoded to them. -/
theorem preview?_of_fields : preview? (.object ms) = some options := by
  have hMembers := decodeMembers_eq_some fun before key v after hms =>
    decodePreviewMember_previewDraft h hms
  have hDraft : previewDraft options [] = .empty := rfl
  rw [hDraft] at hMembers
  have hComplete (flag : String × (PreviewOptions → Bool)) (hFlag : flag ∈ PreviewOptions.flags) :=
    getD_seen (h flag hFlag).2
  simp only [PreviewOptions.flags, List.forall_mem_cons, List.not_mem_nil, false_imp_iff,
    implies_true, and_true] at hComplete
  obtain ⟨hTables, hStrikethrough, hAutolink, hTasklist, hMarkup, hBreaks⟩ := hComplete
  rw [preview?, decodeRecord, hMembers, Option.map_some]
  simp only [previewDraft, PreviewDraft.complete, hTables, hStrikethrough, hAutolink, hTasklist,
    hMarkup, hBreaks]

end

theorem decodePreviewMember_eq_none {flag : String × (PreviewOptions → Bool)}
    (hFlag : flag ∈ PreviewOptions.flags) (hv : v.bool? = none) (d : PreviewDraft) :
    decodePreviewMember flag.1.toList d v = none := by
  simp only [PreviewOptions.flags, List.mem_cons, List.not_mem_nil, or_false] at hFlag
  rcases hFlag with rfl | rfl | rfl | rfl | rfl | rfl <;>
    simp [decodePreviewMember, decodeField_of_none _ _ hv]

theorem modifier?_of_spells {m : ModifierPreference} (h : SpellsModifier m v) :
    modifier? v = some m := by
  rw [h]
  exact ofId?_id m

theorem natural?_of_spells {limit : Nat} (h : SpellsLimit limit v) : v.natural? = some limit := by
  obtain ⟨a, rfl, ha⟩ := h
  exact ha

theorem aliases?_of_spells {aliases : Dictionary Text} (h : SpellsAliases aliases v) :
    aliases? v = some aliases := by
  obtain ⟨es, rfl, rfl⟩ := h
  exact aliases?_of_strings es

theorem preview?_of_spells {options : PreviewOptions} (h : SpellsPreview options v) :
    preview? v = some options := by
  obtain ⟨ms, rfl, hFlags⟩ := h
  exact preview?_of_fields hFlags

/-- The draft once the keys were read. -/
def settingsDraft (s : Settings) (keys : List Text) : Draft :=
  ⟨seen "primary_modifier" s.primaryModifier keys,
    seen "undo_history_limit" s.undoHistoryLimit keys,
    seen "language_aliases" s.languageAliases keys, seen "preview" s.preview keys⟩

section

variable {s : Settings} (hOnce : ∀ name ∈ fieldNames, AtMostOnce name ms) (h : Takes ms s)
include hOnce h

theorem decodeSettingsMember_settingsDraft {before after : List (Text × Term)} {key : Text}
    (hms : ms = before ++ (key, v) :: after) :
    decodeSettingsMember key (settingsDraft s (before.map Prod.fst)) v =
      some (settingsDraft s (before.map Prod.fst ++ [key])) := by
  have hNames := hOnce
  simp only [fieldNames, List.forall_mem_cons] at hNames
  unfold decodeSettingsMember
  refine decodeField_step s.primaryModifier
    (seen_and_decode hNames.1 h.modifier (fun _ => modifier?_of_spells) hms)
    (fun hModifier => ?_) ?_
  refine decodeField_step s.undoHistoryLimit
    (seen_and_decode hNames.2.1 h.limit (fun _ => natural?_of_spells) hms) (fun hLimit => ?_) ?_
  refine decodeField_step s.languageAliases
    (seen_and_decode hNames.2.2.1 h.aliases (fun _ => aliases?_of_spells) hms)
    (fun hAliases => ?_) ?_
  refine decodeField_step s.preview
    (seen_and_decode hNames.2.2.2.1 h.preview (fun _ => preview?_of_spells) hms)
    (fun hPreview => ?_) ?_
  · simp only [settingsDraft, seen_concat_of_ne hModifier, seen_concat_of_ne hLimit,
      seen_concat_of_ne hAliases, seen_concat_of_ne hPreview]
  all_goals
    intro hKey
    rw [hKey]
    simp (disch := decide) only [settingsDraft, seen_concat_self, seen_concat_of_ne]

/-- An object from which the settings take their fields is decoded to them. -/
theorem settings?_of_takes : settings? (.object ms) = some s := by
  have hMembers := decodeMembers_eq_some fun before key v after hms =>
    decodeSettingsMember_settingsDraft hOnce h hms
  have hDraft : settingsDraft s [] = .empty := rfl
  rw [hDraft] at hMembers
  rw [settings?, decodeRecord, hMembers, Option.map_some]
  simp only [settingsDraft, Draft.complete, getD_seen h.modifier, getD_seen h.limit,
    getD_seen h.aliases, getD_seen h.preview]

end

theorem modifier?_eq_none {id : Text} (h : ∀ m : ModifierPreference, id ≠ m.id.toList) :
    modifier? (.string id) = none := by
  refine List.find?_eq_none.mpr fun m _ hm => ?_
  exact h m (beq_iff_eq.mp hm).symm

theorem natural?_eq_none {a : Numeral} (h : a.minus = true ∨ a.fraction ≠ none ∨
    a.exponent ≠ none ∨ 18446744073709551616 ≤ Text.ofDigits a.whole) : a.natural? = none := by
  cases hNatural : a.natural? with
  | none => rfl
  | some k =>
    obtain ⟨hMinus, hFraction, hExponent, hValue, hFits⟩ := Numeral.natural?_eq_some hNatural
    rcases h with h | h | h | h
    · exact absurd (hMinus.symm.trans h) (by decide)
    · exact absurd hFraction h
    · exact absurd hExponent h
    · simp only [maxWord] at hFits
      omega

theorem string?_eq_none (h : ∀ t, v ≠ .string t) : v.string? = none := by
  cases v with
  | string t => exact absurd rfl (h t)
  | null | bool | number | list | object => rfl

theorem bool?_eq_none (h : ∀ b, v ≠ .bool b) : v.bool? = none := by
  cases v with
  | bool b => exact absurd rfl (h b)
  | null | number | string | list | object => rfl

theorem aliases?_eq_none {e : Text × Term} (he : e ∈ ms) (h : ∀ t, e.2 ≠ .string t) :
    aliases? (.object ms) = none := by
  have hAlias (d : Dictionary Text) : decodeAlias e.1 d e.2 = none := by
    rw [decodeAlias, string?_eq_none h]
    rfl
  exact decodeMembers_eq_none he hAlias .empty

theorem preview?_eq_none {flag : String × (PreviewOptions → Bool)}
    (hFlag : flag ∈ PreviewOptions.flags) (hv : (flag.1.toList, v) ∈ ms) (h : ∀ b, v ≠ .bool b) :
    preview? (.object ms) = none := by
  have hMembers : decodeMembers decodePreviewMember .empty ms = none :=
    decodeMembers_eq_none hv (decodePreviewMember_eq_none hFlag (bool?_eq_none h)) .empty
  rw [preview?, decodeRecord, hMembers]
  rfl

theorem decodeSettingsMember_of_illTyped {m : Text × Term} (h : IllTyped m) (d : Draft) :
    decodeSettingsMember m.1 d m.2 = none := by
  cases h with
  | modifier h => simp [decodeSettingsMember, decodeField_of_none _ _ (modifier?_eq_none h)]
  | limitString t =>
    have hNone : (Term.string t).natural? = none := rfl
    simp [decodeSettingsMember, decodeField_of_none _ _ hNone]
  | limitNumber h =>
    have hNone : (Term.number _).natural? = none := natural?_eq_none h
    simp [decodeSettingsMember, decodeField_of_none _ _ hNone]
  | aliasValue he h => simp [decodeSettingsMember, decodeField_of_none _ _ (aliases?_eq_none he h)]
  | flag hFlag hw h =>
    simp [decodeSettingsMember, decodeField_of_none _ _ (preview?_eq_none hFlag hw h)]

theorem settings?_of_illTyped {m : Text × Term} (hm : m ∈ ms) (h : IllTyped m) :
    settings? (.object ms) = none := by
  have hMembers : decodeMembers decodeSettingsMember .empty ms = none :=
    decodeMembers_eq_none hm (decodeSettingsMember_of_illTyped h) .empty
  rw [settings?, decodeRecord, hMembers]
  rfl

end SettingsReader

namespace Settings

open SettingsReader

variable {ms : List (Text × Term)} {t : Text}

theorem natural?_of_parts {a : Numeral} (hMinus : a.minus = false) (hFraction : a.fraction = none)
    (hExponent : a.exponent = none) (hSmall : Text.ofDigits a.whole < 18446744073709551616) :
    a.natural? = some (Text.ofDigits a.whole) := by
  have hFits : Text.ofDigits a.whole ≤ maxWord := Nat.le_of_lt_succ hSmall
  simp [Numeral.natural?, hMinus, hFraction, hExponent, hFits]

theorem exists_options (h : ∀ flag ∈ PreviewOptions.flags, AtMostOnce flag.1 ms ∧
      ∀ w, (flag.1.toList, w) ∈ ms → ∃ b, w = .bool b) :
    ∃ options, SpellsPreview options (.object ms) := by
  have hField (flag : String × (PreviewOptions → Bool)) (hFlag : flag ∈ PreviewOptions.flags) :
      ∃ b, AtMostOnce flag.1 ms ∧ IsField flag.1 ms SpellsFlag (flag.2 .default) b := by
    obtain ⟨hOnce, hBool⟩ := h flag hFlag
    obtain ⟨b, hb⟩ := exists_isField (flag.2 .default) hOnce hBool
    exact ⟨b, hOnce, hb⟩
  simp only [PreviewOptions.flags, List.forall_mem_cons] at hField
  obtain ⟨⟨tables, hTables⟩, ⟨strikethrough, hStrikethrough⟩, ⟨autolink, hAutolink⟩,
    ⟨tasklist, hTasklist⟩, ⟨markup, hMarkup⟩, ⟨breaks, hBreaks⟩, hNil⟩ := hField
  refine ⟨⟨tables, strikethrough, autolink, tasklist, markup, breaks⟩, ms, rfl, ?_⟩
  simp only [PreviewOptions.flags, List.forall_mem_cons]
  exact ⟨hTables, hStrikethrough, hAutolink, hTasklist, hMarkup, hBreaks, fun _ h => nomatch h⟩

theorem exists_takes (hOnce : ∀ name ∈ fieldNames, AtMostOnce name ms) (h : WellTyped ms) :
    ∃ s, Takes ms s := by
  simp only [fieldNames, List.forall_mem_cons] at hOnce
  obtain ⟨hModifier, hLimit, hAliases, hPreview, -⟩ := hOnce
  obtain ⟨modifier, hModifier⟩ := exists_isField default.primaryModifier hModifier h.modifier
  obtain ⟨limit, hLimit⟩ : ∃ limit, IsField "undo_history_limit" ms SpellsLimit
      default.undoHistoryLimit limit := by
    refine exists_isField _ hLimit fun v hv => ?_
    obtain ⟨a, rfl, hMinus, hFraction, hExponent, hSmall⟩ := h.limit v hv
    exact ⟨_, a, rfl, natural?_of_parts hMinus hFraction hExponent hSmall⟩
  obtain ⟨aliases, hAliases⟩ : ∃ aliases, IsField "language_aliases" ms SpellsAliases
      default.languageAliases aliases := by
    refine exists_isField _ hAliases fun v hv => ?_
    obtain ⟨es, rfl⟩ := h.aliases v hv
    exact ⟨_, es, rfl, rfl⟩
  obtain ⟨preview, hPreview⟩ : ∃ preview, IsField "preview" ms SpellsPreview
      default.preview preview := by
    refine exists_isField _ hPreview fun v hv => ?_
    obtain ⟨inner, rfl, hFlags⟩ := h.preview v hv
    exact exists_options hFlags
  exact ⟨⟨modifier, limit, aliases, preview⟩, hModifier, hLimit, hAliases, hPreview⟩

theorem Takes.wellTyped {s : Settings} (h : Takes ms s) : WellTyped ms := by
  constructor
  · exact fun v hv => ⟨_, h.modifier.given v hv⟩
  · intro v hv
    obtain ⟨a, rfl, ha⟩ := h.limit.given v hv
    obtain ⟨hMinus, hFraction, hExponent, hValue, hFits⟩ := Numeral.natural?_eq_some ha
    exact ⟨a, rfl, hMinus, hFraction, hExponent, hValue ▸ Nat.lt_succ_of_le hFits⟩
  · intro v hv
    obtain ⟨es, rfl, -⟩ := h.aliases.given v hv
    exact ⟨es, rfl⟩
  · intro v hv
    obtain ⟨inner, rfl, hFlags⟩ := h.preview.given v hv
    exact ⟨inner, rfl, fun flag hFlag =>
      ⟨(hFlags flag hFlag).1, fun w hw => ⟨_, (hFlags flag hFlag).2.given w hw⟩⟩⟩

section

variable {α : Type} {name : String} {ms' : List (Text × Term)}

theorem AtMostOnce.perm (hPerm : ms'.Perm ms) (h : AtMostOnce name ms) : AtMostOnce name ms' := by
  rwa [AtMostOnce, (hPerm.map Prod.fst).count_eq]

theorem IsField.perm {spells : α → Term → Prop} {missing value : α} (hPerm : ms'.Perm ms)
    (h : IsField name ms spells missing value) : IsField name ms' spells missing value := by
  constructor
  · exact fun v hv => h.given v (hPerm.mem_iff.mp hv)
  · exact fun hAbsent => h.absent fun v hv => hAbsent v (hPerm.mem_iff.mpr hv)

theorem Takes.perm {s : Settings} (hPerm : ms'.Perm ms) (h : Takes ms s) : Takes ms' s :=
  ⟨h.modifier.perm hPerm, h.limit.perm hPerm, h.aliases.perm hPerm, h.preview.perm hPerm⟩

end

/-- What is loaded from a text that spells an object with these members. -/
structure LoadsPartial (ms : List (Text × Term)) (t : Text) : Prop where
  loaded : (∀ name ∈ fieldNames, AtMostOnce name ms) → WellTyped ms →
    (∃ s, Takes ms s) ∧ ∀ s, Takes ms s → ofJsonSanitized t = .ok s.sanitize
  reordered : (∀ name ∈ fieldNames, AtMostOnce name ms) → WellTyped ms →
    ∀ ms' t', ms'.Perm ms → IsDocument (.object ms') t' → ofJsonSanitized t' = ofJsonSanitized t
  failed : (∃ m ∈ ms, IllTyped m) → ∃ f, ofJsonSanitized t = .error f

theorem loadsPartial (h : IsDocument (.object ms) t) : LoadsPartial ms t := by
  constructor
  · intro hOnce hTyped
    exact ⟨exists_takes hOnce hTyped, fun s hTakes =>
      ofJsonSanitized_of_some h (settings?_of_takes hOnce hTakes)⟩
  · intro hOnce hTyped ms' t' hPerm h'
    obtain ⟨s, hTakes⟩ := exists_takes hOnce hTyped
    have hOnce' (name : String) (hName : name ∈ fieldNames) := (hOnce name hName).perm hPerm
    rw [ofJsonSanitized_of_some h (settings?_of_takes hOnce hTakes),
      ofJsonSanitized_of_some h' (settings?_of_takes hOnce' (hTakes.perm hPerm))]
  · rintro ⟨m, hm, hTyped⟩
    exact ofJsonSanitized_of_none h (settings?_of_illTyped hm hTyped)

/-- Unknown members at both levels, and two fields out of their order. -/
def futureMembers : List (Text × Value) :=
  [("theme".toList, .list [.null, .object []]),
    ("preview".toList,
      .object [("zoom".toList, .natural 2), ("hard_breaks".toList, .bool true)]),
    ("undo_history_limit".toList, .natural 5000)]

def futureSettings : Settings where
  primaryModifier := .auto
  undoHistoryLimit := 5000
  languageAliases := .empty
  preview := { PreviewOptions.default with hardBreaks := true }

theorem takes_futureSettings : Takes (Value.memberTerms futureMembers) futureSettings where
  modifier := isField_of_not_mem (by decide)
  limit := isField_of_mem (by decide) (.tail _ (.tail _ (.head _)))
    ⟨.ofNat 5000, rfl, Numeral.natural?_ofNat (by decide)⟩
  aliases := isField_of_not_mem (by decide)
  preview := by
    refine isField_of_mem (by decide) (.tail _ (.head _)) ⟨_, rfl, ?_⟩
    simp only [PreviewOptions.flags, List.forall_mem_cons]
    refine ⟨⟨by decide, isField_of_not_mem (by decide)⟩, ⟨by decide, isField_of_not_mem (by decide)⟩,
      ⟨by decide, isField_of_not_mem (by decide)⟩, ⟨by decide, isField_of_not_mem (by decide)⟩,
      ⟨by decide, isField_of_not_mem (by decide)⟩, ⟨by decide, ?_⟩, fun _ h => nomatch h⟩
    exact isField_of_mem (by decide) (.tail _ (.head _)) rfl

theorem loadsPartial_futureMembers :
    ofJsonSanitized (Value.object futureMembers).pretty = .ok futureSettings.sanitize ∧
    ∃ f, ofJsonSanitized
      (Value.object (("undo_history_limit".toList, .string "lots".toList) :: futureMembers)).pretty =
        .error f := by
  constructor
  · exact ((loadsPartial (isDocument_pretty (.object futureMembers))).loaded (by decide)
      takes_futureSettings.wellTyped).2 futureSettings takes_futureSettings
  · exact (loadsPartial (isDocument_pretty (.object
      (("undo_history_limit".toList, .string "lots".toList) :: futureMembers)))).failed
        ⟨_, List.mem_cons_self, .limitString _⟩

end Settings

end MarkdownEditor
