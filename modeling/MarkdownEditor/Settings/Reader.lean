import MarkdownEditor.Json.Scalar
import MarkdownEditor.Json.Skip
import MarkdownEditor.Settings.Printer

/-!
# Reading settings

Settings are read from a JSON object with any of the fields, in any order and
with unknown ones in between, or from a list of the fields in their order. What
is missing has its default. A field may occur once only.
-/

namespace MarkdownEditor

set_option autoImplicit false

open Json

namespace SettingsReader

variable {α σ : Type}

/-- A known field that occurs again. It is noticed at its key, but the object's end
is looked for before it is reported. -/
def repeated (name t : Text) : Fault :=
  match skipSpace t with
  | '\x7d' :: rest => .before (.repeatedField name) rest
  | rest => .before (.repeatedField name) rest

/-- Reads the colon and the value of a known field. -/
def readField (name : String) (current : Option α) (set : α → σ) (reader : Reader α) : Reader σ :=
  fun t =>
    if current.isSome then .error (repeated name.toList t)
    else do
      let colon ← readColon t
      let value ← reader colon.unread
      return ⟨set value.value, value.unread, by
        have := colon.short
        have := value.short
        omega⟩

/-- Passes over the colon and the value of an unknown field. -/
def skipField (state : σ) : Reader σ := fun t => do
  let colon ← readColon t
  let value ← skipValue colon.unread
  return ⟨state, value.unread, by
    have := colon.short
    have := value.short
    omega⟩

def element (set : α → σ) (reader : Reader α) : Reader σ := fun t => (reader t).map (·.map set)

/-- A record, as an object or as a list of its fields. -/
def readRecord (expected : String) (member : Text → σ → Reader σ) (fields : List (σ → Reader σ))
    (start : σ) : Reader σ := fun t =>
  match h : skipSpace t with
  | [] => .error (.before .endInValue [])
  | c :: rest =>
    if c = '[' then
      (readFields true start rest fields).map (·.widen (length_of_skipSpace_eq h))
    else if c = '\x7b' then
      (readMembers member true start rest).map (·.widen (length_le_of_skipSpace_eq h))
    else .error (mismatch expected (c :: rest))

structure PreviewDraft where
  tables : Option Bool
  strikethrough : Option Bool
  autolink : Option Bool
  tasklist : Option Bool
  allowRawHtml : Option Bool
  hardBreaks : Option Bool

def PreviewDraft.empty : PreviewDraft := ⟨none, none, none, none, none, none⟩

def PreviewDraft.complete (d : PreviewDraft) : PreviewOptions :=
  let missing := PreviewOptions.default
  ⟨d.tables.getD missing.tables, d.strikethrough.getD missing.strikethrough,
    d.autolink.getD missing.autolink, d.tasklist.getD missing.tasklist,
    d.allowRawHtml.getD missing.allowRawHtml, d.hardBreaks.getD missing.hardBreaks⟩

def previewMember (key : Text) (d : PreviewDraft) : Reader PreviewDraft :=
  if key = "tables".toList then
    readField "tables" d.tables (fun v => { d with tables := some v }) readBool
  else if key = "strikethrough".toList then
    readField "strikethrough" d.strikethrough (fun v => { d with strikethrough := some v }) readBool
  else if key = "autolink".toList then
    readField "autolink" d.autolink (fun v => { d with autolink := some v }) readBool
  else if key = "tasklist".toList then
    readField "tasklist" d.tasklist (fun v => { d with tasklist := some v }) readBool
  else if key = "allow_raw_html".toList then
    readField "allow_raw_html" d.allowRawHtml (fun v => { d with allowRawHtml := some v }) readBool
  else if key = "hard_breaks".toList then
    readField "hard_breaks" d.hardBreaks (fun v => { d with hardBreaks := some v }) readBool
  else skipField d

def previewFields : List (PreviewDraft → Reader PreviewDraft) :=
  [fun d => element (fun v => { d with tables := some v }) readBool,
   fun d => element (fun v => { d with strikethrough := some v }) readBool,
   fun d => element (fun v => { d with autolink := some v }) readBool,
   fun d => element (fun v => { d with tasklist := some v }) readBool,
   fun d => element (fun v => { d with allowRawHtml := some v }) readBool,
   fun d => element (fun v => { d with hardBreaks := some v }) readBool]

def readPreview : Reader PreviewOptions := fun t =>
  (readRecord "struct PreviewOptions" previewMember previewFields .empty t).map
    (·.map PreviewDraft.complete)

def modifierOf {bound : Nat} (name : Read Text bound) :
    Except Fault (Read ModifierPreference bound) :=
  match ModifierPreference.ofId? name.value with
  | some m => .ok ⟨m, name.unread, name.short⟩
  | none =>
    .error (.before (.unknownVariant name.value (ModifierPreference.all.map (·.id))) name.unread)

/-- The first key of an object that must have one. -/
def readKey : Reader Text := fun t =>
  match h : skipSpace t with
  | [] => .error (.before .endInObject [])
  | c :: rest =>
    if c = '"' then (readString rest).map (·.widen (length_le_of_skipSpace_eq h))
    else if c = '\x7d' then .error (.next .expectedValue (c :: rest))
    else .error (.next .keyNotString (c :: rest))

/-- The name of a modifier, or an object with that name as its only key and null
as its value. -/
def readModifier : Reader ModifierPreference := fun t =>
  match h : skipSpace t with
  | [] => .error (.before .endInValue [])
  | c :: rest =>
    have hRest := length_of_skipSpace_eq h
    if c = '"' then do
      return (← modifierOf (← readString rest)).widen (length_le_of_skipSpace_eq h)
    else if c = '\x7b' then do
      let m ← modifierOf (← readKey rest)
      let colon ← readColon m.unread
      let null ← readNull colon.unread
      match hEnd : skipSpace null.unread with
      | [] => .error (.before .endInObject [])
      | d :: unread =>
        if d = '\x7d' then
          .ok ⟨m.value, unread, by
            have := m.short
            have := colon.short
            have := null.short
            have := length_of_skipSpace_eq hEnd
            omega⟩
        else .error (.before .expectedValue (d :: unread))
    else .error (.next .expectedValue (c :: rest))

def aliasMember (key : Text) (aliases : Dictionary Text) : Reader (Dictionary Text) := fun t => do
  let colon ← readColon t
  let canonical ← readStringOf "a string" colon.unread
  return ⟨aliases.insert key canonical.value, canonical.unread, by
    have := colon.short
    have := canonical.short
    omega⟩

def readAliases : Reader (Dictionary Text) := fun t =>
  match h : skipSpace t with
  | [] => .error (.before .endInValue [])
  | c :: rest =>
    if c = '\x7b' then
      (readMembers aliasMember true .empty rest).map
        (·.widen (length_le_of_skipSpace_eq h))
    else .error (mismatch "a map" (c :: rest))

structure Draft where
  primaryModifier : Option ModifierPreference
  undoHistoryLimit : Option Nat
  languageAliases : Option (Dictionary Text)
  preview : Option PreviewOptions

def Draft.empty : Draft := ⟨none, none, none, none⟩

def Draft.complete (d : Draft) : Settings :=
  let missing := Settings.default
  ⟨d.primaryModifier.getD missing.primaryModifier,
    d.undoHistoryLimit.getD missing.undoHistoryLimit,
    d.languageAliases.getD missing.languageAliases, d.preview.getD missing.preview⟩

def settingsMember (key : Text) (d : Draft) : Reader Draft :=
  if key = "primary_modifier".toList then
    readField "primary_modifier" d.primaryModifier (fun v => { d with primaryModifier := some v })
      readModifier
  else if key = "undo_history_limit".toList then
    readField "undo_history_limit" d.undoHistoryLimit
      (fun v => { d with undoHistoryLimit := some v }) readNatural
  else if key = "language_aliases".toList then
    readField "language_aliases" d.languageAliases (fun v => { d with languageAliases := some v })
      readAliases
  else if key = "preview".toList then
    readField "preview" d.preview (fun v => { d with preview := some v }) readPreview
  else skipField d

def settingsFields : List (Draft → Reader Draft) :=
  [fun d => element (fun v => { d with primaryModifier := some v }) readModifier,
   fun d => element (fun v => { d with undoHistoryLimit := some v }) readNatural,
   fun d => element (fun v => { d with languageAliases := some v }) readAliases,
   fun d => element (fun v => { d with preview := some v }) readPreview]

def readSettings : Reader Settings := fun t =>
  (readRecord "struct Settings" settingsMember settingsFields .empty t).map (·.map Draft.complete)

end SettingsReader

/-- The settings that the text spells, as they are. -/
def Settings.ofJson (t : Text) : Except Json.Fault Settings :=
  readWholeText SettingsReader.readSettings t

/-- The settings that the text spells, brought into their ranges. -/
def Settings.ofJsonSanitized (t : Text) : Except Json.Fault Settings :=
  (ofJson t).map sanitize

end MarkdownEditor
