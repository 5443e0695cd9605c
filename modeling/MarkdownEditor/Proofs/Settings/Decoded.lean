import MarkdownEditor.Proofs.Json.Skip
import MarkdownEditor.Settings.Reader

/-!
# Settings as functions of the term

The settings that a text spells are those that a decoder makes of the term: each known member
sets one field that was not set before, and all others are passed over.
-/

namespace MarkdownEditor.SettingsReader

set_option autoImplicit false

open Json

variable {α σ : Type} {t text rest : Text} {v : Term}

def decodeField (current : Option α) (set : α → σ) (decode : Term → Option α) (v : Term) :
    Option σ :=
  if current.isSome then none else (decode v).map set

theorem skipSpace_colon {spaces : Text} (h : IsSpaces spaces) (t : Text) :
    skipSpace (spaces ++ ':' :: t) = ':' :: t :=
  skipSpace_spaces_cons h (by decide) t

section

variable {member : Text → σ → Reader σ} {decodeMember : Text → σ → Term → Option σ}
  {reader : Reader α} {decode : Term → Option α}

/-- One more known member. -/
theorem decodesMember_field (name : String) (current : σ → Option α) (set : σ → α → σ)
    (hReader : Decodes reader decode) (h : DecodesMember member decodeMember) :
    DecodesMember
      (fun key state =>
        if key = name.toList then readField name (current state) (set state) reader
        else member key state)
      (fun key state v =>
        if key = name.toList then decodeField (current state) (set state) decode v
        else decodeMember key state v) := by
  intro key state v text hv spaces spaces' rest hSpaces hSpaces' hRest
  by_cases hKey : key = name.toList
  · simp only [if_pos hKey, readField, decodeField]
    split
    · exact .error _
    · refine (reads_readColon (skipSpace_colon hSpaces _)).agrees fun _ => ?_
      exact (hReader hv (hv.skipSpace_spaces hSpaces' rest) hRest).bind_map fun _ _ => ⟨_, rfl⟩
  · simp only [if_neg hKey]
    exact h key state hv hSpaces hSpaces' hRest

theorem decodesMember_skipField :
    DecodesMember (fun _ (state : σ) => skipField state) fun _ state _ => some state := by
  intro key state v text hv spaces spaces' rest hSpaces hSpaces' hRest
  refine (reads_readColon (skipSpace_colon hSpaces _)).agrees fun _ => ?_
  have hValue : Reads (skipValue _) () rest :=
    decodes_skipValue hv (hv.skipSpace_spaces hSpaces' rest) hRest
  exact hValue.bind fun _ => ⟨_, rfl⟩

theorem decodesElement_element (set : σ → α → σ) (hReader : Decodes reader decode) :
    DecodesElement (fun state => element (set state) reader)
      fun state v => (decode v).map (set state) :=
  fun state _ _ hv _ _ ht hRest => (hReader hv ht hRest).map (set state)

end

section

variable {member : Text → σ → Reader σ} {decode : Text → σ → Term → Option σ}
  {fields : List (σ → Reader σ)} {decoders : List (σ → Term → Option σ)}

def decodeRecord (decode : Text → σ → Term → Option σ) (decoders : List (σ → Term → Option σ))
    (start : σ) : Term → Option σ
  | .object ms => decodeMembers decode start ms
  | .list vs => decodeElements decoders start vs
  | _ => none

theorem readRecord_of_cons (expected : String) (start : σ) {c : Char}
    (h : skipSpace t = c :: rest) :
    readRecord expected member fields start t = if c = '[' then
        (readFields true start rest fields).map (·.widen (length_of_skipSpace_eq h))
      else if c = '\x7b' then
        (readMembers member true start rest).map (·.widen (length_le_of_skipSpace_eq h))
      else .error (mismatch expected (c :: rest)) := by
  unfold readRecord
  split
  · next h' => exact absurd (h.symm.trans h') (List.cons_ne_nil c rest)
  · next d tail h' =>
    obtain ⟨rfl, rfl⟩ := List.cons.inj (h'.symm.trans h)
    rfl

theorem decodes_readRecord (expected : String) (start : σ) (hMember : DecodesMember member decode)
    (hFields : List.Forall₂ DecodesElement fields decoders) :
    Decodes (readRecord expected member fields start) (decodeRecord decode decoders start) := by
  intro v text hv t rest ht hRest
  obtain ⟨c, tail, hText, hc⟩ := hv.exists_cons
  cases hv with
  | list hBody =>
    rw [readRecord_of_cons expected start ht, if_pos rfl]
    exact (agrees_readFields hFields hBody start rest).widen _
  | object hBody =>
    rw [readRecord_of_cons expected start ht, if_neg (by decide), if_pos rfl]
    exact (agrees_readMembers hMember hBody start rest).widen _
  | null | bool | number | string =>
    rw [hText] at ht
    rw [readRecord_of_cons expected start ht, if_neg (Term.ne_of_starts hc rfl),
      if_neg (Term.ne_of_starts hc rfl)]
    exact .error _

end

def decodePreviewMember (key : Text) (d : PreviewDraft) (v : Term) : Option PreviewDraft :=
  if key = "tables".toList then
    decodeField d.tables (fun b => { d with tables := some b }) Term.bool? v
  else if key = "strikethrough".toList then
    decodeField d.strikethrough (fun b => { d with strikethrough := some b }) Term.bool? v
  else if key = "autolink".toList then
    decodeField d.autolink (fun b => { d with autolink := some b }) Term.bool? v
  else if key = "tasklist".toList then
    decodeField d.tasklist (fun b => { d with tasklist := some b }) Term.bool? v
  else if key = "allow_raw_html".toList then
    decodeField d.allowRawHtml (fun b => { d with allowRawHtml := some b }) Term.bool? v
  else if key = "hard_breaks".toList then
    decodeField d.hardBreaks (fun b => { d with hardBreaks := some b }) Term.bool? v
  else some d

theorem decodesMember_previewMember : DecodesMember previewMember decodePreviewMember :=
  decodesMember_field "tables" _ _ decodes_readBool <|
  decodesMember_field "strikethrough" _ _ decodes_readBool <|
  decodesMember_field "autolink" _ _ decodes_readBool <|
  decodesMember_field "tasklist" _ _ decodes_readBool <|
  decodesMember_field "allow_raw_html" _ _ decodes_readBool <|
  decodesMember_field "hard_breaks" _ _ decodes_readBool
  decodesMember_skipField

/-- The options in the order in which a list has them. -/
def previewDecoders : List (PreviewDraft → Term → Option PreviewDraft) :=
  [fun d v => v.bool?.map fun b => { d with tables := some b },
   fun d v => v.bool?.map fun b => { d with strikethrough := some b },
   fun d v => v.bool?.map fun b => { d with autolink := some b },
   fun d v => v.bool?.map fun b => { d with tasklist := some b },
   fun d v => v.bool?.map fun b => { d with allowRawHtml := some b },
   fun d v => v.bool?.map fun b => { d with hardBreaks := some b }]

theorem decodesElement_previewFields :
    List.Forall₂ DecodesElement previewFields previewDecoders :=
  .cons (decodesElement_element _ decodes_readBool) <|
  .cons (decodesElement_element _ decodes_readBool) <|
  .cons (decodesElement_element _ decodes_readBool) <|
  .cons (decodesElement_element _ decodes_readBool) <|
  .cons (decodesElement_element _ decodes_readBool) <|
  .cons (decodesElement_element _ decodes_readBool) .nil

def preview? (v : Term) : Option PreviewOptions :=
  (decodeRecord decodePreviewMember previewDecoders .empty v).map PreviewDraft.complete

theorem decodes_readPreview : Decodes readPreview preview? := fun _ _ hv _ _ ht hRest =>
  (decodes_readRecord _ _ decodesMember_previewMember decodesElement_previewFields hv ht hRest).map
    PreviewDraft.complete

def modifier? : Term → Option ModifierPreference
  | .string name => ModifierPreference.ofId? name
  | .object [(name, .null)] => ModifierPreference.ofId? name
  | _ => none

theorem ofId?_id (m : ModifierPreference) : ModifierPreference.ofId? m.id.toList = some m := by
  cases m <;> decide

theorem agrees_modifierOf {bound : Nat} (name : Text) (hShort : rest.length < bound) :
    Agrees (modifierOf ⟨name, rest, hShort⟩) (ModifierPreference.ofId? name) rest := by
  unfold modifierOf
  cases ModifierPreference.ofId? name with
  | some m => exact ⟨hShort, rfl⟩
  | none => exact .error _

theorem readKey_of_cons {c : Char} (h : skipSpace t = c :: rest) :
    readKey t = if c = '"' then (readString rest).map (·.widen (length_le_of_skipSpace_eq h))
      else if c = '\x7d' then .error (.next .expectedValue (c :: rest))
      else .error (.next .keyNotString (c :: rest)) := by
  unfold readKey
  split
  · next h' => exact absurd (h.symm.trans h') (List.cons_ne_nil c rest)
  · next d tail h' =>
    obtain ⟨rfl, rfl⟩ := List.cons.inj (h'.symm.trans h)
    rfl

theorem reads_readKey {key raw : Text} (hKey : SpellsString key raw)
    (h : skipSpace t = '"' :: (raw ++ '"' :: rest)) : Reads (readKey t) key rest := by
  rw [readKey_of_cons h, if_pos rfl]
  exact (reads_readString hKey rest).widen _

theorem readKey_refuses (h : skipSpace t = '\x7d' :: rest) : ∃ f, readKey t = .error f := by
  rw [readKey_of_cons h, if_neg (by decide), if_pos rfl]
  exact ⟨_, rfl⟩

theorem agrees_readModifier_string {name raw : Text} (hName : SpellsString name raw)
    (h : skipSpace t = '"' :: (raw ++ '"' :: rest)) :
    Agrees (readModifier t) (ModifierPreference.ofId? name) rest := by
  unfold readModifier
  split
  · next h' => simp [h] at h'
  · next c tail h' =>
    obtain ⟨rfl, rfl⟩ := List.cons.inj (h'.symm.trans h)
    rw [if_pos rfl]
    refine (reads_readString hName rest).agrees fun hShort => ?_
    exact (agrees_modifierOf name hShort).keep fun _ _ => ⟨_, rfl⟩

theorem modifier?_object_cons (name : Text) (v : Term) (ms : List (Text × Term)) :
    modifier? (.object ((name, v) :: ms)) =
      (ModifierPreference.ofId? name).bind fun m =>
        v.null?.bind fun _ => if ms.isEmpty then some m else none := by
  cases ms with
  | nil => cases v <;> simp [modifier?, Term.null?]
  | cons m ms => cases v <;> simp [modifier?, Term.null?]

theorem readModifier_refuses_empty {body : Text} (h : skipSpace t = '\x7b' :: body)
    (hBody : skipSpace body = '\x7d' :: rest) : ∃ f, readModifier t = .error f := by
  unfold readModifier
  split
  · exact ⟨_, rfl⟩
  · next c tail h' =>
    obtain ⟨rfl, rfl⟩ := List.cons.inj (h'.symm.trans h)
    exact refuses_bind (readKey_refuses hBody)

theorem agrees_readModifier_cons {name raw value spaces spaces' body more : Text} {v : Term}
    {ms : List (Text × Term)} (hName : SpellsString name raw) (hSpaces : IsSpaces spaces)
    (hSpaces' : IsSpaces spaces') (hValue : Spells v value)
    (hMore : Further '\x7d' (SpellsMember Spells) ms more) (h : skipSpace t = '\x7b' :: body)
    (hBody : skipSpace body =
      '"' :: (raw ++ '"' :: (spaces ++ ':' :: (spaces' ++ (value ++ (more ++ rest)))))) :
    Agrees (readModifier t) (modifier? (.object ((name, v) :: ms))) rest := by
  rw [modifier?_object_cons]
  unfold readModifier
  split
  · next h' => simp [h] at h'
  · next c tail h' =>
    obtain ⟨rfl, rfl⟩ := List.cons.inj (h'.symm.trans h)
    rw [if_neg (by decide), if_pos rfl]
    refine (reads_readKey hName hBody).agrees fun hShort => ?_
    refine (agrees_modifierOf name hShort).bind fun m _ _ => ?_
    refine (reads_readColon (skipSpace_colon hSpaces _)).agrees fun _ => ?_
    refine (decodes_readNull hValue (hValue.skipSpace_spaces hSpaces' _)
      (hMore.endsNumber endsNumber_brace rest)).bind fun _ _ _ => ?_
    rcases hMore.skipSpace_cases (by decide) rest with ⟨hEmpty, hEnd⟩ | ⟨hEmpty, tail, hEnd⟩
    · split
      · next h' => simp [hEnd] at h'
      · next d tail h' =>
        obtain ⟨rfl, rfl⟩ := List.cons.inj (h'.symm.trans hEnd)
        rw [hEmpty]
        exact ⟨_, rfl⟩
    · split
      · next h' => simp [hEnd] at h'
      · next d tail' h' =>
        obtain ⟨rfl, rfl⟩ := List.cons.inj (h'.symm.trans hEnd)
        rw [hEmpty]
        exact .error _

theorem readModifier_refuses {c : Char} (h : skipSpace t = c :: rest) (hQuote : c ≠ '"')
    (hBrace : c ≠ '\x7b') : ∃ f, readModifier t = .error f := by
  unfold readModifier
  split
  · exact ⟨_, rfl⟩
  · next d tail h' =>
    obtain ⟨rfl, rfl⟩ := List.cons.inj (h'.symm.trans h)
    rw [if_neg hQuote, if_neg hBrace]
    exact ⟨_, rfl⟩

theorem decodes_readModifier : Decodes readModifier modifier? := by
  intro v text hv t rest ht _
  obtain ⟨c, tail, hText, hc⟩ := hv.exists_cons
  cases hv with
  | string hName =>
    rw [quoted_append] at ht
    exact agrees_readModifier_string hName ht
  | object hBody =>
    cases hBody with
    | close hSpaces =>
      rw [List.cons_append, List.append_assoc] at ht
      exact readModifier_refuses_empty ht (skipSpace_spaces_cons hSpaces (by decide) rest)
    | first hSpaces hItem hMore =>
      obtain @⟨name, raw, before, after, value, v, hName, hBefore, hAfter, hValue⟩ := hItem
      simp only [List.cons_append, List.append_assoc] at ht
      exact agrees_readModifier_cons hName hBefore hAfter hValue hMore ht
        (skipSpace_spaces_cons hSpaces (by decide) _)
  | null | bool | number | list =>
    rw [hText] at ht
    exact readModifier_refuses ht (Term.ne_of_starts hc rfl) (Term.ne_of_starts hc rfl)

def decodeAlias (key : Text) (aliases : Dictionary Text) (v : Term) : Option (Dictionary Text) :=
  v.string?.map (aliases.insert key)

theorem decodesMember_aliasMember : DecodesMember aliasMember decodeAlias := by
  intro key state v text hv spaces spaces' rest hSpaces hSpaces' hRest
  refine (reads_readColon (skipSpace_colon hSpaces _)).agrees fun _ => ?_
  exact (decodes_readStringOf "a string" hv (hv.skipSpace_spaces hSpaces' rest) hRest).bind_map
    fun _ _ => ⟨_, rfl⟩

def aliases? : Term → Option (Dictionary Text)
  | .object ms => decodeMembers decodeAlias .empty ms
  | _ => none

theorem decodeMembers_decodeAlias (es : List (Text × Text)) (d : Dictionary Text) :
    decodeMembers decodeAlias d (es.map fun e => (e.1, .string e.2)) =
      some (es.foldl (fun d e => d.insert e.1 e.2) d) := by
  induction es generalizing d with
  | nil => rfl
  | cons e es ih => exact ih (d.insert e.1 e.2)

theorem aliases?_of_strings (es : List (Text × Text)) :
    aliases? (.object (es.map fun e => (e.1, .string e.2))) = some (.ofList es) :=
  decodeMembers_decodeAlias es .empty

theorem readAliases_of_cons {c : Char} (h : skipSpace t = c :: rest) :
    readAliases t = if c = '\x7b' then
        (readMembers aliasMember true .empty rest).map (·.widen (length_le_of_skipSpace_eq h))
      else .error (mismatch "a map" (c :: rest)) := by
  unfold readAliases
  split
  · next h' => exact absurd (h.symm.trans h') (List.cons_ne_nil c rest)
  · next d tail h' =>
    obtain ⟨rfl, rfl⟩ := List.cons.inj (h'.symm.trans h)
    rfl

theorem decodes_readAliases : Decodes readAliases aliases? := by
  intro v text hv t rest ht _
  obtain ⟨c, tail, hText, hc⟩ := hv.exists_cons
  cases hv with
  | object hBody =>
    rw [readAliases_of_cons ht, if_pos rfl]
    exact (agrees_readMembers decodesMember_aliasMember hBody .empty rest).widen _
  | null | bool | number | string | list =>
    rw [hText] at ht
    rw [readAliases_of_cons ht, if_neg (Term.ne_of_starts hc rfl)]
    exact .error _

def decodeSettingsMember (key : Text) (d : Draft) (v : Term) : Option Draft :=
  if key = "primary_modifier".toList then
    decodeField d.primaryModifier (fun m => { d with primaryModifier := some m }) modifier? v
  else if key = "undo_history_limit".toList then
    decodeField d.undoHistoryLimit (fun k => { d with undoHistoryLimit := some k }) Term.natural? v
  else if key = "language_aliases".toList then
    decodeField d.languageAliases (fun a => { d with languageAliases := some a }) aliases? v
  else if key = "preview".toList then
    decodeField d.preview (fun p => { d with preview := some p }) preview? v
  else some d

theorem decodesMember_settingsMember : DecodesMember settingsMember decodeSettingsMember :=
  decodesMember_field "primary_modifier" _ _ decodes_readModifier <|
  decodesMember_field "undo_history_limit" _ _ decodes_readNatural <|
  decodesMember_field "language_aliases" _ _ decodes_readAliases <|
  decodesMember_field "preview" _ _ decodes_readPreview
  decodesMember_skipField

/-- The fields in the order in which a list has them. -/
def settingsDecoders : List (Draft → Term → Option Draft) :=
  [fun d v => (modifier? v).map fun m => { d with primaryModifier := some m },
   fun d v => v.natural?.map fun k => { d with undoHistoryLimit := some k },
   fun d v => (aliases? v).map fun a => { d with languageAliases := some a },
   fun d v => (preview? v).map fun p => { d with preview := some p }]

theorem decodesElement_settingsFields :
    List.Forall₂ DecodesElement settingsFields settingsDecoders :=
  .cons (decodesElement_element _ decodes_readModifier) <|
  .cons (decodesElement_element _ decodes_readNatural) <|
  .cons (decodesElement_element _ decodes_readAliases) <|
  .cons (decodesElement_element _ decodes_readPreview) .nil

def settings? (v : Term) : Option Settings :=
  (decodeRecord decodeSettingsMember settingsDecoders .empty v).map Draft.complete

theorem decodes_readSettings : Decodes readSettings settings? := fun _ _ hv _ _ ht hRest =>
  (decodes_readRecord _ _ decodesMember_settingsMember decodesElement_settingsFields hv ht hRest).map
    Draft.complete

end MarkdownEditor.SettingsReader

namespace MarkdownEditor.Settings

set_option autoImplicit false

open Json

variable {v : Term} {t : Text} {s : Settings}

theorem ofJsonSanitized_of_some (h : IsDocument v t) (hv : SettingsReader.settings? v = some s) :
    ofJsonSanitized t = .ok s.sanitize := by
  rw [ofJsonSanitized, ofJson, readWholeText_of_some SettingsReader.decodes_readSettings h hv]
  rfl

theorem ofJsonSanitized_of_none (h : IsDocument v t) (hv : SettingsReader.settings? v = none) :
    ∃ f, ofJsonSanitized t = .error f := by
  obtain ⟨f, hRead⟩ := readWholeText_of_none SettingsReader.decodes_readSettings h hv
  rw [ofJsonSanitized, ofJson, hRead]
  exact ⟨f, rfl⟩

end MarkdownEditor.Settings
