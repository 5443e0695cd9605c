import MarkdownEditor.CommandLine.Run
import MarkdownEditor.Proofs.Editor.Command
import MarkdownEditor.Proofs.Files.World
import MarkdownEditor.Proofs.Text.Utf8

/-!
# Formatting on the command line

The program formats a document through a buffer and a session, and undo takes a way of its
own there. What it prints is the outcome of the command on the document and the selection
that were given, whatever the settings are.
-/

namespace MarkdownEditor

set_option autoImplicit false

namespace CommandLine

theorem formatted_eq (s : Settings) (c : Command) (selection : Selection) (t : Text) :
    ∃ b : TextBuffer, formatted s c selection t = (false, b) ∧
      b.content = (c.apply t selection).text ∧ b.selection = (c.apply t selection).selection := by
  generalize hBuffer :
    ((TextBuffer.ofText t).withUndoLimit s.undoHistoryLimit).setSelection selection = b
  have hContent : b.content = t := by rw [← hBuffer]; rfl
  have hSelection : b.selection = selection := by rw [← hBuffer]; rfl
  simp only [formatted, hBuffer]
  by_cases hUndo : c = .undo
  · subst hUndo
    refine ⟨Session.afterHostEdit b, if_pos rfl, ?_⟩
    rw [TextBuffer.afterHostEdit_eq, ← hContent, ← hSelection]
    exact ⟨rfl, rfl⟩
  · have hConsistent := c.isConsistent_apply b.content b.selection
    obtain ⟨e, he⟩ := Option.ne_none_iff_exists'.mp (mt hConsistent.edit_eq_none_iff.mp hUndo)
    have hRun := TextBuffer.run_of_edit he
    rw [TextBuffer.replaceRange_of_isConsistent hConsistent he, hContent, hSelection] at hRun
    refine ⟨(b.step (c.apply t selection).text).setSelection (c.apply t selection).selection, ?_,
      rfl, rfl⟩
    rw [if_neg hUndo, hRun]
    rfl

/-- Settings have no part in formatting. -/
theorem runFormat_eq {m : Type → Type} [Monad m] (sh : Shell m) (s : Settings) (c : Command)
    (selection : Selection) (file : Option Text) :
    runFormat sh s c selection file = (do
      let t ← readDocument sh file
      if t.length < selection.stop then sh.warn (pastEndWarning selection t)
      sh.notify (.report ("selection: ".toList ++
        selectionText (c.apply t selection).selection))
      sh.output (withLineFeed (c.apply t selection).text)) := by
  unfold runFormat
  congr 1
  funext t
  obtain ⟨b, hb, hContent, hSelection⟩ := formatted_eq s c selection t
  simp only [hb, hContent, hSelection]
  rfl

open World in
theorem onlyNotifies_loadFrom (path : Text) : OnlyNotifies (Store.loadFrom World.shell path) := by
  refine .bind (.exists? path) fun found => ?_
  split
  · refine .bind (.readText path) fun r => ?_
    split
    · exact .pure _
    · split
      · exact .pure _
      · split
        · exact .bind (.notify _) fun _ => .pure _
        · exact .bind (.notify _) fun _ => .pure _
  · exact .pure _

open World in
theorem onlyNotifies_readSettings (env : Environment) (config : Option Text) :
    OnlyNotifies (readSettings World.shell env config).run := by
  cases config with
  | none =>
    have hLoad : OnlyNotifies (Store.load World.shell env) := by
      have hWarn (settings : Settings) (warnings : List Text) :
          OnlyNotifies (warnings.forM World.shell.warn >>= fun _ => Pure.pure settings) :=
        .bind (.forM (fun _ => .notify _) warnings) fun _ => .pure settings
      unfold Store.load
      split
      · exact .bind (onlyNotifies_loadFrom _) fun _ => hWarn _ _
      · exact .bind (.pure _) fun _ => hWarn _ _
    exact .lift hLoad
  | some path =>
    refine .bindExcept (.lift (.isDirectory path)) fun b => ?_
    split
    · exact .throw _
    · exact onlyNotifies_loadFrom path

theorem readDocument_run {w : World} {file : Option Text} {t : Text}
    (h : w.document file = .ok t) : (readDocument World.shell file).run w = (.ok t, w) := by
  cases file with
  | none =>
    have hInput : World.shell.inputText w = (.ok t, w) := congrArg (·, w) h
    rw [readDocument, World.run_bind_lift, hInput]
    rfl
  | some path =>
    have hRead : World.shell.readText path w = (.ok t, w) := congrArg (·, w) h
    rw [readDocument, World.run_bind_lift, hRead]
    rfl

/-- The warning for a selection that does not lie in the text. -/
def pastEndNotices (selection : Selection) (t : Text) : List Notice :=
  if t.length < selection.stop then [.log .warn (pastEndWarning selection t)] else []

theorem runFormat_run {w : World} {file : Option Text} {t : Text} (h : w.document file = .ok t)
    (s : Settings) (c : Command) (selection : Selection) :
    (runFormat World.shell s c selection file).run w = (.ok (), { w with
      outputs := withLineFeed (c.apply t selection).text :: w.outputs
      notices := .report ("selection: ".toList ++ selectionText (c.apply t selection).selection) ::
        (pastEndNotices selection t ++ w.notices) }) := by
  rw [runFormat_eq, World.run_bind_of_ok (readDocument_run h), pastEndNotices]
  split
  · rfl
  · rfl

/-- Whatever settings were read, formatting prints the text of the outcome with a line feed at
its end and reports the selection of the outcome, and nothing in the world changes but for
that and the notices. -/
theorem start_format {env : Environment} {words : List Text} {config file : Option Text}
    {c : Command} {selection : Selection} {w w' : World} {s : Settings} {t : Text}
    (hWords : parse words = .ok ⟨config, .format c selection file⟩)
    (hSettings : (readSettings World.shell env config).run w = (.ok s, w'))
    (hText : w.document file = .ok t) :
    start World.shell env words w = (0, { w with
      outputs := ((c.apply t selection).text ++
        if (c.apply t selection).text.getLast? = some '\n' then [] else ['\n']) :: w.outputs
      notices := .report ("selection: ".toList ++ selectionText (c.apply t selection).selection) ::
        (pastEndNotices selection t ++ w'.notices) }) ∧
    ∀ s', runFormat World.shell s' c selection file = runFormat World.shell s c selection file := by
  obtain ⟨notices, hWorld⟩ := onlyNotifies_readSettings env config w
  rw [hSettings] at hWorld
  obtain rfl : w' = _ := hWorld
  have hFeed : withLineFeed (c.apply t selection).text = (c.apply t selection).text ++
      if (c.apply t selection).text.getLast? = some '\n' then [] else ['\n'] := by
    unfold withLineFeed
    split
    · rw [List.append_nil]
    · rfl
  have hDocument : World.document { w with notices := notices ++ w.notices } file = .ok t := hText
  have hRun := World.run_bind_of_ok hSettings
    fun s => runFormat World.shell s c selection file
  rw [runFormat_run hDocument, hFeed] at hRun
  refine ⟨?_, fun s' => by rw [runFormat_eq, runFormat_eq]⟩
  unfold start
  rw [hWords]
  exact World.bind_of_eq hRun _

/-- A world without files, in which a document waits on the input. -/
def sampleWorld : World := ⟨.empty, [], Text.encode "é *b*\r\n".toList, [], []⟩

def sampleWords : List Text :=
  ["format".toList, "-s".toList, " +9 :0".toList, "Undo".toList]

theorem start_format_undo :
    parse sampleWords = .ok ⟨none, .format .undo ⟨0, 9⟩ none⟩ ∧
    (readSettings World.shell ⟨none, none⟩ none).run sampleWorld = (.ok .default, { sampleWorld with
      notices := [.log .warn (Failure.configDirNotFound.defaultWarning
        "Failed to load configuration".toList)] }) ∧
    sampleWorld.document none = .ok "é *b*\r\n".toList ∧
    (start World.shell ⟨none, none⟩ sampleWords sampleWorld).1 = 0 ∧
    (start World.shell ⟨none, none⟩ sampleWords sampleWorld).2.outputs = ["é *b*\r\n".toList] ∧
    (start World.shell ⟨none, none⟩ sampleWords sampleWorld).2.notices.head? =
      some (.report "selection: 0:7".toList) := by
  have hWords : parse sampleWords = .ok ⟨none, .format .undo ⟨0, 9⟩ none⟩ := rfl
  have hText : sampleWorld.document none = .ok "é *b*\r\n".toList := by
    simp only [World.document, sampleWorld, Shell.textOf, Text.decode?_encode]
  refine ⟨hWords, rfl, hText, ?_⟩
  rw [(start_format hWords rfl hText).1]
  exact ⟨rfl, rfl, rfl⟩

end CommandLine

end MarkdownEditor
