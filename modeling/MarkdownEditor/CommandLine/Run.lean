import MarkdownEditor.CommandLine.Arguments
import MarkdownEditor.Editor.Session
import MarkdownEditor.Grammar.Bundled
import MarkdownEditor.Highlight
import MarkdownEditor.Preview.Render
import MarkdownEditor.Settings.Store

/-!
# Running requests

A request reads its document from a file or from the input, and prints its result
to the output. Notices go to a place of their own, so the output is the result
and nothing else. Words that are no request are answered with a message or with
the help texts.
-/

namespace MarkdownEditor.CommandLine

set_option autoImplicit false

def versionText : Text := "inkpad 0.1.0\n".toList

def helpLines : List String :=
  ["Markdown highlighting and formatting commands", "",
    "Usage: inkpad [--config PATH] SUBCOMMAND", "",
    "  highlight [FILE]                   print the document with highlighting",
    "  format COMMAND [-s START:END] [FILE]",
    "                                     apply a formatting command, print the new text",
    "  preview [FILE]                     print the rendered document",
    "  shortcuts                          list the shortcuts of the formatting commands",
    "  init-config [--force]              write a settings file with the defaults",
    "  help [SUBCOMMAND]                  print this text", "",
    "Without FILE the document is read from the input."]

def helpText : Text := helpLines.flatMap fun line => line.toList ++ ['\n']

def Usage.message : Usage → Text
  | .helpWanted => helpText
  | .versionWanted => versionText
  | .noArguments => helpText
  | .noSubcommand => "error: a subcommand is required".toList
  | .unknownSubcommand => "error: there is no such subcommand".toList
  | .unknownArgument => "error: an argument is not expected here".toList
  | .missingValue => "error: an option is missing its value".toList
  | .emptyPath => "error: a path can not be empty".toList
  | .unwantedValue => "error: an option takes no value".toList
  | .repeatedArgument => "error: an argument can not be used more than once".toList
  | .missingCommand => "error: a formatting command is required".toList
  | .badValue fault => "error: ".toList ++ fault.message

/-- The text with a line feed at its end. -/
def withLineFeed (t : Text) : Text := if t.getLast? = some '\n' then t else t ++ ['\n']

/-- The label and the name of a command, in two columns. -/
def shortcutLine (k : Keymap) (c : Command) : Text :=
  (k.shortcutLabel c).toList.rightpad 16 ' ' ++ c.name.toList ++ ['\n']

def shortcutTable (k : Keymap) : Text := Command.all.flatMap (shortcutLine k)

/-- Formats a document in a buffer of its own, and tells whether a command other than
undo left the text as it was. A fresh buffer has nothing to undo, so undo only settles
the selection. -/
def formatted (s : Settings) (c : Command) (selection : Selection) (t : Text) :
    Bool × TextBuffer :=
  let buffer := ((TextBuffer.ofText t).withUndoLimit s.undoHistoryLimit).setSelection selection
  if c = .undo then (false, Session.afterHostEdit buffer)
  else
    let (changed, buffer) := Session.run c buffer
    (!changed, buffer)

def pastEndWarning (s : Selection) (t : Text) : Text :=
  "Selection ".toList ++ selectionText s ++ " extends past the end of the input (".toList ++
    Text.decimal t.length ++ " characters)".toList

def notADirectory (path : Text) : Failure :=
  .invalidArgument "--config".toList (['\''] ++ path ++ "' is a directory".toList)

section

variable {m : Type → Type} [Monad m]

/-- The document in the file, or on the input if no file is named. -/
def readDocument (sh : Shell m) (file : Option Text) : ExceptT Failure m Text := do
  match file with
  | some path =>
    match ← sh.readText path with
    | .ok t => return t
    | .error e => throw (.fileRead path e.message)
  | none =>
    match ← sh.inputText with
    | .ok t => return t
    | .error e => throw (.io e.message)

def runHighlight (sh : Shell m) (s : Settings) (file : Option Text) : ExceptT Failure m Unit := do
  let t ← readDocument sh file
  let (aliases, collisions) := s.aliases
  collisions.forM fun c => sh.warn c.message
  let registry := Registry.bundled
  sh.info ("Highlighting with ".toList ++ Text.decimal registry.size ++ " grammars and ".toList ++
    Text.decimal aliases.size ++ " aliases".toList)
  sh.output (withLineFeed (highlight registry aliases t).html)

def runFormat (sh : Shell m) (s : Settings) (c : Command) (selection : Selection)
    (file : Option Text) : ExceptT Failure m Unit := do
  let t ← readDocument sh file
  if t.length < selection.stop then sh.warn (pastEndWarning selection t)
  let (idle, buffer) := formatted s c selection t
  if idle then sh.info (c.name.toList ++ " left the text unchanged".toList)
  sh.notify (.report ("selection: ".toList ++ selectionText buffer.selection))
  sh.output (withLineFeed buffer.content)

def runPreview (sh : Shell m) (s : Settings) (file : Option Text) : ExceptT Failure m Unit := do
  let t ← readDocument sh file
  sh.output (withLineFeed (Preview.render s.preview t))

/-- The settings in the named file, which must be fit, or the user's own, which need not be. -/
def readSettings (sh : Shell m) (env : Environment) : Option Text → ExceptT Failure m Settings
  | none => ExceptT.lift (Store.load sh env)
  | some path => do
    if ← sh.isDirectory path then throw (notADirectory path)
    else ExceptT.mk (Store.loadFrom sh path)

/-- Settings are not read to write the default ones. -/
def run (sh : Shell m) (env : Environment) (i : Invocation) : ExceptT Failure m Unit := do
  match i.request with
  | .initConfig force =>
    let path ← ExceptT.mk (Store.init sh env i.config force)
    sh.info ("Wrote default configuration to ".toList ++ path)
  | .highlight file => runHighlight sh (← readSettings sh env i.config) file
  | .format c selection file => runFormat sh (← readSettings sh env i.config) c selection file
  | .preview file => runPreview sh (← readSettings sh env i.config) file
  | .shortcuts =>
    let s ← readSettings sh env i.config
    sh.output (shortcutTable s.keymap)

/-- Answers words that are no request, with the exit code. -/
def answerUsage (sh : Shell m) : Usage → m Nat
  | .versionWanted => do
    sh.output versionText
    return 0
  | .helpWanted => do
    sh.output helpText
    return 0
  | usage => do
    sh.notify (.report usage.message)
    return 2

/-- Does what the words ask for and gives the exit code. -/
def start (sh : Shell m) (env : Environment) (words : List Text) : m Nat := do
  match parse words with
  | .error usage => answerUsage sh usage
  | .ok i =>
    match ← (run sh env i).run with
    | .ok _ => return 0
    | .error f =>
      sh.notify (.log .error f.message)
      return 1

end

end MarkdownEditor.CommandLine
