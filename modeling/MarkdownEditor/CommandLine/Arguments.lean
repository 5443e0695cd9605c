import MarkdownEditor.CommandLine.Value

/-!
# Arguments

The words of a command line belong to two levels: the program's own options, and
after the name of a subcommand the options and operands of that one.

A level is read in two passes. The first recognises the words one after the
other and stops at the first that has no meaning. The second takes the values
in the same order. A value in a word of its own is taken once the word after it
is recognised, so an unknown word is reported before a fault in the value next
to it, but after a fault in any value before that.
-/

namespace MarkdownEditor.CommandLine

set_option autoImplicit false

/-- Why the arguments are no request. -/
inductive Usage where
  | helpWanted
  | versionWanted
  | noArguments
  | noSubcommand
  | unknownSubcommand
  | unknownArgument
  | missingValue
  | emptyPath
  | unwantedValue
  | repeatedArgument
  | missingCommand
  | badValue (fault : ValueFault)
deriving DecidableEq, Repr

inductive Request where
  | highlight (file : Option Text)
  | format (command : Command) (selection : Selection) (file : Option Text)
  | preview (file : Option Text)
  | shortcuts
  | initConfig (force : Bool)
deriving DecidableEq, Repr

/-- A request, and the settings file to use for it if one was named. -/
structure Invocation where
  config : Option Text
  request : Request
deriving DecidableEq, Repr

inductive Flag where
  | help
  | version
  | force
deriving DecidableEq, Repr

/-- A place for one value. -/
inductive Slot where
  | config
  | selection
  | command
  | file
deriving DecidableEq, Repr

/-- What an option's name stands for. -/
inductive OptionKind where
  | flag (flag : Flag)
  | slot (slot : Slot)
deriving DecidableEq, Repr

inductive Subcommand where
  | highlight
  | format
  | preview
  | shortcuts
  | initConfig
deriving DecidableEq, Repr

namespace Subcommand

def all : List Subcommand := [highlight, format, preview, shortcuts, initConfig]

def name : Subcommand → Text
  | highlight => "highlight".toList
  | format => "format".toList
  | preview => "preview".toList
  | shortcuts => "shortcuts".toList
  | initConfig => "init-config".toList

def ofName? (word : Text) : Option Subcommand := all.find? fun s => s.name == word

end Subcommand

structure Level where
  long : List (Text × OptionKind)
  short : List (Char × OptionKind)
  operands : List Slot
  hasSubcommands : Bool

namespace Level

def common (long : List (Text × OptionKind)) (short : List (Char × OptionKind))
    (operands : List Slot) : Level :=
  ⟨("help".toList, .flag .help) :: ("config".toList, .slot .config) :: long,
    ('h', .flag .help) :: short, operands, false⟩

def top : Level :=
  { common [("version".toList, .flag .version)] [('V', .flag .version)] [] with
    hasSubcommands := true }

def ofSubcommand : Subcommand → Level
  | .highlight => common [] [] [.file]
  | .format =>
    common [("selection".toList, .slot .selection)] [('s', .slot .selection)] [.command, .file]
  | .preview => common [] [] [.file]
  | .shortcuts => common [] [] []
  | .initConfig => common [("force".toList, .flag .force)] [] []

end Level

inductive Item where
  | flag (flag : Flag)
  /-- An option with its value in the same word. -/
  | attached (slot : Slot) (value : Text)
  /-- An operand, or an option whose value is the next word, if there is one. -/
  | separate (slot : Slot) (value : Option Text)
deriving DecidableEq, Repr

/-- What ends the recognition of a level. -/
inductive Ending where
  | finished
  | subcommand (subcommand : Subcommand) (rest : List Text)
  | failed (usage : Usage)
deriving DecidableEq, Repr

/-- What a word is on its level. -/
inductive WordKind where
  /-- A value, an operand or a subcommand. -/
  | plain
  /-- The double hyphen, after which all words are operands. -/
  | separator
  | option (kind : OptionKind) (value : Option Text)
  | unknown
deriving DecidableEq, Repr

/-- A lone hyphen is plain. -/
def looksLikeOption : Text → Bool
  | '-' :: _ :: _ => true
  | _ => false

/-- What follows an option's name, where an equals sign stands before its value. -/
def afterEquals : Text → Option Text
  | '=' :: value => some value
  | _ => none

namespace Level

def longOption (level : Level) (word : Text) : WordKind :=
  let (name, rest) := word.span (· != '=')
  match level.long.lookup name with
  | some kind => .option kind (afterEquals rest)
  | none => .unknown

/-- A one-letter option. The equals sign before its value may be left out. -/
def shortOption (level : Level) (letter : Char) (rest : Text) : WordKind :=
  match level.short.lookup letter with
  | some (.flag f) => .option (.flag f) none
  | some (.slot s) =>
    .option (.slot s) (if rest.isEmpty then none else (afterEquals rest).getD rest)
  | none => .unknown

def wordKind (level : Level) : Text → WordKind
  | ['-', '-'] => .separator
  | '-' :: '-' :: word => level.longOption word
  | '-' :: letter :: rest => level.shortOption letter rest
  | _ => .plain

end Level

def helpWord : Text := "help".toList

def isSubcommandWord (word : Text) : Bool :=
  word == helpWord || (Subcommand.ofName? word).isSome

/-- What asking for help on these words comes to. No subcommand has its own ones. -/
def helpOn : List Text → Usage
  | [] => .helpWanted
  | [word] => if isSubcommandWord word then .helpWanted else .unknownSubcommand
  | _ :: _ :: _ => .unknownSubcommand

/-- The subcommand that the word starts on the level. -/
def subcommandEnding? (level : Level) (word : Text) (rest : List Text) : Option Ending :=
  if !level.hasSubcommands then none
  else if word = helpWord then some (.failed (helpOn rest))
  else (Subcommand.ofName? word).map fun s => .subcommand s rest

abbrev Recognised := List Item × Ending

def Recognised.add (item : Item) (r : Recognised) : Recognised := (item :: r.1, r.2)

/-- The words after a double hyphen. -/
def recogniseOperands (level : Level) : List Slot → List Text → Recognised
  | _, [] => ([], .finished)
  | [], word :: _ =>
    if level.hasSubcommands && !isSubcommandWord word then ([], .failed .unknownSubcommand)
    else ([], .failed .unknownArgument)
  | slot :: slots, word :: rest =>
    (recogniseOperands level slots rest).add (.separate slot (some word))

/-- The words of a level, with the operands that may still come. -/
def recognise (level : Level) (operands : List Slot) : List Text → Recognised
  | [] => ([], .finished)
  | word :: rest =>
    match subcommandEnding? level word rest, level.wordKind word with
    | some ending, _ => ([], ending)
    | none, .separator => recogniseOperands level operands rest
    | none, .unknown => ([], .failed .unknownArgument)
    | none, .option (.flag f) none => (recognise level operands rest).add (.flag f)
    | none, .option (.flag _) (some _) => ([], .failed .unwantedValue)
    | none, .option (.slot s) (some value) =>
      (recognise level operands rest).add (.attached s value)
    | none, .option (.slot s) none =>
      match rest with
      | [] => ([.separate s none], .finished)
      | value :: others =>
        if looksLikeOption value then (recognise level operands (value :: others)).add (.separate s none)
        else (recognise level operands others).add (.separate s (some value))
    | none, .plain =>
      match operands with
      | slot :: slots => (recognise level slots rest).add (.separate slot (some word))
      | [] =>
        ([], .failed (if level.hasSubcommands then .unknownSubcommand else .unknownArgument))

/-- The values found on a level so far. -/
structure Found where
  config : Option Text
  selection : Option Selection
  command : Option Command
  file : Option Text
  force : Bool
deriving DecidableEq, Repr

namespace Found

def empty : Found := ⟨none, none, none, none, false⟩

def has (found : Found) : Slot → Bool
  | .config => found.config.isSome
  | .selection => found.selection.isSome
  | .command => found.command.isSome
  | .file => found.file.isSome

def readPath (value : Text) : Except Usage Text :=
  if value.isEmpty then .error .emptyPath else .ok value

def store (found : Found) (slot : Slot) (value : Text) : Except Usage Found :=
  if found.has slot then .error .repeatedArgument
  else
    match slot with
    | .config => do return { found with config := ← readPath value }
    | .file => do return { found with file := ← readPath value }
    | .selection => do
      return { found with selection := ← (readSelection value).mapError .badValue }
    | .command => do return { found with command := ← (readCommand value).mapError .badValue }

def take (found : Found) : Item → Except Usage Found
  | .flag .help => .error .helpWanted
  | .flag .version => .error .versionWanted
  | .flag .force =>
    if found.force then .error .repeatedArgument else .ok { found with force := true }
  | .attached slot value => found.store slot value
  | .separate _ none => .error .missingValue
  | .separate slot (some value) => found.store slot value

end Found

/-- Whether the item's value is taken only after the next word is recognised. -/
def Item.waits : Item → Bool
  | .separate _ _ => true
  | _ => false

/-- The items, with a last one that waits apart. -/
def splitWaiting (items : List Item) : List Item × Option Item :=
  match items.getLast?.filter Item.waits with
  | some item => (items.dropLast, some item)
  | none => (items, none)

/-- Reads the words of a level. What ends it is looked into before the last item. -/
def readLevel {α : Type} (level : Level) (words : List Text)
    (followUp : Ending → Except Usage α) : Except Usage (Found × α) := do
  let (items, ending) := recognise level level.operands words
  let (settled, waiting) := splitWaiting items
  let found ← settled.foldlM Found.take .empty
  let result ← followUp ending
  return (← waiting.toList.foldlM Found.take found, result)

def request (found : Found) : Subcommand → Except Usage Request
  | .highlight => .ok (.highlight found.file)
  | .format =>
    match found.command with
    | some c => .ok (.format c (found.selection.getD (.caret 0)) found.file)
    | none => .error .missingCommand
  | .preview => .ok (.preview found.file)
  | .shortcuts => .ok .shortcuts
  | .initConfig => .ok (.initConfig found.force)

def readSubcommand (s : Subcommand) (words : List Text) : Except Usage Invocation := do
  let (found, _) ← readLevel (.ofSubcommand s) words fun
    | .failed usage => .error usage
    | _ => .ok ()
  return ⟨found.config, ← request found s⟩

/-- The settings file of the inner level counts if both levels name one. -/
def parse (words : List Text) : Except Usage Invocation := do
  let (found, inner) ← readLevel .top words fun
    | .failed usage => .error usage
    | .finished => .ok none
    | .subcommand s rest => do return some (← readSubcommand s rest)
  match inner with
  | some invocation => return { invocation with config := invocation.config <|> found.config }
  | none => throw (if found.config.isNone then .noArguments else .noSubcommand)

end MarkdownEditor.CommandLine
