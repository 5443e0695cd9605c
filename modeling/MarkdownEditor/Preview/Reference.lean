import MarkdownEditor.Preview.Target
import MarkdownEditor.Text.Blank
import MarkdownEditor.Text.Lowercase

/-!
# Link definitions

A definition gives a target a label. Links refer to it by that label, from
anywhere in the document. Case and the amount of white space in a label do not
count.
-/

namespace MarkdownEditor.Preview

set_option autoImplicit false

def lowercaseLabelChar (c : Char) : Text := Text.lowercaseBetween [] c []

/-- The text with one space for each run of white space. -/
def collapseSpace (afterSpace : Bool) : Text → Text
  | [] => []
  | c :: t =>
    if Text.isBlankChar c then
      if afterSpace then collapseSpace true t else ' ' :: collapseSpace true t
    else c :: collapseSpace false t

/-- What two labels for the same target have in common. -/
def labelKey (label : Text) : Text :=
  collapseSpace false ((Text.trimAscii label).flatMap lowercaseLabelChar)

/-- A label and its closing bracket, after the opening one. There are no brackets in it unless
a backslash stands before them. -/
def labelUpTo? : Text → Option (Text × Text)
  | '\\' :: c :: t =>
    if Text.isAsciiSign c then (labelUpTo? t).map fun read => keepFirst '\\' (keepFirst c read)
    else (labelUpTo? (c :: t)).map (keepFirst '\\')
  | c :: t =>
    if c = ']' then some ([], t)
    else if c = '[' then none
    else (labelUpTo? t).map (keepFirst c)
  | [] => none

def maxLabelSize : Nat := 1000

/-- The label in brackets that starts here. -/
def label? (t : Text) : Option (Text × Text) :=
  match t with
  | '[' :: rest =>
    match labelUpTo? rest with
    | some (label, rest) =>
      if Text.byteSize label ≤ maxLabelSize then some (Text.trimAscii label, rest) else none
    | none => none
  | _ => none

structure Definition where
  key : Text
  target : Target
deriving DecidableEq, Repr

/-- The target for a label. Of several definitions the first one counts. -/
def findTarget? (definitions : List Definition) (label : Text) : Option Target :=
  (definitions.find? fun d => d.key == labelKey label).map Definition.target

/-- The text after spaces and the end of the line, if nothing else stands there. -/
def afterLineEnd? (t : Text) : Option Text :=
  match t.dropWhile Text.isSpaceOrTab with
  | [] => some []
  | c :: rest => if c = '\n' then some rest else none

/-- The text after spaces and at most one end of a line. -/
def afterGap (t : Text) : Text :=
  match t.dropWhile Text.isSpaceOrTab with
  | '\n' :: rest => rest.dropWhile Text.isSpaceOrTab
  | rest => rest

/-- A title after an address, if it is set apart and ends its line, and what follows the
line. -/
def definitionTitle? (t : Text) : Option (Text × Text) :=
  let apart := afterGap t
  if apart.length < t.length then
    match title? apart with
    | some (title, rest) => (afterLineEnd? rest).map fun rest => (title, rest)
    | none => none
  else none

/-- The definition that starts here, and what stands after its last line. -/
def definition? (t : Text) : Option (Definition × Text) :=
  match label? t with
  | some (label, ':' :: rest) =>
    if label.isEmpty then none
    else
      match address? (afterGap rest) with
      | none => none
      | some (address, rest) =>
        let ended := (definitionTitle? rest).orElse fun _ =>
          (afterLineEnd? rest).map fun rest => ([], rest)
        ended.map fun (title, rest) =>
          (⟨labelKey label, Target.ofWritten address title⟩, rest)
  | _ => none

/-- The definitions at the start of the text, and the rest of it. -/
def takeDefinitions (t : Text) : List Definition × Text :=
  match definition? t with
  | none => ([], t)
  | some (d, rest) =>
    if rest.length < t.length then
      let (more, rest) := takeDefinitions rest
      (d :: more, rest)
    else ([], t)
termination_by t.length

end MarkdownEditor.Preview
