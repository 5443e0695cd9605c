import MarkdownEditor.Preview.Entity

/-!
# Link targets

Where a link leads: an address and a title, which may be empty. A target in
parentheses follows the text of its link; a definition names one. The readers
here answer with what they read and what stands after it.
-/

namespace MarkdownEditor.Preview

set_option autoImplicit false

structure Target where
  address : Text
  title : Text
deriving DecidableEq, Repr

namespace Target

/-- A target as it is meant, from the way it is written. -/
def ofWritten (address title : Text) : Target :=
  ⟨literalText (Text.trimAscii address), literalText title⟩

end Target

def keepFirst (c : Char) (read : Text × Text) : Text × Text := (c :: read.1, read.2)

/-- An address in angle brackets, after the opening one. It lies on one line. -/
def bracketedAddress? : Text → Option (Text × Text)
  | '\\' :: c :: t => (bracketedAddress? t).map fun read => keepFirst '\\' (keepFirst c read)
  | c :: t =>
    if c = '>' then some ([], t)
    else if c = '\n' || c = '<' then none
    else (bracketedAddress? t).map (keepFirst c)
  | [] => none

def maxParentheses : Nat := 32

/-- An address up to the first white space or control character, or up to the parenthesis
that closes more than was opened. -/
def plainAddress? (opened : Nat) : Text → Option (Text × Text)
  | '\\' :: c :: t =>
    if Text.isAsciiSign c then
      (plainAddress? opened t).map fun read => keepFirst '\\' (keepFirst c read)
    else (plainAddress? opened (c :: t)).map (keepFirst '\\')
  | c :: t =>
    if c = '(' then
      if opened < maxParentheses then (plainAddress? (opened + 1) t).map (keepFirst c) else none
    else if c = ')' then
      match opened with
      | 0 => some ([], c :: t)
      | outer + 1 => (plainAddress? outer t).map (keepFirst c)
    else if Text.isAsciiSpace c || Text.isAsciiControl c then
      if opened = 0 then some ([], c :: t) else none
    else (plainAddress? opened t).map (keepFirst c)
  | [] => none

/-- The address that starts here. Something has to follow it. -/
def address? (t : Text) : Option (Text × Text) :=
  match t with
  | '<' :: rest =>
    match bracketedAddress? rest with
    | some (_, []) => none
    | read => read
  | _ => plainAddress? 0 t

/-- A title after its opening mark. The closing mark ends it unless a backslash stands before
it; if no other mark follows, the last one after a backslash does. -/
def titleUpTo? (closing : Char) (escaped : Bool) : Text → Option (Text × Text)
  | [] => none
  | c :: t =>
    if c = closing then
      if escaped then
        match titleUpTo? closing false t with
        | some read => some (keepFirst c read)
        | none => some ([], t)
      else some ([], t)
    else if closing = ')' && c = '(' && !escaped then none
    else (titleUpTo? closing (c = '\\') t).map (keepFirst c)

def title? : Text → Option (Text × Text)
  | [] => none
  | c :: t =>
    if c = '"' || c = '\'' then titleUpTo? c false t
    else if c = '(' then titleUpTo? ')' false t
    else none

/-- A target after its opening parenthesis. White space separates the title from the address. -/
def enclosedTarget? (t : Text) : Option (Target × Text) :=
  match address? (t.dropWhile Text.isAsciiSpace) with
  | none => none
  | some (address, rest) =>
    let apart := rest.dropWhile Text.isAsciiSpace
    let found := if apart.length < rest.length then title? apart else none
    let (title, rest) := found.getD ([], apart)
    match rest.dropWhile Text.isAsciiSpace with
    | ')' :: rest => some (Target.ofWritten address title, rest)
    | _ => none

end MarkdownEditor.Preview
