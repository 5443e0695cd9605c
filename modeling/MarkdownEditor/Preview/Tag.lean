import MarkdownEditor.Text.Ascii

/-!
# Tags

Raw markup in a document: tags, comments, processing instructions, declarations
and character data. Each recogniser reads after the opening angle bracket and
says what stands after the closing one.
-/

namespace MarkdownEditor.Preview

set_option autoImplicit false

def isTagChar (c : Char) : Bool := c.isAlphanum || c == '-'

def isAttributeStart (c : Char) : Bool := c.isAlpha || c == '_' || c == ':'

def isAttributeChar (c : Char) : Bool :=
  c.isAlphanum || c == ':' || c == '.' || c == '_' || c == '-'

/-- Characters of an attribute value without quotes. -/
def isBareValueChar (c : Char) : Bool :=
  !Text.isAsciiSpace c && c != '"' && c != '\'' && c != '=' && c != '<' && c != '>' && c != '\x60'

def dropSpace (t : Text) : Text := t.dropWhile Text.isAsciiSpace

/-- What stands after the next `mark`. -/
def afterMark? (mark : Char) (t : Text) : Option Text :=
  match t.dropWhile (· != mark) with
  | _ :: rest => some rest
  | [] => none

def afterValue? (t : Text) : Option Text :=
  match t with
  | [] => none
  | c :: rest =>
    if c = '"' || c = '\'' then afterMark? c rest
    else if isBareValueChar c then some (rest.dropWhile isBareValueChar)
    else none

/-- After the name of an attribute and its value, if there is an equals sign. -/
def afterAttribute? (t : Text) : Option Text :=
  match dropSpace (t.dropWhile isAttributeChar) with
  | '=' :: value => afterValue? (dropSpace value)
  | _ => some (t.dropWhile isAttributeChar)

/-- After the end of an opening tag. White space stands before each attribute. -/
def afterAttributes? (t : Text) : Option Text :=
  match dropSpace t with
  | '>' :: rest => some rest
  | '/' :: '>' :: rest => some rest
  | c :: rest =>
    if isAttributeStart c && (t.head?.map Text.isAsciiSpace).getD false then
      match afterAttribute? (c :: rest) with
      | none => none
      | some more => if more.length < t.length then afterAttributes? more else none
    else none
  | [] => none
termination_by t.length

/-- After the opening or closing tag that starts here. -/
def afterTag? (t : Text) : Option Text :=
  let name? (t : Text) : Option Text :=
    if (t.head?.map Char.isAlpha).getD false then some (t.dropWhile isTagChar) else none
  match t with
  | '/' :: name =>
    match (name? name).map dropSpace with
    | some ('>' :: rest) => some rest
    | _ => none
  | name => (name? name).bind afterAttributes?

/-- After a comment. It holds no two hyphens in a row and starts with no closing bracket. -/
def afterComment? (start : Bool) : Text → Option Text
  | '-' :: '-' :: t => if t.head? = some '>' then some (t.drop 1) else none
  | '-' :: c :: t => if start && c = '>' then none else afterComment? false (c :: t)
  | c :: t => if start && c = '>' then none else afterComment? false t
  | [] => none

/-- After a processing instruction. A question mark and the next character are read together
unless they end it. -/
def afterInstruction? : Text → Option Text
  | '?' :: '>' :: t => some t
  | '?' :: _ :: t => afterInstruction? t
  | _ :: t => afterInstruction? t
  | [] => none

/-- After a declaration: a name in capitals, white space, and all up to the bracket. -/
def afterDeclaration? (t : Text) : Option Text :=
  let rest := t.dropWhile Char.isUpper
  if (t.head?.map Char.isUpper).getD false && (rest.head?.map Text.isAsciiSpace).getD false then
    afterMark? '>' rest
  else none

/-- After character data. A bracket that does not end it is read with the next character, and
two brackets with the third one. -/
def afterCharacterData? : Text → Option Text
  | ']' :: ']' :: '>' :: t => some t
  | ']' :: ']' :: _ :: t => afterCharacterData? t
  | ']' :: _ :: t => afterCharacterData? t
  | _ :: t => afterCharacterData? t
  | [] => none

def dataMark : Text := "[CDATA[".toList

/-- After the piece of raw markup that starts here. -/
def afterMarkup? (t : Text) : Option Text :=
  match t with
  | '!' :: '-' :: '-' :: comment => afterComment? true comment
  | '!' :: rest =>
    if dataMark.isPrefixOf rest then afterCharacterData? (rest.drop dataMark.length)
    else afterDeclaration? rest
  | '?' :: instruction => afterInstruction? instruction
  | _ => afterTag? t

end MarkdownEditor.Preview
