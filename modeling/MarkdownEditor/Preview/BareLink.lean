import MarkdownEditor.Preview.Address
import MarkdownEditor.Preview.Document
import MarkdownEditor.Text.Blank
import MarkdownEditor.Text.Punctuation

/-!
# Bare links

Addresses and mailboxes in a text are links by themselves. They are found from
one of their signs: the colon of a scheme, the first letter of `www.`, or the
sign before a host.
-/

namespace MarkdownEditor.Preview

set_option autoImplicit false

def isHostChar (c : Char) : Bool :=
  c == '-' || !(Text.isBlankChar c || Text.isPunctuation c)

/-- Up to so many dots, a host without an end must not have an underscore in its last parts. -/
def maxHostDots : Nat := 10

/-- Whether a host starts here. `dots` counts the dots so far; `inLast` and `inPart` say whether
the part before the last dot and the one after it have an underscore. A host needs a dot unless
it may be short. -/
def startsHost (mayBeShort : Bool) (dots : Nat) (inLast inPart : Bool) : Text → Bool
  | [] => (maxHostDots < dots || !(inLast || inPart)) && (mayBeShort || 0 < dots)
  | c :: t =>
    if c = '_' then startsHost mayBeShort dots inLast true t
    else if c = '.' then startsHost mayBeShort (dots + 1) inPart false t
    else if isHostChar c then startsHost mayBeShort dots inLast inPart t
    else !(inLast || inPart) && (mayBeShort || 0 < dots)

/-- Marks that belong to the sentence when they stand at an address's end. -/
def isTrailing (c : Char) : Bool :=
  c == '?' || c == '!' || c == '.' || c == ',' || c == ':' || c == '*' || c == '_' || c == '~' ||
    c == '\'' || c == '"'

/-- An address written backwards, without what belongs to the sentence around it: marks, an
entity, and parentheses that close more than it opens. -/
def dropTrailing (t : Text) : Text :=
  match t with
  | [] => []
  | c :: rest =>
    if isTrailing c then dropTrailing rest
    else if c = ';' then
      let name := rest.takeWhile Char.isAlpha
      let beforeName := rest.drop name.length
      if !name.isEmpty && beforeName.head? == some '&' then dropTrailing (beforeName.drop 1)
      else dropTrailing rest
    else if c = ')' && rest.count '(' < rest.count ')' + 1 then dropTrailing rest
    else c :: rest
termination_by t.length
decreasing_by
  all_goals simp only [List.length_drop, List.length_cons]
  all_goals omega

/-- The part of the text that belongs to an address which starts here. -/
def addressPart (t : Text) : Text :=
  let word := (t.takeWhile fun c => !Text.isAsciiSpace c).takeWhile (· != '<')
  (dropTrailing word.reverse).reverse

/-- A link in a text, with the text around it. -/
structure FoundLink where
  /-- The text before it, backwards. -/
  before : Text
  link : PlainLink
  after : Text

def webSchemes : List Text := ["http".toList, "https".toList, "ftp".toList]

/-- The link around the colon that stands between the two texts; the first one is given
backwards. -/
def webLink? (before after : Text) : Option FoundLink :=
  let scheme := before.takeWhile Char.isAlpha
  match after with
  | '/' :: '/' :: host =>
    if !host.isEmpty && webSchemes.contains scheme.reverse && startsHost true 0 false false host then
      let part := addressPart (':' :: after)
      let address := scheme.reverse ++ part
      some ⟨before.drop scheme.length, ⟨address, address⟩, after.drop (part.length - 1)⟩
    else none
  | _ => none

def canStandBeforeHost (c : Char) : Bool :=
  Text.isAsciiSpace c || c == '*' || c == '_' || c == '~' || c == '(' || c == '['

def hostStart : Text := "ww.".toList

/-- The link that starts with the letter that stands between the two texts. -/
def hostLink? (before after : Text) : Option FoundLink :=
  let text := 'w' :: after
  if (before.head?.map canStandBeforeHost).getD true && hostStart.isPrefixOf after &&
      startsHost false 0 false false text then
    let part := addressPart text
    some ⟨before, ⟨"http://".toList ++ part, part⟩, after.drop (part.length - 1)⟩
  else none

def isUserChar (c : Char) : Bool :=
  c.isAlphanum || c == '.' || c == '+' || c == '-' || c == '_'

def chatScheme : Text := "xmpp:".toList

/-- The part of a mailbox before its sign. -/
structure User where
  /-- How many characters it takes. -/
  size : Nat
  /-- Whether a scheme stands before it. -/
  hasScheme : Bool
  /-- Whether that is the scheme of a chat, where addresses have slashes. -/
  isChat : Bool

/-- The user at the end of a text, which is given backwards. -/
def userBefore (u : User) : Text → User
  | [] => u
  | c :: t =>
    let scheme := (c :: t.takeWhile Char.isAlpha).reverse
    if isUserChar c then userBefore { u with size := u.size + 1 } t
    else if scheme = mailScheme then userBefore ⟨u.size + 1, true, u.isChat⟩ t
    else if scheme = chatScheme then userBefore ⟨u.size + 1, true, true⟩ t
    else u

/-- How many characters from here on belong to the host of a mailbox. -/
def mailboxHostSize (isChat : Bool) : Text → Nat
  | [] => 0
  | c :: t =>
    if c.isAlphanum || c = '-' || c = '_' || (c = '/' && isChat) ||
        (c = '.' && (t.head?.map Char.isAlphanum).getD false) then
      mailboxHostSize isChat t + 1
    else 0

/-- The link around the sign of a mailbox that stands between the two texts. -/
def mailboxLink? (before after : Text) : Option FoundLink :=
  let user := userBefore ⟨0, false, false⟩ before
  let host := after.take (mailboxHostSize user.isChat after)
  let rest := after.drop host.length
  if user.size != 0 && rest.head? != some '@' && host.contains '.' &&
      (host.getLast?.map Char.isAlpha).getD false then
    let label := (before.take user.size).reverse ++ ['@'] ++ host
    let address := if user.hasScheme then label else mailScheme ++ label
    some ⟨before.drop user.size, ⟨address, label⟩, rest⟩
  else none

/-- The first link of a text, outside of brackets. `opened` is how many brackets were opened
and not closed in the text before, which is given backwards. -/
def findLink? (opened : Int) (before : Text) : Text → Option FoundLink
  | [] => none
  | c :: after =>
    let opened := if c = '[' then opened + 1 else if c = ']' then opened - 1 else opened
    let found :=
      if 0 < opened then none
      else if c = ':' then webLink? before after
      else if c = 'w' then hostLink? before after
      else if c = '@' then mailboxLink? before after
      else none
    match found with
    | some link => some link
    | none => findLink? opened (c :: before) after

/-- The text as content with its bare links. -/
def linkText (t : Text) : List Inline :=
  match findLink? 0 [] t with
  | none => [.text t]
  | some found =>
    .text found.before.reverse :: .link ⟨found.link.address, []⟩ [.text found.link.label] ::
      (if found.after.isEmpty then []
        else if found.after.length < t.length then linkText found.after
        else [.text found.after])
termination_by t.length

mutual

/-- Content whose texts have their bare links. There are none in links and images. -/
def linkContent : Inline → List Inline
  | .text content => linkText content
  | .emphasis children => [.emphasis (linkContents children)]
  | .strong children => [.strong (linkContents children)]
  | .deleted children => [.deleted (linkContents children)]
  | i => [i]

def linkContents : List Inline → List Inline
  | [] => []
  | i :: rest => linkContent i ++ linkContents rest

end

end MarkdownEditor.Preview
