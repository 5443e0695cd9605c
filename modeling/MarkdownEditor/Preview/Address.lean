import MarkdownEditor.Preview.Target
import MarkdownEditor.Text.Lowercase

/-!
# Addresses in angle brackets

An address or a mailbox between angle brackets is a link. A mailbox is written
without its scheme.
-/

namespace MarkdownEditor.Preview

set_option autoImplicit false

/-- A link without a title: where it leads and what it shows. -/
structure PlainLink where
  address : Text
  label : Text
deriving DecidableEq, Repr

def mailScheme : Text := "mailto:".toList

def isSchemeChar (c : Char) : Bool := c.isAlphanum || c == '.' || c == '+' || c == '-'

/-- A scheme has 2 to 32 characters and starts with a letter. -/
def isScheme (t : Text) : Bool :=
  2 ≤ t.length && t.length ≤ 32 && (t.head?.map Char.isAlpha).getD false && t.all isSchemeChar

def isBracketedAddressChar (c : Char) : Bool := ' ' < c && c != '<' && c != '>'

/-- The content of a link to an address, and what stands after its closing bracket. -/
def schemeAddress? (t : Text) : Option (Text × Text) :=
  let content := t.takeWhile isBracketedAddressChar
  if isScheme (content.takeWhile (· != ':')) && content.contains ':' then
    match t.drop content.length with
    | '>' :: rest => some (content, rest)
    | _ => none
  else none

def isMailboxChar (c : Char) : Bool :=
  c.isAlphanum || (".!#$%&'*+/=?^_\x60\x7b|\x7d~-".toList).contains c

def maxHostLabelSize : Nat := 63

/-- A part of a host's name between dots. -/
def isHostLabel (t : Text) : Bool :=
  1 ≤ t.length && t.length ≤ maxHostLabelSize && t.all (fun c => c.isAlphanum || c == '-') &&
    t.head? != some '-' && t.getLast? != some '-'

def isHost (t : Text) : Bool := (t.splitOn '.').all isHostLabel

/-- The content of a link to a mailbox, and what stands after its closing bracket. -/
def mailboxAddress? (t : Text) : Option (Text × Text) :=
  let user := t.takeWhile isMailboxChar
  match t.drop user.length with
  | '@' :: rest =>
    let host := rest.takeWhile (· != '>')
    match rest.drop host.length with
    | '>' :: rest =>
      if !user.isEmpty && isHost host then some (user ++ ['@'] ++ host, rest) else none
    | _ => none
  | _ => none

/-- The link that starts here, after its opening bracket, and what stands after it. -/
def bracketedLink? (t : Text) : Option (PlainLink × Text) :=
  match schemeAddress? t with
  | some (content, rest) => some (⟨decodeEntities content, decodeEntities content⟩, rest)
  | none =>
    (mailboxAddress? t).map fun (content, rest) =>
      (⟨mailScheme ++ decodeEntities content, decodeEntities content⟩, rest)

def dangerousSchemes : List Text :=
  ["javascript:".toList, "vbscript:".toList, "file:".toList, "data:".toList]

def harmlessData : List Text :=
  ["data:image/png".toList, "data:image/gif".toList, "data:image/jpeg".toList,
    "data:image/webp".toList]

/-- Addresses that could run something when they are opened. -/
def isDangerous (address : Text) : Bool :=
  let address := Text.asciiLowercase address
  dangerousSchemes.any (·.isPrefixOf address) && !harmlessData.any (·.isPrefixOf address)

end MarkdownEditor.Preview
