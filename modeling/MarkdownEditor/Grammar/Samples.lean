import MarkdownEditor.Grammar.Context
import MarkdownEditor.Text.Blank

/-!
# Sample grammars

Small grammars to try the highlighter with: a splitter into words, grammars
that return one token, none, or always fail, and three languages of a catalog.
-/

namespace MarkdownEditor.Samples

set_option autoImplicit false

open Pattern ContextRule

/-- Words in class `word`; every blank character is a token of its own. -/
def splitWords : Text → List Token
  | [] => []
  | c :: t =>
    if Text.isBlankChar c then ⟨none, [c]⟩ :: splitWords t
    else
      match splitWords t with
      | ⟨some cls, word⟩ :: rest => ⟨some cls, c :: word⟩ :: rest
      | rest => ⟨some "word".toList, [c]⟩ :: rest

def words : Grammar := fun source => .ok (splitWords source)

/-- One token whose class needs escaping. -/
def whole : Grammar := fun source => .ok [⟨some "q\"<&>'".toList, source⟩]

def silent : Grammar := fun _ => .ok []

def broken : Grammar := fun _ => .error ⟨"broken".toList, "unsupported".toList⟩

def plainText : ContextGrammar := ⟨"text.plain".toList, [], []⟩

def miniRules : List ContextRule :=
  [marking (wholeWord ["let", "if", "return"]) "keyword.control.mini",
   ⟨seq (group 1 (oneOrMore fun c => ('a' ≤ c && c ≤ 'z') || c == '_')) (group 2 (sign '(')), none,
    [(1, "entity.name.function.mini".toList), (2, "punctuation.section.group.begin.mini".toList)],
    .stay⟩,
   marking (sign ')') "punctuation.section.group.end.mini",
   marking (oneOrMore isDecimal) "constant.numeric.mini",
   entering (sign '"') "punctuation.definition.string.begin.mini" "string",
   entering (literal "//".toList) "punctuation.definition.comment.mini" "comment",
   entering (sign '\x7b') "punctuation.section.block.begin.mini" "block"]

def mini : ContextGrammar :=
  ⟨"source.mini".toList, miniRules,
   [("string".toList,
     ⟨["string.quoted.double.mini".toList],
      [marking (seq (sign '\\') (char notLineFeed)) "constant.character.escape.mini",
       leaving (sign '"') "punctuation.definition.string.end.mini"]⟩),
    ("comment".toList,
     ⟨["comment.line.mini".toList], [⟨sign '\n', none, [], .leave⟩]⟩),
    ("block".toList,
     ⟨["meta.block.mini".toList],
      leaving (sign '\x7d') "punctuation.section.block.end.mini" :: miniRules⟩)]⟩

/-- A grammar with a rule that enters a context that does not exist. -/
def dangling : ContextGrammar :=
  ⟨"source.bad".toList,
   [marking (oneOrMore isDecimal) "constant.numeric.bad",
    ⟨sign '@', none, [], .enter "nowhere".toList⟩,
    leaving (sign '%') "punctuation.pct"], []⟩

def catalog : Catalog :=
  [⟨"Plain Text".toList, ["txt".toList], plainText⟩,
   ⟨"Mini Lang".toList, ["mini".toList, "mn".toList], mini⟩,
   ⟨"Bad Ref".toList, ["bad".toList], dangling⟩]

end MarkdownEditor.Samples
