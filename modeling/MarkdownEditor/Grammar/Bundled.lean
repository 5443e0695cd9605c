import MarkdownEditor.Grammar.Context
import MarkdownEditor.Text.Blank
import MarkdownEditor.Text.Quoted

/-!
# The bundled registry

The languages that are highlighted out of the box. JSON, with comments, has
rules of its own, and what can not stand where it stands is marked as illegal;
the text of the others is covered by their root scope alone.
-/

namespace MarkdownEditor

set_option autoImplicit false

namespace JsonGrammar

open Pattern ContextRule

def digits : Pattern := many Text.isDecimalDigit

def someDigits : Pattern := oneOrMore Text.isDecimalDigit

def exponentMark : Pattern := char fun c => c == 'e' || c == 'E'

def plusOrMinus : Pattern := char fun c => c == '+' || c == '-'

def hexDigit : Pattern :=
  char fun c => isDecimal c || ('a' ≤ c && c ≤ 'f') || ('A' ≤ c && c ≤ 'F')

def number : Pattern :=
  sequence
    [maybe (sign '-'),
     oneOf [sign '0', seq (char fun c => '1' ≤ c && c ≤ '9') digits],
     maybe (seq (sign '.') someDigits),
     maybe (sequence [exponentMark, maybe plusOrMinus, someDigits])]

def commentRules : List ContextRule :=
  [entering (seq (literal "/**".toList) (notAhead (sign '/'))) "punctuation.definition.comment.json"
     "documentation",
   entering (literal "/*".toList) "punctuation.definition.comment.json" "comment",
   ⟨sequence [group 1 (literal "//".toList), many notLineFeed, lineEnd, maybe (sign '\n')],
    some "comment.line.double-slash.js".toList,
    [(1, "punctuation.definition.comment.json".toList)], .stay⟩]

def valueRules : List ContextRule :=
  [marking (wholeWord ["true", "false", "null"]) "constant.language.json",
   marking number "constant.numeric.json",
   entering (sign '"') "punctuation.definition.string.begin.json" "string",
   entering (sign '[') "punctuation.section.array.begin.json" "array",
   entering (sign '\x7b') "punctuation.section.dictionary.begin.json" "object"] ++ commentRules

def escapeSequence : Pattern :=
  seq (sign '\\')
    (oneOf
      [char fun c => ['"', '\\', '/', 'b', 'f', 'n', 'r', 't'].contains c,
       sequence [sign 'u', hexDigit, hexDigit, hexDigit, hexDigit]])

def stringRules : List ContextRule :=
  [leaving (sign '"') "punctuation.definition.string.end.json",
   marking escapeSequence "constant.character.escape.json",
   marking (seq (sign '\\') (char notLineFeed)) "invalid.illegal.unrecognized-string-escape.json",
   leaving (seq lineEnd (maybe (sign '\n'))) "invalid.illegal.unclosed-string.json"]

/-- Any character that is neither blank nor `closing`. -/
def otherThan (closing : Char) : Pattern :=
  char fun c => !Text.isBlankChar c && c != closing

def arrayRules : List ContextRule :=
  [leaving (sign ']') "punctuation.section.array.end.json"] ++ valueRules ++
    [marking (sign ',') "punctuation.separator.array.json",
     marking (otherThan ']') "invalid.illegal.expected-array-separator.json"]

def objectRules : List ContextRule :=
  [leaving (sign '\x7d') "punctuation.section.dictionary.end.json",
   entering (sign '"') "punctuation.definition.string.begin.json" "key"] ++ commentRules ++
    [entering (sign ':') "punctuation.separator.dictionary.key-value.json" "member",
     marking (otherThan '\x7d') "invalid.illegal.expected-dictionary-separator.json"]

def memberRules : List ContextRule :=
  [⟨oneOf [group 1 (sign ','), ahead (sign '\x7d')], none,
    [(1, "punctuation.separator.dictionary.pair.json".toList)], .leave⟩] ++ valueRules ++
    [marking (otherThan ',') "invalid.illegal.expected-dictionary-separator.json"]

def commentEnd : ContextRule := ⟨literal "*/".toList, none, [], .leave⟩

def contexts : List (Text × Context) :=
  [("documentation".toList, ⟨["comment.block.documentation.json".toList], [commentEnd]⟩),
   ("comment".toList, ⟨["comment.block.json".toList], [commentEnd]⟩),
   ("string".toList, ⟨["string.quoted.double.json".toList], stringRules⟩),
   ("array".toList, ⟨["meta.structure.array.json".toList], arrayRules⟩),
   ("object".toList, ⟨["meta.structure.dictionary.json".toList], objectRules⟩),
   ("key".toList,
    ⟨["meta.structure.dictionary.key.json".toList, "string.quoted.double.json".toList],
      stringRules⟩),
   ("member".toList, ⟨["meta.structure.dictionary.value.json".toList], memberRules⟩)]

def definition : ContextGrammar := ⟨"source.json".toList, valueRules, contexts⟩

end JsonGrammar

def bundledLanguages : List (Text × ContextGrammar) :=
  let plain (id root : String) : Text × ContextGrammar := (id.toList, ⟨root.toList, [], []⟩)
  [plain "javascript" "source.js",
   plain "python" "source.python",
   plain "bash" "source.shell.bash",
   ("json".toList, JsonGrammar.definition),
   plain "css" "source.css",
   plain "markdown" "text.html.markdown",
   plain "rust" "source.rust",
   plain "html" "text.html.basic",
   plain "yaml" "source.yaml"]

namespace Registry

def bundled : Registry :=
  Dictionary.ofList (bundledLanguages.map fun (id, g) => (id, g.grammar id))

/-- The registered ids in a form for logs. -/
def describe (registry : Registry) : Text :=
  "GrammarRegistry \x7b languages: [".toList ++
    Text.joinWith ", ".toList (registry.keys.map Text.quote) ++ "] \x7d".toList

end Registry

end MarkdownEditor
