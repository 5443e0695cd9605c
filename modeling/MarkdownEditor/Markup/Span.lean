import MarkdownEditor.Markup.Escape

/-!
# Spans

The highlighted form of a document is a list of spans: plain text, text with a
token class, and fenced blocks that hold spans of their own. `visible` is the
text the spans cover and `html` their markup.
-/

namespace MarkdownEditor

set_option autoImplicit false

inductive Span where
  | text (text : Text)
  | token (cls : Text) (text : Text)
  | codeBlock (tag : Text) (grammar : Option Text) (children : List Span)
deriving Repr

namespace Span

mutual

/-- The text the span covers. -/
def visible : Span → Text
  | .text t => t
  | .token _ t => t
  | .codeBlock _ _ children => visibleAll children

def visibleAll : List Span → Text
  | [] => []
  | s :: rest => visible s ++ visibleAll rest

end

def spanOpening : Text := "<span class=\"".toList

def spanClosing : Text := "</span>".toList

/-- The attribute that names the language of a fenced block; none for an empty tag. -/
def languageAttribute (tag : Text) : Text :=
  if tag.isEmpty then [] else " data-language=\"".toList ++ Markup.escape tag ++ ['"']

mutual

/-- The markup of the span. All text of the document is escaped. -/
def html : Span → Text
  | .text t => Markup.escape t
  | .token cls t =>
    spanOpening ++ "token ".toList ++ Markup.escape cls ++ ['"', '>'] ++ Markup.escape t ++
      spanClosing
  | .codeBlock tag _ children =>
    spanOpening ++ "code-block\"".toList ++ languageAttribute tag ++ ['>'] ++
      htmlAll children ++ spanClosing

def htmlAll : List Span → Text
  | [] => []
  | s :: rest => html s ++ htmlAll rest

end

def isCodeBlock : Span → Bool
  | .codeBlock .. => true
  | _ => false

@[simp] theorem visibleAll_append (a b : List Span) :
    visibleAll (a ++ b) = visibleAll a ++ visibleAll b := by
  induction a with
  | nil => simp [visibleAll]
  | cons s a ih => simp [visibleAll, ih]

@[simp] theorem htmlAll_append (a b : List Span) :
    htmlAll (a ++ b) = htmlAll a ++ htmlAll b := by
  induction a with
  | nil => simp [htmlAll]
  | cons s a ih => simp [htmlAll, ih]

end Span

end MarkdownEditor
