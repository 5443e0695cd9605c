import MarkdownEditor.Json.Number

/-!
# Checking JSON texts

Whether a text is one JSON value, with every number in range and every string
well formed. Lists and objects may be nested 127 deep.
-/

namespace MarkdownEditor.Json

set_option autoImplicit false

def maxDepth : Nat := 127

/-- Checks one value, in which lists and objects are nested at most `depth` deep. -/
def checkValue (depth : Nat) : Reader Unit := fun t =>
  match h : skipSpace t with
  | [] => .error (.before .endInValue [])
  | c :: rest =>
    have hRest := length_of_skipSpace_eq h
    let done {α : Type} {n : Nat} (hn : n ≤ t.length) (r : Except Fault (Read α n)) :
        Except Fault (Read Unit t.length) :=
      r.map fun r => (r.map fun _ => ()).widen hn
    if c = 'n' then done hRest (readIdent "ull".toList rest)
    else if c = 't' then done hRest (readIdent "rue".toList rest)
    else if c = 'f' then done hRest (readIdent "alse".toList rest)
    else if c = '-' then done (length_le_of_skipSpace_eq h) (readNumber true rest)
    else if Text.isDigit c then done (length_cons_le_of_skipSpace_eq h) (readNumber false (c :: rest))
    else if c = '"' then done (length_le_of_skipSpace_eq h) (readString rest)
    else if c = '[' then
      match depth with
      | 0 => .error (.next .tooDeep (c :: rest))
      | depth + 1 => done hRest (readElements (fun _ => checkValue depth) true () rest)
    else if c = '\x7b' then
      match depth with
      | 0 => .error (.next .tooDeep (c :: rest))
      | depth + 1 =>
        let member (_ : Text) (_ : Unit) : Reader Unit := fun t => do
          let colon ← readColon t
          let value ← checkValue depth colon.unread
          return ⟨(), value.unread, by
            have := colon.short
            have := value.short
            omega⟩
        done (length_le_of_skipSpace_eq h) (readMembers member true () rest)
    else .error (.next .expectedValue (c :: rest))

/-- The first fault of the text, if it is not a JSON value. -/
def fault? (t : Text) : Option Fault :=
  match readWholeText (checkValue maxDepth) t with
  | .ok _ => none
  | .error f => some f

end MarkdownEditor.Json
