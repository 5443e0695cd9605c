import MarkdownEditor.Json.Number

/-!
# Passing over values

A value that nobody asks for is only checked for its form. The lists and objects
that are open are kept as a stack, so the depth is not limited. A comma is
followed by a value or a key in any case, so a closing bracket after it is
reported as what it is not.
-/

namespace MarkdownEditor.Json

set_option autoImplicit false

inductive Frame where
  | list
  | object
deriving DecidableEq, Repr

namespace Frame

def closing : Frame → Char
  | .list => ']'
  | .object => '\x7d'

def endProblem : Frame → Problem
  | .list => .endInList
  | .object => .endInObject

def separatorProblem : Frame → Problem
  | .list => .expectedCommaOrBracket
  | .object => .expectedCommaOrBrace

end Frame

/-- Passes over a scalar, or over the bracket that opens a frame. -/
def skipScalarOrOpen : Reader (Option Frame) := fun t =>
  match h : skipSpace t with
  | [] => .error (.before .endInValue [])
  | c :: rest =>
    have hRest := length_of_skipSpace_eq h
    let scalar {n : Nat} (hn : n ≤ t.length) (r : Except Fault (Read Unit n)) :
        Except Fault (Read (Option Frame) t.length) :=
      r.map fun r => (r.map fun _ => none).widen hn
    if c = 'n' then scalar hRest (readIdent "ull".toList rest)
    else if c = 't' then scalar hRest (readIdent "rue".toList rest)
    else if c = 'f' then scalar hRest (readIdent "alse".toList rest)
    else if c = '-' then scalar (length_le_of_skipSpace_eq h) (skipNumber rest)
    else if Text.isDigit c then scalar (length_cons_le_of_skipSpace_eq h) (skipNumber (c :: rest))
    else if c = '"' then scalar (length_le_of_skipSpace_eq h) (skipString rest)
    else if c = '[' then .ok ⟨some .list, rest, hRest⟩
    else if c = '\x7b' then .ok ⟨some .object, rest, hRest⟩
    else .error (.next .expectedValue (c :: rest))

theorem length_lt_succ_of_lt {t rest : Text} (h : rest.length < t.length) :
    rest.length < t.length + 1 :=
  Nat.lt_succ_of_lt h

theorem succ_length_le_of_lt {t rest : Text} (h : rest.length < t.length) :
    rest.length + 1 ≤ t.length + 1 :=
  Nat.lt_succ_of_lt h

theorem length_cons_lt_succ_of_lt {t rest : Text} (c : Char) (h : rest.length < t.length) :
    (c :: rest).length < t.length + 1 :=
  Nat.succ_lt_succ h

/-- Closes frames until a comma, or the start of a frame just opened, tells that
more is to come. The answer is the frames that are still open. -/
def closeFrames (afterValue : Bool) (frame : Frame) (outer : List Frame) (t : Text) :
    Except Fault (Read (List Frame) (t.length + 1)) :=
  match h : skipSpace t with
  | [] => .error (.before frame.endProblem [])
  | c :: rest =>
    have hRest := length_of_skipSpace_eq h
    if afterValue && c = ',' then .ok ⟨frame :: outer, rest, length_lt_succ_of_lt hRest⟩
    else if c = frame.closing then
      match outer with
      | [] => .ok ⟨[], rest, length_lt_succ_of_lt hRest⟩
      | next :: outer => (closeFrames true next outer rest).map (·.widen (succ_length_le_of_lt hRest))
    else if afterValue then .error (.next frame.separatorProblem (c :: rest))
    else .ok ⟨frame :: outer, c :: rest, length_cons_lt_succ_of_lt c hRest⟩

/-- Passes over a key and its colon if the innermost frame is an object. -/
def skipKey (frames : List Frame) (t : Text) : Except Fault (Read Unit (t.length + 1)) :=
  match frames with
  | .object :: _ =>
    match h : skipSpace t with
    | [] => .error (.before .endInObject [])
    | c :: rest =>
      if c = '"' then do
        let key ← skipString rest
        let colon ← readColon key.unread
        return ⟨(), colon.unread, by
          have := length_of_skipSpace_eq h
          have := key.short
          have := colon.short
          omega⟩
      else .error (.next .keyNotString (c :: rest))
  | _ => .ok ⟨(), t, length_lt_succ t⟩

/-- Passes over a value and over all that is left of the open frames. -/
def skipWithin (frames : List Frame) : Reader Unit := fun t => do
  let start ← skipScalarOrOpen t
  let closed ← match start.value, frames with
    | some frame, frames => closeFrames false frame frames start.unread
    | none, [] => .ok ⟨[], start.unread, Nat.lt_succ_self _⟩
    | none, frame :: outer => closeFrames true frame outer start.unread
  match closed.value with
  | [] => return ⟨(), closed.unread, by
      have := start.short
      have := closed.short
      omega⟩
  | open_ =>
    let key ← skipKey open_ closed.unread
    let later ← skipWithin open_ key.unread
    return ⟨(), later.unread, by
      have := start.short
      have := closed.short
      have := key.short
      have := later.short
      omega⟩
termination_by t => t.length
decreasing_by
  have := start.short
  have := closed.short
  have := key.short
  omega

def skipValue : Reader Unit := skipWithin []

end MarkdownEditor.Json
