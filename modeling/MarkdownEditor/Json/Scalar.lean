import MarkdownEditor.Json.Number

/-!
# Reading scalars of a known type

Each reader expects one type of value. Anything else is a fault that names what
was found instead. Such a value is read first, and its own faults go before;
only a list or an object is left unread.
-/

namespace MarkdownEditor.Json

set_option autoImplicit false

/-- The fault for the value at the start of the text, where `expected` should be. -/
def mismatch (expected : String) : Text → Fault
  | [] => .before .endInValue []
  | c :: rest =>
    let found (f : Found) (unread : Text) : Fault := .before (.wrongType f expected) unread
    let orFault {n : Nat} {α : Type} (r : Except Fault (Read α n)) (f : α → Found) : Fault :=
      match r with
      | .ok r => found (f r.value) r.unread
      | .error e => e
    if c = 'n' then orFault (readIdent "ull".toList rest) fun _ => .null
    else if c = 't' then orFault (readIdent "rue".toList rest) fun _ => .bool true
    else if c = 'f' then orFault (readIdent "alse".toList rest) fun _ => .bool false
    else if c = '-' then orFault (readNumber true rest) Number.found
    else if Text.isDigit c then orFault (readNumber false (c :: rest)) Number.found
    else if c = '"' then orFault (readString rest) Found.string
    else if c = '[' then found .list (c :: rest)
    else if c = '\x7b' then found .object (c :: rest)
    else .next .expectedValue (c :: rest)

def readNull : Reader Unit := fun t =>
  match h : skipSpace t with
  | [] => .error (.before .endInValue [])
  | c :: rest =>
    if c = 'n' then
      (readIdent "ull".toList rest).map (·.widen (length_of_skipSpace_eq h))
    else .error (mismatch "unit" (c :: rest))

def readBool : Reader Bool := fun t =>
  match h : skipSpace t with
  | [] => .error (.before .endInValue [])
  | c :: rest =>
    if c = 't' then
      (readIdent "rue".toList rest).map fun r => (r.map fun _ => true).widen (length_of_skipSpace_eq h)
    else if c = 'f' then
      (readIdent "alse".toList rest).map fun r => (r.map fun _ => false).widen (length_of_skipSpace_eq h)
    else .error (mismatch "a boolean" (c :: rest))

/-- A string where `expected` should be. -/
def readStringOf (expected : String) : Reader Text := fun t =>
  match h : skipSpace t with
  | [] => .error (.before .endInValue [])
  | c :: rest =>
    if c = '"' then
      (readString rest).map (·.widen (length_le_of_skipSpace_eq h))
    else .error (mismatch expected (c :: rest))

/-- The natural number, unless the number is none. -/
def naturalOf {bound : Nat} (r : Read Number bound) : Except Fault (Read Nat bound) :=
  match r.value with
  | .natural n => .ok ⟨n, r.unread, r.short⟩
  | .negative n => .error (.before (.wrongValue (.negative n) "usize") r.unread)
  | .float f => .error (.before (.wrongType (Number.float f).found "usize") r.unread)

/-- A natural number of at most 64 bits. -/
def readNatural : Reader Nat := fun t =>
  match h : skipSpace t with
  | [] => .error (.before .endInValue [])
  | c :: rest =>
    if c = '-' then do
      return (← naturalOf (← readNumber true rest)).widen (length_le_of_skipSpace_eq h)
    else if Text.isDigit c then do
      return (← naturalOf (← readNumber false (c :: rest))).widen (length_cons_le_of_skipSpace_eq h)
    else .error (mismatch "usize" (c :: rest))

end MarkdownEditor.Json
