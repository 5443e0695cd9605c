import MarkdownEditor.Json.Fault
import MarkdownEditor.Text.Ascii

/-!
# Reading JSON texts

A reader takes a text and answers with a value and the text it left unread, or
with the first fault. That something was read is part of the answer: the unread
text is shorter than a bound. So loops over readers end.
-/

namespace MarkdownEditor.Json

set_option autoImplicit false

structure Read (α : Type) (bound : Nat) where
  value : α
  unread : Text
  short : unread.length < bound

/-- Reads at least one character. -/
abbrev Reader (α : Type) := (t : Text) → Except Fault (Read α t.length)

namespace Read

variable {α β : Type} {m n : Nat}

def widen (r : Read α m) (h : m ≤ n) : Read α n :=
  ⟨r.value, r.unread, Nat.lt_of_lt_of_le r.short h⟩

def map (f : α → β) (r : Read α n) : Read β n := ⟨f r.value, r.unread, r.short⟩

end Read

def isSpace (c : Char) : Bool := c == ' ' || c == '\n' || c == '\t' || c == '\r'

def skipSpace (t : Text) : Text := t.dropWhile isSpace

theorem length_dropWhile_le (p : Char → Bool) (t : Text) : (t.dropWhile p).length ≤ t.length :=
  (List.dropWhile_sublist p).length_le

theorem length_skipSpace_le (t : Text) : (skipSpace t).length ≤ t.length :=
  length_dropWhile_le _ t

theorem length_of_skipSpace_eq {t rest : Text} {c : Char} (h : skipSpace t = c :: rest) :
    rest.length < t.length := by
  have hLength := length_skipSpace_le t
  rw [h] at hLength
  exact hLength

theorem length_le_of_skipSpace_eq {t rest : Text} {c : Char} (h : skipSpace t = c :: rest) :
    rest.length ≤ t.length :=
  Nat.le_of_lt (length_of_skipSpace_eq h)

theorem length_cons_le_of_skipSpace_eq {t rest : Text} {c : Char} (h : skipSpace t = c :: rest) :
    (c :: rest).length ≤ t.length :=
  length_of_skipSpace_eq h

theorem length_lt_succ (t : Text) : t.length < t.length + 1 := Nat.lt_succ_self _

theorem length_lt_cons (c : Char) (t : Text) : t.length < (c :: t).length := Nat.lt_succ_self _

theorem length_lt_cons_cons (c d : Char) (t : Text) : t.length < (c :: d :: t).length :=
  Nat.lt_trans (length_lt_cons d t) (length_lt_cons c (d :: t))

theorem length_dropWhile_lt_cons (p : Char → Bool) (c : Char) (t : Text) :
    (t.dropWhile p).length < (c :: t).length :=
  Nat.lt_succ_of_le (length_dropWhile_le p t)

/-- Reads the rest of a name such as `true`. -/
def readIdent (name : Text) (t : Text) : Except Fault (Read Unit (t.length + 1)) :=
  match name with
  | [] => .ok ⟨(), t, length_lt_succ t⟩
  | c :: name =>
    match t with
    | [] => .error (.before .endInValue [])
    | d :: rest =>
      if c = d then (readIdent name rest).map (·.widen (by simp))
      else .error (.next .expectedIdent (d :: rest))

/-- Four hexadecimal digits. They are taken as four bytes, whatever these are. -/
def readHex : Reader Nat
  | a :: b :: c :: d :: rest =>
    match Text.hexValue? a, Text.hexValue? b, Text.hexValue? c, Text.hexValue? d with
    | some w, some x, some y, some z =>
      .ok ⟨((w * 16 + x) * 16 + y) * 16 + z, rest, by simp; omega⟩
    | _, _, _, _ => .error ⟨.invalidEscape, a :: b :: c :: d :: rest, 4⟩
  | t =>
    if t.byteSize < 4 then .error (.before .endInString [])
    else .error ⟨.invalidEscape, t, 4⟩

def simpleEscape? : Char → Option Char
  | '"' => some '"'
  | '\\' => some '\\'
  | '/' => some '/'
  | 'b' => some '\x08'
  | 'f' => some '\x0c'
  | 'n' => some '\n'
  | 'r' => some '\r'
  | 't' => some '\t'
  | _ => none

def isLeading (n : Nat) : Bool := 0xD800 ≤ n && n ≤ 0xDBFF

def isTrailing (n : Nat) : Bool := 0xDC00 ≤ n && n ≤ 0xDFFF

/-- The backslash and the letter between the two halves of a surrogate pair. -/
def readPairSeparator : Reader Unit
  | [] => .error (.before .endInString [])
  | c :: rest =>
    if c = '\\' then
      match rest with
      | [] => .error (.before .endInString [])
      | d :: rest =>
        if d = 'u' then .ok ⟨(), rest, length_lt_cons_cons c d rest⟩
        else .error (.next .unfinishedSurrogate (d :: rest))
    else .error (.next .unfinishedSurrogate (c :: rest))

/-- The character of a hexadecimal escape, after its letter `u`. A character
outside the basic plane takes two escapes. -/
def readUnicode : Reader Char := fun t => do
  let first ← readHex t
  if isTrailing first.value then .error (.before .loneSurrogate first.unread)
  else if isLeading first.value then do
    let between ← readPairSeparator first.unread
    let second ← readHex between.unread
    if isTrailing second.value then
      .ok ⟨Char.ofNat (0x10000 + (first.value - 0xD800) * 0x400 + (second.value - 0xDC00)),
        second.unread, by
          have := first.short
          have := between.short
          have := second.short
          omega⟩
    else .error (.before .loneSurrogate second.unread)
  else .ok ⟨Char.ofNat first.value, first.unread, first.short⟩

/-- The character of an escape, after its backslash. -/
def readEscape : Reader Char
  | [] => .error (.before .endInString [])
  | c :: rest =>
    if c = 'u' then (readUnicode rest).map (·.widen (by simp))
    else
      match simpleEscape? c with
      | some d => .ok ⟨d, rest, length_lt_cons c rest⟩
      | none => .error (.next .invalidEscape (c :: rest))

/-- The characters of a string, after its opening quote. -/
def readString : Reader Text
  | [] => .error (.before .endInString [])
  | c :: rest =>
    if c = '"' then .ok ⟨[], rest, length_lt_cons c rest⟩
    else if c = '\\' then do
      let escaped ← readEscape rest
      let later ← readString escaped.unread
      return ⟨escaped.value :: later.value, later.unread, by
        have := escaped.short
        have := later.short
        simp
        omega⟩
    else if c < ' ' then .error (.next .controlCharacter (c :: rest))
    else do
      let later ← readString rest
      return ⟨c :: later.value, later.unread, by
        have := later.short
        simp
        omega⟩
termination_by t => t.length
decreasing_by
  · have := escaped.short
    simp
    omega
  · simp

/-- Passes over a string, after its opening quote. Surrogates are not paired, and
a control character is reported before it is read. -/
def skipString : Reader Unit
  | [] => .error (.before .endInString [])
  | c :: rest =>
    if c = '"' then .ok ⟨(), rest, length_lt_cons c rest⟩
    else if c = '\\' then
      match rest with
      | [] => .error (.before .endInString [])
      | d :: rest =>
        if d = 'u' then do
          let hex ← readHex rest
          let later ← skipString hex.unread
          return ⟨(), later.unread, by
            have := hex.short
            have := later.short
            simp
            omega⟩
        else if (simpleEscape? d).isSome then do
          let later ← skipString rest
          return ⟨(), later.unread, by
            have := later.short
            simp
            omega⟩
        else .error (.next .invalidEscape (d :: rest))
    else if c < ' ' then .error (.before .controlCharacter (c :: rest))
    else do
      let later ← skipString rest
      return ⟨(), later.unread, by
        have := later.short
        simp
        omega⟩
termination_by t => t.length
decreasing_by
  · have := hex.short
    simp
    omega
  · simp only [List.length_cons]
    omega
  · simp

/-- Passes over the end of an object, or over what comes before the characters of
the next key: white space, a comma unless the key is the first, and the opening
quote. The answer is whether there is a key. -/
def readKeyStart (first : Bool) : Reader Bool := fun t =>
  match h : skipSpace t with
  | [] => .error (.before .endInObject [])
  | c :: rest =>
    have hRest := length_of_skipSpace_eq h
    if c = '\x7d' then .ok ⟨false, rest, hRest⟩
    else if first then
      if c = '"' then .ok ⟨true, rest, hRest⟩ else .error (.next .keyNotString (c :: rest))
    else if c = ',' then
      match h' : skipSpace rest with
      | [] => .error (.before .endInValue [])
      | d :: rest' =>
        if d = '"' then
          .ok ⟨true, rest', by
            have := length_of_skipSpace_eq h'
            omega⟩
        else if d = '\x7d' then .error (.next .trailingComma (d :: rest'))
        else .error (.next .keyNotString (d :: rest'))
    else .error (.next .expectedCommaOrBrace (c :: rest))

def readColon : Reader Unit := fun t =>
  match h : skipSpace t with
  | [] => .error (.before .endInObject [])
  | c :: rest =>
    if c = ':' then .ok ⟨(), rest, length_of_skipSpace_eq h⟩
    else .error (.next .expectedColon (c :: rest))

/-- Reads the members of an object, after its opening brace, and the closing
brace. `member` goes on from a key and reads its colon and value. -/
def readMembers {σ : Type} (member : Text → σ → Reader σ) (first : Bool) (state : σ) : Reader σ :=
  fun t => do
    let start ← readKeyStart first t
    if start.value then
      let key ← readString start.unread
      let next ← member key.value state key.unread
      let final ← readMembers member false next.value next.unread
      return ⟨final.value, final.unread, by
        have := start.short
        have := key.short
        have := next.short
        have := final.short
        omega⟩
    else return ⟨state, start.unread, start.short⟩
termination_by t => t.length
decreasing_by
  have := start.short
  have := key.short
  have := next.short
  omega

/-- Passes over the end of a list, or over what comes before its next element:
white space, and a comma unless the element is the first. The answer is whether
there is an element. -/
def readElementStart (first : Bool) (t : Text) : Except Fault (Read Bool (t.length + 1)) :=
  match h : skipSpace t with
  | [] => .error (.before .endInList [])
  | c :: rest =>
    have hRest := length_of_skipSpace_eq h
    if c = ']' then .ok ⟨false, rest, by omega⟩
    else if first then .ok ⟨true, c :: rest, by simp; omega⟩
    else if c = ',' then
      match skipSpace rest, length_skipSpace_le rest with
      | [], _ => .error (.before .endInValue [])
      | d :: rest', hSpace =>
        if d = ']' then .error (.next .trailingComma (d :: rest'))
        else .ok ⟨true, d :: rest', by omega⟩
    else .error (.next .expectedCommaOrBracket (c :: rest))

/-- Reads the elements of a list, after its opening bracket, and the closing bracket. -/
def readElements {σ : Type} (element : σ → Reader σ) (first : Bool) (state : σ) (t : Text) :
    Except Fault (Read σ (t.length + 1)) := do
  let start ← readElementStart first t
  if start.value then
    let next ← element state start.unread
    let final ← readElements element false next.value next.unread
    return ⟨final.value, final.unread, by
      have := start.short
      have := next.short
      have := final.short
      omega⟩
  else return ⟨state, start.unread, start.short⟩
termination_by t.length
decreasing_by
  have := start.short
  have := next.short
  omega

/-- The end of a list all whose elements are read. -/
def readListEnd : Reader Unit := fun t =>
  match h : skipSpace t with
  | [] => .error (.before .endInList [])
  | c :: rest =>
    if c = ']' then .ok ⟨(), rest, length_of_skipSpace_eq h⟩
    else if c = ',' then
      match skipSpace rest with
      | ']' :: rest' => .error (.next .trailingComma (']' :: rest'))
      | rest' => .error (.next .trailingCharacters rest')
    else .error (.next .trailingCharacters (c :: rest))

/-- Reads the elements of a list of fixed form, after its opening bracket, and the
closing bracket. Elements may be missing at the end. -/
def readFields {σ : Type} (first : Bool) (state : σ) (t : Text) :
    List (σ → Reader σ) → Except Fault (Read σ (t.length + 1))
  | [] => (readListEnd t).map fun r => ⟨state, r.unread, Nat.lt_succ_of_lt r.short⟩
  | field :: fields => do
    let start ← readElementStart first t
    if start.value then
      let next ← field state start.unread
      let final ← readFields false next.value next.unread fields
      return ⟨final.value, final.unread, by
        have := start.short
        have := next.short
        have := final.short
        omega⟩
    else return ⟨state, start.unread, start.short⟩

/-- Reads a whole text: after the value only white space may follow. -/
def readWholeText {α : Type} (reader : Reader α) (t : Text) : Except Fault α := do
  let r ← reader t
  match skipSpace r.unread with
  | [] => return r.value
  | rest => .error (.next .trailingCharacters rest)

end MarkdownEditor.Json
