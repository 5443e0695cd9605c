import MarkdownEditor.Text.Lines

/-!
# The lines of a text, by position

`IsLine t start line` says of a stretch of `t` that it is one line, without
running through the text: it starts at the start of the text or after a line
feed, and stops after the next line feed or at the end of the text. A position
belongs to at most one line, and `lines` lists them all.
-/

namespace MarkdownEditor.Text

set_option autoImplicit false

theorem byteSize_pos {t : Text} (h : t ≠ []) : 0 < byteSize t := by
  cases t with
  | nil => exact absurd rfl h
  | cons c t =>
    have := c.utf8Size_pos
    rw [byteSize_cons]
    omega

/-- Of two cuts of one text, the one with fewer bytes in front comes first. -/
theorem exists_append_of_byteSize_le {a b c d : Text} (h : a ++ b = c ++ d)
    (hSize : byteSize a ≤ byteSize c) : ∃ w, c = a ++ w ∧ b = w ++ d := by
  rcases List.append_eq_append_iff.mp h with ⟨w, hc, hb⟩ | ⟨w, ha, hd⟩
  · exact ⟨w, hc, hb⟩
  · have hw : w = [] := by
      by_cases hne : w = []
      · exact hne
      · have := byteSize_pos hne
        rw [ha, byteSize_append] at hSize
        omega
    subst hw
    exact ⟨[], by simp [ha], by simp [hd]⟩

/-- The first `n` bytes of `t` are whole characters. -/
def IsBoundary (t : Text) (n : Nat) : Prop :=
  ∃ before after, t = before ++ after ∧ byteSize before = n

theorem isBoundary_size (t : Text) : IsBoundary t (byteSize t) :=
  ⟨t, [], by simp, rfl⟩

/-- Nothing, or a text that ends with a line feed. -/
def AtLineStart (before : Text) : Prop := before = [] ∨ before.getLast? = some '\n'

/-- `line` is the first line of `line ++ after`. -/
structure IsFirstLine (line after : Text) : Prop where
  nonempty : line ≠ []
  single : '\n' ∉ line.dropLast
  stop : line.getLast? = some '\n' ∨ after = []

/-- `line` is the line of `t` that starts at byte `start`. -/
def IsLine (t : Text) (start : Nat) (line : Text) : Prop :=
  ∃ before after, t = before ++ (line ++ after) ∧ byteSize before = start ∧
    AtLineStart before ∧ IsFirstLine line after

theorem mem_dropLast_append {w v : Text} {c : Char} (hv : v ≠ []) (hc : c ∈ w) :
    c ∈ (w ++ v).dropLast := by
  rw [List.dropLast_append_of_ne_nil hv]
  exact List.mem_append_left _ hc

theorem IsFirstLine.not_longer {line after more rest : Text} (h : IsFirstLine line after)
    (hAfter : after = more ++ rest) (hLonger : IsFirstLine (line ++ more) rest) : more = [] := by
  by_cases hMore : more = []
  · exact hMore
  · have hEnd : line.getLast? = some '\n' := by
      rcases h.stop with hEnd | hNil
      · exact hEnd
      · simp [hAfter, hMore] at hNil
    exact absurd (mem_dropLast_append hMore (List.mem_of_getLast? hEnd)) hLonger.single

theorem IsFirstLine.unique {line after line' after' : Text} (h : IsFirstLine line after)
    (h' : IsFirstLine line' after') (hEq : line ++ after = line' ++ after') : line = line' := by
  rcases List.append_eq_append_iff.mp hEq with ⟨w, rfl, hAfter⟩ | ⟨w, rfl, hAfter⟩
  · simp [h.not_longer hAfter h']
  · simp [h'.not_longer hAfter h]

theorem IsLine.size_pos {t line : Text} {start : Nat} (h : IsLine t start line) :
    0 < byteSize line := by
  obtain ⟨_, _, _, _, _, hFirst⟩ := h
  exact byteSize_pos hFirst.nonempty

/-- A line that starts inside another one is that line. -/
theorem IsLine.eq_of_start_lt {t line line' : Text} {start start' : Nat}
    (h : IsLine t start line) (h' : IsLine t start' line') (hLe : start ≤ start')
    (hLt : start' < start + byteSize line) : start' = start ∧ line' = line := by
  obtain ⟨before, after, ht, rfl, -, hFirst⟩ := h
  obtain ⟨before', after', ht', rfl, hStart', hFirst'⟩ := h'
  obtain ⟨w, rfl, hRest⟩ := exists_append_of_byteSize_le (ht.symm.trans ht') hLe
  rw [byteSize_append] at hLt
  obtain ⟨v, rfl, -⟩ := exists_append_of_byteSize_le hRest.symm (by omega)
  have hv : v ≠ [] := by
    rintro rfl
    simp at hLt
  -- what stands between the two starts would end with a line feed inside `line`
  have hw : w = [] := by
    by_cases hne : w = []
    · exact hne
    · have hEnd : w.getLast? = some '\n' := by
        rcases hStart' with hNil | hEnd
        · simp [hne] at hNil
        · rw [List.getLast?_append, List.getLast?_eq_some_getLast hne, Option.some_or] at hEnd
          rwa [List.getLast?_eq_some_getLast hne]
      exact absurd (mem_dropLast_append hv (List.mem_of_getLast? hEnd)) hFirst.single
  subst hw
  exact ⟨by simp, hFirst'.unique hFirst (by simpa using hRest.symm)⟩

theorem IsLine.unique {t line line' : Text} {start : Nat} (h : IsLine t start line)
    (h' : IsLine t start line') : line' = line := by
  have hSize := h.size_pos
  exact (h.eq_of_start_lt h' (Nat.le_refl _) (by omega)).2

theorem IsLine.isBoundary_start {t line : Text} {start : Nat} (h : IsLine t start line) :
    IsBoundary t start := by
  obtain ⟨before, after, ht, hSize, _⟩ := h
  exact ⟨before, line ++ after, ht, hSize⟩

/-- Every cut of a line is a cut of the text. -/
theorem IsLine.isBoundary_add {t line : Text} {start : Nat} (h : IsLine t start line)
    {front back : Text} (hCut : front ++ back = line) : IsBoundary t (start + byteSize front) := by
  obtain ⟨before, after, rfl, rfl, _⟩ := h
  exact ⟨before ++ front, back ++ after, by simp [← hCut], byteSize_append before front⟩

theorem IsLine.isBoundary_stop {t line : Text} {start : Nat} (h : IsLine t start line) :
    IsBoundary t (start + byteSize line) :=
  h.isBoundary_add (List.append_nil line)

theorem IsLine.start_lt {t line : Text} {start : Nat} (h : IsLine t start line) :
    start < byteSize t := by
  have hPos := h.size_pos
  obtain ⟨before, after, rfl, rfl, _⟩ := h
  rw [byteSize_append, byteSize_append]
  omega

/-- Only the last line may lack a line feed. -/
theorem IsLine.stop_eq {t line : Text} {start : Nat} (h : IsLine t start line)
    (hEnd : line.getLast? ≠ some '\n') : start + byteSize line = byteSize t := by
  obtain ⟨before, after, rfl, rfl, -, hFirst⟩ := h
  rcases hFirst.stop with hFeed | hNil
  · exact absurd hFeed hEnd
  · simp [hNil]

/-- `ls` are the lines of `t` from byte `start` to the end. -/
def LinesFrom (t : Text) : Nat → List Text → Prop
  | start, [] => start = byteSize t
  | start, line :: ls => IsLine t start line ∧ LinesFrom t (start + byteSize line) ls

theorem lines_eq_nil {t : Text} (h : lines t = []) : t = [] := by
  have := flatten_lines t
  simpa [h] using this.symm

theorem isFirstLine_of_lines {t line : Text} {ls : List Text} (h : lines t = line :: ls) :
    ∃ after, t = line ++ after ∧ lines after = ls ∧ IsFirstLine line after := by
  induction t generalizing line ls with
  | nil => simp [lines] at h
  | cons c t ih =>
    simp only [lines] at h
    split at h
    · next hc =>
      obtain ⟨rfl, rfl⟩ := List.cons.inj h
      exact ⟨t, rfl, rfl, by simp, by simp, .inl (by simp [hc])⟩
    · next hc =>
      split at h
      · next hNil =>
        obtain ⟨rfl, rfl⟩ := List.cons.inj h
        have ht := lines_eq_nil hNil
        exact ⟨[], by simp [ht], rfl, by simp, by simp, .inr rfl⟩
      · next l ls' hCons =>
        obtain ⟨rfl, rfl⟩ := List.cons.inj h
        obtain ⟨after, rfl, hAfter, hFirst⟩ := ih hCons
        refine ⟨after, rfl, hAfter, by simp, ?_, ?_⟩
        · rw [List.dropLast_cons_of_ne_nil hFirst.nonempty]
          simpa [Ne.symm hc] using hFirst.single
        · refine hFirst.stop.imp_left fun hEnd => ?_
          rw [List.getLast?_cons, hEnd]
          rfl

theorem linesFrom_append (before t : Text) (h : AtLineStart before ∨ t = []) :
    LinesFrom (before ++ t) (byteSize before) (lines t) := by
  generalize hLines : lines t = ls
  induction ls generalizing before t with
  | nil => simp [LinesFrom, lines_eq_nil hLines]
  | cons line ls ih =>
    obtain ⟨after, rfl, hAfter, hFirst⟩ := isFirstLine_of_lines hLines
    have hStart : AtLineStart before := by
      rcases h with hStart | hNil
      · exact hStart
      · simp [hFirst.nonempty] at hNil
    refine ⟨⟨before, after, rfl, rfl, hStart, hFirst⟩, ?_⟩
    have hNext : AtLineStart (before ++ line) ∨ after = [] := by
      refine hFirst.stop.imp_left fun hEnd => .inr ?_
      rw [List.getLast?_append, hEnd, Option.some_or]
    simpa using ih (before ++ line) after hNext hAfter

theorem linesFrom_lines (t : Text) : LinesFrom t 0 (lines t) := by
  simpa using linesFrom_append [] t (.inl (.inl rfl))

theorem LinesFrom.drop {t : Text} {start : Nat} {body rest : List Text}
    (h : LinesFrom t start (body ++ rest)) :
    LinesFrom t (start + byteSize body.flatten) rest := by
  induction body generalizing start with
  | nil => exact h
  | cons line body ih =>
    have hRest := ih h.2
    rwa [Nat.add_assoc, ← byteSize_append] at hRest

/-- A line that starts in the stretch of the lines `body` is one of them. -/
theorem LinesFrom.mem_of_isLine {t line : Text} {start n : Nat} {body rest : List Text}
    (h : LinesFrom t start (body ++ rest)) (hLine : IsLine t n line) (hLe : start ≤ n)
    (hLt : n < start + byteSize body.flatten) : line ∈ body := by
  induction body generalizing start with
  | nil => simp at hLt; omega
  | cons head body ih =>
    obtain ⟨hHead, hTail⟩ := h
    by_cases hIn : n < start + byteSize head
    · obtain ⟨-, rfl⟩ := hHead.eq_of_start_lt hLine hLe hIn
      exact List.mem_cons_self
    · refine List.mem_cons_of_mem _ (ih hTail (by omega) ?_)
      rw [List.flatten_cons, byteSize_append] at hLt
      omega

theorem LinesFrom.exists_isLine {t line : Text} {start : Nat} {body rest : List Text}
    (h : LinesFrom t start (body ++ rest)) (hMem : line ∈ body) :
    ∃ n, IsLine t n line ∧ n < start + byteSize body.flatten := by
  obtain ⟨before, after, rfl⟩ := List.append_of_mem hMem
  rw [List.append_assoc] at h
  have hLine : IsLine t (start + byteSize before.flatten) line := h.drop.1
  have hPos := hLine.size_pos
  refine ⟨_, hLine, ?_⟩
  rw [List.flatten_append, List.flatten_cons, byteSize_append, byteSize_append]
  omega

theorem LinesFrom.size_eq {t : Text} {start : Nat} {ls : List Text} (h : LinesFrom t start ls) :
    start + byteSize ls.flatten = byteSize t := by
  have hEnd : LinesFrom t start (ls ++ []) := by rwa [List.append_nil]
  exact hEnd.drop

theorem LinesFrom.ends_with_feed {t line : Text} {start : Nat} {ls : List Text}
    (h : LinesFrom t start (line :: ls)) (hMore : ls ≠ []) : line.getLast? = some '\n' := by
  cases ls with
  | nil => exact absurd rfl hMore
  | cons next ls =>
    by_cases hEnd : line.getLast? = some '\n'
    · exact hEnd
    · have hStop := h.1.stop_eq hEnd
      have hSize := h.2.size_eq
      have hNext := h.2.1.size_pos
      rw [List.flatten_cons, byteSize_append] at hSize
      omega

/-- A text that ends where a line ends can be cut into lines apart from what follows it. -/
theorem lines_append {a : Text} (h : AtLineStart a) (b : Text) :
    lines (a ++ b) = lines a ++ lines b := by
  induction a with
  | nil => rfl
  | cons c a ih =>
    have hLast : (c :: a).getLast? = some '\n' := h.resolve_left (List.cons_ne_nil c a)
    by_cases ha : a = []
    · subst ha
      obtain rfl : c = '\n' := by simpa using hLast
      rfl
    · have hRest : AtLineStart a := by
        refine .inr ?_
        rwa [List.getLast?_cons, List.getLast?_eq_some_getLast ha, Option.getD_some,
          ← List.getLast?_eq_some_getLast ha] at hLast
      rw [List.cons_append, lines, lines, ih hRest]
      split
      · rfl
      · cases hLines : lines a with
        | nil => exact absurd (lines_eq_nil hLines) ha
        | cons l ls => rfl

theorem lines_of_isFirstLine {line after : Text} (h : IsFirstLine line after) :
    lines (line ++ after) = line :: lines after := by
  cases hLines : lines (line ++ after) with
  | nil => exact absurd (List.append_eq_nil_iff.mp (lines_eq_nil hLines)).1 h.nonempty
  | cons l ls =>
    obtain ⟨after', hText, rfl, hFirst⟩ := isFirstLine_of_lines hLines
    obtain rfl := h.unique hFirst hText
    rw [List.append_cancel_left hText]

theorem lines_of_atLineStart {before line after : Text} (hStart : AtLineStart before)
    (h : IsFirstLine line after) :
    lines (before ++ (line ++ after)) = lines before ++ line :: lines after := by
  rw [lines_append hStart, lines_of_isFirstLine h]

/-- Where the list of lines is split, the text can be cut. -/
theorem exists_of_lines_eq_append {t line : Text} {front back : List Text}
    (h : lines t = front ++ line :: back) :
    ∃ before after, t = before ++ (line ++ after) ∧ lines before = front ∧ lines after = back ∧
      AtLineStart before ∧ IsFirstLine line after := by
  induction front generalizing t with
  | nil =>
    obtain ⟨after, ht, hAfter, hFirst⟩ := isFirstLine_of_lines h
    exact ⟨[], after, ht, rfl, hAfter, .inl rfl, hFirst⟩
  | cons l front ih =>
    obtain ⟨rest, rfl, hRest, hl⟩ := isFirstLine_of_lines h
    obtain ⟨before, after, rfl, hBefore, hAfter, hStart, hFirst⟩ := ih hRest
    have hFeed : l.getLast? = some '\n' := by
      rcases hl.stop with hFeed | hNil
      · exact hFeed
      · simp [hFirst.nonempty] at hNil
    refine ⟨l ++ before, after, (List.append_assoc l before _).symm, ?_, hAfter, ?_, hFirst⟩
    · rw [lines_of_isFirstLine ⟨hl.nonempty, hl.single, .inl hFeed⟩, hBefore]
    · rcases hStart with rfl | hEnd
      · rw [List.append_nil]
        exact .inr hFeed
      · refine .inr ?_
        rw [List.getLast?_append, hEnd, Option.some_or]

end MarkdownEditor.Text
