/-! Patterns of text. A percent sign stands for any run of characters, an underscore for
any one character, and every other character for itself. Pattern and text are read side
by side, and a percent sign stands for nothing at first. Where the two part, the last
percent sign takes one character more of the text and the reading goes on from there;
the percent signs before it keep what they have. -/

namespace VirtualRecords.Text

/-- The last percent sign that was read: the pattern behind it, and the part of the text, in
reverse, that was read with that pattern since the sign took a character. -/
structure Retry where
  pattern : List Char
  passed : List Char

structure Scan where
  pattern : List Char
  text : List Char
  retry : Option Retry

namespace Scan

def ofTexts (pattern text : List Char) : Scan := ⟨pattern, text, none⟩

def behindPercent (pattern text : List Char) : Scan := ⟨pattern, text, some ⟨pattern, []⟩⟩

def tried (s : Scan) : List Char :=
  match s.retry with
  | none => s.text
  | some retry => retry.passed.reverse ++ s.text

def goBack? (s : Scan) : Option Scan :=
  s.retry.map fun retry => behindPercent retry.pattern s.tried.tail

def pass (s : Scan) (pattern : List Char) (c : Char) (text : List Char) : Scan :=
  ⟨pattern, text, s.retry.map fun retry => { retry with passed := c :: retry.passed }⟩

/-- One step, while there is text left; none if the two part and there is no percent sign. -/
def step? (s : Scan) : Option Scan :=
  match s.pattern, s.text with
  | p :: pattern, c :: text =>
    if p = '%' then some (behindPercent pattern (c :: text))
    else if p = '_' ∨ p = c then some (s.pass pattern c text)
    else s.goBack?
  | _, _ => s.goBack?

/-- Either there is less text to try the last percent sign at, or less of the pattern. -/
theorem step?_decreases {s next : Scan} (unread : s.text ≠ []) (taken : s.step? = some next) :
    Prod.Lex (· < ·) (· < ·) (next.tried.length, next.pattern.length)
      (s.tried.length, s.pattern.length) := by
  have back : s.goBack? = some next → next.tried.length < s.tried.length := by
    intro went
    obtain ⟨retry, found, rfl⟩ := Option.map_eq_some_iff.1 went
    have longer : 0 < s.tried.length := by
      have := List.length_pos_iff.2 unread
      simp only [tried, found, List.length_append]
      omega
    simp only [behindPercent, tried, List.reverse_nil, List.nil_append, List.length_tail]
      at longer ⊢
    omega
  rw [Prod.lex_def]
  obtain ⟨pattern, text, retry⟩ := s
  simp only [step?] at taken
  split at taken
  · next p rest c left =>
    split at taken
    · cases taken
      have : (c :: left).length ≤ (tried ⟨p :: rest, c :: left, retry⟩).length := by
        cases retry <;> simp [tried]
      simp only [behindPercent, tried, List.reverse_nil, List.nil_append, List.length_cons]
        at this ⊢
      omega
    · split at taken
      · cases taken
        cases retry <;> simp [pass, tried]
      · exact .inl (back taken)
  · exact .inl (back taken)

/-- Whether the scan ends well: when the text is used up, percent signs alone may be left. -/
def run (s : Scan) : Bool :=
  if _unread : s.text = [] then s.pattern.all (· == '%')
  else
    match _taken : s.step? with
    | none => false
    | some next => run next
termination_by (s.tried.length, s.pattern.length)
decreasing_by exact step?_decreases _unread _taken

end Scan

def isLike (text pattern : List Char) : Bool := (Scan.ofTexts pattern text).run

end VirtualRecords.Text
