/-! White space, and the text functions that stop at it. The class is the
Unicode property White_Space: twenty-five characters, of which the six of ASCII
are the tab, the line feed, the vertical tab, the form feed, the carriage return
and the space. Texts are lists of characters here. -/

namespace VirtualRecords.Text

def isBlank (c : Char) : Bool :=
  let n := c.toNat
  (9 ≤ n && n ≤ 13) || n == 0x20 || n == 0x85 || n == 0xA0 || n == 0x1680 ||
    (0x2000 ≤ n && n ≤ 0x200A) || n == 0x2028 || n == 0x2029 || n == 0x202F ||
    n == 0x205F || n == 0x3000

def skipBlank (text : List Char) : List Char := text.dropWhile isBlank

def trimEnd (text : List Char) : List Char := (skipBlank text.reverse).reverse

def trim (text : List Char) : List Char := trimEnd (skipBlank text)

def allBlank (text : List Char) : Bool := text.all isBlank

def isBlankString (s : String) : Bool := allBlank s.toList

def leadingRun (text : List Char) : List Char := text.takeWhile (fun c => !isBlank c)

def afterRun (text : List Char) : List Char := text.dropWhile (fun c => !isBlank c)

theorem leadingRun_append_afterRun (text : List Char) : leadingRun text ++ afterRun text = text :=
  List.takeWhile_append_dropWhile

theorem skipBlank_length_le (text : List Char) : (skipBlank text).length ≤ text.length :=
  (List.dropWhile_sublist isBlank).length_le

theorem skipBlank_eq_nil_iff (text : List Char) : skipBlank text = [] ↔ allBlank text = true := by
  induction text with
  | nil => simp [skipBlank, allBlank]
  | cons c rest ih =>
    by_cases h : isBlank c = true <;> simp_all [skipBlank, allBlank]

theorem leadingRun_skipBlank_ne_nil {text : List Char} (h : skipBlank text ≠ []) :
    leadingRun (skipBlank text) ≠ [] := by
  have first := List.head?_dropWhile_not isBlank text
  unfold skipBlank at *
  cases split : text.dropWhile isBlank with
  | nil => exact absurd split h
  | cons c rest =>
    rw [split] at first
    simp only [List.head?_cons] at first
    simp [leadingRun, first]

end VirtualRecords.Text
