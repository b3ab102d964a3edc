/-! Letters without regard to case. Names and keywords of the program are written
in ASCII; two of their letters have a second capital or small form outside ASCII
under Unicode's simple case folding, the Kelvin sign for `k` and the long s for
`s`, and keywords inside query text admit these as well. -/

namespace VirtualRecords.Text

def sameAsciiLetters (s t : List Char) : Bool := s.map Char.toLower == t.map Char.toLower

def equalsIgnoringCase (s t : String) : Bool := sameAsciiLetters s.toList t.toList

/-- The small letter that a keyword's letter folds to. -/
def foldLetter (c : Char) : Char :=
  if c = '\u212a' then 'k' else if c = '\u017f' then 's' else c.toLower

def afterKeyword? : (keyword text : List Char) → Option (List Char)
  | [], text => some text
  | _ :: _, [] => none
  | k :: keyword, c :: text => if foldLetter c = k then afterKeyword? keyword text else none

theorem afterKeyword?_length {keyword text rest : List Char}
    (h : afterKeyword? keyword text = some rest) :
    rest.length + keyword.length = text.length := by
  induction keyword generalizing text with
  | nil => simp_all [afterKeyword?]
  | cons k keyword ih =>
    cases text with
    | nil => simp [afterKeyword?] at h
    | cons c text =>
      simp only [afterKeyword?] at h
      split at h
      · have := ih h
        simp only [List.length_cons]
        omega
      · simp at h

end VirtualRecords.Text
