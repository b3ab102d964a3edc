import VirtualRecords.Text.Blank
import VirtualRecords.Text.Letter

/-! White space inside query text, where a keyword must be set off by it. -/

namespace VirtualRecords.QueryText

open Text

def afterBlanks? : List Char → Option (List Char)
  | [] => none
  | c :: rest => if isBlank c then some (skipBlank rest) else none

theorem afterBlanks?_length {text rest : List Char} (h : afterBlanks? text = some rest) :
    rest.length < text.length := by
  cases text with
  | nil => simp [afterBlanks?] at h
  | cons c more =>
    simp only [afterBlanks?] at h
    split at h
    · cases h
      exact Nat.lt_succ_of_le (skipBlank_length_le more)
    · simp at h

def orderWord : List Char := ['o', 'r', 'd', 'e', 'r']
def byWord : List Char := ['b', 'y']
def whereWord : List Char := ['w', 'h', 'e', 'r', 'e']
def andWord : List Char := ['a', 'n', 'd']
def orWord : List Char := ['o', 'r']
def ascendingWord : List Char := ['a', 's', 'c']
def descendingWord : List Char := ['d', 'e', 's', 'c']
def likeWord : List Char := ['l', 'i', 'k', 'e']
def inWord : List Char := ['i', 'n']
def isWord : List Char := ['i', 's']
def nullWord : List Char := ['n', 'u', 'l', 'l']

def afterOrderBy? (text : List Char) : Option (List Char) := do
  let toBy ← afterBlanks? (← afterKeyword? orderWord text)
  afterBlanks? (← afterKeyword? byWord toBy)

end VirtualRecords.QueryText
