/-! Texts by the bytes of their UTF-8 form. -/

namespace VirtualRecords.Text

def byteSize : List Char → Nat
  | [] => 0
  | c :: rest => c.utf8Size + byteSize rest

/-- The characters that begin at a byte from `start` up to, but without, `stop`; the text
itself begins at `place`. -/
def betweenBytes (start stop : Nat) : (place : Nat) → List Char → List Char
  | _, [] => []
  | place, c :: rest =>
    let more := betweenBytes start stop (place + c.utf8Size) rest
    if start ≤ place ∧ place < stop then c :: more else more

end VirtualRecords.Text
