import VirtualRecords.Text.Alphabetic
import VirtualRecords.Text.Mark
import VirtualRecords.Text.Numeric

/-! Word characters and word edges. Words are made of letters, marks, decimal digits, the
punctuation that connects, such as the underscore, and the two joiners. An edge stands
between two neighbours of which exactly one is a word character, the ends of the text
counting as none. -/

namespace VirtualRecords.Text

def connector : Table where
  ranges :=
    [(0x203F, 0x2040), (0x2054, 0x2054), (0xFE33, 0xFE34), (0xFE4D, 0xFE4F), (0xFF3F, 0xFF3F)]

def isConnector (c : Char) : Bool := c == '_' || decide (c ∈ connector)

def isJoiner (c : Char) : Bool := c == '\u200c' || c == '\u200d'

def isAlphanumeric (c : Char) : Bool := isAlphabetic c || isNumeric c

def isWordChar (c : Char) : Bool :=
  isAlphabetic c || isDecimalDigit c || isMark c || isConnector c || isJoiner c

def startsWithWordChar : List Char → Bool
  | [] => false
  | c :: _ => isWordChar c

end VirtualRecords.Text
