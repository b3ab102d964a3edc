import VirtualRecords.Json.Basic
import VirtualRecords.Number.Numeral

/-! JSON text as it was written. A document keeps what a value forgets: the order of
members, members of one name, numbers that no word or float can hold, and strings
and names with half of a surrogate pair. Where such things are allowed is decided when
a document, or the part of it that is of interest, is turned into a value. -/

namespace VirtualRecords.Json

inductive Document where
  | null
  | bool (b : Bool)
  | number (n : Option Number)
  | string (s : Option String)
  | array (items : List Document)
  | object (members : List (Option String × Document))

def greatestDepth : Nat := 127

namespace Document

mutual

def toJson? (depth : Nat) : Document → Option Json
  | null => some .null
  | bool b => some (.bool b)
  | number n => n.map .number
  | string s => s.map .string
  | array items =>
    match depth with
    | 0 => none
    | depth + 1 => (itemsToJson? depth items).map .array
  | object members =>
    match depth with
    | 0 => none
    | depth + 1 => (membersToJson? depth members).map objectOf

def itemsToJson? (depth : Nat) : List Document → Option (List Json)
  | [] => some []
  | item :: rest => do return (← toJson? depth item) :: (← itemsToJson? depth rest)

def membersToJson? (depth : Nat) :
    List (Option String × Document) → Option (List (String × Json))
  | [] => some []
  | (name, value) :: rest => do
    return (← name, ← toJson? depth value) :: (← membersToJson? depth rest)

end

def value? (document : Document) : Option Json := document.toJson? greatestDepth

end Document

/-- What a text is read for: a whole value, a list of things, or an object of which
certain members are wanted and the others are passed over unread. -/
inductive Outline where
  | value
  | list (item : Outline)
  | record (members : List (String × Outline))

namespace Document

mutual

/-- The part of a document that an outline asks for. A wanted member must not occur
twice, and the names of all members must be whole, but not those inside members that are
passed over. A document of another kind than the outline's is read as a whole. -/
def select? (outline : Outline) (depth : Nat) : Document → Option Json
  | array items =>
    match outline, depth with
    | .list item, depth + 1 => (selectItems? item depth items).map .array
    | _, depth => (array items).toJson? depth
  | object members =>
    match outline, depth with
    | .record wanted, depth + 1 =>
      (selectMembers? wanted depth members []).map objectOf
    | _, depth => (object members).toJson? depth
  | document => document.toJson? depth

def selectItems? (item : Outline) (depth : Nat) : List Document → Option (List Json)
  | [] => some []
  | x :: rest => do return (← select? item depth x) :: (← selectItems? item depth rest)

def selectMembers? (wanted : List (String × Outline)) (depth : Nat) :
    List (Option String × Document) → List String → Option (List (String × Json))
  | [], _ => some []
  | (none, _) :: _, _ => none
  | (some name, value) :: rest, seen =>
    match wanted.lookup name with
    | none => selectMembers? wanted depth rest seen
    | some outline =>
      if name ∈ seen then none
      else do
        return (name, ← select? outline depth value) ::
          (← selectMembers? wanted depth rest (name :: seen))

end

end Document
end VirtualRecords.Json
