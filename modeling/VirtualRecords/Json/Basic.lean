import VirtualRecords.Number.Basic

/-! JSON values. The members of an object are listed in the order of their names,
by code point, each name once; `Json.Members.ofList` makes such a list from members
in any order, a later member replacing an earlier one of the same name. -/

namespace VirtualRecords

inductive Json where
  | null
  | bool (b : Bool)
  | number (n : Number)
  | string (s : String)
  | array (items : List Json)
  | object (members : List (String × Json))
deriving Inhabited

namespace Json

abbrev Members := List (String × Json)

namespace Members

def get? (members : Members) (name : String) : Option Json := members.lookup name

def insert (name : String) (value : Json) : Members → Members
  | [] => [(name, value)]
  | (other, held) :: rest =>
    if name = other then (name, value) :: rest
    else if name < other then (name, value) :: (other, held) :: rest
    else (other, held) :: insert name value rest

def ofList (members : List (String × Json)) : Members :=
  members.foldl (fun made member => insert member.1 member.2 made) []

def names (members : Members) : List String := members.map Prod.fst

@[simp] theorem get?_nil (name : String) : get? [] name = none := rfl

theorem get?_insert_self (members : Members) (name : String) (value : Json) :
    get? (insert name value members) name = some value := by
  induction members with
  | nil => simp [insert, get?]
  | cons member rest ih =>
    obtain ⟨other, held⟩ := member
    unfold insert
    split
    · simp [get?]
    · split
      · simp [get?]
      · next h _ =>
        have : (name == other) = false := by simpa using h
        simpa [get?, List.lookup_cons, this] using ih

theorem get?_insert_of_ne (members : Members) {name other : String} (value : Json)
    (h : other ≠ name) : get? (insert name value members) other = get? members other := by
  have miss : (other == name) = false := by simpa using h
  induction members with
  | nil => simp [insert, get?, List.lookup_cons, miss]
  | cons member rest ih =>
    obtain ⟨k, held⟩ := member
    unfold insert
    split
    · next same => subst same; simp [get?, List.lookup_cons, miss]
    · split
      · simp [get?, List.lookup_cons, miss]
      · simp only [get?, List.lookup_cons] at ih ⊢
        split
        · rfl
        · exact ih

end Members

mutual

/-- Equality of values. Inside lists and objects as at the top, an integer differs from
a real number, and the two zeros do not differ. -/
def same : Json → Json → Bool
  | null, null => true
  | bool a, bool b => a == b
  | number m, number n => m.same n
  | string s, string t => s == t
  | array xs, array ys => sameItems xs ys
  | object ms, object ns => sameMembers ms ns
  | _, _ => false

def sameItems : List Json → List Json → Bool
  | [], [] => true
  | x :: xs, y :: ys => same x y && sameItems xs ys
  | _, _ => false

def sameMembers : List (String × Json) → List (String × Json) → Bool
  | [], [] => true
  | (k, x) :: xs, (l, y) :: ys => k == l && same x y && sameMembers xs ys
  | _, _ => false

end

def objectOf (members : List (String × Json)) : Json := object (Members.ofList members)

def isNull : Json → Bool
  | null => true
  | _ => false

theorem isNull_iff {value : Json} : value.isNull = true ↔ value = .null := by
  cases value <;> simp [isNull]

def asString? : Json → Option String
  | string s => some s
  | _ => none

def asArray? : Json → Option (List Json)
  | array items => some items
  | _ => none

def asObject? : Json → Option Members
  | object members => some members
  | _ => none

def member? (value : Json) (name : String) : Option Json :=
  value.asObject?.bind (·.get? name)

def typeName : Json → String
  | null => "null"
  | bool _ => "boolean"
  | number n => if n.isInteger then "integer" else "number"
  | string _ => "string"
  | array _ => "array"
  | object _ => "object"

/-- A count; one past the integers stands as the greatest of them. -/
def ofCount (n : Nat) : Json := number (.integer (.ofCount n))

def ofUInt64 (n : UInt64) : Json := number (.integer (.ofUInt64 n))

end Json
end VirtualRecords
