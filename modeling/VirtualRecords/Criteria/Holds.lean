import VirtualRecords.Criteria.Basic
import VirtualRecords.Criteria.Compare
import VirtualRecords.Criteria.Like
import VirtualRecords.Record

/-! Whether criteria hold of a record. A value that is missing or null satisfies the test
for null and no other. -/

namespace VirtualRecords

/-- Whether two values stand in a relation; values without an order stand in none but
equality and its opposite. -/
def Relation.holds (relation : Relation) (a b : Json) : Bool :=
  match relation with
  | eq => a.equals b
  | neq => !a.equals b
  | gt => a.order? b == some .gt
  | gte => (a.order? b).any (·.isGE)
  | lt => a.order? b == some .lt
  | lte => (a.order? b).any (·.isLE)

namespace Test

def holdsOf (value : Json) : Test → Bool
  | compare relation expected => relation.holds value expected
  | like pattern => value.scalarText?.any fun s => Text.isLike s.toList pattern.toList
  | contains element => value.asArray?.any fun items => items.any (·.equals element)
  | isIn values => values.any (value.equals ·)
  | notIn values => !values.any (value.equals ·)
  | isNull => false
  | isNotNull => true

def isNullTest : Test → Bool
  | isNull => true
  | _ => false

def holds (found : Option Json) (test : Test) : Bool :=
  match found with
  | none | some .null => test.isNullTest
  | some value => test.holdsOf value

theorem holds_of_filled {value : Json} (filled : value.isNull = false) (test : Test) :
    test.holds (some value) = test.holdsOf value := by
  cases value with
  | null => cases filled
  | _ => rfl

end Test

namespace Criteria

mutual

def holds (record : Record) : Criteria → Bool
  | all => true
  | entity id => record.entity == id
  | field path test => test.holds (path.find? record.payload)
  | and parts => holdAll record parts
  | or parts => holdsAny record parts

def holdAll (record : Record) : List Criteria → Bool
  | [] => true
  | part :: rest => holds record part && holdAll record rest

def holdsAny (record : Record) : List Criteria → Bool
  | [] => false
  | part :: rest => holds record part || holdsAny record rest

end

theorem holdAll_eq_all (record : Record) (parts : List Criteria) :
    holdAll record parts = parts.all (holds record) := by
  induction parts with
  | nil => rfl
  | cons part rest ih => simp [holdAll, ih]

theorem holdsAny_eq_any (record : Record) (parts : List Criteria) :
    holdsAny record parts = parts.any (holds record) := by
  induction parts with
  | nil => rfl
  | cons part rest ih => simp [holdsAny, ih]

end Criteria
end VirtualRecords
