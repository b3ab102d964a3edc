import VirtualRecords.Json.Basic
import VirtualRecords.Text.Pieces

/-! Paths into payloads. A field name is cut at its full stops, and each piece is the name
of a member, one object deeper. -/

namespace VirtualRecords

structure FieldPath where
  keys : List String
deriving DecidableEq

namespace FieldPath

def ofField (field : String) : FieldPath :=
  ⟨(Text.pieces '.' field.toList).map String.ofList⟩

def findIn? (members : Json.Members) : List String → Option Json
  | [] => none
  | [key] => members.get? key
  | key :: next :: rest => do findIn? (← (← members.get? key).asObject?) (next :: rest)

def find? (path : FieldPath) (payload : Json.Members) : Option Json := findIn? payload path.keys

theorem find?_ofField {field : String} (plain : '.' ∉ field.toList) (payload : Json.Members) :
    (ofField field).find? payload = payload.get? field := by
  rw [ofField, Text.pieces_of_not_mem plain, List.map_singleton, String.ofList_toList]
  rfl

theorem find?_ofField_append {owner : String} (plain : '.' ∉ owner.toList) (rest : String)
    (payload : Json.Members) :
    (ofField (owner ++ "." ++ rest)).find? payload =
      ((payload.get? owner).bind Json.asObject?).bind (ofField rest).find? := by
  have whole : (owner ++ "." ++ rest).toList = owner.toList ++ '.' :: rest.toList := by simp
  obtain ⟨piece, more, split⟩ :=
    List.exists_cons_of_ne_nil (Text.pieces_ne_nil '.' rest.toList)
  have path : (ofField rest).find? =
      (findIn? · (String.ofList piece :: more.map String.ofList)) := by
    funext members
    rw [find?, ofField, split, List.map_cons]
  rw [path, find?, ofField, whole, Text.pieces_append_cons plain, split, List.map_cons,
    List.map_cons, String.ofList_toList, Option.bind_assoc]
  rfl

theorem join_keys_ofField (field : String) : Text.join "." (ofField field).keys = field :=
  (Text.join_pieces '.' field.toList).trans (String.ofList_toList)

end FieldPath
end VirtualRecords
