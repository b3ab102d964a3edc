import Mathlib.Data.List.Nodup
import VirtualRecords.Json.Decode

/-! Members written and read. An object that is made from members of different names has each of
them, and one made from the members of a structure has those that hold something. So a member is
read back if what it holds is, and one that is left out if the value that stands in for it is the
one for which it was left out. -/

namespace VirtualRecords.Json

namespace Members

variable {α : Type} {members : Members} {written : List (String × Option Json)} {name : String}

theorem lookup_eq_none {β : Type} {members : List (String × β)}
    (absent : name ∉ members.map Prod.fst) : members.lookup name = none :=
  List.lookup_eq_none_iff.2 fun _ member =>
    bne_iff_ne.2 fun same => absent (same ▸ List.mem_map_of_mem member)

theorem get?_foldl_insert (made : Members) (distinct : (names members).Nodup) :
    get? (members.foldl (fun made member => insert member.1 member.2 made) made) name =
      (members.lookup name).or (get? made name) := by
  induction members generalizing made with
  | nil => rfl
  | cons member members ih =>
    obtain ⟨other, value⟩ := member
    obtain ⟨fresh, distinct⟩ := List.nodup_cons.1 distinct
    rw [List.foldl_cons, ih _ distinct]
    by_cases same : name = other
    · subst same
      rw [lookup_eq_none fresh, get?_insert_self, List.lookup_cons_self]
      rfl
    · rw [get?_insert_of_ne _ _ same, List.lookup_cons, beq_false_of_ne same]

theorem get?_ofList (distinct : (names members).Nodup) (name : String) :
    get? (ofList members) name = members.lookup name := by
  rw [ofList, get?_foldl_insert [] distinct, get?_nil, Option.or_none]

theorem names_present_sublist (written : List (String × Option Json)) :
    (names (present written)).Sublist (written.map Prod.fst) := by
  induction written with
  | nil => exact .slnil
  | cons member written ih =>
    obtain ⟨name, value⟩ := member
    cases value with
    | none => exact .cons name ih
    | some value => exact .cons_cons name ih

theorem lookup_present (distinct : (written.map Prod.fst).Nodup) (name : String) :
    (present written).lookup name = (written.lookup name).join := by
  induction written with
  | nil => rfl
  | cons member written ih =>
    obtain ⟨other, value⟩ := member
    obtain ⟨fresh, distinct⟩ := List.nodup_cons.1 distinct
    have later := ih distinct
    by_cases same : name = other
    · subst same
      rw [lookup_eq_none fresh] at later
      cases value with
      | none => simpa [present] using later
      | some value => simp [present]
    · have apart : (name == other) = false := beq_false_of_ne same
      cases value with
      | none => simpa [present, List.lookup_cons, apart] using later
      | some value => simpa [present, List.lookup_cons, apart] using later

/-- An object is read back if its members are, wherever they come to stand in it. -/
theorem read_objectOf {read : Members → Option α} {a : α} (distinct : (names members).Nodup)
    (reads : ∀ made : Members, (∀ name, get? made name = members.lookup name) →
      read made = some a) :
    (objectOf members).asObject?.bind read = some a :=
  reads _ (get?_ofList distinct)

theorem get?_ofList_present (distinct : (written.map Prod.fst).Nodup) (name : String) :
    get? (ofList (present written)) name = (written.lookup name).join := by
  rw [get?_ofList ((names_present_sublist written).nodup distinct), lookup_present distinct]

theorem read_objectOf_present {read : Members → Option α} {a : α}
    (distinct : (written.map Prod.fst).Nodup)
    (reads : ∀ made : Members, (∀ name, get? made name = (written.lookup name).join) →
      read made = some a) :
    (objectOf (present written)).asObject?.bind read = some a :=
  reads _ (get?_ofList_present distinct)

theorem member?_objectOf_present (distinct : (written.map Prod.fst).Nodup) (name : String) :
    (objectOf (present written)).member? name = (written.lookup name).join :=
  get?_ofList_present distinct name

section

variable {read : Json → Option α} {a : α} {value : Json}

theorem required?_written (restores : read value = some a)
    (held : get? members name = some value) : required? members name read = some a := by
  rw [required?, held, Option.bind_some, restores]

theorem default?_written (default : α) (restores : read value = some a)
    (held : get? members name = some value) : default? members name default read = some a := by
  rw [default?, held]
  exact restores

theorem default?_omittable {omitted : Bool} {default : α} (standsIn : omitted = true → a = default)
    (restores : read value = some a)
    (held : get? members name = if omitted then none else some value) :
    default? members name default read = some a := by
  cases omitted with
  | true => rw [default?, held, standsIn rfl]; rfl
  | false => exact default?_written default restores held

theorem optional?_written {write : α → Json} {a? : Option α}
    (restores : ∀ a, read (write a) = some a) (notNull : read .null = none)
    (held : get? members name = a?.map write) : optional? members name read = some a? := by
  rw [optional?, held]
  cases a? with
  | none => rfl
  | some a =>
    have restores := restores a
    rw [Option.map_some]
    generalize write a = value at restores
    cases value with
    | null => rw [notNull] at restores; contradiction
    | _ => simp only [restores, Option.map_some]

end

end Members

theorem asString?_string (s : String) : asString? (.string s) = some s := rfl

theorem toBool?_bool (b : Bool) : toBool? (.bool b) = some b := rfl

theorem listOf?_map {α : Type} {write : α → Json} {read : Json → Option α}
    (restores : ∀ a, read (write a) = some a) (items : List α) :
    listOf? read (.array (items.map write)) = some items := by
  rw [listOf?]
  induction items with
  | nil => rfl
  | cons a items ih => rw [List.map_cons, List.mapM_cons, restores, ih]; rfl

end VirtualRecords.Json
