import Mathlib.Data.String.Basic
import Mathlib.Order.Compare
import VirtualRecords.Proofs.CreationOrder
import VirtualRecords.Proofs.Paging
import VirtualRecords.Proofs.StableSort

/-! The order of a result. Values of all types, and missing ones, stand in one total preorder, so
sorting by a field is well defined; it keeps the order of creation among records whose values are
equal there, whichever direction is asked for. -/

namespace VirtualRecords

namespace Json

inductive Kind where
  | null
  | bool
  | number
  | string
  | array
  | object
deriving DecidableEq

def Kind.ascending : List Kind := [null, bool, number, string, array, object]

def Kind.Before (k l : Kind) : Prop := ascending.idxOf k < ascending.idxOf l

def kind : Json → Kind
  | null => .null
  | bool _ => .bool
  | number _ => .number
  | string _ => .string
  | array _ => .array
  | object _ => .object

theorem typeRank_eq (a : Json) : a.typeRank = Kind.ascending.idxOf a.kind := by
  cases a <;> rfl

/-- A value that is missing comes first, and values of different kinds stand in the order of
their kinds. False comes before true, numbers stand by their binary64 values and texts by their
code points; lists are equal to each other, and so are objects. -/
inductive AtMost : Option Json → Option Json → Prop where
  | missing (b : Option Json) : AtMost none b
  | ofKind {a b : Json} : a.kind.Before b.kind → AtMost (some a) (some b)
  | null : AtMost (some null) (some null)
  | bool {x y : Bool} : x ≤ y → AtMost (some (bool x)) (some (bool y))
  | number {m n : Number} :
      m.toBinary64.units ≤ n.toBinary64.units → AtMost (some (number m)) (some (number n))
  | string {s t : String} : s ≤ t → AtMost (some (string s)) (some (string t))
  | array (xs ys : List Json) : AtMost (some (array xs)) (some (array ys))
  | object (ms ns : Members) : AtMost (some (object ms)) (some (object ns))

namespace AtMost

variable {a b c : Option Json}

theorem trans (first : AtMost a b) (second : AtMost b c) : AtMost a c := by
  cases first with
  | missing => exact .missing c
  | ofKind lower =>
    cases second with
    | ofKind higher => exact .ofKind (lt_trans lower higher)
    | _ => exact .ofKind lower
  | null =>
    cases second with
    | ofKind higher => exact .ofKind higher
    | null => exact .null
  | bool lower =>
    cases second with
    | ofKind higher => exact .ofKind higher
    | bool higher => exact .bool (le_trans lower higher)
  | number lower =>
    cases second with
    | ofKind higher => exact .ofKind higher
    | number higher => exact .number (le_trans lower higher)
  | string lower =>
    cases second with
    | ofKind higher => exact .ofKind higher
    | string higher => exact .string (le_trans lower higher)
  | array =>
    cases second with
    | ofKind higher => exact .ofKind higher
    | array => exact .array _ _
  | object =>
    cases second with
    | ofKind higher => exact .ofKind higher
    | object => exact .object _ _

theorem typeRank_le {a b : Json} (h : AtMost (some a) (some b)) : a.typeRank ≤ b.typeRank := by
  rw [typeRank_eq, typeRank_eq]
  cases h with
  | ofKind lower => exact Nat.le_of_lt lower
  | _ => exact Nat.le_refl _

theorem bool_iff {x y : Bool} : AtMost (some (.bool x)) (some (.bool y)) ↔ x ≤ y := by
  constructor
  · intro h
    cases h with
    | ofKind lower => exact absurd lower (Nat.lt_irrefl _)
    | bool lower => exact lower
  · exact .bool

theorem number_iff {m n : Number} :
    AtMost (some (.number m)) (some (.number n)) ↔ m.toBinary64.units ≤ n.toBinary64.units := by
  constructor
  · intro h
    cases h with
    | ofKind lower => exact absurd lower (Nat.lt_irrefl _)
    | number lower => exact lower
  · exact .number

theorem string_iff {s t : String} : AtMost (some (.string s)) (some (.string t)) ↔ s ≤ t := by
  constructor
  · intro h
    cases h with
    | ofKind lower => exact absurd lower (Nat.lt_irrefl _)
    | string lower => exact lower
  · exact .string

end AtMost

theorem sortOrder_of_ne {a b : Json} (apart : a.typeRank ≠ b.typeRank) :
    sortOrder a b = compare a.typeRank b.typeRank := by
  cases a <;> cases b <;> first | rfl | exact absurd rfl apart

theorem isLE_sortOrder_iff (a b : Json) :
    (sortOrder a b).isLE = true ↔ AtMost (some a) (some b) := by
  rcases Nat.lt_trichotomy a.typeRank b.typeRank with lower | same | higher
  · rw [sortOrder_of_ne (Nat.ne_of_lt lower), Nat.compare_eq_lt.2 lower]
    refine iff_of_true rfl (.ofKind ?_)
    rwa [typeRank_eq, typeRank_eq] at lower
  · cases a <;> cases b <;> first | (exfalso; revert same; simp [typeRank]; done) | skip
    case null.null => exact iff_of_true rfl .null
    case bool.bool x y =>
      rw [sortOrder, AtMost.bool_iff]
      exact Std.LawfulBCmp.isLE_iff_le
    case number.number m n =>
      rw [sortOrder, AtMost.number_iff]
      exact Int.isLE_compare
    case string.string s t =>
      rw [sortOrder, AtMost.string_iff]
      exact Std.LawfulBCmp.isLE_iff_le
    case array.array xs ys => exact iff_of_true rfl (.array xs ys)
    case object.object ms ns => exact iff_of_true rfl (.object ms ns)
  · rw [sortOrder_of_ne (Nat.ne_of_gt higher), Nat.compare_eq_gt.2 higher]
    refine iff_of_false (by decide) fun below => ?_
    have := below.typeRank_le
    omega

theorem isLE_optionOrder_iff (a b : Option Json) :
    (optionOrder a b).isLE = true ↔ AtMost a b := by
  cases a with
  | none =>
    cases b with
    | none => exact iff_of_true rfl (.missing none)
    | some b => exact iff_of_true rfl (.missing (some b))
  | some a =>
    cases b with
    | none => exact iff_of_false Bool.false_ne_true nofun
    | some b => exact isLE_sortOrder_iff a b

theorem sortOrder_swap (a b : Json) : sortOrder a b = (sortOrder b a).swap := by
  cases a <;> cases b <;> first | exact (Nat.compare_swap _ _).symm | skip
  case bool.bool x y => exact Std.OrientedOrd.eq_swap
  case number.number m n => exact (Int.compare_swap _ _).symm
  case string.string s t => exact Std.OrientedOrd.eq_swap

theorem optionOrder_swap (a b : Option Json) : optionOrder a b = (optionOrder b a).swap := by
  cases a with
  | none => cases b <;> rfl
  | some a =>
    cases b with
    | none => rfl
    | some b => exact sortOrder_swap a b

theorem AtMost.total (a b : Option Json) : AtMost a b ∨ AtMost b a := by
  rw [← isLE_optionOrder_iff, ← isLE_optionOrder_iff, optionOrder_swap b a]
  cases optionOrder a b <;> decide

end Json

namespace Instant

def Before (a b : Instant) : Prop :=
  a.second < b.second ∨ a.second = b.second ∧ a.nanosecond < b.nanosecond

theorem before_of_compare {a b : Instant} (earlier : compare a b = .lt) : a.Before b := by
  rcases Ordering.then_eq_lt.1 earlier with seconds | ⟨sameSecond, nanoseconds⟩
  · exact .inl (Int.compare_eq_lt.1 seconds)
  · exact .inr ⟨Int.compare_eq_eq.1 sameSecond, Nat.compare_eq_lt.1 nanoseconds⟩

theorem eq_of_compare {a b : Instant} (same : compare a b = .eq) : a = b := by
  obtain ⟨seconds, nanoseconds⟩ := Ordering.then_eq_eq.1 same
  cases a
  cases b
  rw [mk.injEq]
  exact ⟨Int.compare_eq_eq.1 seconds, Nat.compare_eq_eq.1 nanoseconds⟩

end Instant

namespace Record

/-- Made at an earlier time, or at the same time under a lesser identifier. -/
def MadeBefore (a b : Record) : Prop :=
  a.created.Before b.created ∨ a.created = b.created ∧ a.id.bits.toNat < b.id.bits.toNat

theorem madeBefore_of_creationOrder {a b : Record} (earlier : creationOrder a b = .lt) :
    a.MadeBefore b := by
  rcases Ordering.then_eq_lt.1 earlier with times | ⟨sameTime, ids⟩
  · exact .inl (Instant.before_of_compare times)
  · exact .inr ⟨Instant.eq_of_compare sameTime, Nat.compare_eq_lt.1 ids⟩

theorem sortByCreation_madeBefore {records : List Record}
    (distinct : (records.map Record.id).Nodup) :
    (sortByCreation records).Pairwise MadeBefore := by
  have apart : (sortByCreation records).Pairwise fun a b => a.id ≠ b.id := by
    rw [← List.pairwise_map]
    exact ((sortByCreation_perm records).map Record.id).nodup_iff.2 distinct
  refine ((sortByCreation_pairwise records).and apart).imp ?_
  rintro a b ⟨notAfter, different⟩
  apply madeBefore_of_creationOrder
  have notEqual : creationOrder a b ≠ .eq := by
    intro same
    rw [creationOrder, Ordering.then_eq_eq] at same
    exact different (Std.LawfulEqOrd.eq_of_compare same.2)
  cases compared : creationOrder a b <;> simp_all

end Record

namespace FieldOrder

variable {order : FieldOrder} {a b : Record} {records : List Record}

def value? (order : FieldOrder) (record : Record) : Option Json := order.path.find? record.payload

def Admits (order : FieldOrder) (a b : Record) : Prop :=
  match order.direction with
  | .ascending => Json.AtMost (order.value? a) (order.value? b)
  | .descending => Json.AtMost (order.value? b) (order.value? a)

/-- The first record may stand before the second one, and of two records with equal values the one
that was made first stands first, in either direction. -/
structure InOrder (order : FieldOrder) (a b : Record) : Prop where
  values : order.Admits a b
  ties : Json.AtMost (order.value? a) (order.value? b) →
    Json.AtMost (order.value? b) (order.value? a) → a.MadeBefore b

theorem isLE_order_iff : (order.order a b).isLE = true ↔ order.Admits a b := by
  obtain ⟨path, _ | _⟩ := order
  · exact Json.isLE_optionOrder_iff _ _
  · rw [FieldOrder.order, ← Json.optionOrder_swap]
    exact Json.isLE_optionOrder_iff _ _

theorem admits_trans (a b c : Record) (first : order.Admits a b) (second : order.Admits b c) :
    order.Admits a c := by
  obtain ⟨path, _ | _⟩ := order
  · exact Json.AtMost.trans first second
  · exact Json.AtMost.trans second first

theorem admits_total (a b : Record) : order.Admits a b ∨ order.Admits b a := by
  obtain ⟨path, _ | _⟩ := order
  · exact Json.AtMost.total _ _
  · exact Json.AtMost.total _ _

theorem isLE_order_trans (order : FieldOrder) (a b c : Record)
    (first : (order.order a b).isLE = true) (second : (order.order b c).isLE = true) :
    (order.order a c).isLE = true := by
  rw [isLE_order_iff] at first second ⊢
  exact admits_trans a b c first second

theorem isLE_order_total (order : FieldOrder) (a b : Record) :
    ((order.order a b).isLE || (order.order b a).isLE) = true := by
  rw [Bool.or_eq_true, isLE_order_iff, isLE_order_iff]
  exact admits_total a b

theorem sort_admits (order : FieldOrder) (records : List Record) :
    (order.sort records).Pairwise order.Admits :=
  (List.pairwise_mergeSort order.isLE_order_trans order.isLE_order_total records).imp
    isLE_order_iff.1

theorem sort_pairwise (made : records.Pairwise Record.MadeBefore) :
    (order.sort records).Pairwise order.InOrder := by
  have stable := pairwise_mergeSort_of_ties order.isLE_order_trans order.isLE_order_total made
  refine ((order.sort_admits records).and stable).imp ?_
  rintro a b ⟨forth, tied⟩
  refine ⟨forth, fun below above => tied (isLE_order_iff.2 ?_)⟩
  obtain ⟨path, _ | _⟩ := order
  · exact above
  · exact below

end FieldOrder

namespace Plan

variable {plan : Plan} {order : FieldOrder} {records : List Record}

theorem result_pairwise (asked : plan.order? = some order)
    (distinct : (records.map Record.id).Nodup) :
    (plan.result records).Pairwise order.InOrder := by
  have apart : ((plan.criteria.select records).map Record.id).Nodup :=
    distinct.sublist (List.filter_sublist.map _)
  simp only [result, asked]
  exact FieldOrder.sort_pairwise (Record.sortByCreation_madeBefore apart)

def page (plan : Plan) (records : List Record) (number : UInt64) : Page :=
  { plan with window := ⟨number, plan.window.size⟩ : Plan }.run records

theorem page_eq (plan : Plan) (records : List Record) :
    plan.page records = fun number =>
      .ofRecords (plan.result records) ⟨number, plan.window.size⟩ := rfl

theorem result_length_le (plan : Plan) (records : List Record) :
    (plan.result records).length ≤ records.length := by
  rw [(plan.result_perm records).length_eq]
  exact List.length_filter_le _ _

theorem whole_page (plan : Plan) (counted : records.length ≤ Window.greatestOffset) :
    Page.whole (plan.page records) =
      if plan.window.size = 0 then [] else plan.result records := by
  have fits : (plan.result records).length ≤ Window.greatestOffset :=
    Nat.le_trans (plan.result_length_le records) counted
  by_cases sizeless : plan.window.size = 0
  · have none : (plan.page records 0).totalPages = 0 := by
      simp [page_eq, Page.totalPages, Page.ofRecords, Window.limit, sizeless]
    rw [if_pos sizeless, Page.whole, none]
    rfl
  · have positive : 0 < plan.window.size.toNat := by
      rw [Nat.pos_iff_ne_zero]
      exact fun zero => sizeless (UInt64.toNat_inj.1 zero)
    rw [if_neg sizeless, page_eq, Page.whole_ofRecords positive fits]

/-- The pages of a sorted result, one after another, hold the records that match, in the order that
is asked for and with ties in the order of creation; the comparison by which they are sorted is a
total preorder of all values. A list in memory has no more records than a word counts. -/
theorem pages_inOrder (plan : Plan) (asked : plan.order? = some order)
    (distinct : (records.map Record.id).Nodup)
    (counted : records.length ≤ Window.greatestOffset) :
    (Page.whole (plan.page records)).Pairwise order.InOrder ∧
      (plan.window.size ≠ 0 →
        (Page.whole (plan.page records)).Perm (plan.criteria.select records)) ∧
      (∀ a b, ((Json.optionOrder a b).isLE = true ↔ Json.AtMost a b) ∧
        ((Json.optionOrder a b).isGE = true ↔ Json.AtMost b a)) ∧
      (∀ a b, Json.AtMost a b ∨ Json.AtMost b a) ∧
      ∀ a b c, Json.AtMost a b → Json.AtMost b c → Json.AtMost a c := by
  rw [whole_page plan counted]
  refine ⟨?_, ?_, ?_, Json.AtMost.total, fun a b c => Json.AtMost.trans⟩
  · split
    · exact .nil
    · exact result_pairwise asked distinct
  · intro sized
    rw [if_neg sized]
    exact plan.result_perm records
  · intro a b
    rw [← Json.isLE_optionOrder_iff, ← Json.isLE_optionOrder_iff, Json.optionOrder_swap b a]
    cases Json.optionOrder a b <;> decide

theorem pages_inOrder_mixed :
    let record (id : BitVec 128) (payload : Json.Members) : Record := .make ⟨id⟩ ⟨7⟩ payload ⟨0, 0⟩
    let records := [record 4 [("k", .array [])], record 2 [("k", .bool true)],
      record 3 [("k", .array [.null])], record 1 []]
    let order : FieldOrder := ⟨⟨["k"]⟩, .descending⟩
    let plan : Plan := ⟨.all, some order, ⟨0, 2⟩⟩
    (plan.order? = some order ∧ (records.map Record.id).Nodup ∧
      records.length ≤ Window.greatestOffset) ∧
      (Page.whole (plan.page records)).Pairwise order.InOrder ∧
      (Page.whole (plan.page records)).Perm (plan.criteria.select records) ∧
      (plan.criteria.select records).length = 4 := by
  intro record records order plan
  have distinct : (records.map Record.id).Nodup := by decide
  have counted : records.length ≤ Window.greatestOffset := by decide
  have law := pages_inOrder plan rfl distinct counted
  exact ⟨⟨rfl, distinct, counted⟩, law.1, law.2.1 (by decide), rfl⟩

end Plan
end VirtualRecords
