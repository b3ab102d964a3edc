import Mathlib.Order.Bounds.Defs
import VirtualRecords.Proofs.RecordOrder
import VirtualRecords.Proofs.Service.Paging

/-! Whether a page is followed by another. The number of the next page is a sum of words, which the
page of the greatest number does not have; there the question has no answer, although nothing can
come behind that page. Every other page answers, and the answer is true: records come behind it
exactly if the next number, times the size, is less than the number of records. -/

namespace VirtualRecords

theorem Window.next?_eq_none_iff {window : Window} :
    window.next? = none ↔ window.page.toNat = greatestOffset := by
  have bound : window.page.toNat < 2 ^ 64 := window.page.toNat_lt
  rw [next?, ite_eq_right_iff, greatestOffset]
  simp only [reduceCtorEq, imp_false]
  omega

theorem Window.next?_eq_some_iff {window : Window} {next : UInt64} :
    window.next? = some next ↔ next.toNat = window.page.toNat + 1 := by
  have bound : next.toNat < 2 ^ 64 := next.toNat_lt
  have sum : (window.page + 1).toNat = (window.page.toNat + 1) % 2 ^ 64 :=
    UInt64.toNat_add window.page 1
  rw [next?, Option.ite_none_right_eq_some, Option.some_inj, ← UInt64.toNat_inj, sum,
    greatestOffset]
  omega

namespace Page

variable {page : Page} {records : List Record} {window : Window} {answer : Bool}

/-- Some record of the whole list comes behind the place of the page in it. -/
def FollowedIn (page : Page) (whole : List Record) : Prop :=
  ∃ before after, whole = before ++ (page.records ++ after) ∧
    before.length = min (page.window.page.toNat * page.window.limit) whole.length ∧ after ≠ []

/-- What a page says of the list that it is cut from: how long the list is, whether the page is
followed, and how many pages of its size are enough for the list. -/
structure Tells (page : Page) (whole : List Record) : Prop where
  total : page.total = whole.length
  followed_iff : page.FollowedIn whole ↔
    (page.window.page.toNat + 1) * page.window.limit < page.total
  hasNext_eq_some_iff (answer : Bool) : page.hasNext? = some answer ↔
    page.window.page.toNat ≠ Window.greatestOffset ∧ (answer = true ↔ page.FollowedIn whole)
  greatest : page.window.page.toNat = Window.greatestOffset → ¬ page.FollowedIn whole
  totalPages : IsLeast {pages | page.total ≤ pages * page.window.limit} page.totalPages

theorem isLeast_totalPages (page : Page) (positive : 0 < page.window.limit) :
    IsLeast {pages | page.total ≤ pages * page.window.limit} page.totalPages := by
  refine ⟨total_le_mul_totalPages page positive, fun pages enough => ?_⟩
  by_contra fewer
  have short := (lt_totalPages_iff page positive).1 (Nat.lt_of_not_le fewer)
  exact absurd enough (Nat.not_le_of_lt short)

theorem hasNext?_eq_some_iff (positive : 0 < page.window.limit) : page.hasNext? = some answer ↔
    page.window.page.toNat ≠ Window.greatestOffset ∧
      (answer = true ↔ (page.window.page.toNat + 1) * page.window.limit < page.total) := by
  rw [hasNext?, ← lt_totalPages_iff page positive]
  cases following : page.window.next? with
  | none =>
    have greatest := Window.next?_eq_none_iff.1 following
    exact iff_of_false nofun fun answered => answered.1 greatest
  | some next =>
    have least : page.window.page.toNat ≠ Window.greatestOffset := by
      rw [Ne, ← Window.next?_eq_none_iff, following]
      exact Option.some_ne_none next
    rw [Option.map_some, Option.some_inj, Window.next?_eq_some_iff.1 following, and_iff_right least,
      eq_comm, Bool.eq_iff_iff, decide_eq_true_iff]

theorem followedIn_ofRecords_iff (counted : records.length ≤ Window.greatestOffset) :
    (ofRecords records window).FollowedIn records ↔
      (window.page.toNat + 1) * window.limit < records.length := by
  have length : (window.cut records).length =
      min window.limit (records.length - window.page.toNat * window.limit) :=
    Window.cut_length counted
  rw [Nat.succ_mul]
  constructor
  · rintro ⟨before, after, whole, place, nonempty⟩
    have behind : 0 < after.length := List.length_pos_iff.2 nonempty
    have lengths := congrArg List.length whole
    simp only [List.length_append, ofRecords] at lengths place
    omega
  · intro past
    let place := window.page.toNat * window.limit
    have offset : window.offset = place := Nat.min_eq_left (by change place ≤ _; omega)
    refine ⟨records.take place, records.drop (place + window.limit), ?_, ?_, ?_⟩
    · rw [ofRecords, Window.cut, offset, ← List.drop_drop, List.take_append_drop,
        List.take_append_drop]
    · exact List.length_take
    · rw [List.ne_nil_iff_length_pos, List.length_drop]
      omega

theorem tells_ofRecords (positive : 0 < window.limit)
    (counted : records.length ≤ Window.greatestOffset) :
    (ofRecords records window).Tells records where
  total := rfl
  followed_iff := followedIn_ofRecords_iff counted
  hasNext_eq_some_iff answer := by
    rw [followedIn_ofRecords_iff counted]
    exact hasNext?_eq_some_iff positive
  greatest last := by
    -- What comes behind would have to lie past the greatest offset.
    rw [followedIn_ofRecords_iff counted, show window.page.toNat = _ from last, Nat.not_lt]
    exact Nat.le_trans (Nat.le_succ_of_le counted) (Nat.le_mul_of_pos_right _ positive)
  totalPages := isLeast_totalPages _ positive

end Page

/-- Pages of a plan and pages of a listing say truly how many there are. Whether they are followed
they say truly as well, but for the page of the greatest number, which is not followed and has no
answer. A store in memory has no more records than a word counts. -/
theorem Store.pages_tell (store : Store) (counted : store.size ≤ Window.greatestOffset) :
    (∀ plan : Plan, 1 ≤ plan.window.size →
      (store.run plan).Tells (plan.result store.records)) ∧
      ∀ (entity : Identifier) (window : Window), 1 ≤ window.size →
        (store.list entity window).Tells (Record.sortByCreation (store.ofEntity entity)) := by
  have positive {window : Window} (sized : 1 ≤ window.size) : 0 < window.limit :=
    UInt64.le_iff_toNat_le.1 sized
  constructor
  · intro plan sized
    have fits := Nat.le_trans (store.result_length_le plan) counted
    exact Page.tells_ofRecords (positive sized) fits
  · intro entity window sized
    have fits := Nat.le_trans (store.listed_length_le entity) counted
    exact Page.tells_ofRecords (positive sized) fits

theorem Store.pages_tell_twoPersons :
    let record (id : BitVec 128) : Record := .make ⟨id⟩ ⟨7⟩ [] ⟨0, 0⟩
    let store : Store := ⟨[record 3, record 1], by decide⟩
    let plan : Plan := ⟨.all, some ⟨⟨["k"]⟩, .descending⟩, ⟨1, 1⟩⟩
    (store.size ≤ Window.greatestOffset ∧ 1 ≤ plan.window.size) ∧
      (store.run plan).Tells (plan.result store.records) ∧
      (store.list ⟨7⟩ plan.window).Tells (Record.sortByCreation (store.ofEntity ⟨7⟩)) := by
  intro record store plan
  have counted : store.size ≤ Window.greatestOffset := by decide
  have sized : 1 ≤ plan.window.size := by decide
  have told := store.pages_tell counted
  exact ⟨⟨counted, sized⟩, told.1 plan sized, told.2 ⟨7⟩ plan.window sized⟩

/-- No record comes behind the page of the greatest number, but the page cannot say so. -/
theorem Store.greatestPage_unanswered :
    let record : Record := .make ⟨1⟩ ⟨7⟩ [] ⟨0, 0⟩
    let store : Store := ⟨[record], by decide⟩
    let window : Window := ⟨18446744073709551615, 20⟩
    let plan : Plan := ⟨.and [.entity ⟨7⟩, .all], none, window⟩
    ¬ (window.page.toNat + 1) * window.limit < (store.run plan).total ∧
      (store.run plan).hasNext? = none ∧ (store.list ⟨7⟩ window).hasNext? = none := by
  decide +kernel

end VirtualRecords
