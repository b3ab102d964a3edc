import VirtualRecords.Proofs.Criteria.Answers
import VirtualRecords.Proofs.Criteria.Meaning
import VirtualRecords.Proofs.Number.Rounding
import VirtualRecords.Proofs.RecordOrder

/-! Integers in conditions and in order. Both compare integers through their nearest binary64
numbers, so what they say of integers that are told apart is what the integers themselves say, and
integers that are rounded to one number are equal to them. Within fifty-three bits there are no
such. -/

namespace VirtualRecords

def Record.HoldsInteger (record : Record) (key : String) (n : Integer) : Prop :=
  (FieldPath.ofField key).find? record.payload = some (.number (.integer n))

/-- The one stands before the other in the list, and nowhere behind it. -/
def Record.StandsBefore (records : List Record) (a b : Record) : Prop :=
  [a, b].Sublist records ∧ ¬ [b, a].Sublist records

theorem Record.standsBefore_of_pairwise {R : Record → Record → Prop} {records : List Record}
    {a b : Record} (ordered : records.Pairwise R) (first : a ∈ records) (second : b ∈ records)
    (different : a ≠ b) (never : ¬ R b a) : Record.StandsBefore records a b := by
  rw [List.pairwise_iff_forall_sublist] at ordered
  have notBehind : ¬ [b, a].Sublist records := fun behind => never (ordered behind)
  refine ⟨?_, notBehind⟩
  obtain ⟨before, after, rfl⟩ := List.append_of_mem first
  rcases List.mem_append.1 second with earlier | later
  · have behind : ([b] ++ [a]).Sublist (before ++ a :: after) :=
      (List.singleton_sublist.2 earlier).append (List.singleton_sublist.2 List.mem_cons_self)
    exact absurd behind notBehind
  · have later := (List.mem_cons.1 later).resolve_left different.symm
    have pair : [a, b].Sublist (a :: after) := (List.singleton_sublist.2 later).cons_cons a
    exact pair.trans (List.sublist_append_right before _)

namespace Integer

variable {m n : Integer}

theorem sameNearest_comm : m.SameNearest n ↔ n.SameNearest m := eq_comm

theorem holds_eq (n m : Integer) :
    Relation.eq.holds (.number (.integer n)) (.number (.integer m)) = decide (n.SameNearest m) := by
  rw [Bool.eq_iff_iff, decide_eq_true_iff]
  exact beq_iff_eq.trans (Option.some_inj.trans Int.compare_eq_eq)

theorem holds_lt (n m : Integer) :
    Relation.lt.holds (.number (.integer n)) (.number (.integer m)) =
      decide (n.val < m.val ∧ ¬ n.SameNearest m) := by
  rw [Bool.eq_iff_iff, decide_eq_true_iff, Relation.holds_lt_iff, ← units_toBinary64_lt_iff]
  exact Option.some_inj.trans Int.compare_eq_lt

theorem holds_gt (n m : Integer) :
    Relation.gt.holds (.number (.integer n)) (.number (.integer m)) =
      decide (m.val < n.val ∧ ¬ n.SameNearest m) := by
  rw [Bool.eq_iff_iff, decide_eq_true_iff, Relation.holds_gt_iff, sameNearest_comm,
    ← units_toBinary64_lt_iff]
  exact Option.some_inj.trans Int.compare_eq_gt

end Integer

namespace Compiler

variable {compiler : Compiler} {key : String} {record : Record} {m n : Integer}

theorem answers_of_integer (declared : compiler.type? key = some .integer)
    (named : Text.isBlankString key = false) (held : record.HoldsInteger key n)
    (signed : m.isSigned = true) (relation : Relation) :
    compiler.Answers (.ofOperator key relation.operator (.number (.integer m))) record
      (relation.holds (.number (.integer n)) (.number (.integer m))) := by
  have formed : FieldType.integer.coerce? (.number (.integer m)) = some (.number (.integer m)) :=
    if_pos signed
  exact answers_of_relation named held rfl (coerce_eq_ok declared rfl formed) rfl relation

/-- Where integers are merged, an integer field does not say what its integers say. -/
theorem answers_merged :
    let compiler : Compiler := ⟨[("n", .integer)]⟩
    let held : Integer := ⟨9007199254740993, by decide, by decide⟩
    let asked : Integer := ⟨9007199254740992, by decide, by decide⟩
    let record : Record := .make ⟨1⟩ ⟨7⟩ [("n", .number (.integer held))] ⟨0, 0⟩
    held.val ≠ asked.val ∧ record.HoldsInteger "n" held ∧
      compiler.Answers (.ofOperator "n" .eq (.number (.integer asked))) record true := by
  intro compiler held asked record
  have merged : held.SameNearest asked := by decide +kernel
  have shown : record.HoldsInteger "n" held := FieldPath.find?_ofField (by decide) record.payload
  have signed : asked.isSigned = true := by decide
  have declared : compiler.type? "n" = some .integer := rfl
  have answer := answers_of_integer declared (by decide) shown signed .eq
  rw [Integer.holds_eq, decide_eq_true merged] at answer
  exact ⟨by decide, shown, answer⟩

end Compiler

/-- Conditions on an integer field, and its ascending order, say of integers that have different
nearest numbers exactly what is true of the integers, and take those that have the same one for
equal. Integers of at most fifty-three bits always have different ones. -/
theorem integers_compared {compiler : Compiler} {key : String}
    (declared : compiler.type? key = some .integer) (named : Text.isBlankString key = false) :
    (∀ (record : Record) (n m : Integer), record.HoldsInteger key n → m.isSigned = true →
      compiler.Answers (.ofOperator key .eq (.number (.integer m))) record
          (decide (n.SameNearest m)) ∧
        compiler.Answers (.ofOperator key .lt (.number (.integer m))) record
          (decide (n.val < m.val ∧ ¬ n.SameNearest m)) ∧
        compiler.Answers (.ofOperator key .gt (.number (.integer m))) record
          (decide (m.val < n.val ∧ ¬ n.SameNearest m))) ∧
    (∀ (records : List Record) (a b : Record) (m n : Integer), a ∈ records → b ∈ records →
      a.HoldsInteger key m → b.HoldsInteger key n → m.val < n.val → ¬ m.SameNearest n →
      Record.StandsBefore (FieldOrder.sort ⟨.ofField key, .ascending⟩ records) a b) ∧
    ∀ m n : Integer, m.val.natAbs ≤ 2 ^ 53 → n.val.natAbs ≤ 2 ^ 53 →
      (m.SameNearest n ↔ m.val = n.val) := by
  refine ⟨?_, ?_, fun m n => Integer.sameNearest_iff_of_small⟩
  · intro record n m held signed
    rw [← Integer.holds_eq, ← Integer.holds_lt, ← Integer.holds_gt]
    have answers := Compiler.answers_of_integer declared named held signed
    exact ⟨answers .eq, answers .lt, answers .gt⟩
  · intro records a b m n first second heldFirst heldSecond less apart
    let order : FieldOrder := ⟨.ofField key, .ascending⟩
    have lower : m.toBinary64.units < n.toBinary64.units :=
      Integer.units_toBinary64_lt_iff.2 ⟨less, apart⟩
    have never : ¬ order.Admits b a := by
      intro admitted
      change Json.AtMost ((FieldPath.ofField key).find? b.payload)
        ((FieldPath.ofField key).find? a.payload) at admitted
      rw [heldFirst, heldSecond, Json.AtMost.number_iff] at admitted
      exact absurd admitted (Int.not_le.2 lower)
    have different : a ≠ b := by
      rintro rfl
      exact never (order.admits_total a a |>.elim id id)
    have sorted := order.sort_perm records
    exact Record.standsBefore_of_pairwise (order.sort_admits records) (sorted.mem_iff.2 first)
      (sorted.mem_iff.2 second) different never

theorem integers_compared_apart :
    let compiler : Compiler := ⟨[("n", .integer)]⟩
    let m : Integer := ⟨1152921504606846976, by decide, by decide⟩
    let n : Integer := ⟨1152921504606847232, by decide, by decide⟩
    let record (id : BitVec 128) (held : Integer) : Record :=
      .make ⟨id⟩ ⟨7⟩ [("n", .number (.integer held))] ⟨0, 0⟩
    (compiler.type? "n" = some .integer ∧ Text.isBlankString "n" = false) ∧
      compiler.Answers (.ofOperator "n" .eq (.number (.integer n))) (record 1 m) false ∧
      compiler.Answers (.ofOperator "n" .lt (.number (.integer n))) (record 1 m) true ∧
      Record.StandsBefore (FieldOrder.sort ⟨.ofField "n", .ascending⟩ [record 2 n, record 1 m])
        (record 1 m) (record 2 n) := by
  intro compiler m n record
  have declared : compiler.type? "n" = some .integer := rfl
  have named : Text.isBlankString "n" = false := by decide
  have shown (id : BitVec 128) (held : Integer) : (record id held).HoldsInteger "n" held :=
    FieldPath.find?_ofField (by decide) _
  have apart : ¬ m.SameNearest n := by decide +kernel
  have less : m.val < n.val := by decide
  obtain ⟨answers, orders, -⟩ := integers_compared declared named
  obtain ⟨eq, lt, -⟩ := answers (record 1 m) m n (shown 1 m) rfl
  rw [decide_eq_false apart] at eq
  rw [decide_eq_true ⟨less, apart⟩] at lt
  exact ⟨⟨declared, named⟩, eq, lt, orders _ _ _ m n (by simp) (by simp) (shown 1 m) (shown 2 n)
    less apart⟩

end VirtualRecords
