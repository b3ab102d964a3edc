import VirtualRecords.Proofs.Criteria.Integers
import VirtualRecords.Proofs.Service.Findable

/-! Fields of numbers, filtered and sorted. Such a field takes numbers and texts that spell one. A
condition reads both as numbers, but an order keeps them apart: numbers come before texts, and texts
stand by their characters. So in an ascending order no record stands before a lesser number, but
before a text there may stand any number, and any text that is not behind it. -/

namespace VirtualRecords

def FieldType.IsNumeric (type : FieldType) : Prop := type = .number ∨ type = .integer

theorem FieldType.IsNumeric.exists_number {type : FieldType} {value : Json}
    (counts : type.IsNumeric) (conforming : type.conforms value = true) :
    ∃ n, type.coerce? value = some (.number n) ∧ value.numeric? = some n.toBinary64 := by
  obtain ⟨made, forms⟩ := exists_forms_of_conforms conforming
  have formed := coerce?_eq_some_iff.2 forms
  cases forms with
  | number n | integer => exact ⟨_, formed, rfl⟩
  | readNumber read => exact ⟨_, formed, by rw [Json.numeric?, read, Option.map_some]⟩
  | readInteger read =>
    have spelled := numberOfText?_of_integerOfText? read
    exact ⟨_, formed, by rw [Json.numeric?, spelled, Option.map_some]⟩
  | kept free =>
    rcases counts with rfl | rfl
    · exact absurd (by decide) free
    · exact absurd (by decide) free
  | boolean | readBoolean | shownNumber | shownBoolean => rcases counts with ⟨⟨⟩⟩ | ⟨⟨⟩⟩

structure Record.HoldsNumber (record : Record) (key : String) (value : Json) (x : Binary64) :
    Prop where
  held : record.payload.get? key = some value
  spelled : value.numeric? = some x

def Registry.Creates (registry : Registry) (entity : Entity) (record : Record) : Prop :=
  ∃ (service changed : Service) (id : Identifier) (payload : Json) (now : Instant),
    service.registry = registry ∧ service.create id entity.id payload now = .ok (changed, record)

theorem Registry.Creates.exists_holdsNumber {registry : Registry} {entity : Entity}
    {record : Record} {field : Field} {type : FieldType} (created : registry.Creates entity record)
    (known : registry.entity? entity.id = some entity) (declared : field ∈ entity.fields)
    (typed : field.type? = some type) (counts : type.IsNumeric)
    (filled : ∃ value, record.payload.get? field.key = some value ∧ value.isNull = false) :
    ∃ value x, record.HoldsNumber field.key value x ∧ type.conforms value = true := by
  obtain ⟨service, changed, id, payload, now, rfl, created⟩ := created
  obtain ⟨value, held, notNull⟩ := filled
  obtain ⟨members, accepted, rfl, -, -⟩ := Service.create_eq_ok.1 created
  obtain ⟨rfl, -⟩ := Service.accept_eq_ok.1 accepted
  obtain ⟨-, -, other, typedToo, conforming⟩ :=
    Service.exists_type_of_create created known declared held notNull
  obtain rfl : type = other := Option.some.inj (typed.symm.trans typedToo)
  obtain ⟨n, -, spelled⟩ := counts.exists_number conforming
  exact ⟨value, _, ⟨held, spelled⟩, conforming⟩

theorem Registry.creates_of_valid {registry : Registry} {entity : Entity} {members : Json.Members}
    (known : registry.entity? entity.id = some entity)
    (clear : Validation.messages members entity.fields = []) (id : Identifier) (now : Instant) :
    registry.Creates entity (.make id entity.id members now) := by
  have accepted : (Service.ofRegistry registry).accept entity.id (.object members) = .ok members :=
    Service.accept_eq_ok.2 ⟨rfl, entity, known, clear⟩
  let record : Record := .make id entity.id members now
  have fresh : (Service.ofRegistry registry).store.holds record.id = false := rfl
  have created := Service.create_eq_ok.2 ⟨members, accepted, rfl, fresh, rfl⟩
  exact ⟨_, _, id, .object members, now, rfl, created⟩

theorem Relation.holds_gt_number {value : Json} {x : Binary64} (n : Number)
    (spelled : value.numeric? = some x) :
    gt.holds value (.number n) = decide (n.toBinary64.units < x.units) := by
  rw [Bool.eq_iff_iff, decide_eq_true_iff, holds_gt_iff, Json.order?_number, spelled]
  exact Option.some_inj.trans Int.compare_eq_gt

namespace Compiler

variable {compiler : Compiler} {key : String} {record : Record} {type : FieldType}
  {held literal : Json} {x y : Binary64}

theorem answers_gt_of_numeric (declared : compiler.type? key = some type)
    (counts : type.IsNumeric) (named : Text.isBlankString key = false)
    (plain : '.' ∉ key.toList) (first : record.HoldsNumber key held x)
    (conforming : type.conforms literal = true) (second : literal.numeric? = some y) :
    compiler.Answers (.ofOperator key .gt literal) record (decide (y.units < x.units)) := by
  obtain ⟨n, formed, spelled⟩ := counts.exists_number conforming
  obtain rfl := Option.some.inj (second.symm.trans spelled)
  have notNull (value : Json) (spells : value.numeric?.isSome = true) : value.isNull = false := by
    cases value with
    | null => cases spells
    | _ => rfl
  have heldFilled := notNull held (Option.isSome_of_eq_some first.spelled)
  have literalFilled := notNull literal (Option.isSome_of_eq_some second)
  have found := (FieldPath.find?_ofField plain record.payload).trans first.held
  have accepted := coerce_eq_ok declared literalFilled formed
  rw [← Relation.holds_gt_number n first.spelled]
  exact answers_of_relation named found heldFilled accepted rfl .gt

end Compiler

theorem Json.AtMost.units_le {value : Json} {m : Number} {x : Binary64}
    (below : AtMost (some value) (some (.number m))) (spelled : value.numeric? = some x) :
    x.units ≤ m.toBinary64.units := by
  cases value with
  | number n =>
    obtain rfl := Option.some.inj spelled
    exact number_iff.1 below
  | string s =>
    cases below with
    | ofKind lower =>
      have behind : ¬ Kind.string.Before .number := by
        unfold Kind.Before
        decide
      exact absurd lower behind
  | _ => cases spelled

theorem FieldOrder.admits_ascending_iff {key : String} {a b : Record} {u v : Json}
    (plain : '.' ∉ key.toList) (first : a.payload.get? key = some u)
    (second : b.payload.get? key = some v) :
    Admits ⟨.ofField key, .ascending⟩ a b ↔ Json.AtMost (some u) (some v) := by
  rw [← first, ← second, ← FieldPath.find?_ofField plain, ← FieldPath.find?_ofField plain]
  rfl

namespace Plan

variable {plan : Plan} {order : FieldOrder} {records : List Record} {a b : Record}

theorem result_admits (asked : plan.order? = some order) (records : List Record) :
    (plan.result records).Pairwise order.Admits := by
  simp only [result, asked]
  exact order.sort_admits _

theorem standsBefore_of_not_admits (asked : plan.order? = some order)
    (first : a ∈ plan.criteria.select records) (second : b ∈ plan.criteria.select records)
    (never : ¬ order.Admits b a) : Record.StandsBefore (plan.result records) a b := by
  have different : a ≠ b := by
    rintro rfl
    exact never ((order.admits_total a a).elim id id)
  have shown := plan.result_perm records
  exact Record.standsBefore_of_pairwise (result_admits asked records) (shown.mem_iff.2 first)
    (shown.mem_iff.2 second) different never

end Plan

/-- A record that stands before another one in an ascending order of a field of numbers. Whether a
condition finds it greater is a matter of the numbers: it never does if the other value is a number,
but it can if that is a text, since texts stand behind all numbers and by their characters. -/
theorem sorted_notGreater {registry : Registry} {entity : Entity} {field : Field}
    {type : FieldType} (built : registry.Built) (known : registry.entity? entity.id = some entity)
    (declared : field ∈ entity.fields) (typed : field.type? = some type) (counts : type.IsNumeric)
    (plain : '.' ∉ field.key.toList) {fields : List Field} (ordered : fields.Perm entity.fields)
    {records : List Record}
    (created : ∀ record ∈ records, registry.Creates entity record)
    (filled : ∀ record ∈ records,
      ∃ value, record.payload.get? field.key = some value ∧ value.isNull = false)
    {plan : Plan} (asked : plan.order? = some ⟨.ofField field.key, .ascending⟩) {a b : Record}
    (listed : [a, b].Sublist (plan.result records)) :
    ∃ u v x y, a.HoldsNumber field.key u x ∧ b.HoldsNumber field.key v y ∧
      (Compiler.ofFields fields).Answers (.ofOperator field.key .gt v) a
        (decide (y.units < x.units)) ∧
      ((∃ n, v = .number n) →
        (Compiler.ofFields fields).Answers (.ofOperator field.key .gt v) a false) ∧
      ∀ t, v = .string t → ∀ s, u = .string s → s ≤ t := by
  have below := List.pairwise_iff_forall_sublist.1 (Plan.result_admits asked records) listed
  have member {record : Record} (shown : record ∈ [a, b]) : record ∈ records :=
    List.mem_of_mem_filter ((plan.result_perm records).mem_iff.1 (listed.subset shown))
  have holds {record : Record} (shown : record ∈ [a, b]) :=
    (created record (member shown)).exists_holdsNumber known declared typed counts
      (filled record (member shown))
  obtain ⟨u, x, first, -⟩ := holds List.mem_cons_self
  obtain ⟨v, y, second, conforming⟩ := holds (List.mem_cons_of_mem _ List.mem_cons_self)
  rw [FieldOrder.admits_ascending_iff plain first.held second.held] at below
  have sound := built.wellFormed_of_entity? known
  have distinct := (ordered.map Field.key).nodup_iff.2 sound.distinct
  have known := Compiler.type?_ofFields distinct (ordered.mem_iff.2 declared) typed
  have named := sound.keyed field declared
  have answer := Compiler.answers_gt_of_numeric known counts named plain first conforming
    second.spelled
  refine ⟨u, v, x, y, first, second, answer, ?_, ?_⟩
  · rintro ⟨n, rfl⟩
    obtain rfl := Option.some.inj second.spelled
    rwa [decide_eq_false (Int.not_lt.2 (below.units_le first.spelled))] at answer
  · rintro t rfl s rfl
    exact Json.AtMost.string_iff.1 below

theorem sorted_notGreater_digits :
    let count : Field := .ofType "n" .integer
    let tally : Entity := ⟨⟨7⟩, "Tally", none, [count]⟩
    let number (i : Integer) : Json := .number (.integer i)
    let record (id : BitVec 128) (i : Integer) : Record :=
      .make ⟨id⟩ tally.id [("n", number i)] ⟨0, 0⟩
    let nine : Integer := ⟨9, by decide, by decide⟩
    let ten : Integer := ⟨10, by decide, by decide⟩
    let records := [record 1 ten, record 2 nine]
    let plan : Plan := ⟨.all, some ⟨.ofField "n", .ascending⟩, ⟨0, 20⟩⟩
    ((∃ changed, Registry.registerFrom Registry.inMemory .empty tally = .ok changed) ∧
      (∀ record ∈ records, Registry.Creates ⟨[tally]⟩ tally record) ∧
      [record 2 nine, record 1 ten].Sublist (plan.result records)) ∧
    (Compiler.ofFields [count]).Answers (.ofOperator "n" .gt (number ten)) (record 2 nine)
      false := by
  intro count tally number record nine ten records plan
  have sound : tally.WellFormed := Entity.fault?_eq_none_iff.1 (by decide)
  have entered : Registry.registerFrom Registry.inMemory .empty tally = .ok ⟨[tally]⟩ :=
    Registry.registerFrom_eq_ok.2 ⟨sound, rfl, rfl⟩
  have created : ∀ record ∈ records, Registry.Creates ⟨[tally]⟩ tally record :=
    List.forall_mem_cons.2 ⟨Registry.creates_of_valid rfl (by decide) _ _,
      List.forall_mem_singleton.2 (Registry.creates_of_valid rfl (by decide) _ _)⟩
  have filled : ∀ record ∈ records,
      ∃ value, record.payload.get? "n" = some value ∧ value.isNull = false :=
    List.forall_mem_cons.2 ⟨⟨_, rfl, rfl⟩, List.forall_mem_singleton.2 ⟨_, rfl, rfl⟩⟩
  have never : ¬ FieldOrder.Admits ⟨.ofField "n", .ascending⟩ (record 1 ten) (record 2 nine) := by
    rw [FieldOrder.admits_ascending_iff (by decide) rfl rfl, Json.AtMost.number_iff]
    decide +kernel
  have listed : [record 2 nine, record 1 ten].Sublist (plan.result records) :=
    (Plan.standsBefore_of_not_admits rfl (List.mem_cons_of_mem _ List.mem_cons_self)
      List.mem_cons_self never).1
  obtain ⟨u, v, x, y, first, second, -, numbers, -⟩ := sorted_notGreater (.register .empty entered)
    rfl List.mem_cons_self rfl (.inr rfl) (by decide) (List.Perm.refl _) created filled rfl listed
  obtain rfl : number ten = v := Option.some.inj second.held
  exact ⟨⟨⟨_, entered⟩, created, listed⟩, numbers ⟨_, rfl⟩⟩

/-- The same numbers as texts: the ten stands before the nine and is greater. -/
theorem Plan.result_greaterText :
    let count : Field := .ofType "n" .integer
    let tally : Entity := ⟨⟨7⟩, "Tally", none, [count]⟩
    let record (id : BitVec 128) (text : String) : Record :=
      .make ⟨id⟩ tally.id [("n", .string text)] ⟨0, 0⟩
    let records := [record 1 "9", record 2 "10"]
    let plan : Plan := ⟨.all, some ⟨.ofField "n", .ascending⟩, ⟨0, 20⟩⟩
    (∃ changed, Registry.registerFrom Registry.inMemory .empty tally = .ok changed) ∧
      (∀ record ∈ records, Registry.Creates ⟨[tally]⟩ tally record) ∧
      [record 2 "10", record 1 "9"].Sublist (plan.result records) ∧
      (Compiler.ofFields [count]).Answers (.ofOperator "n" .gt (.string "9")) (record 2 "10")
        true := by
  intro count tally record records plan
  have sound : tally.WellFormed := Entity.fault?_eq_none_iff.1 (by decide)
  have entered : Registry.registerFrom Registry.inMemory .empty tally = .ok ⟨[tally]⟩ :=
    Registry.registerFrom_eq_ok.2 ⟨sound, rfl, rfl⟩
  have created : ∀ record ∈ records, Registry.Creates ⟨[tally]⟩ tally record :=
    List.forall_mem_cons.2 ⟨Registry.creates_of_valid rfl (by decide) _ _,
      List.forall_mem_singleton.2 (Registry.creates_of_valid rfl (by decide) _ _)⟩
  have never : ¬ FieldOrder.Admits ⟨.ofField "n", .ascending⟩ (record 1 "9") (record 2 "10") := by
    rw [FieldOrder.admits_ascending_iff (by decide) rfl rfl, Json.AtMost.string_iff]
    decide +kernel
  have listed : [record 2 "10", record 1 "9"].Sublist (plan.result records) :=
    (Plan.standsBefore_of_not_admits rfl (List.mem_cons_of_mem _ List.mem_cons_self)
      List.mem_cons_self never).1
  have typed : (Compiler.ofFields [count]).type? "n" = some .integer := rfl
  let nine : Integer := ⟨9, by decide, by decide⟩
  let ten : Integer := ⟨10, by decide, by decide⟩
  have first : (record 2 "10").HoldsNumber "n" (.string "10") ten.toBinary64 :=
    ⟨rfl, by decide +kernel⟩
  have second : (Json.string "9").numeric? = some nine.toBinary64 := by decide +kernel
  have answer := Compiler.answers_gt_of_numeric typed (.inr rfl) (by decide) (by decide) first
    (by decide) second
  rw [decide_eq_true (by decide +kernel)] at answer
  exact ⟨⟨_, entered⟩, created, listed, answer⟩

end VirtualRecords
