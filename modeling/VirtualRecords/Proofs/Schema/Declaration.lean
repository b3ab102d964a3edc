import VirtualRecords.Proofs.Schema.Registration

/-! What is wrong with a declaration. A blank name is reported before anything else, and otherwise
the first field in the order of declaration that has a blank key or the key of a field in front of
it. The walk over the fields keeps the keys that it has passed, and these are the keys of the
fields in front; so what is reported does not depend on any field behind. -/

namespace VirtualRecords

namespace Entity

variable {entity : Entity} {field : Field} {front rest fields : List Field} {seen : List String}
  {fault : EntityFault} {place : Nat}

/-- What is wrong with the field at a place: its key is blank, or it is not and stands in front. -/
inductive FaultAt (fields : List Field) (place : Nat) : EntityFault → Prop where
  | blankKey {field : Field} : fields[place]? = some field →
      Text.isBlankString field.key = true → FaultAt fields place .blankKey
  | repeatedKey {field other : Field} {earlier : Nat} : fields[place]? = some field →
      Text.isBlankString field.key = false → earlier < place → fields[earlier]? = some other →
      other.key = field.key → FaultAt fields place (.repeatedKey field.key)

theorem exists_earlier_iff {key : String} : key ∈ front.map Field.key ↔
    ∃ earlier other, earlier < front.length ∧
      (front ++ field :: rest)[earlier]? = some other ∧ other.key = key := by
  rw [List.mem_map]
  constructor
  · rintro ⟨other, member, same⟩
    obtain ⟨earlier, within, found⟩ := List.mem_iff_getElem.1 member
    exact ⟨earlier, other, within, by simp [List.getElem?_append_left, within, found], same⟩
  · rintro ⟨earlier, other, within, found, same⟩
    rw [List.getElem?_append_left within] at found
    exact ⟨other, List.mem_of_getElem? found, same⟩

theorem faultAt_iff (passed : ∀ key, key ∈ seen ↔ key ∈ front.map Field.key) :
    FaultAt (front ++ field :: rest) front.length fault ↔ fieldFault? seen field = some fault := by
  have here : (front ++ field :: rest)[front.length]? = some field := by simp
  rw [fieldFault?]
  constructor
  · rintro (⟨found, blank⟩ | ⟨found, solid, within, before, same⟩)
    · cases here.symm.trans found
      rw [if_pos blank]
    · cases here.symm.trans found
      have repeated := (passed _).2 (exists_earlier_iff.2 ⟨_, _, within, before, same⟩)
      rw [if_neg (Bool.eq_false_iff.1 solid), if_pos repeated]
  · intro found
    split at found
    · next blank =>
      cases found
      exact .blankKey here blank
    · next solid =>
      split at found
      · next repeated =>
        cases found
        obtain ⟨_, _, within, before, same⟩ := exists_earlier_iff.1 ((passed _).1 repeated)
        exact .repeatedKey here (Bool.eq_false_iff.2 solid) within before same
      · cases found

theorem FaultAt.lt_length (faulty : FaultAt fields place fault) : place < fields.length := by
  rcases faulty with ⟨found, _⟩ | ⟨found, _⟩
  · exact (List.getElem?_eq_some_iff.1 found).1
  · exact (List.getElem?_eq_some_iff.1 found).1

def FirstFrom (start : Nat) (At : Nat → EntityFault → Prop) (fault : EntityFault) : Prop :=
  ∃ place, start ≤ place ∧ At place fault ∧
    ∀ earlier, start ≤ earlier → earlier < place → ∀ other, ¬ At earlier other

section First

variable {start : Nat} {At : Nat → EntityFault → Prop} {other : EntityFault}

theorem firstFrom_of_faulty (only : ∀ fault, At start fault ↔ other = fault) :
    FirstFrom start At fault ↔ other = fault := by
  constructor
  · rintro ⟨place, behind, faulty, first⟩
    rcases Nat.eq_or_lt_of_le behind with rfl | later
    · exact (only fault).1 faulty
    · exact absurd ((only other).2 rfl) (first start (Nat.le_refl _) later other)
  · intro same
    exact ⟨start, Nat.le_refl _, (only fault).2 same, fun earlier behind before => by omega⟩

theorem firstFrom_of_clean (clean : ∀ fault, ¬ At start fault) :
    FirstFrom start At fault ↔ FirstFrom (start + 1) At fault := by
  constructor
  · rintro ⟨place, behind, faulty, first⟩
    rcases Nat.eq_or_lt_of_le behind with rfl | later
    · exact absurd faulty (clean fault)
    · exact ⟨place, later, faulty, fun earlier notBefore before =>
        first earlier (Nat.le_of_succ_le notBefore) before⟩
  · rintro ⟨place, behind, faulty, first⟩
    refine ⟨place, Nat.le_of_succ_le behind, faulty, fun earlier notBefore before => ?_⟩
    rcases Nat.eq_or_lt_of_le notBefore with rfl | later
    · exact clean
    · exact first earlier later before

end First

/-- While the keys that were seen are those of the fields in front, the walk over the fields behind
reports the first of these that is at fault. -/
theorem firstFieldFault?_eq_some_iff (passed : ∀ key, key ∈ seen ↔ key ∈ front.map Field.key) :
    firstFieldFault? seen fields = some fault ↔
      FirstFrom front.length (FaultAt (front ++ fields)) fault := by
  induction fields generalizing seen front with
  | nil =>
    refine iff_of_false nofun ?_
    rintro ⟨place, behind, faulty, -⟩
    have within := faulty.lt_length
    rw [List.append_nil] at within
    omega
  | cons field rest ih =>
    rw [firstFieldFault?_cons]
    cases here : fieldFault? seen field with
    | some other =>
      have only (fault : EntityFault) :
          FaultAt (front ++ field :: rest) front.length fault ↔ other = fault := by
        rw [faultAt_iff passed, here, Option.some_inj]
      rw [Option.some_or, Option.some_inj, firstFrom_of_faulty only]
    | none =>
      have clean (fault : EntityFault) : ¬ FaultAt (front ++ field :: rest) front.length fault := by
        rw [faultAt_iff passed, here]
        nofun
      have passedToo (key : String) :
          key ∈ field.key :: seen ↔ key ∈ (front ++ [field]).map Field.key := by
        simp [passed, or_comm]
      rw [Option.none_or, firstFrom_of_clean clean, ih passedToo, List.append_assoc,
        List.singleton_append, List.length_append, List.length_singleton]

inductive FirstFault (entity : Entity) : EntityFault → Prop where
  | blankName : Text.isBlankString entity.name = true → FirstFault entity .blankName
  | ofField {place : Nat} {fault : EntityFault} : Text.isBlankString entity.name = false →
      FaultAt entity.fields place fault →
      (∀ earlier < place, ∀ other, ¬ FaultAt entity.fields earlier other) →
      FirstFault entity fault

theorem fault?_eq_some_iff : entity.fault? = some fault ↔ entity.FirstFault fault := by
  have passed (key : String) : key ∈ [] ↔ key ∈ ([] : List Field).map Field.key := Iff.rfl
  rw [fault?]
  cases named : Text.isBlankString entity.name with
  | true =>
    rw [if_pos rfl, Option.some_inj]
    constructor
    · rintro rfl
      exact .blankName named
    · rintro (_ | ⟨solid, _⟩)
      · rfl
      · rw [named] at solid
        cases solid
  | false =>
    rw [if_neg Bool.false_ne_true, firstFieldFault?_eq_some_iff passed, List.nil_append]
    constructor
    · rintro ⟨place, -, found, first⟩
      exact .ofField named found fun earlier before => first earlier (Nat.zero_le _) before
    · rintro (blank | ⟨-, found, first⟩)
      · rw [named] at blank
        cases blank
      · exact ⟨_, Nat.zero_le _, found, fun earlier _ before => first earlier before⟩

theorem faultText_injective (entity : Entity) : Function.Injective entity.faultText := by
  have blankName : entity.faultText .blankName = "Entity name cannot be empty" := rfl
  have blankKey : entity.faultText .blankKey =
    "Entity '" ++ entity.name ++ "' has a field with an empty key" := rfl
  have repeatedKey (key : String) : entity.faultText (.repeatedKey key) =
    "Entity '" ++ entity.name ++ "' declares field '" ++ key ++ "' more than once" := rfl
  intro fault other same
  cases fault <;> cases other <;>
    simp [blankName, blankKey, repeatedKey, ← String.toList_inj] at same ⊢
  exact same

theorem structure?_eq_some_iff {message : String} : entity.structure? = some message ↔
    ∃ fault, entity.FirstFault fault ∧ entity.faultText fault = message := by
  rw [structure?, Option.map_eq_some_iff]
  exact exists_congr fun fault => and_congr_left' fault?_eq_some_iff

end Entity

theorem Registry.registerFrom_eq_malformed_iff {registry : Registry} {place message : String}
    {entity : Entity} :
    registerFrom place registry entity = .error (.malformedDefinition place message) ↔
      entity.structure? = some message := by
  rw [registerFrom]
  cases entity.structure? with
  | some reason => simp
  | none => cases registry.holds entity.id <;> simp

/-- A declaration has no fault exactly if its name and its keys are not blank and its keys differ
from one another. Else the message is that of the first fault, told apart from all others, and with
this message every registry refuses the entity, from whatever place it comes. -/
theorem Entity.structure?_firstFault (entity : Entity) :
    (entity.structure? = none ↔ entity.WellFormed) ∧
      (∀ message, entity.structure? = some message ↔
        ∃ fault, entity.FirstFault fault ∧ entity.faultText fault = message) ∧
        Function.Injective entity.faultText ∧
          ∀ (registry : Registry) (place message : String),
            registry.registerFrom place entity = .error (.malformedDefinition place message) ↔
              entity.structure? = some message := by
  exact ⟨structure?_eq_none_iff, fun message => structure?_eq_some_iff,
    entity.faultText_injective, fun registry place message =>
      Registry.registerFrom_eq_malformed_iff⟩

example :
    let field (key : String) : Field := .ofType key .string
    let entity : Entity :=
      ⟨⟨0⟩, "contact", none, [field "a", field "b", field "a", field " ", field "b"]⟩
    entity.structure? = some "Entity 'contact' declares field 'a' more than once" := by decide

end VirtualRecords
