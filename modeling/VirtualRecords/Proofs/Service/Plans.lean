import VirtualRecords.Proofs.Criteria.Meaning
import VirtualRecords.Service.Basic

/-! What becomes of a query. Its text changes its conditions and its order alone, its criteria
ask for its entity before anything else, and its page and its cut size are the window
of the plan. None of this looks at the store. -/

namespace VirtualRecords

namespace Query

variable {query : Query} {compiler : Compiler} {criteria : Criteria} {plan : Plan}

theorem exists_applyText (query : Query) :
    ∃ root sortField direction, query.applyText = { query with root, sortField, direction } := by
  unfold applyText
  split
  · exact ⟨query.root, query.sortField, query.direction, rfl⟩
  · dsimp only
    split
    · exact ⟨_, query.sortField, query.direction, rfl⟩
    · exact ⟨_, _, _, rfl⟩

theorem applyText_entity (query : Query) : query.applyText.entity = query.entity := by
  obtain ⟨root, sortField, direction, same⟩ := query.exists_applyText
  rw [same]

theorem applyText_page (query : Query) : query.applyText.page = query.page := by
  obtain ⟨root, sortField, direction, same⟩ := query.exists_applyText
  rw [same]

theorem applyText_size (query : Query) : query.applyText.size = query.size := by
  obtain ⟨root, sortField, direction, same⟩ := query.exists_applyText
  rw [same]

theorem applyText_withPage (query : Query) (page size : UInt64) :
    (query.withPage page size).applyText = query.applyText.withPage page size := by
  have text : (query.withPage page size).textToRead? = query.textToRead? := rfl
  unfold applyText
  rw [text]
  cases query.textToRead? with
  | none => rfl
  | some text =>
    have root : (query.withPage page size).root = query.root := rfl
    dsimp only
    rw [root]
    cases (QueryText.read text query.root).order? with
    | none => rfl
    | some order => rfl

theorem exists_of_criteria (made : query.criteria compiler = .ok criteria) :
    ∃ own, criteria = .and [.entity query.entity, own] := by
  obtain ⟨own, -, same⟩ := Compiler.exists_of_compile made
  exact ⟨own, same⟩

theorem plan_eq_ok :
    query.plan compiler = .ok plan ↔ query.size ≠ 0 ∧
      ∃ criteria, query.criteria compiler = .ok criteria ∧
        plan = ⟨criteria, query.order?, ⟨query.page, query.size⟩⟩ := by
  unfold Query.plan
  by_cases zero : query.size = 0
  · simp [zero]
  · rw [if_neg zero, and_iff_right zero]
    exact Outcome.bind_pure_eq_ok

end Query

namespace Service

variable {service : Service} {query : Query} {plan : Plan}

theorem prepare_eq_ok :
    service.prepare query = .ok plan ↔ service.clamp query.size ≠ 0 ∧
      ∃ compiler criteria, service.compiler query.entity = .ok compiler ∧
        query.applyText.criteria compiler = .ok criteria ∧
          plan = ⟨criteria, query.applyText.order?, ⟨query.page, service.clamp query.size⟩⟩ := by
  unfold prepare
  simp only [Outcome.bind_eq_ok, Outcome.mapError_eq_ok, Query.plan_eq_ok, Query.applyText_size,
    Query.applyText_page]
  constructor
  · rintro ⟨compiler, known, positive, criteria, accepted, rfl⟩
    exact ⟨positive, compiler, criteria, known, accepted, rfl⟩
  · rintro ⟨positive, compiler, criteria, known, accepted, rfl⟩
    exact ⟨compiler, known, positive, criteria, accepted, rfl⟩

theorem exists_of_prepare (ready : service.prepare query = .ok plan) :
    ∃ own, plan.criteria = .and [.entity query.entity, own] := by
  obtain ⟨-, compiler, criteria, -, accepted, rfl⟩ := prepare_eq_ok.1 ready
  rw [← query.applyText_entity]
  exact Query.exists_of_criteria accepted

theorem execute_eq_ok {page : Page} :
    service.execute query = .ok page ↔
      ∃ plan, service.prepare query = .ok plan ∧ page = service.store.run plan :=
  Outcome.bind_pure_eq_ok

theorem recordsByEntity_eq_ok {entity : Identifier} {number size : UInt64} {page : Page} :
    service.recordsByEntity entity number size = .ok page ↔
      size ≠ 0 ∧ page = service.store.list entity ⟨number, service.clamp size⟩ := by
  unfold recordsByEntity
  by_cases zero : size = 0
  · simp [zero]
  · simp [zero, eq_comm]

end Service
end VirtualRecords
