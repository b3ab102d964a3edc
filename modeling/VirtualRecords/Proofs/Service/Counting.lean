import VirtualRecords.Proofs.Service.Paging
import VirtualRecords.Proofs.Service.Refusals

/-! Counting beside executing. Both read the text of a query into its conditions and make the same
criteria out of them; executing goes on to an order and a window, which say nothing about how many
records match. So both fail alike, and the total that a page shows is the count. -/

namespace VirtualRecords

/-- Every page of a plan tells how many records its criteria hold of. -/
theorem Plan.run_total (plan : Plan) (records : List Record) :
    (plan.run records).total = plan.criteria.count records :=
  (plan.result_perm records).length_eq

namespace Query

variable {query : Query} {compiler : Compiler}

theorem plan_of_sized {size : UInt64} (sized : size ≠ 0) :
    { query with size }.plan compiler = (query.criteria compiler).map fun criteria =>
      { criteria, order? := query.order?, window := ⟨query.page, size⟩ } := by
  have conditions : { query with size }.criteria compiler = query.criteria compiler := rfl
  rw [Query.plan, if_neg sized, conditions]
  cases query.criteria compiler with
  | error e => rfl
  | ok criteria => rfl

theorem plan_of_sizeless : { query with size := 0 }.plan compiler = .error .zeroPageSize := rfl

end Query

namespace Service

variable {service : Service} {query : Query}

theorem clamp_zero (service : Service) : service.clamp 0 = 0 := by
  rw [← UInt64.toNat_inj, clamp_toNat]
  exact Nat.zero_min _

theorem count_eq_total (sized : service.clamp query.size ≠ 0) :
    service.count query = (service.execute query).map Page.total := by
  rw [← Query.applyText_size] at sized
  unfold count execute prepare
  cases service.compiler query.entity with
  | error e => rfl
  | ok compiler =>
    simp only [bind, Except.bind, Query.plan_of_sized sized]
    cases query.applyText.criteria compiler with
    | error e => rfl
    | ok criteria =>
      let window : Window := ⟨query.applyText.page, service.clamp query.applyText.size⟩
      have shown := Plan.run_total ⟨criteria, query.applyText.order?, window⟩ service.store.records
      exact congrArg Except.ok shown.symm

theorem prepare_of_sizeless {entity : Entity} (sizeless : query.size = 0)
    (known : service.registry.entity? query.entity = some entity) :
    service.prepare query = .error (.queryBuild .zeroPageSize) := by
  have cut : service.clamp query.applyText.size = 0 := by
    rw [Query.applyText_size, sizeless, clamp_zero]
  rw [prepare, compiler_of_known known]
  simp only [bind, Except.bind, cut, Query.plan_of_sizeless]
  rfl

/-- A query with pages of some size is counted exactly as it is executed, with the same error or
with the total of the page. Pages of no size are refused for every entity that is known, while the
page and its size make no difference to counting. -/
theorem counts_agree (service : Service) (limited : 1 ≤ service.maxPageSize) (query : Query) :
    (1 ≤ query.size → service.count query = (service.execute query).map Page.total) ∧
      (query.size = 0 → (service.registry.entity? query.entity).isSome = true →
        service.execute query = .error (.queryBuild .zeroPageSize)) ∧
      ∀ page size, service.count (query.withPage page size) = service.count query := by
  refine ⟨fun asked => count_eq_total (clamp_ne_zero limited asked), ?_, ?_⟩
  · intro sizeless registered
    obtain ⟨entity, known⟩ := Option.isSome_iff_exists.1 registered
    exact execute_eq_error.2 (prepare_of_sizeless sizeless known)
  · intro page size
    rw [count, Query.applyText_withPage]
    rfl

theorem counts_agree_twoPersons :
    let record (id entity : BitVec 128) : Record := .make ⟨id⟩ ⟨entity⟩ [] ⟨0, 0⟩
    let store : Store := ⟨[record 3 7, record 1 8, record 2 7], by decide⟩
    let service : Service := ⟨⟨[⟨⟨7⟩, "Person", none, []⟩]⟩, store, 1⟩
    let query : Query := .ofEntity ⟨7⟩
    (1 ≤ service.maxPageSize ∧ service.count query = .ok 2) ∧
      service.count (query.withPage 1 5) = (service.execute (query.withPage 1 5)).map Page.total ∧
      service.execute (query.withPage 1 0) = .error (.queryBuild .zeroPageSize) ∧
      service.count (query.withPage 1 0) = service.count query := by
  intro record store service query
  have limited : 1 ≤ service.maxPageSize := by decide
  have sized := counts_agree service limited (query.withPage 1 5)
  have sizeless := counts_agree service limited (query.withPage 1 0)
  have other := counts_agree service limited query
  exact ⟨⟨limited, rfl⟩, sized.1 (by decide), sizeless.2.1 rfl rfl, other.2.2 1 0⟩

end Service
end VirtualRecords
