import VirtualRecords.Plan
import VirtualRecords.Proofs.Criteria.Leaves

/-! Errors while criteria are made. Every step either fails with an error that lies in the query
itself or is put together from such steps, so no condition can make the store look broken. -/

namespace VirtualRecords

/-- Whatever this fails with lies in the query, and is no failure of running it. -/
def ClientFaulted {α : Type} (made : Except QueryError α) : Prop :=
  ∀ e, made = .error e → e.isClientError = true

namespace ClientFaulted

variable {α β : Type} {e : QueryError}

theorem ok (a : α) : ClientFaulted (.ok a) := nofun

theorem error (fault : e.isClientError = true) : ClientFaulted (.error e : Except QueryError α) := by
  intro d same
  cases same
  exact fault

theorem bind {x : Except QueryError α} {f : α → Except QueryError β} (first : ClientFaulted x)
    (next : ∀ a, ClientFaulted (f a)) : ClientFaulted (x >>= f) := by
  intro d failed
  obtain here | ⟨a, -, later⟩ := Outcome.bind_eq_error.1 failed
  · exact first d here
  · exact next a d later

theorem mapM {f : α → Except QueryError β} (each : ∀ a, ClientFaulted (f a)) (xs : List α) :
    ClientFaulted (xs.mapM f) := by
  intro d failed
  obtain ⟨x, -, here⟩ := Outcome.exists_of_mapM_eq_error failed
  exact each x d here

end ClientFaulted

namespace Compiler

variable (compiler : Compiler) (leaf : Leaf) (op : Operator)

theorem clientFaulted_coerce (field : String) (value : Json) :
    ClientFaulted (compiler.coerce field value) := by
  unfold coerce
  split
  · exact .ok _
  · split
    · exact .ok _
    · unfold coerceTo
      split
      · exact .ok _
      · split
        · exact .error rfl
        · exact .ok _

theorem clientFaulted_required : ClientFaulted (compiler.required leaf op) := by
  refine .bind (compiler.clientFaulted_coerce _ _) fun value => ?_
  split
  · exact .error rfl
  · exact .ok _

theorem clientFaulted_list : ClientFaulted (compiler.list leaf op) := by
  unfold list
  split
  · exact .error rfl
  · exact .mapM (compiler.clientFaulted_coerce leaf.field) _

theorem clientFaulted_patternText : ClientFaulted (patternText leaf op) := by
  unfold patternText
  split
  · exact .error rfl
  · exact .ok _
  · exact .ok _

theorem clientFaulted_containment : ClientFaulted (containment leaf op) := by
  unfold containment
  split
  · exact .error rfl
  · exact .ok _
  · exact .ok _

theorem clientFaulted_test : ClientFaulted (compiler.test leaf op) := by
  have literal := compiler.clientFaulted_coerce leaf.field leaf.value
  have required := compiler.clientFaulted_required leaf op
  have list := compiler.clientFaulted_list leaf op
  have pattern := clientFaulted_patternText leaf op
  cases op with
  | eq | neq => exact .bind literal fun _ => .ok _
  | gt | gte | lt | lte => exact .bind required fun _ => .ok _
  | contains => exact clientFaulted_containment leaf _
  | startsWith | endsWith => exact .bind pattern fun _ => .ok _
  | isIn | notIn => exact .bind list fun _ => .ok _
  | isNull | isNotNull => exact .ok _

theorem clientFaulted_leaf : ClientFaulted (compiler.leaf leaf) := by
  unfold Compiler.leaf
  split
  · exact .error rfl
  · split
    · exact .error rfl
    · exact .bind (compiler.clientFaulted_test leaf _) fun _ => .ok _

theorem clientFaulted_compile (group : Group) (entity : Identifier) :
    ClientFaulted (compiler.compile group entity) := by
  intro e failed
  obtain ⟨leaf, -, fails⟩ := exists_leaf_of_compile_eq_error failed
  exact compiler.clientFaulted_leaf leaf e fails

end Compiler

theorem Query.clientFaulted_criteria (query : Query) (compiler : Compiler) :
    ClientFaulted (query.criteria compiler) :=
  compiler.clientFaulted_compile query.conditions query.entity

theorem Query.clientFaulted_plan (query : Query) (compiler : Compiler) :
    ClientFaulted (query.plan compiler) := by
  unfold Query.plan
  split
  · exact .error rfl
  · exact .bind (query.clientFaulted_criteria compiler) fun _ => .ok _

end VirtualRecords
