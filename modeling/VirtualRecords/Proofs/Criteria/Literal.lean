import VirtualRecords.Proofs.Condition.Truth
import VirtualRecords.Proofs.Outcome
import VirtualRecords.Proofs.Schema.Coercion

/-! Literals as they are compared. A literal that is accepted is compared in the form that its
field gives it, which is null only for null, and text that is put into a pattern is the
text of the literal. -/

namespace VirtualRecords

namespace FieldType

theorem conforms_null (type : FieldType) : type.conforms .null = false := by
  cases type <;> rfl

theorem coerce?_null (type : FieldType) : type.coerce? .null = none := by
  cases type <;> rfl

theorem isNull_of_coerce? {type : FieldType} {value made : Json}
    (coerced : type.coerce? value = some made) : made.isNull = false := by
  cases forms_of_coerce? coerced with
  | kept _ conforming =>
    cases value with
    | null => rw [conforms_null] at conforming; cases conforming
    | _ => rfl
  | _ => rfl

end FieldType

namespace Compiler

variable {compiler : Compiler}

theorem isNull_form (compiler : Compiler) (field : String) (literal : Json) :
    (compiler.form field literal).isNull = literal.isNull := by
  unfold form
  cases made : (compiler.type? field).bind (·.coerce? literal) with
  | none => rfl
  | some value =>
    obtain ⟨type, -, coerced⟩ := Option.bind_eq_some_iff.1 made
    rw [Option.getD_some, FieldType.isNull_of_coerce? coerced]
    cases literal with
    | null => rw [FieldType.coerce?_null] at coerced; cases coerced
    | _ => rfl

theorem eq_form_of_coerce {field : String} {literal value : Json}
    (accepted : compiler.coerce field literal = .ok value) :
    value = compiler.form field literal := by
  unfold coerce at accepted
  split at accepted
  · next isNull =>
    have formNull := (compiler.isNull_form field literal).trans isNull
    generalize compiler.form field literal = form at formNull ⊢
    cases form with
    | null => cases accepted; rfl
    | _ => cases formNull
  · split at accepted
    · next unknown => simpa [form, unknown] using accepted.symm
    · next type known =>
      simp only [form, known, Option.bind_some]
      unfold coerceTo at accepted
      split at accepted
      · next made coerced => simpa [coerced] using accepted.symm
      · next refused =>
        split at accepted
        · cases accepted
        · simpa [refused] using accepted.symm

theorem coerce_of_required {leaf : Leaf} {op : Operator} {value : Json}
    (accepted : compiler.required leaf op = .ok value) :
    compiler.coerce leaf.field leaf.value = .ok value := by
  obtain ⟨made, literal, kept⟩ := Outcome.bind_eq_ok.1 accepted
  split at kept
  · cases kept
  · cases kept
    exact literal

theorem eq_form_of_required {leaf : Leaf} {op : Operator} {value : Json}
    (accepted : compiler.required leaf op = .ok value) :
    value = compiler.form leaf.field leaf.value :=
  eq_form_of_coerce (coerce_of_required accepted)

theorem exists_items_of_list {leaf : Leaf} {op : Operator} {values : List Json}
    (accepted : compiler.list leaf op = .ok values) :
    ∃ items, items? leaf.value = some items ∧
      items.mapM (compiler.coerce leaf.field) = .ok values := by
  unfold list at accepted
  split at accepted
  · cases accepted
  · next items read => exact ⟨items, read, accepted⟩

theorem eq_forms_of_list {leaf : Leaf} {op : Operator} {values : List Json}
    (accepted : compiler.list leaf op = .ok values) :
    ∃ items, items? leaf.value = some items ∧ values = items.map (compiler.form leaf.field) := by
  obtain ⟨items, read, walked⟩ := exists_items_of_list accepted
  exact ⟨items, read, Outcome.mapM_eq_map (fun _ _ => eq_form_of_coerce) walked⟩

theorem patternText_toList {leaf : Leaf} {op : Operator} {text : String}
    (accepted : patternText leaf op = .ok text) : text.toList = leaf.value.patternChars := by
  unfold patternText at accepted
  cases known : leaf.value with
  | null => rw [known] at accepted; cases accepted
  | _ => rw [known] at accepted; cases accepted; rfl

end Compiler

end VirtualRecords
