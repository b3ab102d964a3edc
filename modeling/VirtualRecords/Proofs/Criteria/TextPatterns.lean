import VirtualRecords.Proofs.Criteria.Answers
import VirtualRecords.Proofs.Criteria.Meaning

/-! Looking for text. The operators that look for text inside, at the start and at the end of a
value put percent signs around their literal, which may hold signs of its own; so they find the
texts that the literal stands for, and the literal itself where it holds no sign. They look at the
text of a value whatever type its field is declared with, and a value without a text is never
found. -/

namespace VirtualRecords

namespace Text

variable {pattern text : List Char}

theorem fits_iff_eq_of_plain (noPercent : '%' ∉ pattern) (noUnderscore : '_' ∉ pattern) :
    Fits pattern text ↔ text = pattern := by
  constructor
  · intro fitting
    induction fitting with
    | nil => rfl
    | run => exact absurd List.mem_cons_self noPercent
    | one => exact absurd List.mem_cons_self noUnderscore
    | same _ _ _ ih =>
      rw [ih (List.not_mem_of_not_mem_cons noPercent) (List.not_mem_of_not_mem_cons noUnderscore)]
  · rintro rfl
    induction text with
    | nil => exact .nil
    | cons c text ih =>
      have rest := ih (List.not_mem_of_not_mem_cons noPercent)
        (List.not_mem_of_not_mem_cons noUnderscore)
      exact .same (Ne.symm (List.ne_of_not_mem_cons noPercent))
        (Ne.symm (List.ne_of_not_mem_cons noUnderscore)) rest

end Text

/-- What is under a path holds no text: there is nothing, or null, a list or an object. -/
inductive Json.Textless : Option Json → Prop where
  | missing : Textless none
  | null : Textless (some .null)
  | array (items : List Json) : Textless (some (.array items))
  | object (members : Json.Members) : Textless (some (.object members))

theorem Json.isNull_of_scalarText? {value : Json} {text : String}
    (written : value.scalarText? = some text) : value.isNull = false := by
  cases value with
  | null => cases written
  | _ => rfl

namespace Test

variable {pattern : String}

theorem holds_like_iff_of_scalarText? {value : Json} {text : String}
    (written : value.scalarText? = some text) :
    (like pattern).holds (some value) = true ↔ Text.Fits pattern.toList text.toList := by
  rw [holds_of_filled (Json.isNull_of_scalarText? written), holdsOf_like_iff, Json.TextHas, written]
  simp only [Option.some.injEq, exists_eq_left']

theorem holds_like_of_textless {found : Option Json} (textless : Json.Textless found) :
    (like pattern).holds found = false := by
  cases textless <;> rfl

end Test

def Operator.Finds (op : Operator) (literal text : List Char) : Prop :=
  match op with
  | .contains =>
    ∃ before part after, text = before ++ part ++ after ∧ part ∈ Text.language literal
  | .startsWith => ∃ part after, text = part ++ after ∧ part ∈ Text.language literal
  | .endsWith => ∃ before part, text = before ++ part ∧ part ∈ Text.language literal
  | _ => False

namespace Operator

variable {literal text : List Char}

theorem finds_contains_iff : contains.Finds literal text ↔ Text.FitsInside literal text := by
  simp only [Finds, Text.FitsInside, Text.mem_language_iff_fits]

theorem finds_startsWith_iff : startsWith.Finds literal text ↔ Text.FitsAtStart literal text := by
  simp only [Finds, Text.FitsAtStart, Text.mem_language_iff_fits]

theorem finds_endsWith_iff : endsWith.Finds literal text ↔ Text.FitsAtEnd literal text := by
  simp only [Finds, Text.FitsAtEnd, Text.mem_language_iff_fits]

theorem finds_iff_of_plain (noPercent : '%' ∉ literal) (noUnderscore : '_' ∉ literal) :
    (contains.Finds literal text ↔ literal <:+: text) ∧
      (startsWith.Finds literal text ↔ literal <+: text) ∧
      (endsWith.Finds literal text ↔ literal <:+ text) := by
  have plain (part : List Char) : part ∈ Text.language literal ↔ part = literal := by
    rw [Text.mem_language_iff_fits, Text.fits_iff_eq_of_plain noPercent noUnderscore]
  simp only [Finds, plain]
  refine ⟨?_, ?_, ?_⟩
  · constructor
    · rintro ⟨before, _, after, whole, rfl⟩
      exact ⟨before, after, whole.symm⟩
    · rintro ⟨before, after, whole⟩
      exact ⟨before, literal, after, whole.symm, rfl⟩
  · constructor
    · rintro ⟨_, after, whole, rfl⟩
      exact ⟨after, whole.symm⟩
    · rintro ⟨after, whole⟩
      exact ⟨literal, after, whole.symm, rfl⟩
  · constructor
    · rintro ⟨before, _, whole, rfl⟩
      exact ⟨before, whole.symm⟩
    · rintro ⟨before, whole⟩
      exact ⟨before, literal, whole.symm, rfl⟩

end Operator

namespace Compiler

variable {compiler : Compiler} {leaf : Leaf} {op : Operator} {s : String}

theorem exists_like_of_finds (looks : op ∈ [.contains, .startsWith, .endsWith])
    (literal : leaf.value = .string s) :
    ∃ pattern : String, compiler.test leaf op = .ok (.like pattern) ∧
      ∀ text, Text.Fits pattern.toList text ↔ op.Finds s.toList text := by
  have read (op : Operator) : patternText leaf op = .ok s := by rw [patternText, literal]
  cases op with
  | contains =>
    refine ⟨"%" ++ s ++ "%", by simp only [test, containment, literal], fun text => ?_⟩
    rw [Operator.finds_contains_iff, Text.fitsInside_iff, String.toList_append,
      String.toList_append]
    rfl
  | startsWith =>
    refine ⟨s ++ "%", Outcome.bind_pure_eq_ok.2 ⟨s, read _, rfl⟩, fun text => ?_⟩
    rw [Operator.finds_startsWith_iff, Text.fitsAtStart_iff, String.toList_append]
    rfl
  | endsWith =>
    refine ⟨"%" ++ s, Outcome.bind_pure_eq_ok.2 ⟨s, read _, rfl⟩, fun text => ?_⟩
    rw [Operator.finds_endsWith_iff, Text.fitsAtEnd_iff, String.toList_append]
    rfl
  | _ => simp at looks

/-- A condition on a field with a name that looks for text can always be made, and holds of exactly
the records that have a text there in which the operator finds what the literal stands for. If there
are no signs in the literal, that is the literal as a part, a front or an end of the text. -/
theorem textOperators_find (compiler : Compiler)
    (named : Text.isBlankString leaf.field = false) (known : leaf.operator? = some op)
    (looks : op ∈ [.contains, .startsWith, .endsWith]) (literal : leaf.value = .string s) :
    (∃ criteria, compiler.leaf leaf = .ok criteria ∧
      ∀ record : Record,
        (∀ value text, (FieldPath.ofField leaf.field).find? record.payload = some value →
          value.scalarText? = some text →
          (criteria.holds record = true ↔ op.Finds s.toList text.toList)) ∧
        (Json.Textless ((FieldPath.ofField leaf.field).find? record.payload) →
          criteria.holds record = false)) ∧
    ('%' ∉ s.toList → '_' ∉ s.toList → ∀ text,
      (Operator.contains.Finds s.toList text ↔ s.toList <:+: text) ∧
        (Operator.startsWith.Finds s.toList text ↔ s.toList <+: text) ∧
        (Operator.endsWith.Finds s.toList text ↔ s.toList <:+ text)) := by
  obtain ⟨pattern, tested, finds⟩ := exists_like_of_finds looks literal
  refine ⟨⟨_, leaf_eq_ok named known tested, fun record => ⟨?_, ?_⟩⟩, ?_⟩
  · intro value text found written
    rw [Criteria.holds, found, Test.holds_like_iff_of_scalarText? written, finds]
  · intro textless
    exact Test.holds_like_of_textless textless
  · intro noPercent noUnderscore text
    exact Operator.finds_iff_of_plain noPercent noUnderscore

theorem textOperators_find_number :
    let compiler : Compiler := ⟨[("year", .integer)]⟩
    let leaf : Leaf := .ofOperator "year" .startsWith (.string "_9")
    let held : Integer := ⟨1984, by decide, by decide⟩
    let record : Record := .make ⟨1⟩ ⟨7⟩ [("year", .number (.integer held))] ⟨0, 0⟩
    (Text.isBlankString leaf.field = false ∧ leaf.operator? = some .startsWith ∧
      leaf.value = .string "_9") ∧
      ∃ criteria, compiler.leaf leaf = .ok criteria ∧ criteria.holds record = true := by
  intro compiler leaf held record
  have named : Text.isBlankString leaf.field = false := by decide
  have known : leaf.operator? = some .startsWith := by decide
  have shown : (FieldPath.ofField "year").find? record.payload = some (.number (.integer held)) :=
    FieldPath.find?_ofField (by decide) record.payload
  have written : Json.scalarText? (.number (.integer held)) = some "1984" := by decide
  have front : Operator.startsWith.Finds "_9".toList "1984".toList := by
    rw [Operator.finds_startsWith_iff]
    exact ⟨['1', '9'], ['8', '4'], rfl, .one '1' (.same (by decide) (by decide) .nil)⟩
  obtain ⟨⟨criteria, made, meaning⟩, -⟩ :=
    textOperators_find compiler named known (by decide) (rfl : leaf.value = _)
  have matched := ((meaning record).1 _ _ shown written).2 front
  exact ⟨⟨named, known, rfl⟩, criteria, made, matched⟩

/-- Where the name of a field is blank no condition can be made, though a record may have a text
there that holds what is looked for. -/
theorem blank_refused :
    let record : Record := .make ⟨1⟩ ⟨7⟩ [(" ", .string "xyz")] ⟨0, 0⟩
    (FieldPath.ofField " ").find? record.payload = some (.string "xyz") ∧
      Operator.contains.Finds "y".toList "xyz".toList ∧
      untyped.leaf (.ofOperator " " .contains (.string "y")) = .error .emptyField := by
  refine ⟨FieldPath.find?_ofField (by decide) _, ?_, rfl⟩
  exact ((Operator.finds_iff_of_plain (by decide) (by decide)).1).2 ⟨['x'], ['z'], rfl⟩

end Compiler
end VirtualRecords
