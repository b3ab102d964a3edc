import Mathlib.Data.List.Infix

/-! Searches that start at every place of a text in turn. What such a scan does to the front of a
text depends on the rest of it, since a match may begin in one and end in the other, unless a
character that the search does not read past stands between the two. -/

namespace VirtualRecords.Text

variable {α : Type} {find : List Char → Option α} {before text rest : List Char} {c : Char}

/-- The search fails at every place of `text` when `rest` follows it. -/
def Absent (find : List Char → Option α) (text rest : List Char) : Prop :=
  ∀ later, later <:+ text → later ≠ [] → find (later ++ rest) = none

/-- The search fails at every place of the text when nothing follows, the end among the places. -/
def Nowhere (find : List Char → Option α) (text : List Char) : Prop :=
  ∀ later, later <:+ text → find later = none

instance (find : List Char → Option α) (text : List Char) : Decidable (Nowhere find text) :=
  decidable_of_iff (∀ later ∈ text.tails, (find later).isNone) (by simp [Nowhere, List.mem_tails])

/-- Whether the search finds anything does not depend on the character or what follows it. -/
def Fenced (c : Char) (find : List Char → Option α) : Prop :=
  ∀ text rest, find (text ++ c :: rest) = none ↔ find text = none

def StopsAt (c : Char) (read : List Char → Option (List Char)) : Prop :=
  ∀ text rest, read (text ++ c :: rest) = (read text).map (· ++ c :: rest)

theorem StopsAt.bind {read next : List Char → Option (List Char)} (first : StopsAt c read)
    (second : StopsAt c next) : StopsAt c fun text => (read text).bind next := by
  intro text rest
  simp only [first text rest]
  cases read text with
  | none => rfl
  | some left => exact second left rest

theorem StopsAt.fenced {read : List Char → Option (List Char)} (stops : StopsAt c read) :
    Fenced c read := by
  intro text rest
  rw [stops, Option.map_eq_none_iff]

theorem absent_nil : Absent find [] rest := fun _ suffix nonempty =>
  absurd (List.suffix_nil.1 suffix) nonempty

theorem absent_cons :
    Absent find (c :: text) rest ↔ find (c :: (text ++ rest)) = none ∧ Absent find text rest := by
  constructor
  · intro absent
    exact ⟨absent _ (List.suffix_refl _) (List.cons_ne_nil c text), fun later suffix nonempty =>
      absent later (List.suffix_cons_iff.2 (.inr suffix)) nonempty⟩
  · rintro ⟨here, absent⟩ later suffix nonempty
    rcases List.suffix_cons_iff.1 suffix with rfl | suffix
    · exact here
    · exact absent later suffix nonempty

theorem absent_append :
    Absent find (before ++ text) rest ↔
      Absent find before (text ++ rest) ∧ Absent find text rest := by
  induction before with
  | nil => simp [absent_nil]
  | cons c before ih =>
    rw [List.cons_append, absent_cons, absent_cons, ih, and_assoc, List.append_assoc]

theorem absent_flatMap {β : Type} {piece : β → List Char}
    (each : ∀ b rest, Absent find (piece b) rest) (all : List β) (rest : List Char) :
    Absent find (all.flatMap piece) rest := by
  induction all with
  | nil => exact absent_nil
  | cons b all ih =>
    rw [List.flatMap_cons]
    exact absent_append.2 ⟨each b _, ih⟩

theorem nowhere_cons :
    Nowhere find (c :: text) ↔ find (c :: text) = none ∧ Nowhere find text := by
  simp [Nowhere, List.suffix_cons_iff]

theorem nowhere_concat (atEnd : find [] = none) (same : ∀ text, find (text ++ [c]) = find text)
    (text : List Char) : Nowhere find (text ++ [c]) ↔ Nowhere find text := by
  simp only [Nowhere, List.suffix_concat_iff]
  constructor
  · intro absent later suffix
    rw [← same]
    exact absent _ (.inr ⟨later, rfl, suffix⟩)
  · rintro absent _ (rfl | ⟨later, rfl, suffix⟩)
    · exact atEnd
    · rw [same]
      exact absent later suffix

theorem Absent.nowhere (atEnd : find [] = none) (absent : Absent find text []) :
    Nowhere find text := by
  intro later suffix
  by_cases nonempty : later = []
  · rw [nonempty, atEnd]
  · have fails := absent later suffix nonempty
    rwa [List.append_nil] at fails

theorem scan_eq_none_iff {scan : List Char → Option α} (atEnd : find [] = none)
    (scanEnd : scan [] = none)
    (step : ∀ c rest, scan (c :: rest) = (find (c :: rest)).or (scan rest)) (text : List Char) :
    scan text = none ↔ Nowhere find text := by
  induction text with
  | nil => simp [Nowhere, atEnd, scanEnd]
  | cons c text ih => rw [step, Option.or_eq_none_iff, ih, nowhere_cons]

/-- A text that has no match in itself has none before a fence. -/
theorem Fenced.absent (fenced : Fenced c find) (free : Nowhere find text) (rest : List Char) :
    Absent find (text ++ [c]) rest := by
  rintro later suffix nonempty
  obtain ⟨front, rfl, inside⟩ := (List.suffix_concat_iff.1 suffix).resolve_left nonempty
  rw [List.append_assoc]
  exact (fenced front rest).2 (free front inside)

theorem Fenced.absent_of_nowhere (fenced : Fenced c find) (free : Nowhere find (text ++ [c]))
    (rest : List Char) : Absent find (text ++ [c]) rest := by
  refine fenced.absent (fun later suffix => (fenced later []).1 (free (later ++ [c]) ?_)) rest
  exact List.suffix_concat_iff.2 (.inr ⟨later, rfl, suffix⟩)

end VirtualRecords.Text
