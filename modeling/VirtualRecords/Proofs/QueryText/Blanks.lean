import Mathlib.Data.List.Chain
import VirtualRecords.Proofs.Text.Gap
import VirtualRecords.Proofs.Text.Keyword
import VirtualRecords.QueryText.Blanks

/-! Keywords set off by white space, seen as words of the text. The words `ORDER BY` may begin
within a word, but then that word ends in `ORDER`. -/

namespace VirtualRecords.QueryText

open Text

variable {keyword text rest toRest : List Char} {c : Char}

theorem afterBlanks?_gap (gap : Gap) (starts : StartsSolid rest) :
    afterBlanks? (gap.text ++ rest) = some rest := by
  obtain ⟨c, more, split, blank⟩ := gap.exists_cons
  have skipped := gap.skipBlank_append rest
  rw [split, List.cons_append, skipBlank_cons blank, skipBlank_of_startsSolid starts] at skipped
  rw [split, List.cons_append, afterBlanks?, if_pos blank, skipped]

theorem afterBlanks?_of_startsSolid (starts : StartsSolid text) : afterBlanks? text = none := by
  cases text with
  | nil => rfl
  | cons c rest => rw [afterBlanks?, starts c rfl, if_neg Bool.false_ne_true]

theorem exists_of_afterBlanks?_eq_some (found : afterBlanks? text = some rest) :
    ∃ blank more, isBlank blank = true ∧ text = blank :: more ∧ skipBlank more = rest := by
  cases text with
  | nil => contradiction
  | cons blank more =>
    rw [afterBlanks?] at found
    split at found
    · next isBlank => exact ⟨blank, more, isBlank, rfl, Option.some.inj found⟩
    · contradiction

theorem exists_gap_of_afterBlanks? (found : afterBlanks? text = some rest) :
    ∃ gap : Gap, text = gap.text ++ rest ∧ StartsSolid rest := by
  obtain ⟨blank, more, isBlank, rfl, rfl⟩ := exists_of_afterBlanks?_eq_some found
  refine ⟨⟨blank :: more.takeWhile Text.isBlank, List.cons_ne_nil blank _, ?_⟩, ?_,
    startsSolid_skipBlank more⟩
  · rw [List.all_cons, isBlank, List.all_takeWhile, Bool.and_self]
  · rw [List.cons_append, skipBlank, List.takeWhile_append_dropWhile]

theorem suffix_of_afterBlanks? (found : afterBlanks? text = some rest) : rest <:+ text := by
  obtain ⟨blank, more, _, rfl, rfl⟩ := exists_of_afterBlanks?_eq_some found
  exact (List.dropWhile_suffix isBlank).trans (List.suffix_cons blank more)

theorem words_append_of_afterBlanks? (found : afterBlanks? text = some rest)
    (before : List Char) : words (before ++ text) = words before ++ words rest := by
  obtain ⟨blank, more, isBlank, rfl, rfl⟩ := exists_of_afterBlanks?_eq_some found
  rw [words_append_blank isBlank, words_skipBlank]

theorem stopsAt_afterBlanks? (solid : isBlank c = false) : StopsAt c afterBlanks? := by
  intro text rest
  have kept (text : List Char) : skipBlank (text ++ c :: rest) = skipBlank text ++ c :: rest := by
    rw [skipBlank, skipBlank, List.dropWhile_append, List.dropWhile_cons_of_neg (by simp [solid])]
    split
    · next empty => rw [List.isEmpty_iff.1 empty, List.nil_append]
    · rfl
  cases text with
  | nil => exact afterBlanks?_of_startsSolid (startsSolid_cons solid rest)
  | cons d text =>
    rw [List.cons_append, afterBlanks?, afterBlanks?, kept]
    split <;> rfl

theorem exists_words_of_keyword (nonempty : keyword ≠ []) (small : keyword.all Char.isLower = true)
    (notK : 'k' ∉ keyword) (notS : 's' ∉ keyword)
    (first : afterKeyword? keyword text = some toRest) (second : afterBlanks? toRest = some rest) :
    ∃ word, word.map Char.toLower = keyword ∧ words text = word :: words rest := by
  obtain ⟨word, folded, rfl⟩ := exists_of_afterKeyword?_eq_some first
  have wordSolid : Solid word := Solid.of_map_foldLetter (folded ▸ solid_of_isLower small)
  have wordNonempty : word ≠ [] := by
    rintro rfl
    exact nonempty folded.symm
  refine ⟨word, map_toLower_of_map_foldLetter folded notK notS, ?_⟩
  rw [words_append_of_afterBlanks? second, words_of_solid wordNonempty wordSolid,
    List.singleton_append]

theorem afterOrderBy?_spelled (first : Spelled orderWord) (second : Spelled byWord)
    (between after : Gap) (starts : StartsSolid rest) :
    afterOrderBy? (first.text ++ (between.text ++ (second.text ++ (after.text ++ rest)))) =
      some rest := by
  have secondStarts : StartsSolid (second.text ++ (after.text ++ rest)) :=
    (second.solid (by decide)).startsSolid.append (second.ne_nil (by decide)) _
  simp only [afterOrderBy?, afterKeyword?_append (first.folded (by decide)),
    afterKeyword?_append (second.folded (by decide)), afterBlanks?_gap between secondStarts,
    afterBlanks?_gap after starts, Option.bind_eq_bind, Option.bind_some]

theorem exists_of_afterOrderBy? (found : afterOrderBy? text = some rest) :
    ∃ (first : Spelled orderWord) (between : Gap) (second : Spelled byWord) (after : Gap),
      text = first.text ++ (between.text ++ (second.text ++ (after.text ++ rest))) ∧
        StartsSolid rest := by
  simp only [afterOrderBy?, Option.bind_eq_bind, Option.bind_eq_some_iff] at found
  obtain ⟨_, isOrder, _, isBlank, _, isBy, behind⟩ := found
  obtain ⟨first, rfl⟩ := exists_spelled_of_afterKeyword? (by decide) (by decide) isOrder
  obtain ⟨between, rfl, -⟩ := exists_gap_of_afterBlanks? isBlank
  obtain ⟨second, rfl⟩ := exists_spelled_of_afterKeyword? (by decide) (by decide) isBy
  obtain ⟨after, rfl, starts⟩ := exists_gap_of_afterBlanks? behind
  exact ⟨first, between, second, after, rfl, starts⟩

theorem stopsAt_afterOrderBy? (solid : isBlank c = false)
    (apart : foldLetter c ∉ orderWord ++ byWord) : StopsAt c afterOrderBy? := by
  obtain ⟨first, second⟩ := not_or.1 (mt List.mem_append.2 apart)
  have blanks : StopsAt c afterBlanks? := stopsAt_afterBlanks? solid
  exact (stopsAt_afterKeyword? first).bind
    (blanks.bind ((stopsAt_afterKeyword? second).bind blanks))

/-- No word that ends in `ORDER` is followed by the word `BY`. -/
def OrderFree (text : List Char) : Prop :=
  (words text).IsChain fun word next =>
    orderWord <:+ word.map Char.toLower → next.map Char.toLower ≠ byWord

theorem OrderFree.nowhere (free : OrderFree text) : Nowhere afterOrderBy? text := by
  intro later suffix
  by_contra found
  obtain ⟨rest, found⟩ := Option.ne_none_iff_exists'.1 found
  simp only [afterOrderBy?, Option.bind_eq_bind, Option.bind_eq_some_iff] at found
  obtain ⟨afterOrder, first, toBy, second, afterBy, third, fourth⟩ := found
  obtain ⟨word, isOrder, split⟩ :=
    exists_words_of_keyword (by decide) (by decide) (by decide) (by decide) first second
  obtain ⟨next, isBy, splitNext⟩ :=
    exists_words_of_keyword (by decide) (by decide) (by decide) (by decide) third fourth
  -- The word in which `ORDER` is found may begin before the place where it is found.
  obtain ⟨before, rfl⟩ := suffix
  obtain ⟨earlier, front, whole⟩ := exists_words_append before split
  rw [OrderFree, whole, splitNext, List.isChain_append_cons_cons] at free
  have ends : orderWord <:+ (front ++ word).map Char.toLower := by
    rw [List.map_append, isOrder]
    exact List.suffix_append _ _
  exact free.2.1 ends isBy

end VirtualRecords.QueryText
