import VirtualRecords.Proofs.Text.Search
import VirtualRecords.Proofs.Text.Words
import VirtualRecords.Text.Letter

/-! Keywords at the front of a text. A keyword stands there if it begins the folded text. Its
spellings in small and capital letters fold to it, and nothing else does if it has neither of
the two letters with a form outside ASCII. -/

namespace VirtualRecords.Text

variable {keyword text rest word : List Char} {c : Char}

theorem toLower_of_isBlank (blank : isBlank c = true) : c.toLower = c := by
  unfold Char.toLower
  split
  · next upper =>
    have low : 65 ≤ c.toNat := upper.1
    have high : c.toNat ≤ 90 := upper.2
    simp only [isBlank, Bool.or_eq_true, Bool.and_eq_true, decide_eq_true_eq, beq_iff_eq] at blank
    omega
  · rfl

theorem foldLetter_of_isBlank (blank : isBlank c = true) : foldLetter c = c := by
  unfold foldLetter
  split
  · next kelvin => simp [kelvin, isBlank] at blank
  · split
    · next long => simp [long, isBlank] at blank
    · exact toLower_of_isBlank blank

theorem Solid.of_map_foldLetter (solid : Solid (text.map foldLetter)) : Solid text := by
  intro c member
  by_contra blank
  rw [Bool.not_eq_false] at blank
  have folded := solid (foldLetter c) (List.mem_map_of_mem member)
  rw [foldLetter_of_isBlank blank, blank] at folded
  contradiction

theorem foldLetter_eq_toLower (notK : foldLetter c ≠ 'k') (notS : foldLetter c ≠ 's') :
    foldLetter c = c.toLower := by
  unfold foldLetter at *
  split at notK
  · contradiction
  · split at notS <;> simp_all

theorem foldLetter_eq_of_toLower (small : c.toLower.isLower = true) : foldLetter c = c.toLower := by
  unfold foldLetter
  split
  · next kelvin => rw [kelvin] at small; contradiction
  · split
    · next long => rw [long] at small; contradiction
    · rfl

theorem afterKeyword?_eq (keyword text : List Char) :
    afterKeyword? keyword text =
      if keyword <+: text.map foldLetter then some (text.drop keyword.length) else none := by
  induction keyword generalizing text with
  | nil => simp [afterKeyword?]
  | cons k keyword ih =>
    cases text with
    | nil => simp [afterKeyword?]
    | cons c text =>
      simp only [afterKeyword?, ih, List.map_cons, List.cons_prefix_cons, List.length_cons,
        List.drop_succ_cons]
      by_cases same : foldLetter c = k
      · simp [same]
      · simp [same, Ne.symm same]

theorem afterKeyword?_append (folded : word.map foldLetter = keyword) (rest : List Char) :
    afterKeyword? keyword (word ++ rest) = some rest := by
  have starts : keyword <+: (word ++ rest).map foldLetter := by simp [folded]
  rw [afterKeyword?_eq, if_pos starts, ← folded, List.length_map, List.drop_left]

theorem exists_of_afterKeyword?_eq_some (found : afterKeyword? keyword text = some rest) :
    ∃ word, word.map foldLetter = keyword ∧ text = word ++ rest := by
  rw [afterKeyword?_eq] at found
  split at found
  · next starts =>
    refine ⟨text.take keyword.length, ?_, ?_⟩
    · rw [List.map_take, ← List.prefix_iff_eq_take.1 starts]
    · rw [← Option.some.inj found, List.take_append_drop]
  · contradiction

theorem suffix_of_afterKeyword? (found : afterKeyword? keyword text = some rest) :
    rest <:+ text := by
  obtain ⟨word, _, rfl⟩ := exists_of_afterKeyword?_eq_some found
  exact List.suffix_append word rest

theorem stopsAt_afterKeyword? (stop : foldLetter c ∉ keyword) :
    StopsAt c (afterKeyword? keyword) := by
  intro text rest
  induction keyword generalizing text with
  | nil => rfl
  | cons k keyword ih =>
    obtain ⟨first, later⟩ := not_or.1 (mt List.mem_cons.2 stop)
    cases text with
    | nil => simp [afterKeyword?, first]
    | cons d text =>
      simp only [List.cons_append, afterKeyword?, ih later]
      split <;> rfl

theorem map_toLower_of_map_foldLetter (folded : word.map foldLetter = keyword)
    (notK : 'k' ∉ keyword) (notS : 's' ∉ keyword) : word.map Char.toLower = keyword := by
  rw [← folded]
  refine List.map_congr_left fun c member => (foldLetter_eq_toLower ?_ ?_).symm
  · intro same
    exact notK (folded ▸ List.mem_map.2 ⟨c, member, same⟩)
  · intro same
    exact notS (folded ▸ List.mem_map.2 ⟨c, member, same⟩)

theorem solid_of_isLower (small : keyword.all Char.isLower = true) : Solid keyword := by
  intro k member
  have lower : (decide (k.val ≥ 'a'.val) && decide (k.val ≤ 'z'.val)) = true :=
    List.all_eq_true.1 small k member
  rw [Bool.and_eq_true, decide_eq_true_eq, decide_eq_true_eq] at lower
  have low : 97 ≤ k.toNat := lower.1
  have high : k.toNat ≤ 122 := lower.2
  simp only [isBlank, Bool.or_eq_false_iff, Bool.and_eq_false_iff, decide_eq_false_iff_not,
    beq_eq_false_iff_ne]
  omega

structure Spelled (keyword : List Char) where
  text : List Char
  same : text.map Char.toLower = keyword

namespace Spelled

variable (spelled : Spelled keyword)

theorem folded (small : keyword.all Char.isLower = true) :
    spelled.text.map foldLetter = keyword := by
  obtain ⟨text, rfl⟩ := spelled
  exact List.map_congr_left fun c member =>
    foldLetter_eq_of_toLower (List.all_eq_true.1 small c.toLower (List.mem_map_of_mem member))

theorem solid (small : keyword.all Char.isLower = true) : Solid spelled.text := by
  apply Solid.of_map_foldLetter
  rw [spelled.folded small]
  exact solid_of_isLower small

theorem isLower_toLower (small : keyword.all Char.isLower = true) (member : c ∈ spelled.text) :
    c.toLower.isLower = true := by
  refine List.all_eq_true.1 small c.toLower ?_
  rw [← spelled.same]
  exact List.mem_map_of_mem member

theorem length_text : spelled.text.length = keyword.length := by
  have length := congrArg List.length spelled.same
  rwa [List.length_map] at length

theorem suffix_map (suffix : spelled.text <:+ text) : keyword <:+ text.map Char.toLower := by
  have mapped := suffix.map Char.toLower
  rwa [spelled.same] at mapped

theorem ne_nil (nonempty : keyword ≠ []) : spelled.text ≠ [] := by
  intro empty
  exact nonempty (by rw [← spelled.same, empty, List.map_nil])

end Spelled

theorem exists_spelled_of_afterKeyword? (notK : 'k' ∉ keyword) (notS : 's' ∉ keyword)
    (found : afterKeyword? keyword text = some rest) :
    ∃ spelled : Spelled keyword, text = spelled.text ++ rest := by
  obtain ⟨word, folded, split⟩ := exists_of_afterKeyword?_eq_some found
  exact ⟨⟨word, map_toLower_of_map_foldLetter folded notK notS⟩, split⟩

end VirtualRecords.Text
