import VirtualRecords.Proofs.QueryText.Blanks
import VirtualRecords.Proofs.QueryText.Written
import VirtualRecords.QueryText.Connectives

/-! Cutting at connectives. A connective is a word of the text between white space, so a phrase,
whose field stands first and whose value has no such word, is not cut. No part of a text that is
cut has a connective left in it. -/

namespace VirtualRecords.QueryText

open Text

variable {text rest left part : List Char}

def ConnectiveFree (text : List Char) : Prop :=
  ∀ word ∈ words text, word.map Char.toLower ∉ [andWord, orWord]

theorem connectiveAt?_of_startsSolid (starts : StartsSolid text) : connectiveAt? text = none := by
  rw [connectiveAt?, afterBlanks?_of_startsSolid starts]
  rfl

theorem exists_of_connectiveAt?_eq_some {connective : Connective}
    (found : connectiveAt? text = some (connective, left)) :
    ∃ toWord toBlanks, afterBlanks? text = some toWord ∧
      afterKeyword? (connectiveWord connective) toWord = some toBlanks ∧
      afterBlanks? toBlanks = some left := by
  simp only [connectiveAt?, Option.bind_eq_bind, Option.bind_eq_some_iff] at found
  obtain ⟨toWord, first, found⟩ := found
  split at found
  · next toBlanks second =>
    simp only [Option.pure_def, Option.bind_eq_some_iff, Option.some.injEq, Prod.mk.injEq] at found
    obtain ⟨_, third, rfl, rfl⟩ := found
    exact ⟨toWord, toBlanks, first, second, third⟩
  · simp only [Option.pure_def, Option.bind_eq_some_iff, Option.some.injEq, Prod.mk.injEq] at found
    obtain ⟨toBlanks, second, _, third, rfl, rfl⟩ := found
    exact ⟨toWord, toBlanks, first, second, third⟩

theorem suffix_of_connectiveAt? {connective : Connective}
    (found : connectiveAt? text = some (connective, left)) : left <:+ text := by
  obtain ⟨toWord, toBlanks, first, second, third⟩ := exists_of_connectiveAt?_eq_some found
  exact (suffix_of_afterBlanks? third).trans
    ((suffix_of_afterKeyword? second).trans (suffix_of_afterBlanks? first))

theorem exists_words_of_connectiveAt? {connective : Connective}
    (found : connectiveAt? text = some (connective, left)) (before : List Char) :
    ∃ word, word.map Char.toLower = connectiveWord connective ∧
      words (before ++ text) = words before ++ word :: words left := by
  obtain ⟨toWord, toBlanks, first, second, third⟩ := exists_of_connectiveAt?_eq_some found
  have notK : 'k' ∉ connectiveWord connective := by cases connective <;> decide
  have notS : 's' ∉ connectiveWord connective := by cases connective <;> decide
  obtain ⟨word, same, split⟩ := exists_words_of_keyword (connectiveWord_ne_nil connective)
    (isLower_connectiveWord connective) notK notS second third
  exact ⟨word, same, by rw [words_append_of_afterBlanks? first, split]⟩

theorem ConnectiveFree.nowhere (free : ConnectiveFree text) : Nowhere connectiveAt? text := by
  intro later suffix
  by_contra found
  obtain ⟨⟨connective, left⟩, found⟩ := Option.ne_none_iff_exists'.1 found
  obtain ⟨before, rfl⟩ := suffix
  obtain ⟨word, same, split⟩ := exists_words_of_connectiveAt? found before
  apply free word (split ▸ List.mem_append_right _ List.mem_cons_self)
  rw [same]
  cases connective <;> decide

theorem fenced_connectiveAt? : Fenced '\'' connectiveAt? := by
  intro text rest
  have blanks : StopsAt '\'' afterBlanks? := stopsAt_afterBlanks? (by decide)
  have ands : StopsAt '\'' (afterKeyword? andWord) := stopsAt_afterKeyword? (by decide)
  have ors : StopsAt '\'' (afterKeyword? orWord) := stopsAt_afterKeyword? (by decide)
  rw [connectiveAt?, connectiveAt?, blanks]
  cases afterBlanks? text with
  | none => simp
  | some word =>
    simp only [Option.map_some, Option.bind_eq_bind, Option.bind_some, ands word rest]
    cases afterKeyword? andWord word with
    | some left => simp [blanks left rest]
    | none =>
      simp only [Option.map_none, ors word rest]
      cases afterKeyword? orWord word with
      | none => simp
      | some left => simp [blanks left rest]

theorem cut_nil : cut [] = ([], []) := by
  unfold cut
  rfl

theorem cut_cons {c : Char} (fails : connectiveAt? (c :: text) = none) :
    cut (c :: text) = (c :: (cut text).1, (cut text).2) := by
  conv => lhs; unfold cut
  split
  · next found => rw [fails] at found; contradiction
  · rfl

theorem cut_of_connectiveAt? {connective : Connective} {left : List Char}
    (found : connectiveAt? text = some (connective, left)) :
    cut text = ([], (connective, (cut left).1) :: (cut left).2) := by
  cases text with
  | nil => contradiction
  | cons c text =>
    conv => lhs; unfold cut
    split
    · next here =>
      obtain ⟨rfl, rfl⟩ := Prod.mk.inj (Option.some.inj (found.symm.trans here))
      rfl
    · next fails => rw [found] at fails; contradiction

theorem cut_append (absent : Absent connectiveAt? text rest) :
    cut (text ++ rest) = (text ++ (cut rest).1, (cut rest).2) := by
  induction text with
  | nil => rfl
  | cons c text ih =>
    obtain ⟨here, later⟩ := absent_cons.1 absent
    rw [List.cons_append, cut_cons here, ih later, List.cons_append]

theorem connectiveAt?_spelled {connective : Connective} (word : Spelled (connectiveWord connective))
    (before after : Gap) (starts : StartsSolid rest) :
    connectiveAt? (before.text ++ (word.text ++ (after.text ++ rest))) =
      some (connective, rest) := by
  have smallLetters := isLower_connectiveWord connective
  have nonempty : word.text ≠ [] := word.ne_nil (connectiveWord_ne_nil connective)
  have folded := word.folded smallLetters
  have wordStarts : StartsSolid (word.text ++ (after.text ++ rest)) :=
    (word.solid smallLetters).startsSolid.append nonempty _
  have found := afterKeyword?_append folded (after.text ++ rest)
  rw [connectiveAt?, afterBlanks?_gap before wordStarts, Option.bind_eq_bind, Option.bind_some]
  cases connective with
  | all =>
    change afterKeyword? andWord _ = _ at found
    simp [found, afterBlanks?_gap after starts]
  | any =>
    have notAnd : afterKeyword? andWord (word.text ++ (after.text ++ rest)) = none := by
      rw [afterKeyword?_eq, List.map_append, folded]
      simp [connectiveWord, orWord, andWord]
    change afterKeyword? orWord _ = _ at found
    simp [notAnd, found, afterBlanks?_gap after starts]

structure Unbroken (part : List Char) : Prop where
  nonempty : part ≠ []
  starts : StartsSolid part
  absent (rest : List Char) : Absent connectiveAt? part rest

theorem absent_of_solid (solid : Solid text) (rest : List Char) :
    Absent connectiveAt? text rest := by
  intro later suffix nonempty
  have starts : StartsSolid later :=
    Solid.startsSolid fun c member => solid c (suffix.subset member)
  exact connectiveAt?_of_startsSolid (starts.append nonempty rest)

theorem Unbroken.of_solid (solid : Solid text) (nonempty : text ≠ []) : Unbroken text :=
  ⟨nonempty, solid.startsSolid, absent_of_solid solid⟩

theorem cut_link (start : Unbroken text) {connective : Connective}
    (word : Spelled (connectiveWord connective)) (before after : Gap) (starts : StartsSolid rest) :
    cut (text ++ (before.text ++ (word.text ++ (after.text ++ rest)))) =
      (text, (connective, (cut rest).1) :: (cut rest).2) := by
  rw [cut_append (start.absent _),
    cut_of_connectiveAt? (connectiveAt?_spelled word before after starts), List.append_nil]

/-- Parts that are joined by connectives are cut there and nowhere else. -/
theorem cut_joined {β : Type} (connective : β → Connective)
    (word : ∀ b, Spelled (connectiveWord (connective b))) (part : β → List Char)
    (unbroken : ∀ b, Unbroken (part b)) {first : List Char} (start : Unbroken first)
    (links : List β) :
    cut (first ++ links.flatMap fun b => ' ' :: ((word b).text ++ ' ' :: part b)) =
      (first, links.map fun b => (connective b, part b)) := by
  induction links generalizing first with
  | nil =>
    rw [cut_append (start.absent _), List.flatMap_nil, cut_nil, List.append_nil]
    rfl
  | cons b links ih =>
    have next := unbroken b
    have step := cut_link start (word b) .space .space (next.starts.append next.nonempty
      (links.flatMap fun b => ' ' :: ((word b).text ++ ' ' :: part b)))
    rw [ih next] at step
    rw [List.flatMap_cons, List.cons_append, List.append_assoc, List.cons_append]
    exact step

theorem parts_nil : parts [] = [[]] := by
  rw [parts, cut_nil]
  rfl

theorem parts_of_connectiveAt? {connective : Connective}
    (found : connectiveAt? text = some (connective, left)) : parts text = [] :: parts left := by
  rw [parts, cut_of_connectiveAt? found]
  rfl

theorem parts_cons {c : Char} (fails : connectiveAt? (c :: text) = none) :
    ∃ first more, parts text = first :: more ∧ parts (c :: text) = (c :: first) :: more :=
  ⟨_, _, rfl, by rw [parts, cut_cons fails]⟩

def StandsUncut (part text : List Char) : Prop :=
  ∃ before after, before ++ (part ++ after) = text ∧ Absent connectiveAt? part after

theorem StandsUncut.of_suffix (stands : StandsUncut part rest) (suffix : rest <:+ text) :
    StandsUncut part text := by
  obtain ⟨before, after, rfl, absent⟩ := stands
  obtain ⟨front, rfl⟩ := suffix
  exact ⟨front ++ before, after, List.append_assoc _ _ _, absent⟩

theorem exists_parts_eq_cons (text : List Char) :
    ∃ first more after, parts text = first :: more ∧ first ++ after = text ∧
      Absent connectiveAt? first after ∧ ∀ part ∈ more, StandsUncut part text := by
  induction text using cut.induct with
  | case1 => exact ⟨[], [], [], parts_nil, rfl, absent_nil, by simp⟩
  | case2 c text connective left found _ _ _ ih =>
    obtain ⟨first, more, after, split, whole, absent, stand⟩ := ih
    refine ⟨[], parts left, c :: text, parts_of_connectiveAt? found, rfl, absent_nil, ?_⟩
    rw [split]
    have suffix := suffix_of_connectiveAt? found
    refine List.forall_mem_cons.2 ⟨?_, fun part member => (stand part member).of_suffix suffix⟩
    exact StandsUncut.of_suffix ⟨[], after, whole, absent⟩ suffix
  | case3 c text fails _ _ _ ih =>
    obtain ⟨first, more, after, split, whole, absent, stand⟩ := ih
    obtain ⟨_, _, same, longer⟩ := parts_cons fails
    obtain ⟨rfl, rfl⟩ := List.cons.inj (split.symm.trans same)
    refine ⟨c :: first, more, after, longer, by rw [List.cons_append, whole], ?_, ?_⟩
    · exact absent_cons.2 ⟨whole ▸ fails, absent⟩
    · exact fun part member => (stand part member).of_suffix (List.suffix_cons c text)

/-- Nothing is left uncut: no part has a connective in it. -/
theorem standsUncut_of_mem_parts (member : part ∈ parts text) : StandsUncut part text := by
  obtain ⟨first, more, after, split, whole, absent, stand⟩ := exists_parts_eq_cons text
  rw [split, List.mem_cons] at member
  rcases member with rfl | member
  · exact ⟨[], after, whole, absent⟩
  · exact stand part member

theorem infix_of_mem_parts (member : part ∈ parts text) : part <:+: text := by
  obtain ⟨before, after, whole, _⟩ := standsUncut_of_mem_parts member
  exact ⟨before, after, by rw [List.append_assoc, whole]⟩

end VirtualRecords.QueryText
