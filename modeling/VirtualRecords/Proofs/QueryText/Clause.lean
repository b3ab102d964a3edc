import VirtualRecords.Proofs.QueryText.Blanks
import VirtualRecords.Proofs.QueryText.Written
import VirtualRecords.QueryText.Clause

/-! The two clauses in a text that has the words `ORDER BY` once. Neither scan stops before
them, so the conditions are all that stands before and the order is what stands behind. In any
text the conditions are on one line, and an order is found if the words name a field. -/

namespace VirtualRecords.QueryText

open Text

variable {text rest : List Char}

theorem orderAt?_eq_none (fails : afterOrderBy? text = none) : orderAt? text = none := by
  rw [orderAt?, fails]
  rfl

theorem orderClause?_eq_none_iff (text : List Char) :
    orderClause? text = none ↔ Nowhere orderAt? text :=
  scan_eq_none_iff rfl rfl (fun _ _ => rfl) text

theorem orderAt?_ne_none (found : afterOrderBy? text = some rest) (nonempty : rest ≠ []) :
    orderAt? text ≠ none := by
  have whole := found
  simp only [afterOrderBy?, Option.bind_eq_bind, Option.bind_eq_some_iff] at found
  obtain ⟨_, _, _, _, _, _, behind⟩ := found
  obtain ⟨_, more, _, _, rfl⟩ := exists_of_afterBlanks?_eq_some behind
  rw [orderAt?, whole, Option.bind_eq_bind, Option.bind_some,
    if_neg (leadingRun_skipBlank_ne_nil nonempty)]
  exact Option.some_ne_none _

theorem orderClause?_append (absent : Absent afterOrderBy? text rest) :
    orderClause? (text ++ rest) = orderClause? rest := by
  induction text with
  | nil => rfl
  | cons c text ih =>
    obtain ⟨here, later⟩ := absent_cons.1 absent
    rw [List.cons_append, orderClause?, orderAt?_eq_none here, Option.none_or, ih later]

theorem orderClause?_gap (gap : Gap) (rest : List Char) :
    orderClause? (gap.text ++ rest) = orderClause? rest := by
  have absent : Absent afterOrderBy? gap.text rest := by
    intro later suffix nonempty
    obtain ⟨c, more, rfl⟩ := List.exists_cons_of_ne_nil nonempty
    have blank := gap.isBlank_of_mem (suffix.subset List.mem_cons_self)
    have apart : foldLetter c ≠ 'o' := by
      rw [foldLetter_of_isBlank blank]
      rintro rfl
      contradiction
    simp [afterOrderBy?, orderWord, afterKeyword?, apart]
  exact orderClause?_append absent

theorem atOrderBy_eq_false (absent : Absent afterOrderBy? text rest) (nonempty : text ≠ [])
    (ends : EndsSolid text) : atOrderBy (text ++ rest) = false := by
  obtain ⟨front, last, rfl⟩ := (List.eq_nil_or_concat' text).resolve_left nonempty
  have lastSolid : isBlank last = false := ends last (by simp)
  rw [atOrderBy, List.append_assoc, List.singleton_append, stopsAt_afterBlanks? lastSolid]
  cases found : afterBlanks? front with
  | none => rfl
  | some left =>
    have suffix : left ++ [last] <:+ front ++ [last] := by
      obtain ⟨before, whole⟩ := suffix_of_afterBlanks? found
      exact ⟨before, by rw [← List.append_assoc, whole]⟩
    have fails := absent _ suffix (List.concat_ne_nil last left)
    rw [List.append_assoc] at fails
    simp only [Option.map_some, Option.bind_some]
    rw [← List.singleton_append, fails, Option.isSome_none]

theorem upToOrder?_append (absent : Absent afterOrderBy? text rest) (ends : EndsSolid text)
    (oneLine : '\n' ∉ text) :
    upToOrder? (text ++ rest) = (upToOrder? rest).map (text ++ ·) := by
  induction text with
  | nil => simp
  | cons c text ih =>
    obtain ⟨first, later⟩ := not_or.1 (mt List.mem_cons.2 oneLine)
    have here : atOrderBy (c :: text ++ rest) = false :=
      atOrderBy_eq_false absent (List.cons_ne_nil c text) ends
    rw [List.cons_append] at here ⊢
    rw [upToOrder?, here, if_neg Bool.false_ne_true, if_neg (Ne.symm first),
      ih (absent_cons.1 absent).2 (EndsSolid.tail ends) later, Option.map_map]
    rfl

theorem upToOrder?_append_eq_none (absent : Absent afterOrderBy? text rest) (ends : EndsSolid text)
    (broken : '\n' ∈ text) : upToOrder? (text ++ rest) = none := by
  induction text with
  | nil => contradiction
  | cons c text ih =>
    have here : atOrderBy (c :: text ++ rest) = false :=
      atOrderBy_eq_false absent (List.cons_ne_nil c text) ends
    rw [List.cons_append] at here ⊢
    rw [upToOrder?, here, if_neg Bool.false_ne_true]
    split
    · rfl
    · next other =>
      have later := (List.mem_cons.1 broken).resolve_left (Ne.symm other)
      rw [ih (absent_cons.1 absent).2 (EndsSolid.tail ends) later, Option.map_none]

theorem upToOrder?_gap (gap : Gap) {left : List Char} (found : afterOrderBy? text = some left)
    (starts : StartsSolid text) : upToOrder? (gap.text ++ text) = some [] := by
  have skipped := afterBlanks?_gap gap starts
  obtain ⟨c, more, split, _⟩ := gap.exists_cons
  rw [split, List.cons_append] at skipped ⊢
  rw [upToOrder?, atOrderBy, skipped, Option.bind_some, found]
  rfl

theorem conditions?_of_startsSolid (starts : StartsSolid text) (nonempty : text ≠ []) :
    conditions? text = upToOrder? text := by
  cases text with
  | nil => contradiction
  | cons c rest =>
    rw [conditions?, upToOrder?, atOrderBy, afterBlanks?_of_startsSolid starts]
    rfl

theorem upToOrder?_blanks {front : List Char} (blank : front.all isBlank = true)
    (starts : StartsSolid text) (unordered : afterOrderBy? text = none)
    (fails : upToOrder? text = none) : upToOrder? (front ++ text) = none := by
  induction front with
  | nil => exact fails
  | cons c front ih =>
    rw [List.all_cons, Bool.and_eq_true] at blank
    obtain ⟨here, later⟩ := blank
    have notOrder : atOrderBy (c :: (front ++ text)) = false := by
      have skipped : skipBlank (front ++ text) = text := by
        rw [skipBlank, List.dropWhile_append_of_pos (List.all_eq_true.1 later)]
        exact skipBlank_of_startsSolid starts
      rw [atOrderBy, afterBlanks?, if_pos here, Option.bind_some, skipped, unordered,
        Option.isSome_none]
    rw [List.cons_append, upToOrder?, notOrder, if_neg Bool.false_ne_true, ih later,
      Option.map_none, ite_self]

theorem conditionsAfter?_eq_none {blanks : List Char} (blankToo : blanks.all isBlank = true)
    (front : List Char) (blank : front.all isBlank = true) (starts : StartsSolid text)
    (unordered : afterOrderBy? text = none) (fails : upToOrder? text = none) :
    conditionsAfter? blanks (front ++ text) = none := by
  induction blanks generalizing front with
  | nil => rfl
  | cons b blanks ih =>
    rw [List.all_cons, Bool.and_eq_true] at blankToo
    have here : conditions? (front ++ text) = none := by
      cases front with
      | nil =>
        have nonempty : text ≠ [] := by
          rintro rfl
          contradiction
        rw [List.nil_append, conditions?_of_startsSolid starts nonempty, fails]
      | cons c front =>
        rw [List.all_cons, Bool.and_eq_true] at blank
        rw [List.cons_append, conditions?, upToOrder?_blanks blank.2 starts unordered fails,
          Option.map_none, ite_self]
    have more : (b :: front).all isBlank = true := by
      rw [List.all_cons, blankToo.1, blank, Bool.and_self]
    rw [conditionsAfter?, here, Option.none_or, ← List.cons_append, ih blankToo.2 _ more]

/-- All the white space behind `WHERE` is left out. To take some of it in would not help, since
what ends the search lies behind it. -/
theorem whereAt?_spelled (head : Spelled whereWord) (gap : Gap) (starts : StartsSolid text)
    (nonempty : text ≠ []) (unordered : afterOrderBy? text = none) :
    whereAt? (head.text ++ (gap.text ++ text)) = upToOrder? text := by
  rw [whereAt?, afterKeyword?_append (head.folded (by decide)), Option.bind_eq_bind,
    Option.bind_some, gap.takeWhile_append starts, gap.skipBlank_append,
    skipBlank_of_startsSolid starts]
  have blank : gap.text.reverse.all isBlank = true := by rw [List.all_reverse, gap.blank]
  cases read : upToOrder? text with
  | none => exact conditionsAfter?_eq_none blank [] rfl starts unordered read
  | some conditions =>
    obtain ⟨b, more, split⟩ := List.exists_cons_of_ne_nil (List.reverse_ne_nil_iff.2 gap.nonempty)
    rw [split, conditionsAfter?, conditions?_of_startsSolid starts nonempty, read, Option.some_or]

theorem whereClause?_eq_some {conditions : List Char} (found : whereAt? text = some conditions) :
    whereClause? text = some conditions := by
  cases text with
  | nil => contradiction
  | cons c text => rw [whereClause?, found, Option.some_or]

theorem whereClause?_gap (head : Spelled whereWord) (gap : Gap) (starts : StartsSolid text)
    (nonempty : text ≠ []) (ends : EndsSolid text) (oneLine : '\n' ∉ text)
    (absent : Absent afterOrderBy? text rest) (stops : upToOrder? rest = some []) :
    whereClause? (head.text ++ (gap.text ++ (text ++ rest))) = some text := by
  have here := whereAt?_spelled head gap (starts.append nonempty rest) (by simp [nonempty])
    (absent text (List.suffix_refl text) nonempty)
  rw [upToOrder?_append absent ends oneLine, stops, Option.map_some, List.append_nil] at here
  exact whereClause?_eq_some here

theorem whereClause?_spelled (head : Spelled whereWord) (starts : StartsSolid text)
    (nonempty : text ≠ []) (ends : EndsSolid text) (oneLine : '\n' ∉ text)
    (absent : Absent afterOrderBy? text rest) (stops : upToOrder? rest = some []) :
    whereClause? (head.text ++ ' ' :: (text ++ rest)) = some text :=
  whereClause?_gap head .space starts nonempty ends oneLine absent stops

theorem direction?_spelled (gap : Gap) (written : WrittenDirection) :
    direction? (gap.text ++ written.word.text) = some written.direction := by
  obtain ⟨direction, word⟩ := written
  have smallLetters := isLower_directionWord direction
  have folded := word.folded smallLetters
  rw [direction?, afterBlanks?_gap gap (word.solid smallLetters).startsSolid, Option.bind_eq_bind,
    Option.bind_some]
  simp only [afterKeyword?_eq, folded]
  cases direction with
  | ascending => rfl
  | descending =>
    have whole : word.text.take 4 = word.text :=
      List.take_of_length_le (Nat.le_of_eq word.length_text)
    have same : sameAsciiLetters (word.text.take 4) descendingWord = true := by
      rw [whole, sameAsciiLetters, word.same]
      rfl
    rw [same]
    rfl

namespace OrderPhrase

variable (order : OrderPhrase)

theorem afterOrderBy?_behind (gaps : ℕ → Gap) :
    afterOrderBy? (order.first.text ++ behind gaps order.laterTokens) =
      some (order.field ++ behind (fun i => gaps (i + 2)) order.directionTokens) :=
  afterOrderBy?_spelled order.first order.second (gaps 0) (gaps 1)
    (order.solid.startsSolid.append order.nonempty _)

theorem direction?_behind (gaps : ℕ → Gap) :
    direction? (behind gaps order.directionTokens) =
      order.written?.map WrittenDirection.direction := by
  rw [directionTokens]
  cases order.written? with
  | none => rfl
  | some written =>
    rw [Option.map_some, Option.toList_some, behind, behind, List.append_nil,
      direction?_spelled (gaps 0) written, Option.map_some]

theorem orderAt?_behind (gaps : ℕ → Gap) :
    orderAt? (order.first.text ++ behind gaps order.laterTokens) =
      some (order.field, order.written?.map WrittenDirection.direction) := by
  obtain ⟨run, after⟩ := leadingRun_append order.solid
    (behind_startsBlank (fun i => gaps (i + 2)) order.directionTokens)
  rw [orderAt?, order.afterOrderBy?_behind, Option.bind_eq_bind, Option.bind_some, run, after,
    if_neg order.nonempty, order.direction?_behind]

end OrderPhrase

theorem orderClause?_behind (order? : Option OrderPhrase) (gaps : ℕ → Gap) :
    orderClause? (behind gaps (orderTokens order?)) = order?.map fun order =>
      (order.field, order.written?.map WrittenDirection.direction) := by
  cases order? with
  | none => rfl
  | some order =>
    obtain ⟨c, rest, spelling⟩ := List.exists_cons_of_ne_nil (order.first.ne_nil (by decide))
    have here := order.orderAt?_behind fun i => gaps (i + 1)
    rw [orderTokens, behind, orderClause?_gap]
    rw [spelling, List.cons_append] at here ⊢
    rw [orderClause?, here, Option.some_or, Option.map_some]

theorem upToOrder?_behind (order? : Option OrderPhrase) (gaps : ℕ → Gap) :
    upToOrder? (behind gaps (orderTokens order?)) = some [] := by
  cases order? with
  | none => rfl
  | some order =>
    have starts := (order.first.solid (by decide)).startsSolid
    exact upToOrder?_gap (gaps 0) (order.afterOrderBy?_behind fun i => gaps (i + 1))
      (starts.append (order.first.ne_nil (by decide)) _)

theorem orderClause?_orderSuffix (order? : Option OrderPhrase) :
    orderClause? (orderSuffix order?) = order?.map fun order =>
      (order.field, order.written?.map WrittenDirection.direction) := by
  rw [orderSuffix_eq_behind, orderClause?_behind]

theorem upToOrder?_orderSuffix (order? : Option OrderPhrase) :
    upToOrder? (orderSuffix order?) = some [] := by
  rw [orderSuffix_eq_behind, upToOrder?_behind]

/-- Conditions that are read as they stand behind the first word, up to the order. -/
structure Legible (conditions : List Char) : Prop where
  nonempty : conditions ≠ []
  starts : StartsSolid conditions
  ends : EndsSolid conditions
  oneLine : '\n' ∉ conditions
  unordered (head : Spelled whereWord) (rest : List Char) :
    Absent afterOrderBy? (head.text ++ ' ' :: conditions) rest

namespace Legible

variable {conditions : List Char} (legible : Legible conditions) (head : Spelled whereWord)
  (order? : Option OrderPhrase)

include legible

theorem trim_clauseText :
    trim (clauseText head conditions order?) = clauseText head conditions order? :=
  trim_of_solid (startsSolid_clauseText head order? conditions)
    (endsSolid_clauseText head order? legible.nonempty legible.ends)

theorem orderClause?_clauseText :
    orderClause? (clauseText head conditions order?) = order?.map fun order =>
      (order.field, order.written?.map WrittenDirection.direction) := by
  have skipped := orderClause?_append (legible.unordered head (orderSuffix order?))
  rw [List.append_assoc] at skipped
  exact skipped.trans (orderClause?_orderSuffix order?)

theorem whereClause?_clauseText :
    whereClause? (clauseText head conditions order?) = some conditions := by
  have behind := absent_append.1 (legible.unordered head (orderSuffix order?))
  exact whereClause?_spelled head legible.starts legible.nonempty legible.ends legible.oneLine
    (absent_cons.1 behind.2).2 (upToOrder?_orderSuffix order?)

theorem nowhere_afterOrderBy? : Nowhere afterOrderBy? conditions := by
  have behind := absent_append.1 (legible.unordered ⟨whereWord, rfl⟩ [])
  exact (absent_cons.1 behind.2).2.nowhere rfl

end Legible

theorem upToOrder?_oneLine (found : upToOrder? text = some rest) : '\n' ∉ rest := by
  induction text generalizing rest with
  | nil => cases found; exact List.not_mem_nil
  | cons c text ih =>
    rw [upToOrder?] at found
    split at found
    · cases found; exact List.not_mem_nil
    · split at found
      · contradiction
      · next other =>
        obtain ⟨more, read, rfl⟩ := Option.map_eq_some_iff.1 found
        exact List.not_mem_cons_of_ne_of_not_mem (Ne.symm other) (ih read)

theorem conditions?_oneLine (found : conditions? text = some rest) : '\n' ∉ rest := by
  cases text with
  | nil => contradiction
  | cons c text =>
    rw [conditions?] at found
    split at found
    · contradiction
    · next other =>
      obtain ⟨more, read, rfl⟩ := Option.map_eq_some_iff.1 found
      exact List.not_mem_cons_of_ne_of_not_mem (Ne.symm other) (upToOrder?_oneLine read)

theorem conditionsAfter?_oneLine {blanks : List Char}
    (found : conditionsAfter? blanks text = some rest) : '\n' ∉ rest := by
  induction blanks generalizing text with
  | nil => contradiction
  | cons blank blanks ih =>
    rcases Option.or_eq_some_iff.1 found with here | ⟨_, later⟩
    · exact conditions?_oneLine here
    · exact ih later

theorem whereClause?_oneLine (found : whereClause? text = some rest) : '\n' ∉ rest := by
  induction text with
  | nil => contradiction
  | cons c text ih =>
    rcases Option.or_eq_some_iff.1 found with here | ⟨_, later⟩
    · obtain ⟨_, _, here⟩ := Option.bind_eq_some_iff.1 here
      exact conditionsAfter?_oneLine here
    · exact ih later

end VirtualRecords.QueryText
