import VirtualRecords.Proofs.QueryText.Flat

/-! Flat clauses with white space of any kind between their tokens. The values have no white space
in them, so that all of it stands between two tokens. A clause whose conditions are on one line is
read as with single spaces: no order begins before the last quote, the connectives are where the
text is cut, and each phrase gives the same leaf whatever stands between its tokens. -/

namespace VirtualRecords.QueryText

open Text

def isSolidValueChar (c : Char) : Bool := !(isBlank c || ['\'', '(', ')'].contains c)

structure SolidPhrase where
  field : FieldName
  operator : OperatorToken
  value : List Char
  plain : value.all isSolidValueChar = true

namespace SolidPhrase

variable (phrase : SolidPhrase)

def laterTokens : List (List Char) := [phrase.operator.text, inQuotes phrase.value]

def tokens : List (List Char) := phrase.field.text :: phrase.laterTokens

def leaf : Leaf := comparisonLeaf phrase.field phrase.operator phrase.value

end SolidPhrase

structure SolidLink where
  connective : Connective
  word : Spelled (connectiveWord connective)
  phrase : SolidPhrase

def SolidLink.tokens (link : SolidLink) : List (List Char) := link.word.text :: link.phrase.tokens

def SolidLink.leaf (link : SolidLink) : Leaf := link.phrase.leaf

structure SolidClause where
  head : Spelled whereWord
  first : SolidPhrase
  links : List SolidLink
  order? : Option OrderPhrase

namespace SolidClause

variable (clause : SolidClause)

def conditionTokens : List (List Char) :=
  clause.first.tokens ++ clause.links.flatMap SolidLink.tokens

/-- The text with these gaps behind its tokens, the first of them behind the word `WHERE`. -/
def text (gaps : ℕ → Gap) : List Char :=
  clause.head.text ++ behind gaps (clause.conditionTokens ++ orderTokens clause.order?)

/-- No line feed stands between two tokens of the conditions. -/
def OneLine (gaps : ℕ → Gap) : Prop :=
  ∀ i, 0 < i → i < clause.conditionTokens.length → '\n' ∉ (gaps i).text

def leaves : List Leaf := clause.first.leaf :: clause.links.map SolidLink.leaf

def reading : Reading where
  root := ⟨commonConnective (clause.links.map SolidLink.connective), clause.leaves, []⟩
  order? := clause.order?.map fun order =>
    (String.ofList order.field, order.written?.map WrittenDirection.direction)

end SolidClause

/-- Tokens in which no order begins, up to the quote at their end. -/
structure Orderless (tokens : List (List Char)) : Prop where
  whole : ∀ token ∈ tokens, token ≠ [] ∧ Solid token
  apart : tokens.IsChain fun word next =>
    orderWord <:+ word.map Char.toLower → next.map Char.toLower ≠ byWord
  closed : ∀ last ∈ tokens.getLast?, ['\''] <:+ last

namespace Orderless

variable {token next : List Char} {tokens : List (List Char)}

theorem cons (nonempty : token ≠ []) (solid : Solid token)
    (apart : orderWord <:+ token.map Char.toLower → next.map Char.toLower ≠ byWord)
    (later : Orderless (next :: tokens)) : Orderless (token :: next :: tokens) where
  whole := List.forall_mem_cons.2 ⟨⟨nonempty, solid⟩, later.whole⟩
  apart := List.isChain_cons_cons.2 ⟨apart, later.apart⟩
  closed := by
    rw [List.getLast?_cons_cons]
    exact later.closed

theorem tail (orderless : Orderless (token :: next :: tokens)) : Orderless (next :: tokens) where
  whole := (List.forall_mem_cons.1 orderless.whole).2
  apart := (List.isChain_cons_cons.1 orderless.apart).2
  closed := by
    rw [← List.getLast?_cons_cons]
    exact orderless.closed

variable (orderless : Orderless (token :: tokens)) (gaps : ℕ → Gap)
include orderless

theorem startsSolid (rest : List Char) : StartsSolid (token ++ rest) :=
  have ⟨nonempty, solid⟩ := orderless.whole token List.mem_cons_self
  solid.startsSolid.append nonempty rest

theorem endsSolid : EndsSolid (token ++ behind gaps tokens) :=
  have ⟨⟨_, solid⟩, later⟩ := List.forall_mem_cons.1 orderless.whole
  endsSolid_behind later gaps solid.endsSolid

theorem absent_afterOrderBy? (rest : List Char) :
    Absent afterOrderBy? (token ++ behind gaps tokens) rest := by
  obtain ⟨⟨nonempty, solid⟩, later⟩ := List.forall_mem_cons.1 orderless.whole
  have free : OrderFree (token ++ behind gaps tokens) := by
    rw [OrderFree, words_behind later, words_of_solid nonempty solid]
    exact orderless.apart
  -- The quote at the end keeps what follows from completing an order that begins before it.
  have isLast := List.getLast_mem_getLast? (List.cons_ne_nil token tokens)
  obtain ⟨front, split⟩ := (orderless.closed _ isLast).trans (suffix_behind isLast gaps)
  have fenced : Fenced '\'' afterOrderBy? :=
    (stopsAt_afterOrderBy? (by decide) (by decide)).fenced
  have nowhere := free.nowhere
  rw [← split] at nowhere ⊢
  exact fenced.absent_of_nowhere nowhere rest

theorem whereAt?_behind (head : Spelled whereWord) (order? : Option OrderPhrase) :
    whereAt? (head.text ++ behind gaps (token :: tokens ++ orderTokens order?)) =
      if '\n' ∈ token ++ behind (fun i => gaps (i + 1)) tokens then none
      else some (token ++ behind (fun i => gaps (i + 1)) tokens) := by
  have split : behind gaps (token :: tokens ++ orderTokens order?) =
      (gaps 0).text ++ ((token ++ behind (fun i => gaps (i + 1)) tokens) ++
        behind (fun i => gaps (i + tokens.length + 1)) (orderTokens order?)) := by
    rw [List.cons_append, behind, behind_append, List.append_assoc]
  have nonempty := (orderless.whole token List.mem_cons_self).1
  have absent := orderless.absent_afterOrderBy? (fun i => gaps (i + 1))
    (behind (fun i => gaps (i + tokens.length + 1)) (orderTokens order?))
  have starts := orderless.startsSolid (behind (fun i => gaps (i + 1)) tokens ++
    behind (fun i => gaps (i + tokens.length + 1)) (orderTokens order?))
  rw [← List.append_assoc] at starts
  rw [split, whereAt?_spelled head (gaps 0) starts (by simp [nonempty])
    (absent _ (List.suffix_refl _) (by simp [nonempty]))]
  split
  · next broken => exact upToOrder?_append_eq_none absent (orderless.endsSolid _) broken
  · next oneLine =>
    rw [upToOrder?_append absent (orderless.endsSolid _) oneLine, upToOrder?_behind,
      Option.map_some, List.append_nil]

end Orderless

theorem endsInQuote (value : List Char) : ['\''] <:+ inQuotes value := ⟨'\'' :: value, rfl⟩

theorem not_suffix_inQuotes {word : List Char} (nonempty : word ≠ []) (noQuote : '\'' ∉ word)
    (value : List Char) : ¬ word <:+ (inQuotes value).map Char.toLower := by
  intro suffix
  rw [inQuotes, List.map_cons, List.map_append, ← List.cons_append] at suffix
  obtain ⟨front, rfl, _⟩ := (List.suffix_concat_iff.1 suffix).resolve_left nonempty
  exact noQuote (List.mem_append_right front List.mem_cons_self)

namespace SolidPhrase

variable (phrase : SolidPhrase)

theorem noQuote : '\'' ∉ phrase.value := by
  intro member
  have plain := List.all_eq_true.1 phrase.plain '\'' member
  contradiction

theorem solid_inQuotes : Solid (inQuotes phrase.value) := by
  intro c member
  rw [inQuotes, List.mem_cons, List.mem_append, List.mem_singleton] at member
  rcases member with rfl | member | rfl
  · rfl
  · have plain := List.all_eq_true.1 phrase.plain c member
    rw [isSolidValueChar, Bool.not_eq_true', Bool.or_eq_false_iff] at plain
    exact plain.1
  · rfl

theorem solid_of_mem_laterTokens {token : List Char} (member : token ∈ phrase.laterTokens) :
    token ≠ [] ∧ Solid token := by
  rw [laterTokens, List.mem_pair] at member
  rcases member with rfl | rfl
  · exact ⟨phrase.operator.text_ne_nil, phrase.operator.solid⟩
  · exact ⟨List.cons_ne_nil _ _, phrase.solid_inQuotes⟩

theorem inline_of_mem_tokens {token : List Char} (member : token ∈ phrase.tokens) :
    token.all isInline = true := by
  have value : phrase.value.all isInline = true := all_isInline (by decide) phrase.plain
  rw [tokens, laterTokens, List.mem_cons, List.mem_pair] at member
  rcases member with rfl | rfl | rfl
  · exact phrase.field.inline
  · exact phrase.operator.inline
  · rw [inQuotes, List.all_cons, List.all_append, value]
    rfl

/-- No word of a phrase leads to an order: the operator is not `BY`, and the value has a quote at
both ends. -/
theorem orderless_append {tokens : List (List Char)} (later : tokens ≠ [] → Orderless tokens) :
    Orderless (phrase.tokens ++ tokens) := by
  have notOrder : ¬ orderWord <:+ (inQuotes phrase.value).map Char.toLower :=
    not_suffix_inQuotes (by decide) (by decide) phrase.value
  have notBy : (inQuotes phrase.value).map Char.toLower ≠ byWord :=
    fun same => absurd (List.cons.inj same).1 (by decide)
  have quoted : Orderless (inQuotes phrase.value :: tokens) := by
    cases tokens with
    | nil =>
      refine ⟨?_, List.isChain_singleton _, ?_⟩
      · exact List.forall_mem_singleton.2 ⟨List.cons_ne_nil _ _, phrase.solid_inQuotes⟩
      · rintro _ ⟨⟩
        exact endsInQuote phrase.value
    | cons next tokens =>
      exact (later (List.cons_ne_nil next tokens)).cons (List.cons_ne_nil _ _)
        phrase.solid_inQuotes fun ends => absurd ends notOrder
  have operator := quoted.cons phrase.operator.text_ne_nil phrase.operator.solid fun _ => notBy
  refine operator.cons phrase.field.nonempty phrase.field.solid fun _ same => ?_
  exact phrase.operator.not_reserved (by simp [same])

end SolidPhrase

namespace SolidLink

variable (link : SolidLink)

theorem orderless_append {tokens : List (List Char)} (later : tokens ≠ [] → Orderless tokens) :
    Orderless (link.tokens ++ tokens) :=
  (link.phrase.orderless_append later).cons
    (link.word.ne_nil (connectiveWord_ne_nil link.connective))
    (link.word.solid (isLower_connectiveWord link.connective))
    fun ends => absurd ends (not_orderWord_connective link.word)

end SolidLink

theorem orderless_links (phrase : SolidPhrase) (links : List SolidLink) :
    Orderless (phrase.tokens ++ links.flatMap SolidLink.tokens) := by
  refine phrase.orderless_append ?_
  induction links with
  | nil => exact fun nonempty => absurd rfl nonempty
  | cons link links ih => exact fun _ => link.orderless_append ih

theorem unbroken_behind {token : List Char} {tokens : List (List Char)} (nonempty : token ≠ [])
    (solid : Solid token) (whole : ∀ later ∈ tokens, later ≠ [] ∧ Solid later)
    (free : ∀ later ∈ tokens, later.map Char.toLower ∉ [andWord, orWord])
    (closed : ∀ last ∈ tokens.getLast?, ['\''] <:+ last) (gaps : ℕ → Gap) :
    Unbroken (token ++ behind gaps tokens) where
  nonempty := by simp [nonempty]
  starts := solid.startsSolid.append nonempty _
  absent rest := by
    refine absent_append.2 ⟨absent_of_solid solid _, ?_⟩
    have connectiveFree : ConnectiveFree (behind gaps tokens) := by
      have split := words_behind whole gaps []
      rw [words_nil, List.nil_append, List.nil_append] at split
      rwa [ConnectiveFree, split]
    have nowhere := connectiveFree.nowhere
    cases tokens with
    | nil => exact absent_nil
    | cons next tokens =>
      have isLast := List.getLast_mem_getLast? (List.cons_ne_nil next tokens)
      have quote : ['\''] <:+ behind gaps (next :: tokens) :=
        (closed _ isLast).trans ((suffix_behind isLast _).trans (List.suffix_append _ _))
      obtain ⟨front, split⟩ := quote
      rw [← split] at nowhere ⊢
      exact fenced_connectiveAt?.absent_of_nowhere nowhere rest

namespace SolidPhrase

variable (phrase : SolidPhrase) (gaps : ℕ → Gap)

theorem leafOf?_behind :
    leafOf? (phrase.field.text ++ behind gaps phrase.laterTokens) = some phrase.leaf := by
  have starts : StartsSolid (phrase.field.text ++ behind gaps phrase.laterTokens) :=
    phrase.field.solid.startsSolid.append phrase.field.nonempty _
  have ends : EndsSolid (phrase.field.text ++ behind gaps phrase.laterTokens) :=
    endsSolid_behind (fun _ => phrase.solid_of_mem_laterTokens) gaps phrase.field.solid.endsSolid
  have quoted : '\'' ∈ phrase.field.text ++ behind gaps phrase.laterTokens := by
    simp [laterTokens, behind, inQuotes]
  have read := comparison?_spelled phrase.field phrase.operator (gaps 0) (gaps 1) phrase.noQuote
  rw [leafOf?, isPlaceholder_of_quote starts ends quoted, if_neg Bool.false_ne_true, laterTokens]
  simp only [behind, List.append_nil]
  rw [read, Option.map_some, Comparison.toLeaf, operatorOf_text]
  rfl

theorem not_connective_of_mem_laterTokens {token : List Char}
    (member : token ∈ phrase.laterTokens) : token.map Char.toLower ∉ [andWord, orWord] := by
  rw [laterTokens, List.mem_pair] at member
  rcases member with rfl | rfl
  · exact fun reserved => phrase.operator.not_reserved (List.mem_append_left [byWord] reserved)
  · rw [List.mem_pair]
    rintro (same | same)
    all_goals exact absurd (List.cons.inj same).1 (by decide)

theorem unbroken : Unbroken (phrase.field.text ++ behind gaps phrase.laterTokens) :=
  unbroken_behind phrase.field.nonempty phrase.field.solid
    (fun _ => phrase.solid_of_mem_laterTokens) (fun _ => phrase.not_connective_of_mem_laterTokens)
    (by rintro _ ⟨⟩; exact endsInQuote phrase.value) gaps

theorem unbroken_operator :
    Unbroken (phrase.operator.text ++ behind gaps [inQuotes phrase.value]) :=
  unbroken_behind phrase.operator.text_ne_nil phrase.operator.solid
    (fun _ member => phrase.solid_of_mem_laterTokens (List.mem_cons_of_mem _ member))
    (fun _ member => phrase.not_connective_of_mem_laterTokens (List.mem_cons_of_mem _ member))
    (by rintro _ ⟨⟩; exact endsInQuote phrase.value) gaps

end SolidPhrase

theorem SolidPhrase.not_mem_behind (phrase : SolidPhrase) {token : List Char}
    {tokens : List (List Char)} (within : token :: tokens <:+: phrase.tokens) (gaps : ℕ → Gap) :
    '(' ∉ token ++ behind gaps tokens := by
  have apart (later : List Char) (member : later ∈ token :: tokens) : '(' ∉ later :=
    not_mem_of_isInline (phrase.inline_of_mem_tokens (within.subset member)) (by decide)
  obtain ⟨here, later⟩ := List.forall_mem_cons.1 apart
  rw [List.mem_append]
  exact not_or.2 ⟨here, Text.not_mem_behind (by decide) later gaps⟩

theorem SolidLink.inline_of_mem_tokens (link : SolidLink) {token : List Char}
    (member : token ∈ link.tokens) : token.all isInline = true := by
  rcases List.mem_cons.1 member with rfl | member
  · exact isInline_spelled (isLower_connectiveWord link.connective) link.word
  · exact link.phrase.inline_of_mem_tokens member

/-- Behind a part that is found whole, each link is cut off and gives its leaf. -/
theorem exists_cut_behind {part : List Char} (unbroken : Unbroken part) (gaps : ℕ → Gap)
    (links : List SolidLink) :
    ∃ more, cut (part ++ behind gaps (links.flatMap SolidLink.tokens)) = (part, more) ∧
      more.map Prod.fst = links.map SolidLink.connective ∧
      (more.map Prod.snd).filterMap leafOf? = links.map SolidLink.leaf := by
  induction links generalizing part gaps with
  | nil =>
    refine ⟨[], ?_, rfl, rfl⟩
    rw [List.flatMap_nil, behind, cut_append (unbroken.absent _), cut_nil, List.append_nil]
  | cons link links ih =>
    have next := link.phrase.unbroken fun i => gaps (i + 2)
    obtain ⟨more, split, connectives, leaves⟩ := ih next fun i => gaps (i + 4)
    have step := cut_link unbroken link.word (gaps 0) (gaps 1)
      (next.starts.append next.nonempty
        (behind (fun i => gaps (i + 4)) (links.flatMap SolidLink.tokens)))
    rw [split] at step
    have whole : behind gaps ((link :: links).flatMap SolidLink.tokens) =
        (gaps 0).text ++ (link.word.text ++ ((gaps 1).text ++
          ((link.phrase.field.text ++ behind (fun i => gaps (i + 2)) link.phrase.laterTokens) ++
            behind (fun i => gaps (i + 4)) (links.flatMap SolidLink.tokens)))) := by
      rw [List.flatMap_cons, SolidLink.tokens, SolidPhrase.tokens, List.cons_append,
        List.cons_append, behind, behind, behind_append, List.append_assoc]
      rfl
    refine ⟨_, whole ▸ step, ?_, ?_⟩
    · rw [List.map_cons, List.map_cons, connectives]
    · rw [List.map_cons, List.filterMap_cons_some (link.phrase.leafOf?_behind _), leaves]
      rfl

theorem readConditions_behind {part : List Char} (unbroken : Unbroken part) (plain : '(' ∉ part)
    (gaps : ℕ → Gap) (links : List SolidLink) :
    readConditions (part ++ behind gaps (links.flatMap SolidLink.tokens)) .empty =
      ⟨commonConnective (links.map SolidLink.connective),
        (leafOf? part).toList ++ links.map SolidLink.leaf, []⟩ := by
  obtain ⟨more, split, connectives, leaves⟩ := exists_cut_behind unbroken gaps links
  have plainLinks : ∀ token ∈ links.flatMap SolidLink.tokens, '(' ∉ token := by
    intro token member
    obtain ⟨link, _, inside⟩ := List.mem_flatMap.1 member
    exact not_mem_of_isInline (link.inline_of_mem_tokens inside) (by decide)
  have whole : '(' ∉ part ++ behind gaps (links.flatMap SolidLink.tokens) := by
    rw [List.mem_append]
    exact not_or.2 ⟨plain, not_mem_behind (by decide) plainLinks gaps⟩
  have connective : connectiveOf (part ++ behind gaps (links.flatMap SolidLink.tokens)) =
      commonConnective (links.map SolidLink.connective) := by
    rw [connectiveOf_eq, split, connectives]
  have leaf : leavesOf (part ++ behind gaps (links.flatMap SolidLink.tokens)) =
      (leafOf? part).toList ++ links.map SolidLink.leaf := by
    rw [leavesOf_eq_filterMap, parts, split, List.filterMap_cons, leaves]
    cases leafOf? part <;> rfl
  rw [readConditions, extract_eq whole]
  simp only [List.foldl_nil, readFlat, connective, leaf]
  rfl

namespace SolidClause

variable (clause : SolidClause)

theorem orderless : Orderless clause.conditionTokens := orderless_links clause.first clause.links

def conditions (gaps : ℕ → Gap) : List Char :=
  clause.first.field.text ++ behind (fun i => gaps (i + 1))
    (clause.first.laterTokens ++ clause.links.flatMap SolidLink.tokens)

theorem solid_of_mem_conditionTokens {token : List Char} (member : token ∈ clause.conditionTokens) :
    token ≠ [] ∧ Solid token :=
  clause.orderless.whole token member

theorem oneLine_iff (gaps : ℕ → Gap) : clause.OneLine gaps ↔ '\n' ∉ clause.conditions gaps := by
  have solid (token : List Char)
      (member : token ∈ clause.first.laterTokens ++ clause.links.flatMap SolidLink.tokens) :
      Solid token :=
    (clause.solid_of_mem_conditionTokens (List.mem_cons_of_mem _ member)).2
  have notField : '\n' ∉ clause.first.field.text :=
    not_mem_of_isInline clause.first.field.inline (by decide)
  rw [conditions, List.mem_append, mem_behind_iff (by decide) solid, or_iff_right notField]
  constructor
  · rintro oneLine ⟨i, small, member⟩
    exact oneLine (i + 1) i.succ_pos (Nat.succ_lt_succ small) member
  · intro absent i positive small member
    obtain ⟨i, rfl⟩ := Nat.exists_eq_succ_of_ne_zero positive.ne'
    exact absent ⟨i, Nat.lt_of_succ_lt_succ small, member⟩

theorem oneLine_space : clause.OneLine fun _ => .space := by
  intro _ _ _
  change '\n' ∉ Gap.space.text
  decide

theorem trim_text (gaps : ℕ → Gap) : trim (clause.text gaps) = clause.text gaps := by
  have whole : ∀ token ∈ clause.conditionTokens ++ orderTokens clause.order?,
      token ≠ [] ∧ Solid token := by
    intro token member
    rcases List.mem_append.1 member with condition | order
    · exact clause.solid_of_mem_conditionTokens condition
    · exact solid_of_mem_orderTokens clause.order? order
  have solid : Solid clause.head.text := clause.head.solid (by decide)
  exact trim_of_solid (solid.startsSolid.append (clause.head.ne_nil (by decide)) _)
    (endsSolid_behind whole gaps solid.endsSolid)

theorem whereAt?_text (gaps : ℕ → Gap) (head : Spelled whereWord) :
    whereAt? (head.text ++ behind gaps (clause.conditionTokens ++ orderTokens clause.order?)) =
      if '\n' ∈ clause.conditions gaps then none else some (clause.conditions gaps) :=
  clause.orderless.whereAt?_behind gaps head clause.order?

theorem orderClause?_text (gaps : ℕ → Gap) :
    orderClause? (clause.text gaps) = clause.order?.map fun order =>
      (order.field, order.written?.map WrittenDirection.direction) := by
  have orderless : Orderless (clause.head.text :: clause.conditionTokens) :=
    clause.orderless.cons (clause.head.ne_nil (by decide)) (clause.head.solid (by decide))
      fun ends => absurd ends (not_orderWord_where clause.head)
  rw [text, behind_append, ← List.append_assoc,
    orderClause?_append (orderless.absent_afterOrderBy? gaps _), orderClause?_behind]

theorem readConditions_conditions (gaps : ℕ → Gap) :
    readConditions (clause.conditions gaps) .empty =
      ⟨commonConnective (clause.links.map SolidLink.connective), clause.leaves, []⟩ := by
  have plain := clause.first.not_mem_behind (List.infix_refl clause.first.tokens)
    fun i => gaps (i + 1)
  rw [conditions, behind_append, ← List.append_assoc,
    readConditions_behind (clause.first.unbroken _) plain, clause.first.leafOf?_behind]
  rfl

theorem parse_text_of_oneLine {gaps : ℕ → Gap} (oneLine : clause.OneLine gaps) :
    parse (String.ofList (clause.text gaps)) = clause.reading := by
  have found : whereClause? (clause.text gaps) = some (clause.conditions gaps) := by
    have here := clause.whereAt?_text gaps clause.head
    rw [if_neg ((clause.oneLine_iff gaps).1 oneLine)] at here
    exact whereClause?_eq_some here
  rw [parse, read, String.toList_ofList, clause.trim_text, found, clause.orderClause?_text,
    Option.map_map]
  simp only [clause.readConditions_conditions]
  rfl

end SolidClause
end VirtualRecords.QueryText
