import VirtualRecords.Proofs.QueryText.Extraction

/-! Clauses with brackets as they are written. A term is a comparison or a flat list of comparisons
in brackets, and no two terms have the same text in brackets. Such a clause is not read as it is
nested: the first term in brackets gives its comparisons to the root, the comparisons outside of
brackets follow them wherever they stood, and each other term in brackets is a group inside the
root. The root's connective is that of the terms. -/

namespace VirtualRecords.QueryText

open Text

structure Bracket where
  first : Phrase
  links : List Link

namespace Bracket

variable (bracket : Bracket)

def clause : FlatClause := ⟨⟨whereWord, rfl⟩, bracket.first, bracket.links, none⟩

def inner : List Char := bracket.clause.conditions

def text : List Char := bracketed bracket.inner

def group : Group := ⟨bracket.clause.connective, bracket.clause.leaves, []⟩

end Bracket

inductive Term where
  | plain (phrase : Phrase)
  | nested (bracket : Bracket)

namespace Term

def text : Term → List Char
  | plain phrase => phrase.text
  | nested bracket => bracket.text

def left : Term → List Char
  | plain phrase => phrase.text
  | nested _ => placeholder

def phrase? : Term → Option Phrase
  | plain phrase => some phrase
  | nested _ => none

def bracket? : Term → Option Bracket
  | plain _ => none
  | nested bracket => some bracket

end Term

def bracketsOf (terms : List Term) : List Bracket := terms.filterMap Term.bracket?

structure TermLink where
  connective : Connective
  word : Spelled (connectiveWord connective)
  term : Term

namespace TermLink

variable (link : TermLink)

def text : List Char := ' ' :: (link.word.text ++ ' ' :: link.term.text)

def left : List Char := ' ' :: (link.word.text ++ ' ' :: link.term.left)

end TermLink

structure NestedClause where
  head : Spelled whereWord
  first : Term
  links : List TermLink
  order? : Option OrderPhrase
  nested : bracketsOf (first :: links.map TermLink.term) ≠ []
  distinct : ((bracketsOf (first :: links.map TermLink.term)).map Bracket.text).Nodup

namespace NestedClause

variable (clause : NestedClause)

def terms : List Term := clause.first :: clause.links.map TermLink.term

def brackets : List Bracket := bracketsOf clause.terms

def leading : Bracket := clause.brackets.head clause.nested

def phrases : List Phrase := clause.terms.filterMap Term.phrase?

def conditions : List Char := clause.first.text ++ clause.links.flatMap TermLink.text

def text : List Char := clauseText clause.head clause.conditions clause.order?

def connective : Connective := commonConnective (clause.links.map TermLink.connective)

end NestedClause

variable {lead front : List Char}

namespace Bracket

variable (bracket : Bracket)

theorem inner_ne_nil : bracket.inner ≠ [] := bracket.clause.conditions_ne_nil

theorem isPlain_inner : bracket.inner.all isPlain = true := by
  refine List.all_eq_true.2 fun c member => ?_
  have inline : bracket.inner.all isInline = true := bracket.clause.inline
  have opens : '(' ∉ bracket.inner := not_mem_of_isInline inline (by decide)
  have closes : ')' ∉ bracket.inner := not_mem_of_isInline inline (by decide)
  rw [isPlain, Bool.and_eq_true, bne_iff_ne, bne_iff_ne]
  constructor
  · rintro rfl
    exact opens member
  · rintro rfl
    exact closes member

theorem text_ne_nil : bracket.text ≠ [] := List.cons_ne_nil _ _

theorem startsSolid : StartsSolid bracket.text := startsSolid_cons (by decide) _

theorem endsSolid : EndsSolid bracket.text := endsSolid_concat (by decide) _

theorem oneLine : '\n' ∉ bracket.text := by
  have inside : '\n' ∉ bracket.inner := not_mem_of_isInline bracket.clause.inline (by decide)
  simp [text, bracketed, inside]

theorem absent_afterOrderBy? (solid : Solid lead) (nonempty : lead ≠ []) (rest : List Char) :
    Absent afterOrderBy? (lead ++ ' ' :: bracket.text) rest := by
  have opens : Fenced '(' afterOrderBy? := (stopsAt_afterOrderBy? (by decide) (by decide)).fenced
  have closes : Fenced ')' afterOrderBy? := (stopsAt_afterOrderBy? (by decide) (by decide)).fenced
  have leadFree : OrderFree (lead ++ [' ']) := by
    rw [OrderFree, words_append_blank (by decide), words_of_solid nonempty solid, words_nil]
    exact List.isChain_singleton _
  have split : lead ++ ' ' :: bracket.text =
      ((lead ++ [' ']) ++ ['(']) ++ (bracket.inner ++ [')']) := by
    simp [text, bracketed]
  rw [split]
  exact absent_append.2 ⟨opens.absent leadFree.nowhere _,
    closes.absent bracket.clause.legible.nowhere_afterOrderBy? rest⟩

end Bracket

namespace Term

variable (term : Term)

theorem text_ne_nil : term.text ≠ [] := by
  cases term with
  | plain phrase => exact phrase.text_ne_nil
  | nested bracket => exact bracket.text_ne_nil

theorem startsSolid : StartsSolid term.text := by
  cases term with
  | plain phrase => exact phrase.startsSolid
  | nested bracket => exact bracket.startsSolid

theorem endsSolid : EndsSolid term.text := by
  cases term with
  | plain phrase => exact phrase.endsSolid
  | nested bracket => exact bracket.endsSolid

theorem oneLine : '\n' ∉ term.text := by
  cases term with
  | plain phrase => exact not_mem_of_isInline phrase.inline (by decide)
  | nested bracket => exact bracket.oneLine

theorem absent_afterOrderBy? (solid : Solid lead) (nonempty : lead ≠ [])
    (apart : ¬ orderWord <:+ lead.map Char.toLower) (rest : List Char) :
    Absent afterOrderBy? (lead ++ ' ' :: term.text) rest := by
  cases term with
  | plain phrase => exact absent_phrase phrase solid nonempty apart rest
  | nested bracket => exact bracket.absent_afterOrderBy? solid nonempty rest

theorem opens_not_mem_left : '(' ∉ term.left := by
  cases term with
  | plain phrase => exact not_mem_of_isInline phrase.inline (by decide)
  | nested bracket =>
    have fresh : '(' ∉ placeholder := by decide
    exact fresh

theorem unbroken_left : Unbroken term.left := by
  cases term with
  | plain phrase => exact phrase.unbroken
  | nested bracket =>
    have solid : Solid placeholder := by decide
    exact .of_solid solid (List.cons_ne_nil _ _)

theorem leafOf?_left : leafOf? term.left = term.phrase?.map Phrase.leaf := by
  cases term with
  | plain phrase => exact leafOf?_phrase phrase
  | nested bracket =>
    have stands : isPlaceholder placeholder = true := by decide
    exact if_pos stands

end Term

namespace TermLink

variable (link : TermLink)

def before : List Char := ' ' :: (link.word.text ++ [' '])

theorem text_eq : link.text = link.before ++ link.term.text := by
  simp [text, before]

theorem left_eq : link.left = link.before ++ link.term.left := by
  simp [left, before]

theorem inline_before : link.before.all isInline = true := by
  have word := isInline_spelled (isLower_connectiveWord link.connective) link.word
  simp only [before, List.all_cons, List.all_append, word]
  rfl

theorem endsSolid : EndsSolid link.text := by
  rw [text_eq]
  exact link.term.endsSolid.after link.term.text_ne_nil link.before

theorem oneLine : '\n' ∉ link.text := by
  rw [text_eq, List.mem_append, not_or]
  exact ⟨not_mem_of_isInline link.inline_before (by decide), link.term.oneLine⟩

theorem absent_afterOrderBy? (rest : List Char) : Absent afterOrderBy? link.text rest := by
  have small := isLower_connectiveWord link.connective
  have nonempty := link.word.ne_nil (connectiveWord_ne_nil link.connective)
  exact absent_cons.2 ⟨rfl, link.term.absent_afterOrderBy? (link.word.solid small) nonempty
    (not_orderWord_connective link.word) rest⟩

end TermLink

theorem NestedClause.legible (clause : NestedClause) : Legible clause.conditions where
  nonempty := by simp [conditions, clause.first.text_ne_nil]
  starts := clause.first.startsSolid.append clause.first.text_ne_nil _
  ends := clause.first.endsSolid.append (endsSolid_flatMap TermLink.endsSolid clause.links)
  oneLine := by
    rw [conditions, List.mem_append, List.mem_flatMap]
    rintro (first | ⟨link, -, later⟩)
    · exact clause.first.oneLine first
    · exact link.oneLine later
  unordered head rest := by
    have first := clause.first.absent_afterOrderBy? (head.solid (by decide))
      (head.ne_nil (by decide)) (not_orderWord_where head)
      (clause.links.flatMap TermLink.text ++ rest)
    have links := absent_flatMap TermLink.absent_afterOrderBy? clause.links rest
    have whole := absent_append.2 ⟨first, links⟩
    simpa [conditions] using whole

theorem bracketsOf_cons (term : Term) (terms : List Term) :
    bracketsOf (term :: terms) = term.bracket?.toList ++ bracketsOf terms := by
  cases term <;> rfl

theorem not_infix_links {bracket : Bracket} {links : List TermLink}
    (fresh : bracket.text ∉ (bracketsOf (links.map TermLink.term)).map Bracket.text) :
    ¬ bracket.text <:+: links.flatMap TermLink.text := by
  induction links with
  | nil =>
    intro inside
    exact bracket.text_ne_nil (List.eq_nil_of_infix_nil inside)
  | cons link links ih =>
    intro inside
    have opens : '(' ∉ link.before := not_mem_of_isInline link.inline_before (by decide)
    rw [List.map_cons, bracketsOf_cons, List.map_append, List.mem_append, not_or] at fresh
    rw [List.flatMap_cons, link.text_eq, List.append_assoc] at inside
    have behind := infix_of_append_of_not_mem opens inside
    refine ih fresh.2 ?_
    cases kind : link.term with
    | plain phrase =>
      rw [kind] at behind
      exact infix_of_append_of_not_mem (not_mem_of_isInline phrase.inline (by decide)) behind
    | nested other =>
      rw [kind] at fresh behind
      have apart : bracket.inner ≠ other.inner := by
        intro same
        exact fresh.1 (by simp [Term.bracket?, Bracket.text, same])
      exact infix_of_append_bracketed bracket.isPlain_inner other.isPlain_inner apart behind

theorem extract_term (plain : '(' ∉ front) (term : Term) {rest : List Char}
    (once : ∀ bracket ∈ term.bracket?, ¬ bracket.text <:+: rest) :
    extract (front ++ (term.text ++ rest)) =
      (term.bracket?.toList.map Bracket.inner ++ (extract (front ++ (term.left ++ rest))).1,
        (extract (front ++ (term.left ++ rest))).2) := by
  cases term with
  | plain phrase => rfl
  | nested bracket =>
    exact extract_append_bracketed plain bracket.inner_ne_nil bracket.isPlain_inner
      (once bracket rfl)

theorem once_of_nodup {term : Term} {links : List TermLink}
    (distinct : ((bracketsOf (term :: links.map TermLink.term)).map Bracket.text).Nodup) :
    (∀ bracket ∈ term.bracket?, ¬ bracket.text <:+: links.flatMap TermLink.text) ∧
      ((bracketsOf (links.map TermLink.term)).map Bracket.text).Nodup := by
  rw [bracketsOf_cons, List.map_append] at distinct
  obtain ⟨-, later, apart⟩ := List.nodup_append.1 distinct
  refine ⟨fun bracket own => not_infix_links fun again => ?_, later⟩
  exact apart _ (List.mem_map_of_mem (Option.mem_toList.2 own)) _ again rfl

theorem extract_links (plain : '(' ∉ front) {links : List TermLink}
    (distinct : ((bracketsOf (links.map TermLink.term)).map Bracket.text).Nodup) :
    extract (front ++ links.flatMap TermLink.text) =
      ((bracketsOf (links.map TermLink.term)).map Bracket.inner,
        front ++ links.flatMap TermLink.left) := by
  induction links generalizing front with
  | nil => simpa [bracketsOf] using extract_eq plain
  | cons link links ih =>
    obtain ⟨once, later⟩ := once_of_nodup distinct
    have before : '(' ∉ front ++ link.before := by
      rw [List.mem_append, not_or]
      exact ⟨plain, not_mem_of_isInline link.inline_before (by decide)⟩
    have behind : '(' ∉ front ++ link.before ++ link.term.left := by
      rw [List.mem_append, not_or]
      exact ⟨before, link.term.opens_not_mem_left⟩
    have taken := extract_term before link.term once
    have rest := ih behind later
    rw [List.append_assoc (front ++ link.before)] at rest
    rw [rest] at taken
    simpa [link.text_eq, link.left_eq, bracketsOf_cons] using taken

namespace NestedClause

variable (clause : NestedClause)

def left : List Char := clause.first.left ++ clause.links.flatMap TermLink.left

theorem extract_conditions :
    extract clause.conditions = (clause.brackets.map Bracket.inner, clause.left) := by
  obtain ⟨once, later⟩ := once_of_nodup clause.distinct
  have taken := extract_term List.not_mem_nil clause.first once
  rw [List.nil_append, List.nil_append,
    extract_links clause.first.opens_not_mem_left later] at taken
  rw [conditions, taken, brackets, terms, bracketsOf_cons, List.map_append]
  rfl

theorem cut_left :
    cut clause.left =
      (clause.first.left, clause.links.map fun link => (link.connective, link.term.left)) :=
  cut_joined TermLink.connective TermLink.word (fun link => link.term.left)
    (fun link => link.term.unbroken_left) clause.first.unbroken_left clause.links

theorem connectiveOf_left : connectiveOf clause.left = clause.connective := by
  rw [connectiveOf_eq, cut_left, connective, List.map_map]
  rfl

theorem leavesOf_left : leavesOf clause.left = clause.phrases.map Phrase.leaf := by
  have split : parts clause.left = clause.terms.map Term.left := by
    rw [parts, cut_left, terms]
    simp
  rw [leavesOf_eq_filterMap, split, List.filterMap_map, phrases, List.map_filterMap]
  exact List.filterMap_congr fun term _ => term.leafOf?_left

end NestedClause

theorem bracketGroup_inner (bracket : Bracket) : bracketGroup bracket.inner = bracket.group := by
  rw [bracketGroup, Bracket.inner, connectiveOf_conditions, leavesOf_conditions, Bracket.group]

/-- Every term in brackets can be read, so the first one of all fills the root. -/
theorem fromReadable_inners (brackets : List Bracket) :
    fromReadable (brackets.map Bracket.inner) = brackets.map Bracket.inner := by
  cases brackets with
  | nil => rfl
  | cons bracket brackets =>
    have filled : leavesOf bracket.inner ≠ [] := by
      rw [Bracket.inner, leavesOf_conditions]
      exact List.cons_ne_nil _ _
    rw [List.map_cons, fromReadable_cons, if_neg filled]

namespace NestedClause

variable (clause : NestedClause)

theorem readConditions_conditions :
    readConditions clause.conditions .empty =
      ⟨clause.connective, clause.leading.group.leaves ++ clause.phrases.map Phrase.leaf,
        clause.brackets.tail.map Bracket.group⟩ := by
  have first : leavesOf clause.leading.inner =
      clause.leading.group.leaves := leavesOf_conditions _
  have leads : clause.brackets.head? = some clause.leading := List.head?_eq_some_head clause.nested
  have groups : (clause.brackets.map Bracket.inner).tail.map bracketGroup =
      clause.brackets.tail.map Bracket.group := by
    rw [← List.map_tail, List.map_map]
    exact List.map_congr_left fun bracket _ => bracketGroup_inner bracket
  rw [readConditions_empty, clause.extract_conditions, fromReadable_inners, connectiveOf_left,
    leavesOf_left, List.head?_map, leads, groups, Option.map_some, Option.map_some,
    Option.getD_some, first]

end NestedClause

/-- A clause with brackets is read into one root: the comparisons of the first brackets, then those
outside of brackets, under the connective of the terms, and a flat group for each other pair of
brackets. -/
theorem parse_nestedText (clause : NestedClause) :
    let reading := parse (String.ofList clause.text)
    reading.root =
        ⟨clause.connective, clause.leading.group.leaves ++ clause.phrases.map Phrase.leaf,
          clause.brackets.tail.map Bracket.group⟩ ∧
      reading.order?.map Prod.fst = clause.order?.map (fun order => String.ofList order.field) ∧
      reading.direction? = clause.order?.map OrderPhrase.direction := by
  intro reading
  rw [← clause.readConditions_conditions]
  exact clause.legible.parse_clauseText clause.head clause.order?

def sampleNested : NestedClause :=
  let apart : OperatorToken := .symbol ['<', '>'] .neq (by decide)
  let a : Phrase := ⟨⟨['a'], by decide, by decide⟩, apart, ⟨['x'], by decide, by decide⟩⟩
  let b : Phrase := ⟨⟨['b'], by decide, by decide⟩, apart, ⟨['y'], by decide, by decide⟩⟩
  let c : Phrase := ⟨⟨['c'], by decide, by decide⟩, apart, ⟨['z'], by decide, by decide⟩⟩
  { head := ⟨['W', 'h', 'e', 'r', 'e'], rfl⟩
    first := .plain a
    links := [
      ⟨.any, ⟨['O', 'R'], rfl⟩, .nested ⟨b, [⟨.all, ⟨['A', 'N', 'D'], rfl⟩, c⟩]⟩⟩,
      ⟨.any, ⟨['O', 'R'], rfl⟩, .nested ⟨c, []⟩⟩]
    order? := none
    nested := List.cons_ne_nil _ _
    distinct := by decide }

theorem parse_nestedText_sampleNested :
    let reading := parse "Where a <> 'x' OR (b <> 'y' AND c <> 'z') OR (c <> 'z')"
    reading.root = ⟨.any, [.ofOperator "b" .neq (.string "y"), .ofOperator "c" .neq (.string "z"),
        .ofOperator "a" .neq (.string "x")], [⟨.all, [.ofOperator "c" .neq (.string "z")], []⟩]⟩ ∧
      reading.order?.map Prod.fst = none ∧ reading.direction? = none :=
  parse_nestedText sampleNested

end VirtualRecords.QueryText
