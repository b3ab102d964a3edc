import VirtualRecords.Proofs.QueryText.Extraction

/-! The rounds in which bracketed texts are taken out. A round takes the leftmost brackets around a
text that is not empty and has no brackets in it, and a placeholder fills every place of that
bracketed text. Whatever else the text says, and however many such places there are, each of them
costs one opening and one closing bracket, and a placeholder brings none. So the rounds come to an
end, and no such brackets are left then. -/

namespace VirtualRecords.QueryText

open Text

variable {text inner part other next : List Char} {places rounds : Nat}

structure Enclosed (inner : List Char) : Prop where
  nonempty : inner ≠ []
  opens : '(' ∉ inner
  closes : ')' ∉ inner

/-- No brackets of the text stand around such a text. -/
def Unpaired (text : List Char) : Prop := ∀ inner, Enclosed inner → ¬ bracketed inner <:+: text

structure PairAt (text front inner back : List Char) : Prop where
  enclosed : Enclosed inner
  whole : text = front ++ (bracketed inner ++ back)

def FirstPair (text inner : List Char) : Prop :=
  ∃ front back, PairAt text front inner back ∧
    ∀ before other behind, PairAt text before other behind → front.length ≤ before.length

theorem enclosed_iff : Enclosed inner ↔ inner ≠ [] ∧ inner.all isPlain = true := by
  constructor
  · rintro ⟨nonempty, opens, closes⟩
    refine ⟨nonempty, List.all_eq_true.2 fun c member => ?_⟩
    have notOpening : c ≠ '(' := fun same => opens (same ▸ member)
    have notClosing : c ≠ ')' := fun same => closes (same ▸ member)
    simp [isPlain, notOpening, notClosing]
  · rintro ⟨nonempty, plain⟩
    have each := List.all_eq_true.1 plain
    exact ⟨nonempty, fun member => absurd (each _ member) (by decide),
      fun member => absurd (each _ member) (by decide)⟩

theorem enclosed_of_bracketAt? (found : bracketAt? text = some inner) : Enclosed inner := by
  cases text with
  | nil => cases found
  | cons c rest =>
    rw [bracketAt?, Option.ite_none_right_eq_some, Option.some_inj] at found
    obtain ⟨⟨-, nonempty, -⟩, rfl⟩ := found
    exact enclosed_iff.2 ⟨nonempty, List.all_takeWhile⟩

theorem bracketAt?_eq_some_iff :
    bracketAt? text = some inner ↔ Enclosed inner ∧ bracketed inner <+: text := by
  constructor
  · intro found
    obtain ⟨back, whole⟩ := bracketAt?_eq_append found
    exact ⟨enclosed_of_bracketAt? found, back, whole.symm⟩
  · rintro ⟨enclosed, back, rfl⟩
    obtain ⟨nonempty, plain⟩ := enclosed_iff.1 enclosed
    exact bracketAt?_bracketed nonempty plain back

theorem firstBracket?_eq_none_iff_unpaired : firstBracket? text = none ↔ Unpaired text := by
  rw [firstBracket?_eq_none_iff]
  constructor
  · intro nowhere inner enclosed inside
    obtain ⟨later, starts, suffix⟩ := List.infix_iff_prefix_suffix.1 inside
    have found := bracketAt?_eq_some_iff.2 ⟨enclosed, starts⟩
    rw [nowhere later suffix] at found
    cases found
  · intro unpaired later suffix
    refine Option.eq_none_iff_forall_ne_some.2 fun inner found => ?_
    obtain ⟨enclosed, starts⟩ := bracketAt?_eq_some_iff.1 found
    exact unpaired inner enclosed (starts.isInfix.trans suffix.isInfix)

theorem firstBracket?_eq_some_iff : firstBracket? text = some inner ↔ FirstPair text inner := by
  induction text with
  | nil =>
    constructor
    · nofun
    · rintro ⟨front, back, ⟨_, whole⟩, _⟩
      simp [bracketed] at whole
  | cons c text ih =>
    rw [firstBracket?, Option.or_eq_some_iff, ih]
    constructor
    · rintro (here | ⟨fails, front, back, pair, first⟩)
      · obtain ⟨enclosed, back, whole⟩ := bracketAt?_eq_some_iff.1 here
        exact ⟨[], back, ⟨enclosed, whole.symm⟩, fun _ _ _ _ => Nat.zero_le _⟩
      · refine ⟨c :: front, back, ⟨pair.enclosed, congrArg (c :: ·) pair.whole⟩, ?_⟩
        intro before other behind found
        cases before with
        | nil =>
          have here := bracketAt?_eq_some_iff.2 ⟨found.enclosed, behind, found.whole.symm⟩
          rw [fails] at here
          cases here
        | cons d before =>
          have later : PairAt text before other behind :=
            ⟨found.enclosed, (List.cons.inj found.whole).2⟩
          exact Nat.succ_le_succ (first before other behind later)
    · rintro ⟨front, back, pair, first⟩
      cases front with
      | nil => exact .inl (bracketAt?_eq_some_iff.2 ⟨pair.enclosed, back, pair.whole.symm⟩)
      | cons d front =>
        refine .inr ⟨Option.eq_none_iff_forall_ne_some.2 fun other found => ?_, front, back,
          ⟨pair.enclosed, (List.cons.inj pair.whole).2⟩, fun before other behind later => ?_⟩
        · obtain ⟨enclosed, behind, whole⟩ := bracketAt?_eq_some_iff.1 found
          exact Nat.not_succ_le_zero _ (first [] other behind ⟨enclosed, whole.symm⟩)
        · have found : PairAt (c :: text) (c :: before) other behind :=
            ⟨later.enclosed, congrArg (c :: ·) later.whole⟩
          exact Nat.le_of_succ_le_succ (first (c :: before) other behind found)

theorem exists_firstPair_iff : (∃ inner, FirstPair text inner) ↔ ¬ Unpaired text := by
  rw [← firstBracket?_eq_none_iff_unpaired, ← ne_eq, Option.ne_none_iff_exists']
  exact exists_congr fun inner => firstBracket?_eq_some_iff.symm

/-- Some places of the part are filled with the other text, and all else is kept. -/
inductive Filled (part other : List Char) : Nat → List Char → List Char → Prop where
  | nil : Filled part other 0 [] []
  | kept (c : Char) {places : Nat} {text next : List Char} : Filled part other places text next →
      Filled part other places (c :: text) (c :: next)
  | place {places : Nat} {text next : List Char} : Filled part other places text next →
      Filled part other (places + 1) (part ++ text) (other ++ next)

theorem exists_filled (part other text : List Char) :
    ∃ places, Filled part other places text (replaceAll part other text) := by
  fun_induction replaceAll part other text with
  | case1 => exact ⟨0, .nil⟩
  | case2 c rest after found _ ih =>
    obtain ⟨places, filled⟩ := ih
    rw [after?_eq_some_iff.1 found]
    exact ⟨places + 1, .place filled⟩
  | case3 c rest _ _ _ ih =>
    obtain ⟨places, filled⟩ := ih
    exact ⟨places, .kept c filled⟩
  | case4 c rest _ ih =>
    obtain ⟨places, filled⟩ := ih
    exact ⟨places, .kept c filled⟩

theorem Filled.count_add (filled : Filled part other places text next) (c : Char) :
    next.count c + places * part.count c = text.count c + places * other.count c := by
  induction filled with
  | nil => simp
  | kept d _ ih =>
    rw [List.count_cons, List.count_cons]
    omega
  | place _ ih =>
    rw [List.count_append, List.count_append, Nat.succ_mul, Nat.succ_mul]
    omega

theorem Filled.filter_sublist {test : Char → Bool} (filled : Filled part other places text next)
    (none : other.filter test = []) : (next.filter test).Sublist (text.filter test) := by
  induction filled with
  | nil => exact List.Sublist.refl _
  | kept c _ ih =>
    rw [List.filter_cons, List.filter_cons]
    split
    · exact ih.cons_cons c
    · exact ih
  | place _ ih =>
    rw [List.filter_append, List.filter_append, none, List.nil_append]
    exact ih.trans (List.sublist_append_right _ _)

def isBracket (c : Char) : Bool := !isPlain c

/-- One opening and one closing bracket go for each of the places, of which there is at least one,
and no bracket comes. -/
structure Sheds (places : Nat) (before after : List Char) : Prop where
  somewhere : 0 < places
  opening : after.count '(' + places = before.count '('
  closing : after.count ')' + places = before.count ')'
  brackets : (after.filter isBracket).Sublist (before.filter isBracket)

theorem exists_sheds (enclosed : Enclosed inner) (inside : bracketed inner <:+: text) :
    ∃ places, Sheds places text (replaceAll (bracketed inner) placeholder text) := by
  obtain ⟨places, filled⟩ := exists_filled (bracketed inner) placeholder text
  have opens : (bracketed inner).count '(' = 1 := by
    simp [bracketed, List.count_eq_zero.2 enclosed.opens]
  have closes : (bracketed inner).count ')' = 1 := by
    simp [bracketed, List.count_eq_zero.2 enclosed.closes]
  have noOpening : placeholder.count '(' = 0 := by decide
  have noClosing : placeholder.count ')' = 0 := by decide
  have opening := filled.count_add '('
  have closing := filled.count_add ')'
  rw [opens, noOpening, Nat.mul_one, Nat.mul_zero, Nat.add_zero] at opening
  rw [closes, noClosing, Nat.mul_one, Nat.mul_zero, Nat.add_zero] at closing
  refine ⟨places, ?_, opening, closing, filled.filter_sublist (by decide)⟩
  have fewer := count_replaceAll_lt noOpening (by omega) inside
  omega

/-- Where the reading of conditions has come to: the text that remains, and the root, which holds
the texts that were taken out. -/
structure Extraction where
  remaining : List Char
  root : Group

inductive Round : Extraction → Extraction → Prop where
  | takeOut {text inner : List Char} {root : Group} : FirstPair text inner →
      Round ⟨text, root⟩
        ⟨replaceAll (bracketed inner) placeholder text, addBracket root inner⟩

inductive Rounds : Nat → Extraction → Extraction → Prop where
  | none (state : Extraction) : Rounds 0 state state
  | more {rounds : Nat} {state next last : Extraction} : Round state next →
      Rounds rounds next last → Rounds (rounds + 1) state last

variable {state after last : Extraction}

theorem exists_round_iff : (∃ after, Round state after) ↔ ¬ Unpaired state.remaining := by
  obtain ⟨text, root⟩ := state
  rw [← exists_firstPair_iff]
  constructor
  · rintro ⟨_, ⟨first⟩⟩
    exact ⟨_, first⟩
  · rintro ⟨inner, first⟩
    exact ⟨_, .takeOut first⟩

theorem Round.exists_sheds (round : Round state after) :
    ∃ places, Sheds places state.remaining after.remaining := by
  obtain ⟨first⟩ := round
  obtain ⟨front, back, pair, -⟩ := first
  exact QueryText.exists_sheds pair.enclosed ⟨front, back, by rw [pair.whole, List.append_assoc]⟩

theorem Round.result (round : Round state after) :
    (extract state.remaining).1.length = (extract after.remaining).1.length + 1 ∧
      (extract state.remaining).2 = (extract after.remaining).2 ∧
        readConditions state.remaining state.root = readConditions after.remaining after.root := by
  obtain ⟨first⟩ := round
  rw [readConditions_eq, readConditions_eq, extract_of_eq_some (firstBracket?_eq_some_iff.2 first)]
  exact ⟨rfl, rfl, rfl⟩

theorem Rounds.le_count (run : Rounds rounds state last) :
    rounds ≤ state.remaining.count '(' ∧ rounds ≤ state.remaining.count ')' := by
  induction run with
  | none state => exact ⟨Nat.zero_le _, Nat.zero_le _⟩
  | more round _ ih =>
    obtain ⟨places, sheds⟩ := round.exists_sheds
    obtain ⟨somewhere, opening, closing, -⟩ := sheds
    omega

theorem Rounds.result (run : Rounds rounds state last) :
    (extract state.remaining).1.length = (extract last.remaining).1.length + rounds ∧
      (extract state.remaining).2 = (extract last.remaining).2 ∧
        readConditions state.remaining state.root = readConditions last.remaining last.root := by
  induction run with
  | none state => exact ⟨rfl, rfl, rfl⟩
  | more round _ ih =>
    obtain ⟨taken, left, read⟩ := round.result
    obtain ⟨takenLater, leftLater, readLater⟩ := ih
    exact ⟨by omega, left.trans leftLater, read.trans readLater⟩

theorem extract_of_unpaired (unpaired : Unpaired text) : extract text = ([], text) :=
  extract_of_eq_none (firstBracket?_eq_none_iff_unpaired.2 unpaired)

theorem readConditions_of_unpaired (unpaired : Unpaired text) (root : Group) :
    readConditions text root = readFlat text root := by
  rw [readConditions_eq, extract_of_unpaired unpaired]
  rfl

theorem exists_rounds (text : List Char) (root : Group) :
    ∃ rounds last, Rounds rounds ⟨text, root⟩ last ∧ Unpaired last.remaining := by
  induction text using extract.induct generalizing root with
  | case1 text plain =>
    exact ⟨0, ⟨text, root⟩, .none _, firstBracket?_eq_none_iff_unpaired.1 plain⟩
  | case2 text inner found _ _ _ ih =>
    obtain ⟨rounds, last, run, unpaired⟩ := ih (addBracket root inner)
    exact ⟨rounds + 1, last, .more (.takeOut (firstBracket?_eq_some_iff.1 found)) run, unpaired⟩

/-- What the rounds from a text and a root come to: there are no more of them than opening brackets,
nor than closing ones; each sheds brackets; they go on exactly as long as there is a pair; and where
they end, what is left is read into the root. A text without a pair is left as it is. -/
structure Halts (text : List Char) (root : Group) : Prop where
  few {rounds : Nat} {state : Extraction} : Rounds rounds ⟨text, root⟩ state →
    rounds ≤ text.count '(' ∧ rounds ≤ text.count ')'
  sheds {state after : Extraction} : Round state after →
    ∃ places, Sheds places state.remaining after.remaining
  goOn (state : Extraction) : (∃ after, Round state after) ↔ ¬ Unpaired state.remaining
  ends : ∃ rounds last, Rounds rounds ⟨text, root⟩ last ∧ Unpaired last.remaining
  left {rounds : Nat} {last : Extraction} : Rounds rounds ⟨text, root⟩ last →
    Unpaired last.remaining → (extract text).1.length = rounds ∧
      (extract text).2 = last.remaining ∧
        readConditions text root = readFlat last.remaining last.root
  unchanged : extract text = ([], text) ↔ Unpaired text

theorem rounds_halt (text : List Char) (root : Group) : Halts text root where
  few run := run.le_count
  sheds round := round.exists_sheds
  goOn _ := exists_round_iff
  ends := exists_rounds text root
  left run unpaired := by
    obtain ⟨taken, left, read⟩ := run.result
    rw [extract_of_unpaired unpaired] at taken left
    exact ⟨taken.trans (Nat.zero_add _), left, read.trans (readConditions_of_unpaired unpaired _)⟩
  unchanged := by
    refine ⟨fun same => ?_, extract_of_unpaired⟩
    rw [← firstBracket?_eq_none_iff_unpaired]
    refine Option.eq_none_iff_forall_ne_some.2 fun inner found => ?_
    rw [extract_of_eq_some found] at same
    cases same

theorem rounds_halt_repeated :
    let text := "((a) (a)) () (__group__".toList
    let left := "__group__ () (__group__".toList
    ∃ last, Rounds 2 ⟨text, .empty⟩ last ∧ last.remaining = left ∧ Unpaired left ∧
      readConditions text .empty = readFlat left last.root := by
  intro text left
  have halts := rounds_halt text .empty
  obtain ⟨rounds, last, run, unpaired⟩ := halts.ends
  obtain ⟨counted, remains, read⟩ := halts.left run unpaired
  have taken : (extract text).1.length = 2 ∧ (extract text).2 = left := by decide +kernel
  rw [taken.1] at counted
  rw [taken.2] at remains
  subst counted
  rw [← remains] at unpaired read
  exact ⟨last, run, remains.symm, unpaired, read⟩

end VirtualRecords.QueryText
