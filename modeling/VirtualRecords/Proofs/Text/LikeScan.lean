import Mathlib.Computability.Language
import VirtualRecords.Criteria.Like
import VirtualRecords.Proofs.Text.Like

/-! The scan decides the language of a pattern. It goes back to the last percent sign alone, and
loses nothing by that: a percent sign before the last one could only hand over a shorter end of
the text, and whatever the last one can do with that end it can do with the longer one. -/

namespace VirtualRecords.Text

namespace Scan

variable {s next : Scan} {pattern text : List Char}

/-- The pattern fits what is left of the text, or would if the last percent sign took more. -/
def Accepts (s : Scan) : Prop :=
  Fits s.pattern s.text ∨ ∃ retry ∈ s.retry, Fits ('%' :: retry.pattern) s.tried.tail

/-- Since the last percent sign as many characters of the pattern were read as of the text, and
none of them was a percent sign. -/
def Sound (s : Scan) : Prop :=
  ∀ retry ∈ s.retry, ∃ gone, '%' ∉ gone ∧ gone.length = retry.passed.length ∧
    retry.pattern = gone ++ s.pattern

theorem sound_ofTexts (pattern text : List Char) : (ofTexts pattern text).Sound := nofun

theorem accepts_ofTexts : (ofTexts pattern text).Accepts ↔ Fits pattern text := by
  simp [Accepts, ofTexts]

theorem sound_behindPercent (pattern text : List Char) : (behindPercent pattern text).Sound := by
  intro retry found
  cases found
  exact ⟨[], List.not_mem_nil, rfl, rfl⟩

theorem accepts_behindPercent :
    (behindPercent pattern text).Accepts ↔ Fits ('%' :: pattern) text := by
  rw [Fits.percent_iff_tail]
  simp [Accepts, behindPercent, tried]

theorem exists_suffix_of_accepts (sound : s.Sound) (accepts : s.Accepts) :
    ∃ later, later <:+ s.text ∧ Fits s.pattern later := by
  rcases accepts with fitting | ⟨retry, found, fitting⟩
  · exact ⟨s.text, List.suffix_refl _, fitting⟩
  · obtain ⟨gone, noPercent, length, split⟩ := sound retry found
    have tried : s.tried = retry.passed.reverse ++ s.text := by
      have found : s.retry = some retry := found
      simp [Scan.tried, found]
    obtain ⟨skipped, rest, whole, inner⟩ := Fits.percent_iff.1 fitting
    rw [split] at inner
    obtain ⟨left, later, rfl, taken, remaining⟩ := Fits.append_iff.1 inner
    refine ⟨later, ?_, remaining⟩
    have inTail : later <:+ s.tried.tail := by
      rw [whole, ← List.append_assoc]
      exact List.suffix_append _ _
    have inTried : later <:+ retry.passed.reverse ++ s.text := by
      rw [← tried]
      exact inTail.trans (List.tail_suffix _)
    -- The characters between are as many as those that were passed, so none of these is left.
    have short : later.length ≤ s.text.length := by
      have counted := congrArg List.length whole
      rw [tried] at counted
      simp only [List.length_tail, List.length_append, List.length_reverse,
        taken.length_eq noPercent] at counted
      omega
    exact List.suffix_of_suffix_length_le inTried (List.suffix_append _ _) short

theorem accepts_iff_of_percent (sound : s.Sound) (percent : s.pattern = '%' :: pattern) :
    s.Accepts ↔ Fits ('%' :: pattern) s.text := by
  constructor
  · intro accepts
    obtain ⟨later, ⟨skipped, whole⟩, fitting⟩ := exists_suffix_of_accepts sound accepts
    rw [percent] at fitting
    obtain ⟨taken, rest, rfl, inner⟩ := Fits.percent_iff.1 fitting
    exact .run (skipped ++ taken) (by rw [← whole, List.append_assoc]) inner
  · intro fitting
    exact .inl (percent ▸ fitting)

theorem accepts_iff_of_nil (sound : s.Sound) (read : s.text = []) :
    s.Accepts ↔ s.pattern.all (· == '%') = true := by
  rw [← Fits.nil_iff]
  constructor
  · intro accepts
    obtain ⟨later, suffix, fitting⟩ := exists_suffix_of_accepts sound accepts
    rw [read, List.suffix_nil] at suffix
    exact suffix ▸ fitting
  · intro fitting
    exact .inl (read ▸ fitting)

theorem accepts_iff_of_parted (parted : ¬ Fits s.pattern s.text) :
    s.Accepts ↔ ∃ next ∈ s.goBack?, next.Accepts := by
  simp [Accepts.eq_def s, parted, goBack?, accepts_behindPercent]

theorem sound_of_goBack? (taken : s.goBack? = some next) : next.Sound := by
  obtain ⟨retry, -, rfl⟩ := Option.map_eq_some_iff.1 taken
  exact sound_behindPercent _ _

section Pass

variable {p c : Char} {rest : List Char}

theorem tried_pass {retry : Retry} (found : s.retry = some retry) (unread : s.text = c :: rest) :
    (s.pass pattern c rest).tried = s.tried := by
  simp [pass, tried, found, unread]

theorem sound_pass (sound : s.Sound) (split : s.pattern = p :: pattern) (other : p ≠ '%') :
    (s.pass pattern c rest).Sound := by
  intro retry found
  obtain ⟨earlier, before, rfl⟩ := Option.map_eq_some_iff.1 found
  obtain ⟨gone, noPercent, length, whole⟩ := sound earlier before
  refine ⟨gone ++ [p], ?_, ?_, ?_⟩
  · simp [noPercent, Ne.symm other]
  · simp [length]
  · simp [whole, split, pass]

theorem accepts_pass_iff (split : s.pattern = p :: pattern) (unread : s.text = c :: rest)
    (other : p ≠ '%') (same : p = '_' ∨ p = c) :
    (s.pass pattern c rest).Accepts ↔ s.Accepts := by
  have fitting : Fits pattern rest ↔ Fits s.pattern s.text := by
    rw [split, unread, Fits.cons_cons_iff other]
    exact (and_iff_right same).symm
  cases found : s.retry with
  | none => simp [Accepts, pass, found, fitting]
  | some retry =>
    rw [Accepts, Accepts, tried_pass found unread, found]
    simp [pass, found, fitting]

end Pass

/-- A step keeps what the scan accepts; where there is none, nothing is accepted. -/
theorem accepts_iff_of_step? (sound : s.Sound) (unread : s.text ≠ []) :
    (∀ next ∈ s.step?, next.Sound) ∧ (s.Accepts ↔ ∃ next ∈ s.step?, next.Accepts) := by
  have back (parted : ¬ Fits s.pattern s.text) (taken : s.step? = s.goBack?) :
      (∀ next ∈ s.step?, next.Sound) ∧ (s.Accepts ↔ ∃ next ∈ s.step?, next.Accepts) := by
    rw [taken]
    exact ⟨fun _ => sound_of_goBack?, accepts_iff_of_parted parted⟩
  obtain ⟨c, rest, split⟩ := List.exists_cons_of_ne_nil unread
  cases left : s.pattern with
  | nil =>
    apply back
    · rw [left, split]
      nofun
    · simp [step?, left]
  | cons p pattern =>
    by_cases percent : p = '%'
    · subst percent
      have taken : s.step? = some (behindPercent pattern s.text) := by simp [step?, left, split]
      simp [taken, sound_behindPercent, accepts_behindPercent, accepts_iff_of_percent sound left]
    · by_cases same : p = '_' ∨ p = c
      · have taken : s.step? = some (s.pass pattern c rest) := by
          simp [step?, left, split, percent, same]
        simp [taken, sound_pass sound left percent, accepts_pass_iff left split percent same]
      · apply back
        · rw [left, split, Fits.cons_cons_iff percent]
          exact fun fitting => same fitting.1
        · simp [step?, left, split, percent, same]

theorem run_iff_accepts (sound : s.Sound) : s.run = true ↔ s.Accepts := by
  fun_induction run s with
  | case1 s read => rw [accepts_iff_of_nil sound read]
  | case2 s unread stuck =>
    have kept := accepts_iff_of_step? sound unread
    simp [kept.2, stuck]
  | case3 s unread next taken ih =>
    have kept := accepts_iff_of_step? sound unread
    rw [ih (kept.1 next taken), kept.2]
    simp [taken]

end Scan

theorem isLike_iff_fits (text pattern : List Char) :
    isLike text pattern = true ↔ Fits pattern text := by
  rw [isLike, Scan.run_iff_accepts (Scan.sound_ofTexts pattern text), Scan.accepts_ofTexts]

def wildcard (p : Char) : Language Char :=
  {text | if p = '%' then True else if p = '_' then text.length = 1 else text = [p]}

def language (pattern : List Char) : Language Char := (pattern.map wildcard).prod

theorem mem_wildcard_percent (text : List Char) : text ∈ wildcard '%' := trivial

theorem mem_wildcard_iff {p : Char} (other : p ≠ '%') {text : List Char} :
    text ∈ wildcard p ↔ ∃ c, text = [c] ∧ (p = '_' ∨ p = c) := by
  change (if p = '%' then True else if p = '_' then text.length = 1 else text = [p]) ↔ _
  by_cases underscore : p = '_'
  · simp [underscore, List.length_eq_one_iff]
  · simp [other, underscore]

theorem language_cons (p : Char) (pattern : List Char) :
    language (p :: pattern) = wildcard p * language pattern := List.prod_cons

theorem mem_language_iff_fits {pattern text : List Char} :
    text ∈ language pattern ↔ Fits pattern text := by
  induction pattern generalizing text with
  | nil =>
    have empty : text ∈ language [] ↔ text = [] := Language.mem_one text
    rw [empty]
    constructor
    · rintro rfl
      exact .nil
    · intro fitting
      cases fitting
      rfl
  | cons p pattern ih =>
    rw [language_cons, Language.mem_mul]
    simp only [ih]
    by_cases percent : p = '%'
    · subst percent
      rw [Fits.percent_iff]
      constructor
      · rintro ⟨skipped, -, rest, inner, rfl⟩
        exact ⟨skipped, rest, rfl, inner⟩
      · rintro ⟨skipped, rest, rfl, inner⟩
        exact ⟨skipped, mem_wildcard_percent skipped, rest, inner, rfl⟩
    · simp only [mem_wildcard_iff percent]
      constructor
      · rintro ⟨_, ⟨c, rfl, same⟩, rest, inner, rfl⟩
        exact (Fits.cons_cons_iff percent).2 ⟨same, inner⟩
      · intro fitting
        cases text with
        | nil => exact absurd fitting (Fits.not_nil_cons percent)
        | cons c rest =>
          obtain ⟨same, inner⟩ := (Fits.cons_cons_iff percent).1 fitting
          exact ⟨[c], ⟨c, rfl, same⟩, rest, inner, rfl⟩

/-- Every text and every pattern are decided, and rightly: a text is like a pattern exactly if it
is one of those that the pattern stands for. -/
theorem isLike_iff_mem_language (text pattern : List Char) :
    isLike text pattern = true ↔ text ∈ language pattern := by
  rw [isLike_iff_fits, mem_language_iff_fits]

end VirtualRecords.Text
