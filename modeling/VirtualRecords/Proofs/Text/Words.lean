import Mathlib.Data.List.Basic
import VirtualRecords.Text.Blank

/-! Words: the runs of a text between white space. A blank character parts the words before it
from the words after it, and a text that begins within a word has the end of it as its own
first word. -/

namespace VirtualRecords.Text

def words (text : List Char) : List (List Char) := (text.splitOnP isBlank).filter (· ≠ [])

def Solid (text : List Char) : Prop := ∀ c ∈ text, isBlank c = false

instance (text : List Char) : Decidable (Solid text) :=
  List.decidableBAll (isBlank · = false) text

def StartsSolid (text : List Char) : Prop := ∀ c ∈ text.head?, isBlank c = false

def EndsSolid (text : List Char) : Prop := ∀ c ∈ text.getLast?, isBlank c = false

variable {text rest run : List Char} {c : Char}

theorem startsSolid_cons (solid : isBlank c = false) (rest : List Char) :
    StartsSolid (c :: rest) := by
  rintro _ ⟨⟩
  exact solid

theorem Solid.startsSolid (solid : Solid run) : StartsSolid run :=
  fun c first => solid c (List.mem_of_mem_head? first)

theorem Solid.endsSolid (solid : Solid run) : EndsSolid run :=
  fun c last => solid c (List.mem_of_getLast? last)

theorem StartsSolid.append (solid : StartsSolid text) (nonempty : text ≠ []) (rest : List Char) :
    StartsSolid (text ++ rest) := by
  obtain ⟨c, more, rfl⟩ := List.exists_cons_of_ne_nil nonempty
  exact startsSolid_cons (solid c rfl) (more ++ rest)

theorem endsSolid_concat (solid : isBlank c = false) (text : List Char) :
    EndsSolid (text ++ [c]) := by
  rw [EndsSolid, List.getLast?_concat]
  rintro _ ⟨⟩
  exact solid

theorem EndsSolid.append (first : EndsSolid text) (second : EndsSolid rest) :
    EndsSolid (text ++ rest) := by
  intro c last
  rw [List.getLast?_append, Option.mem_def, Option.or_eq_some_iff] at last
  rcases last with later | ⟨_, earlier⟩
  · exact second c later
  · exact first c earlier

theorem endsSolid_flatMap {β : Type} {piece : β → List Char} (each : ∀ b, EndsSolid (piece b))
    (all : List β) : EndsSolid (all.flatMap piece) := by
  induction all with
  | nil => rintro c ⟨⟩
  | cons b all ih =>
    rw [List.flatMap_cons]
    exact (each b).append ih

theorem EndsSolid.after (solid : EndsSolid rest) (nonempty : rest ≠ []) (text : List Char) :
    EndsSolid (text ++ rest) := by
  obtain ⟨front, last, rfl⟩ := (List.eq_nil_or_concat' rest).resolve_left nonempty
  rw [← List.append_assoc]
  exact endsSolid_concat (solid last List.getLast?_concat) _

theorem EndsSolid.tail (solid : EndsSolid (c :: text)) : EndsSolid text := by
  cases text with
  | nil => rintro c ⟨⟩
  | cons d text => exact fun last member => solid last (by rwa [List.getLast?_cons_cons])

theorem skipBlank_of_startsSolid (solid : StartsSolid text) : skipBlank text = text := by
  cases text with
  | nil => rfl
  | cons c rest => exact List.dropWhile_cons_of_neg (by rw [solid c rfl]; decide)

theorem skipBlank_cons (blank : isBlank c = true) (rest : List Char) :
    skipBlank (c :: rest) = skipBlank rest :=
  List.dropWhile_cons_of_pos blank

theorem trim_of_solid (starts : StartsSolid text) (ends : EndsSolid text) : trim text = text := by
  have reversed : StartsSolid text.reverse := by
    rw [StartsSolid, List.head?_reverse]
    exact ends
  rw [trim, skipBlank_of_startsSolid starts, trimEnd, skipBlank_of_startsSolid reversed,
    List.reverse_reverse]

theorem leadingRun_append (solid : Solid run) (stop : ∀ c ∈ rest.head?, isBlank c = true) :
    leadingRun (run ++ rest) = run ∧ afterRun (run ++ rest) = rest := by
  have whole : ∀ c ∈ run, (fun c => !isBlank c) c = true := fun c member => by
    simp [solid c member]
  rw [leadingRun, afterRun, List.takeWhile_append_of_pos whole, List.dropWhile_append_of_pos whole]
  cases rest with
  | nil => simp
  | cons c rest => simp [stop c rfl]

theorem solid_leadingRun (text : List Char) : Solid (leadingRun text) := fun c member => by
  simpa using List.all_eq_true.1 List.all_takeWhile c member

theorem afterRun_startsBlank (text : List Char) :
    ∀ c ∈ (afterRun text).head?, isBlank c = true := by
  intro c first
  have stops := List.head?_dropWhile_not (fun c => !isBlank c) text
  rw [Option.mem_def, afterRun] at first
  simpa [first] using stops

theorem startsSolid_skipBlank (text : List Char) : StartsSolid (skipBlank text) := by
  intro c first
  have stops := List.head?_dropWhile_not isBlank text
  rw [Option.mem_def, skipBlank] at first
  simpa [first] using stops

theorem words_nil : words [] = [] := by simp [words]

/-- A blank character parts words; every law of words comes from this one. -/
theorem words_append_blank (blank : isBlank c = true) (text rest : List Char) :
    words (text ++ c :: rest) = words text ++ words rest := by
  rw [words, List.splitOnP_append_cons text rest blank, List.filter_append]
  rfl

theorem words_cons_blank (blank : isBlank c = true) (rest : List Char) :
    words (c :: rest) = words rest := by
  have parted := words_append_blank blank [] rest
  rwa [words_nil] at parted

theorem words_of_solid (nonempty : run ≠ []) (solid : Solid run) : words run = [run] := by
  rw [words, List.splitOnP_eq_singleton solid]
  simp [nonempty]

theorem words_skipBlank (text : List Char) : words (skipBlank text) = words text := by
  induction text with
  | nil => rfl
  | cons c rest ih =>
    cases blank : isBlank c with
    | true => rw [skipBlank_cons blank, words_cons_blank blank, ih]
    | false => rw [skipBlank_of_startsSolid (startsSolid_cons blank rest)]

theorem words_cons_solid (solid : isBlank c = false) (rest : List Char) :
    words (c :: rest) = [c] :: words rest ∨
      ∃ word more, words rest = word :: more ∧ words (c :: rest) = (c :: word) :: more := by
  obtain ⟨piece, pieces, split⟩ := List.exists_cons_of_ne_nil (List.splitOnP_ne_nil isBlank rest)
  have whole : (c :: rest).splitOnP isBlank = (c :: piece) :: pieces := by
    rw [List.splitOnP_cons_eq_if_modifyHead, solid, split]
    rfl
  rw [words, words, whole, split]
  by_cases empty : piece = []
  · left
    simp [empty]
  · right
    exact ⟨piece, pieces.filter (· ≠ []), by simp [empty], by simp⟩

theorem exists_words_append (before : List Char) {word : List Char} {more : List (List Char)}
    (split : words text = word :: more) :
    ∃ earlier front, words (before ++ text) = earlier ++ (front ++ word) :: more := by
  induction before with
  | nil => exact ⟨[], [], split⟩
  | cons c before ih =>
    obtain ⟨earlier, front, whole⟩ := ih
    rw [List.cons_append]
    cases blank : isBlank c with
    | true => exact ⟨earlier, front, by rw [words_cons_blank blank, whole]⟩
    | false =>
      rcases words_cons_solid blank (before ++ text) with alone | ⟨first, others, same, joined⟩
      · exact ⟨[c] :: earlier, front, by rw [alone, whole, List.cons_append]⟩
      · rw [joined]
        cases earlier with
        | nil =>
          obtain ⟨rfl, rfl⟩ := List.cons.inj (whole.symm.trans same)
          exact ⟨[], c :: front, rfl⟩
        | cons head earlier =>
          obtain ⟨rfl, rfl⟩ := List.cons.inj (whole.symm.trans same)
          exact ⟨(c :: head) :: earlier, front, rfl⟩

end VirtualRecords.Text
