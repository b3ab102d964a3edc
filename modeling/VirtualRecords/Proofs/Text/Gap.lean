import VirtualRecords.Proofs.Text.Words

/-! Tokens with white space between them. A gap is a run of white space that is not empty, and
each token stands behind a gap of its own, so that the words of the text are the tokens whatever
the gaps are. -/

namespace VirtualRecords.Text

structure Gap where
  text : List Char
  nonempty : text ≠ []
  blank : text.all isBlank = true

/-- Each token behind a gap, the gaps in their order. -/
def behind : (gaps : ℕ → Gap) → (tokens : List (List Char)) → List Char
  | _, [] => []
  | gaps, token :: tokens => (gaps 0).text ++ (token ++ behind (fun i => gaps (i + 1)) tokens)

variable {text rest token : List Char} {tokens : List (List Char)} {c : Char}

namespace Gap

def space : Gap := ⟨[' '], by decide, by decide⟩

variable (gap : Gap)

theorem isBlank_of_mem (member : c ∈ gap.text) : isBlank c = true :=
  List.all_eq_true.1 gap.blank c member

theorem exists_cons : ∃ c more, gap.text = c :: more ∧ isBlank c = true := by
  obtain ⟨c, more, split⟩ := List.exists_cons_of_ne_nil gap.nonempty
  exact ⟨c, more, split, gap.isBlank_of_mem (split ▸ List.mem_cons_self)⟩

theorem startsBlank (rest : List Char) : ∀ c ∈ (gap.text ++ rest).head?, isBlank c = true := by
  obtain ⟨c, more, split, blank⟩ := gap.exists_cons
  rw [split]
  rintro _ ⟨⟩
  exact blank

theorem skipBlank_append (rest : List Char) : skipBlank (gap.text ++ rest) = skipBlank rest :=
  List.dropWhile_append_of_pos fun _ member => gap.isBlank_of_mem member

theorem takeWhile_append (starts : StartsSolid rest) :
    (gap.text ++ rest).takeWhile isBlank = gap.text := by
  have solidFront : rest.takeWhile isBlank = [] := by
    cases rest with
    | nil => rfl
    | cons c rest => rw [List.takeWhile_cons_of_neg (by rw [starts c rfl]; decide)]
  rw [List.takeWhile_append_of_pos fun _ member => gap.isBlank_of_mem member, solidFront,
    List.append_nil]

theorem words_append (text rest : List Char) :
    words (text ++ (gap.text ++ rest)) = words text ++ words rest := by
  obtain ⟨c, more, split, blank⟩ := gap.exists_cons
  have skipped : words (more ++ rest) = words rest := by
    have behindFirst : more.all isBlank = true := by
      have whole := gap.blank
      rw [split, List.all_cons, Bool.and_eq_true] at whole
      exact whole.2
    rw [← words_skipBlank, skipBlank,
      List.dropWhile_append_of_pos (List.all_eq_true.1 behindFirst)]
    exact words_skipBlank rest
  rw [split, List.cons_append, words_append_blank blank, skipped]

end Gap

theorem behind_append (gaps : ℕ → Gap) (first second : List (List Char)) :
    behind gaps (first ++ second) =
      behind gaps first ++ behind (fun i => gaps (i + first.length)) second := by
  induction first generalizing gaps with
  | nil => rfl
  | cons token first ih =>
    simp only [List.cons_append, behind, ih, List.append_assoc, List.length_cons, Nat.add_assoc]

theorem behind_startsBlank (gaps : ℕ → Gap) (tokens : List (List Char)) :
    ∀ c ∈ (behind gaps tokens).head?, isBlank c = true := by
  cases tokens with
  | nil => rintro c ⟨⟩
  | cons token tokens => exact (gaps 0).startsBlank _

theorem words_behind (whole : ∀ token ∈ tokens, token ≠ [] ∧ Solid token) (gaps : ℕ → Gap)
    (text : List Char) : words (text ++ behind gaps tokens) = words text ++ tokens := by
  induction tokens generalizing gaps text with
  | nil => rw [behind, List.append_nil, List.append_nil]
  | cons token tokens ih =>
    obtain ⟨⟨nonempty, solid⟩, later⟩ := List.forall_mem_cons.1 whole
    rw [behind, Gap.words_append, ih later, words_of_solid nonempty solid, List.singleton_append]

theorem endsSolid_behind (whole : ∀ token ∈ tokens, token ≠ [] ∧ Solid token) (gaps : ℕ → Gap)
    (ends : EndsSolid text) : EndsSolid (text ++ behind gaps tokens) := by
  induction tokens generalizing gaps text with
  | nil => rwa [behind, List.append_nil]
  | cons token tokens ih =>
    obtain ⟨⟨nonempty, solid⟩, later⟩ := List.forall_mem_cons.1 whole
    have here := solid.endsSolid.after nonempty (text ++ (gaps 0).text)
    have whole := ih later (fun i => gaps (i + 1)) here
    simpa [behind] using whole

theorem suffix_behind {last : List Char} (isLast : last ∈ (token :: tokens).getLast?)
    (gaps : ℕ → Gap) : last <:+ token ++ behind gaps tokens := by
  induction tokens generalizing gaps token with
  | nil =>
    rw [List.getLast?_singleton, Option.mem_some] at isLast
    rw [behind, List.append_nil]
    exact isLast ▸ List.suffix_refl token
  | cons next tokens ih =>
    rw [List.getLast?_cons_cons] at isLast
    rw [behind, ← List.append_assoc]
    exact (ih isLast _).trans (List.suffix_append _ _)

theorem not_mem_behind (solid : isBlank c = false) (absent : ∀ token ∈ tokens, c ∉ token)
    (gaps : ℕ → Gap) : c ∉ behind gaps tokens := by
  induction tokens generalizing gaps with
  | nil => exact List.not_mem_nil
  | cons token tokens ih =>
    obtain ⟨here, later⟩ := List.forall_mem_cons.1 absent
    have notGap : c ∉ (gaps 0).text := fun member => by
      rw [(gaps 0).isBlank_of_mem member] at solid
      contradiction
    rw [behind, List.mem_append, List.mem_append]
    exact not_or.2 ⟨notGap, not_or.2 ⟨here, ih later _⟩⟩

theorem mem_behind_iff (blank : isBlank c = true) (solid : ∀ token ∈ tokens, Solid token)
    (gaps : ℕ → Gap) :
    c ∈ behind gaps tokens ↔ ∃ i, i < tokens.length ∧ c ∈ (gaps i).text := by
  induction tokens generalizing gaps with
  | nil => simp [behind]
  | cons token tokens ih =>
    obtain ⟨here, later⟩ := List.forall_mem_cons.1 solid
    have apart : c ∉ token := fun member => by
      rw [here c member] at blank
      contradiction
    have first := Nat.or_exists_add_one (p := fun i => i < (token :: tokens).length ∧
      c ∈ (gaps i).text)
    rw [behind, List.mem_append, List.mem_append, ih later, or_iff_right apart, ← first]
    simp

end VirtualRecords.Text
