import Mathlib.Data.List.Forall2

/-! Results that may be errors. A chain of steps is taken apart from its end: if the whole
gave a value, so did every step, and a walk over a list gave one value for each member. -/

namespace VirtualRecords.Outcome

variable {ε δ α β : Type}

@[simp] theorem pure_eq_ok {a b : α} : (pure a : Except ε α) = .ok b ↔ a = b := by
  rw [show (pure a : Except ε α) = .ok a from rfl, Except.ok.injEq]

@[simp] theorem bind_eq_ok {x : Except ε α} {f : α → Except ε β} {b : β} :
    x >>= f = .ok b ↔ ∃ a, x = .ok a ∧ f a = .ok b := by
  cases x with
  | error e => simp [bind, Except.bind]
  | ok a => simp [bind, Except.bind]

theorem bind_pure_eq_ok {x : Except ε α} {f : α → β} {b : β} :
    (do return f (← x)) = Except.ok b ↔ ∃ a, x = .ok a ∧ b = f a := by
  rw [bind_eq_ok]
  refine exists_congr fun a => and_congr_right fun _ => ?_
  rw [pure_eq_ok]
  exact eq_comm

@[simp] theorem pure_ne_error {a : α} {e : ε} : (pure a : Except ε α) ≠ .error e := nofun

theorem bind_eq_error {x : Except ε α} {f : α → Except ε β} {e : ε} :
    x >>= f = .error e ↔ x = .error e ∨ ∃ a, x = .ok a ∧ f a = .error e := by
  cases x with
  | error d => simp [bind, Except.bind]
  | ok a => simp [bind, Except.bind]

theorem bind_pure_eq_error {x : Except ε α} {f : α → β} {e : ε} :
    (do return f (← x)) = Except.error e ↔ x = .error e := by
  cases x with
  | error d => simp [bind, Except.bind]
  | ok a => simp [bind, Except.bind, pure, Except.pure]

theorem map_eq_error {x : Except ε α} {f : α → β} {e : ε} :
    x.map f = .error e ↔ x = .error e := by
  cases x with
  | error d => simp [Except.map]
  | ok a => simp [Except.map]

theorem mapError_eq_error {x : Except ε α} {f : ε → δ} {d : δ} :
    x.mapError f = .error d ↔ ∃ e, x = .error e ∧ f e = d := by
  cases x with
  | error e => simp [Except.mapError]
  | ok a => simp [Except.mapError]

theorem bind_congr_of_ok {x : Except ε α} {f g : α → Except ε β}
    (same : ∀ a, x = .ok a → f a = g a) : x >>= f = x >>= g := by
  cases x with
  | error e => rfl
  | ok a => exact same a rfl

@[simp] theorem mapError_eq_ok {x : Except ε α} {f : ε → δ} {a : α} :
    x.mapError f = .ok a ↔ x = .ok a := by
  cases x with
  | error e => simp [Except.mapError]
  | ok a => simp [Except.mapError]

theorem mapM_forall₂ {f : α → Except ε β} {xs : List α} {ys : List β}
    (walked : xs.mapM f = .ok ys) :
    List.Forall₂ (fun x y => f x = .ok y) xs ys := by
  induction xs generalizing ys with
  | nil =>
    rw [List.mapM_nil, pure_eq_ok] at walked
    exact walked ▸ .nil
  | cons x xs ih =>
    rw [List.mapM_cons, bind_eq_ok] at walked
    obtain ⟨y, first, walked⟩ := walked
    obtain ⟨rest, others, same⟩ := bind_eq_ok.1 walked
    rw [pure_eq_ok] at same
    exact same ▸ .cons first (ih others)

theorem exists_of_mem_of_mapM {f : α → Except ε β} {xs : List α} {ys : List β} {y : β}
    (walked : xs.mapM f = .ok ys) (member : y ∈ ys) : ∃ x ∈ xs, f x = .ok y := by
  have pairs := mapM_forall₂ walked
  clear walked
  induction pairs with
  | nil => cases member
  | cons first _ ih =>
    obtain rfl | later := List.mem_cons.1 member
    · exact ⟨_, List.mem_cons_self, first⟩
    · obtain ⟨x, inside, found⟩ := ih later
      exact ⟨x, List.mem_cons_of_mem _ inside, found⟩

theorem exists_of_mapM_eq_error {f : α → Except ε β} {xs : List α} {e : ε}
    (failed : xs.mapM f = .error e) : ∃ x ∈ xs, f x = .error e := by
  induction xs with
  | nil => cases failed
  | cons x xs ih =>
    rw [List.mapM_cons, bind_eq_error] at failed
    obtain first | ⟨y, -, others⟩ := failed
    · exact ⟨x, List.mem_cons_self, first⟩
    · obtain ⟨later, member, failed⟩ := ih (bind_pure_eq_error.1 others)
      exact ⟨later, List.mem_cons_of_mem x member, failed⟩

theorem exists_eq_ok_iff {x : Except ε α} : (∃ a, x = .ok a) ↔ ∀ e, x ≠ .error e := by
  cases x with
  | error d => simp
  | ok a => simp

/-- The first member at which a walk fails decides its error. -/
theorem mapM_append_eq_error {f : α → Except ε β} {xs ys : List α} {e : ε} :
    (xs ++ ys).mapM f = .error e ↔
      xs.mapM f = .error e ∨ (∃ zs, xs.mapM f = .ok zs) ∧ ys.mapM f = .error e := by
  rw [List.mapM_append, bind_eq_error]
  simp only [bind_pure_eq_error, exists_and_right]

theorem exists_mapM_eq_error_iff {f : α → Except ε β} {xs : List α} :
    (∃ e, xs.mapM f = .error e) ↔ ∃ x ∈ xs, ∃ e, f x = .error e := by
  induction xs with
  | nil => simp
  | cons x xs ih =>
    simp only [List.mapM_cons, List.exists_mem_cons_iff, ← ih, bind_eq_error]
    cases f x with
    | error d => simp
    | ok y => simp

/-- A walk fails with the error of the first member at which it does. -/
theorem mapM_eq_error_iff {f : α → Except ε β} {xs : List α} {e : ε} :
    xs.mapM f = .error e ↔
      ∃ before x after, xs = before ++ x :: after ∧ (∀ y ∈ before, ∃ b, f y = .ok b) ∧
        f x = .error e := by
  constructor
  · intro failed
    induction xs with
    | nil => cases failed
    | cons x xs ih =>
      rw [List.mapM_cons, bind_eq_error] at failed
      obtain first | ⟨b, here, others⟩ := failed
      · exact ⟨[], x, xs, rfl, by simp, first⟩
      · obtain ⟨before, y, after, rfl, passed, fails⟩ := ih (bind_pure_eq_error.1 others)
        exact ⟨x :: before, y, after, rfl, List.forall_mem_cons.2 ⟨⟨b, here⟩, passed⟩, fails⟩
  · rintro ⟨before, x, after, rfl, passed, fails⟩
    have walked : ∃ bs, before.mapM f = .ok bs := by
      refine exists_eq_ok_iff.2 fun d failed => ?_
      obtain ⟨y, member, fault⟩ := exists_of_mapM_eq_error failed
      obtain ⟨b, fine⟩ := passed y member
      rw [fault] at fine
      cases fine
    refine mapM_append_eq_error.2 (.inr ⟨walked, ?_⟩)
    rw [List.mapM_cons]
    exact bind_eq_error.2 (.inl fails)

theorem mapM_singleton_eq_error {f : α → Except ε β} {x : α} {e : ε} :
    [x].mapM f = .error e ↔ f x = .error e := by
  rw [List.mapM_cons]
  exact bind_pure_eq_error

theorem mapM_eq_error_congr {γ : Type} {f : α → Except ε β} {g : α → Except ε γ} {xs : List α}
    (same : ∀ x ∈ xs, ∀ e, f x = .error e ↔ g x = .error e) (e : ε) :
    xs.mapM f = .error e ↔ xs.mapM g = .error e := by
  induction xs with
  | nil => simp
  | cons x xs ih =>
    obtain ⟨here, later⟩ := List.forall_mem_cons.1 same
    have passing : (∃ b, f x = .ok b) ↔ ∃ c, g x = .ok c := by
      simp only [exists_eq_ok_iff, Ne, here]
    simp only [List.mapM_cons, bind_eq_error, pure_ne_error, and_false, exists_false, or_false,
      exists_and_right, here, passing, ih later]

theorem mapM_eq_map {f : α → Except ε β} {g : α → β} {xs : List α} {ys : List β}
    (known : ∀ x y, f x = .ok y → y = g x) (walked : xs.mapM f = .ok ys) : ys = xs.map g := by
  have pairs := mapM_forall₂ walked
  clear walked
  induction pairs with
  | nil => rfl
  | cons first _ ih => rw [known _ _ first, ih, List.map_cons]

theorem forall₂_all_iff {p : β → Bool} {P : α → Prop} {xs : List α} {ys : List β}
    (pairs : List.Forall₂ (fun x y => p y = true ↔ P x) xs ys) :
    ys.all p = true ↔ ∀ x ∈ xs, P x := by
  induction pairs with
  | nil => simp
  | cons first _ ih => simp only [List.all_cons, Bool.and_eq_true, first, ih, List.forall_mem_cons]

theorem forall₂_any_iff {p : β → Bool} {P : α → Prop} {xs : List α} {ys : List β}
    (pairs : List.Forall₂ (fun x y => p y = true ↔ P x) xs ys) :
    ys.any p = true ↔ ∃ x ∈ xs, P x := by
  induction pairs with
  | nil => simp
  | cons first _ ih =>
    simp only [List.any_cons, Bool.or_eq_true, first, ih, List.exists_mem_cons_iff]

end VirtualRecords.Outcome
