/-!
# Computations that may fail

What is known when a computation in `Except` ends well or fails: the two parts of a bind, and the
members of a list that is mapped.
-/

namespace UrlSigning

variable {ε α β : Type}

theorem bind_eq_ok {x : Except ε α} {f : α → Except ε β} {b : β} :
    (x >>= f) = .ok b ↔ ∃ a, x = .ok a ∧ f a = .ok b := by
  cases x with
  | error e =>
      constructor
      · intro h
        cases h
      · rintro ⟨_, h, _⟩
        cases h
  | ok a =>
      constructor
      · intro h
        exact ⟨a, rfl, h⟩
      · rintro ⟨_, ha, hf⟩
        cases ha
        exact hf

theorem bind_eq_error {x : Except ε α} {f : α → Except ε β} {e : ε} :
    (x >>= f) = .error e ↔ x = .error e ∨ ∃ a, x = .ok a ∧ f a = .error e := by
  cases x with
  | error e' =>
      constructor
      · intro h
        cases h
        exact .inl rfl
      · rintro (h | ⟨_, h, _⟩)
        · cases h
          rfl
        · cases h
  | ok a =>
      constructor
      · intro h
        exact .inr ⟨a, rfl, h⟩
      · rintro (h | ⟨_, ha, hf⟩)
        · cases h
        · cases ha
          exact hf

theorem map_eq_ok {f : α → β} {x : Except ε α} {b : β} :
    f <$> x = .ok b ↔ ∃ a, x = .ok a ∧ f a = b := by
  cases x with
  | error e =>
      constructor
      · rintro ⟨⟩
      · rintro ⟨_, ⟨⟩, _⟩
  | ok a =>
      constructor
      · rintro ⟨⟩
        exact ⟨a, rfl, rfl⟩
      · rintro ⟨_, ⟨⟩, rfl⟩
        rfl

theorem map_eq_error {f : α → β} {x : Except ε α} {e : ε} :
    f <$> x = .error e ↔ x = .error e := by
  cases x with
  | error e' =>
      constructor
      · rintro ⟨⟩
        rfl
      · rintro ⟨⟩
        rfl
  | ok a => constructor <;> rintro ⟨⟩

theorem mapError_eq_ok {ε' : Type} {f : ε → ε'} {x : Except ε α} {a : α} :
    x.mapError f = .ok a ↔ x = .ok a := by
  cases x with
  | error e => constructor <;> rintro ⟨⟩
  | ok b =>
      constructor
      · rintro ⟨⟩
        rfl
      · rintro ⟨⟩
        rfl

theorem mapError_eq_error {ε' : Type} {f : ε → ε'} {x : Except ε α} {e : ε'} :
    x.mapError f = .error e ↔ ∃ e', x = .error e' ∧ f e' = e := by
  cases x with
  | error e' =>
      constructor
      · rintro ⟨⟩
        exact ⟨e', rfl, rfl⟩
      · rintro ⟨_, ⟨⟩, rfl⟩
        rfl
  | ok b =>
      constructor
      · rintro ⟨⟩
      · rintro ⟨_, ⟨⟩, _⟩

/-- What a computation fails with, if it does. -/
def error? : Except ε α → Option ε
  | .error e => some e
  | .ok _ => none

@[simp] theorem error?_pure (a : α) : error? (pure a : Except ε α) = none := rfl

/-- Two computations fail with the same if their first parts do and, where these end well, what
comes after them does. -/
theorem error?_bind_congr {x : Except ε α} {y : Except ε β} {γ δ : Type} {f : α → Except ε γ}
    {g : β → Except ε δ} (h : error? x = error? y)
    (hfg : ∀ a b, x = .ok a → y = .ok b → error? (f a) = error? (g b)) :
    error? (x >>= f) = error? (y >>= g) := by
  cases x with
  | error e =>
      cases y with
      | error e' => exact h
      | ok b => cases h
  | ok a =>
      cases y with
      | error e' => cases h
      | ok b => exact hfg a b rfl rfl

theorem error?_mapError_congr {ε' : Type} {x : Except ε α} {y : Except ε β}
    (h : error? x = error? y) (f : ε → ε') : error? (x.mapError f) = error? (y.mapError f) := by
  cases x with
  | error e =>
      cases y with
      | error e' =>
          cases h
          rfl
      | ok b => cases h
  | ok a =>
      cases y with
      | error e' => cases h
      | ok b => rfl

/-- A list fails to be mapped when a member fails and those before it do not. -/
theorem mapM_eq_error_iff {f : α → Except ε β} {xs : List α} {e : ε} :
    xs.mapM f = .error e ↔ ∃ before x after, xs = before ++ x :: after ∧
      (∀ y ∈ before, ∃ z, f y = .ok z) ∧ f x = .error e := by
  induction xs with
  | nil =>
      constructor
      · intro h
        cases h
      · rintro ⟨before, x, after, h, -⟩
        exact absurd h.symm (List.append_ne_nil_of_right_ne_nil _ (List.cons_ne_nil _ _))
  | cons x xs ih =>
      rw [List.mapM_cons, bind_eq_error]
      constructor
      · rintro (h | ⟨y, hy, h⟩)
        · exact ⟨[], x, xs, rfl, by simp, h⟩
        · rcases bind_eq_error.mp h with h | ⟨_, -, h⟩
          · obtain ⟨before, z, after, rfl, hbefore, hz⟩ := ih.mp h
            exact ⟨x :: before, z, after, rfl, List.forall_mem_cons.mpr ⟨⟨y, hy⟩, hbefore⟩, hz⟩
          · cases h
      · rintro ⟨before, z, after, heq, hbefore, hz⟩
        cases before with
        | nil =>
            cases heq
            exact .inl hz
        | cons y before =>
            cases heq
            obtain ⟨⟨w, hw⟩, hbefore⟩ := List.forall_mem_cons.mp hbefore
            have htail := ih.mpr ⟨before, z, after, rfl, hbefore, hz⟩
            exact .inr ⟨w, hw, bind_eq_error.mpr (.inl htail)⟩

theorem exists_of_mapM_eq_error {f : α → Except ε β} {xs : List α} {e : ε}
    (h : xs.mapM f = .error e) : ∃ x ∈ xs, f x = .error e := by
  obtain ⟨before, x, after, rfl, -, hx⟩ := mapM_eq_error_iff.mp h
  exact ⟨x, List.mem_append_right before List.mem_cons_self, hx⟩

theorem exists_mapM_eq_ok {f : α → Except ε β} {xs : List α} (h : ∀ x ∈ xs, ∃ y, f x = .ok y) :
    ∃ ys, xs.mapM f = .ok ys := by
  rcases hys : xs.mapM f with e | ys
  · obtain ⟨x, hx, he⟩ := exists_of_mapM_eq_error hys
    obtain ⟨y, hy⟩ := h x hx
    rw [hy] at he
    cases he
  · exact ⟨ys, rfl⟩

/-- What comes out of mapping a value that may be missing. -/
theorem option_mapM_eq_ok {f : α → Except ε β} {x : Option α} {y : Option β}
    (h : x.mapM f = .ok y) :
    (x = none ∧ y = none) ∨ ∃ v w, x = some v ∧ y = some w ∧ f v = .ok w := by
  cases x with
  | none =>
      cases h
      exact .inl ⟨rfl, rfl⟩
  | some v =>
      obtain ⟨w, hw, rfl⟩ := map_eq_ok.mp h
      exact .inr ⟨v, w, rfl, rfl, hw⟩

theorem option_mapM_eq_error {f : α → Except ε β} {x : Option α} {e : ε}
    (h : x.mapM f = .error e) : ∃ v, x = some v ∧ f v = .error e := by
  cases x with
  | none => cases h
  | some v => exact ⟨v, rfl, map_eq_error.mp h⟩

/-- What comes out of mapping a list comes from one of its members. -/
theorem exists_of_mem_mapM {f : α → Except ε β} {xs : List α} {ys : List β}
    (h : xs.mapM f = .ok ys) {y : β} (hy : y ∈ ys) : ∃ x ∈ xs, f x = .ok y := by
  induction xs generalizing ys with
  | nil =>
      cases h
      cases hy
  | cons x xs ih =>
      rw [List.mapM_cons, bind_eq_ok] at h
      obtain ⟨z, hz, h⟩ := h
      obtain ⟨zs, hzs, h⟩ := bind_eq_ok.mp h
      cases h
      rcases List.mem_cons.mp hy with rfl | hy
      · exact ⟨x, List.mem_cons_self, hz⟩
      · obtain ⟨x', hx', hf⟩ := ih hzs hy
        exact ⟨x', List.mem_cons_of_mem x hx', hf⟩

/-- Each member of a list that is mapped comes out as something. -/
theorem exists_mem_of_mapM {f : α → Except ε β} {xs : List α} {ys : List β}
    (h : xs.mapM f = .ok ys) {x : α} (hx : x ∈ xs) : ∃ y ∈ ys, f x = .ok y := by
  induction xs generalizing ys with
  | nil => cases hx
  | cons z xs ih =>
      rw [List.mapM_cons, bind_eq_ok] at h
      obtain ⟨y, hy, h⟩ := h
      obtain ⟨zs, hzs, h⟩ := bind_eq_ok.mp h
      cases h
      rcases List.mem_cons.mp hx with rfl | hx
      · exact ⟨y, List.mem_cons_self, hy⟩
      · obtain ⟨y', hy', hf⟩ := ih hzs hx
        exact ⟨y', List.mem_cons_of_mem y hy', hf⟩

/-- What maps a list without failing can be done by any function that agrees with it there. -/
theorem mapM_eq_some_of_eq_ok {f : α → Except ε β} {g : α → Option β} {xs : List α} {ys : List β}
    (hfg : ∀ x ∈ xs, ∀ y, f x = .ok y → g x = some y) (h : xs.mapM f = .ok ys) :
    xs.mapM g = some ys := by
  induction xs generalizing ys with
  | nil =>
      cases h
      rfl
  | cons x xs ih =>
      rw [List.mapM_cons, bind_eq_ok] at h
      obtain ⟨y, hy, h⟩ := h
      obtain ⟨zs, hzs, h⟩ := bind_eq_ok.mp h
      cases h
      rw [List.mapM_cons, hfg x List.mem_cons_self y hy,
        ih (fun z hz => hfg z (List.mem_cons_of_mem x hz)) hzs]
      rfl

end UrlSigning
