import UrlSigning.Pipeline.Bag
import UrlSigning.Proofs.Entries

/-!
# What a bag holds

What stages write goes into the layer on top and hides what lies below; taking it away shows that
again. `Bag.Written` is the invariant of the layer on top: each setting lies under its own key and
has a property that all settings had that were put.

A search from the top down comes to what the last gives that gives something. `LastGiven` says this
without a search, of layers as of anything else that is put one over the other.
-/

namespace UrlSigning.Pipeline

/-! ## The last that gives something -/

section

variable {α β : Type} {give : α → Option β} {xs : List α}

/-- What the last of a list gives that gives something; nothing if none of them does. -/
inductive LastGiven (give : α → Option β) (xs : List α) : Option β → Prop
  | given {before after : List α} {x : α} {y : β} (hxs : xs = before ++ x :: after)
      (hx : give x = some y) (hafter : ∀ later ∈ after, give later = none) :
      LastGiven give xs (some y)
  | missing (h : ∀ x ∈ xs, give x = none) : LastGiven give xs none

/-- The search from the end finds what the last gives that gives something, and that alone. -/
theorem lastGiven_iff {found : Option β} :
    LastGiven give xs found ↔ xs.reverse.findSome? give = found := by
  constructor
  · intro h
    cases h with
    | @given before after x y hxs hx hafter =>
        rw [List.findSome?_eq_some_iff]
        refine ⟨after.reverse, x, before.reverse, by simp [hxs], hx, ?_⟩
        intro later hlater
        exact hafter later (List.mem_reverse.mp hlater)
    | missing h =>
        rw [List.findSome?_eq_none_iff]
        intro x hx
        exact h x (List.mem_reverse.mp hx)
  · rintro rfl
    rcases hfound : xs.reverse.findSome? give with _ | y
    · rw [List.findSome?_eq_none_iff] at hfound
      exact .missing fun x hx => hfound x (List.mem_reverse.mpr hx)
    · obtain ⟨above, x, below, hreverse, hx, habove⟩ := List.findSome?_eq_some_iff.mp hfound
      have hxs : xs = below.reverse ++ x :: above.reverse := by
        rw [← List.reverse_reverse xs, hreverse]
        simp
      exact .given hxs hx fun later hlater => habove later (List.mem_reverse.mp hlater)

theorem lastGiven_findSome? (give : α → Option β) (xs : List α) :
    LastGiven give xs (xs.reverse.findSome? give) :=
  lastGiven_iff.mpr rfl

end

/-! ## Writing and looking up -/

namespace Layer

@[simp] theorem load?_put (s : Setting) (l : Layer) (key : SettingKey) :
    (l.put s).load? key = if s.key = key then some s else l.load? key :=
  Entries.get?_put s.key key s l.values

end Layer

namespace Bag

/-- What the layers below the one on top hold under a key. -/
def below? (key : SettingKey) (b : Bag) : Option Setting :=
  b.layers.reverse.findSome? (·.load? key)

theorem load?_eq (key : SettingKey) (b : Bag) :
    b.load? key = (b.state.load? key).or (b.below? key) := by
  unfold load? below?
  rw [List.findSome?_cons]
  cases b.state.load? key <;> rfl

@[simp] theorem layers_put (s : Setting) (b : Bag) : (b.put s).layers = b.layers := rfl

theorem below?_congr {b c : Bag} (h : b.layers = c.layers) (key : SettingKey) :
    b.below? key = c.below? key := by
  unfold below?
  rw [h]

theorem load?_put (s : Setting) (b : Bag) (key : SettingKey) :
    (b.put s).load? key = if s.key = key then some s else b.load? key := by
  rw [load?_eq, load?_eq, below?_congr (layers_put s b)]
  show ((b.state.put s).load? key).or _ = _
  rw [Layer.load?_put]
  split <;> rfl

@[simp] theorem signing?_put_signing (c : Signing.Config) (b : Bag) :
    (b.put (.signing c)).signing? = some c := by
  simp [signing?, load?_put, Setting.key]

@[simp] theorem headerDefaults?_put_headerDefaults (d : HeaderDefaults) (b : Bag) :
    (b.put (.headerDefaults d)).headerDefaults? = some d := by
  simp [headerDefaults?, load?_put, Setting.key]

@[simp] theorem signing?_put_headerDefaults (d : HeaderDefaults) (b : Bag) :
    (b.put (.headerDefaults d)).signing? = b.signing? := by
  simp [signing?, load?_put, Setting.key]

@[simp] theorem disabledReason?_put_headerDefaults (d : HeaderDefaults) (b : Bag) (kind : String) :
    (b.put (.headerDefaults d)).disabledReason? kind = b.disabledReason? kind := by
  simp [disabledReason?, load?_put, Setting.key]

@[simp] theorem disabledReason?_put_signing (c : Signing.Config) (b : Bag) (kind : String) :
    (b.put (.signing c)).disabledReason? kind = b.disabledReason? kind := by
  simp [disabledReason?, load?_put, Setting.key]

/-! ## Bags that hold the same -/

/-- Under every key the bags hold the same. -/
def HoldsSame (b c : Bag) : Prop := ∀ key, b.load? key = c.load? key

namespace HoldsSame

variable {b c : Bag}

theorem of_eq (h : b = c) : b.HoldsSame c := fun _ => by rw [h]

theorem signing? (h : b.HoldsSame c) : b.signing? = c.signing? := by
  unfold Bag.signing?
  rw [h]

theorem headerDefaults? (h : b.HoldsSame c) : b.headerDefaults? = c.headerDefaults? := by
  unfold Bag.headerDefaults?
  rw [h]

theorem disabledReason? (h : b.HoldsSame c) (kind : String) :
    b.disabledReason? kind = c.disabledReason? kind := by
  unfold Bag.disabledReason?
  rw [h]

end HoldsSame

/-! ## What stages have written -/

/-- Each setting that the stages wrote lies under its key and has the property. -/
def Written (P : Setting → Prop) (b : Bag) : Prop :=
  ∀ e ∈ b.state.values, e.1 = e.2.key ∧ P e.2

variable {P : Setting → Prop} {b : Bag}

theorem Written.put {s : Setting} (h : b.Written P) (hs : P s) : (b.put s).Written P := by
  intro e he
  rcases Entries.mem_put he with rfl | he
  · exact ⟨rfl, hs⟩
  · exact h e he

theorem Written.unset (h : b.Written P) (key : SettingKey) : (b.unset key).Written P :=
  fun e he => h e (Entries.mem_erase he)

/-- What is kept under a key was written with the property, or lies below. -/
theorem Written.of_load? (h : b.Written P) {key : SettingKey} {s : Setting}
    (hs : b.load? key = some s) : (s.key = key ∧ P s) ∨ b.below? key = some s := by
  rw [load?_eq] at hs
  rcases hst : b.state.load? key with _ | t <;> rw [hst] at hs
  · exact .inr hs
  · cases hs
    obtain ⟨hkey, hP⟩ := h _ (Entries.mem_of_get? hst)
    exact .inl ⟨hkey.symm, hP⟩

/-- Where nothing lies below and nothing was written under a key, nothing is kept there. -/
theorem Written.load?_eq_none (h : b.Written P) {key : SettingKey} (hP : ∀ s, P s → s.key ≠ key)
    (hb : b.below? key = none) : b.load? key = none := by
  rcases hs : b.load? key with _ | s
  · rfl
  · rcases h.of_load? hs with ⟨hkey, hPs⟩ | hs
    · exact absurd hkey (hP s hPs)
    · rw [hb] at hs
      cases hs

end Bag

end UrlSigning.Pipeline
