import Mathlib.Data.List.Induction
import UrlSigning.Proofs.Pipeline.Bag

/-!
# A bag as one layer

A bag changes in three ways: a setting is put, what was written under a key is taken away, and a
layer is pushed. What is found under a key depends on the last of them that counts: the put that
still stands, else the topmost of the layers with the key. `Finds` says this of the changes alone.

Looking for a key goes down the stack and stops at the first layer with the key; making the bag
into one layer goes up the stack and lets each layer overwrite what came before. Since the keys of
a layer are distinct, both find the same (`get?_foldl_putAll`), and so do bags that are then
written to.
-/

namespace UrlSigning.Pipeline

/-- What changes a bag. In a layer that is pushed each key comes once. -/
inductive Change where
  | put (s : Setting)
  | unset (key : SettingKey)
  | push (l : Layer) (distinct : l.keys.Nodup)

namespace Change

def apply : Change → Bag → Bag
  | .put s, b => b.put s
  | .unset key, b => b.unset key
  | .push l _, b => b.push l

/-- Whether the change decides what is written under a key. -/
def Writes (key : SettingKey) : Change → Prop
  | .put s => s.key = key
  | .unset k => k = key
  | .push _ _ => False

def layer? : Change → Option Layer
  | .push l _ => some l
  | _ => none

end Change

/-- The bag after changes, from an empty one. -/
def changed (changes : List Change) : Bag :=
  changes.foldl (fun b c => c.apply b) {}

/-- The layers pushed, from the bottom up. -/
def pushed (changes : List Change) : List Layer :=
  changes.filterMap Change.layer?

/-- A setting was put, and nothing after that wrote under its key or took it away. -/
def StandsPut (changes : List Change) (s : Setting) : Prop :=
  ∃ before after, changes = before ++ .put s :: after ∧ ∀ c ∈ after, ¬c.Writes s.key

/-- The last of the layers that has the key. -/
def IsLastWith (key : SettingKey) (layers : List Layer) (l : Layer) : Prop :=
  ∃ before after, layers = before ++ l :: after ∧ l.has key = true ∧
    ∀ above ∈ after, above.has key = false

/-- What there is under a key after changes. -/
inductive Finds (changes : List Change) (key : SettingKey) : Option Setting → Prop
  | written {s : Setting} (hkey : s.key = key) (hs : StandsPut changes s) :
      Finds changes key (some s)
  | below {l : Layer} (hput : ∀ s, s.key = key → ¬StandsPut changes s)
      (hl : IsLastWith key (pushed changes) l) : Finds changes key (l.load? key)
  | missing (hput : ∀ s, s.key = key → ¬StandsPut changes s)
      (hl : ∀ l ∈ pushed changes, l.has key = false) : Finds changes key none

/-! ## Layers -/

namespace Layer

theorem nodup_keys_put (s : Setting) {l : Layer} (h : l.keys.Nodup) : (l.put s).keys.Nodup :=
  Entries.nodup_keys_put s.key s h

theorem nodup_keys_unset (key : SettingKey) {l : Layer} (h : l.keys.Nodup) :
    (l.unset key).keys.Nodup :=
  List.Nodup.sublist (Entries.keys_erase_sublist key l.values) h

theorem load?_unset {l : Layer} (h : l.keys.Nodup) (k key : SettingKey) :
    (l.unset k).load? key = if k = key then none else l.load? key :=
  Entries.get?_erase h key

theorem load?_eq_none_iff {l : Layer} {key : SettingKey} :
    l.load? key = none ↔ l.has key = false :=
  Option.isSome_eq_false_iff.trans Option.isNone_iff_eq_none |>.symm

theorem has_iff_exists {l : Layer} {key : SettingKey} :
    l.has key = true ↔ ∃ s, l.load? key = some s :=
  Option.isSome_iff_exists

/-- Layers put one over the other hold what the topmost with the key holds. -/
theorem get?_foldl_putAll {layers : List Layer} (h : ∀ l ∈ layers, l.keys.Nodup)
    (key : SettingKey) (es : Entries SettingKey Setting) :
    Entries.get? key (layers.foldl (fun es l => es.putAll l.values) es) =
      (layers.reverse.findSome? (·.load? key)).or (Entries.get? key es) := by
  induction layers generalizing es with
  | nil => rfl
  | cons l rest ih =>
      obtain ⟨hl, hrest⟩ := List.forall_mem_cons.mp h
      rw [List.foldl_cons, ih hrest, Entries.get?_putAll hl, ← Option.or_assoc,
        List.reverse_cons, List.findSome?_append]
      congr 1
      show _ = (rest.reverse.findSome? _).or ([l].findSome? _)
      rw [List.findSome?_singleton]
      rfl

end Layer

theorem IsLastWith.has {key : SettingKey} {layers : List Layer} {l : Layer}
    (h : IsLastWith key layers l) : l.has key = true := by
  obtain ⟨_, _, _, hhas, _⟩ := h
  exact hhas

/-- The search from the top down ends at the last layer with the key. -/
theorem findSome?_reverse_eq_some_iff {layers : List Layer} {key : SettingKey} {s : Setting} :
    layers.reverse.findSome? (·.load? key) = some s ↔
      ∃ l, IsLastWith key layers l ∧ l.load? key = some s := by
  rw [← lastGiven_iff]
  constructor
  · intro h
    cases h with
    | @given below above l _ hlayers hl habove =>
        refine ⟨l, ⟨below, above, hlayers, Layer.has_iff_exists.mpr ⟨s, hl⟩, ?_⟩, hl⟩
        intro a ha
        exact Layer.load?_eq_none_iff.mp (habove a ha)
  · rintro ⟨l, ⟨below, above, hlayers, -, habove⟩, hl⟩
    exact .given hlayers hl fun a ha => Layer.load?_eq_none_iff.mpr (habove a ha)

/-! ## Each key once -/

namespace Bag

/-- In no layer does a key come twice. -/
structure IsDistinct (b : Bag) : Prop where
  state : b.state.keys.Nodup
  layers : ∀ l ∈ b.layers, l.keys.Nodup

namespace IsDistinct

variable {b : Bag}

theorem apply (h : b.IsDistinct) (c : Change) : (c.apply b).IsDistinct := by
  cases c with
  | put s => exact ⟨Layer.nodup_keys_put s h.state, h.layers⟩
  | unset key => exact ⟨Layer.nodup_keys_unset key h.state, h.layers⟩
  | push l distinct =>
      refine ⟨h.state, ?_⟩
      intro l' hl'
      rcases List.mem_append.mp hl' with hl' | hl'
      · exact h.layers l' hl'
      · exact List.mem_singleton.mp hl' ▸ distinct

/-- A change leaves what is written under the keys that it does not write. -/
theorem load?_state_apply (h : b.IsDistinct) {c : Change} {key : SettingKey}
    (hc : ¬c.Writes key) : (c.apply b).state.load? key = b.state.load? key := by
  cases c with
  | put s => exact (Layer.load?_put s b.state key).trans (if_neg hc)
  | unset k => exact (Layer.load?_unset h.state k key).trans (if_neg hc)
  | push l distinct => rfl

/-- Under a key that a change writes there is what it puts, if it puts something. -/
theorem load?_state_apply_iff (h : b.IsDistinct) {c : Change} {key : SettingKey}
    (hc : c.Writes key) {s : Setting} :
    (c.apply b).state.load? key = some s ↔ c = .put s := by
  cases c with
  | put t =>
      show (b.state.put t).load? key = _ ↔ _
      rw [Layer.load?_put, if_pos (show t.key = key from hc), Option.some.injEq, Change.put.injEq]
  | unset k =>
      show (b.state.unset k).load? key = _ ↔ _
      rw [Layer.load?_unset h.state, if_pos (show k = key from hc)]
      simp
  | push l distinct => exact hc.elim

/-- The bag and the one layer made of it hold the same. -/
theorem load?_freeze (h : b.IsDistinct) (name : String) (key : SettingKey) :
    (b.freeze name).load? key = b.load? key := by
  have hall : ∀ l ∈ b.layers ++ [b.state], l.keys.Nodup := by
    intro l hl
    rcases List.mem_append.mp hl with hl | hl
    · exact h.layers l hl
    · exact List.mem_singleton.mp hl ▸ h.state
  refine (Layer.get?_foldl_putAll hall key []).trans ?_
  rw [List.reverse_append]
  exact Option.or_none

end IsDistinct

/-- Something is found under a key just when a layer has the key. -/
theorem isSome_load?_iff (b : Bag) (key : SettingKey) :
    (b.load? key).isSome = true ↔
      b.state.has key = true ∨ ∃ l ∈ b.layers, l.has key = true := by
  unfold load?
  rw [List.findSome?_isSome_iff]
  constructor
  · rintro ⟨l, hl, hsome⟩
    rcases List.mem_cons.mp hl with rfl | hl
    · exact .inl hsome
    · exact .inr ⟨l, List.mem_reverse.mp hl, hsome⟩
  · rintro (h | ⟨l, hl, h⟩)
    · exact ⟨b.state, List.mem_cons_self, h⟩
    · exact ⟨l, List.mem_cons_of_mem _ (List.mem_reverse.mpr hl), h⟩

/-- The bag after settings are put one after another. -/
def putAll (settings : List Setting) (b : Bag) : Bag :=
  settings.foldl (fun b s => b.put s) b

theorem HoldsSame.putAll {b c : Bag} (h : b.HoldsSame c) (settings : List Setting) :
    (b.putAll settings).HoldsSame (c.putAll settings) := by
  induction settings generalizing b c with
  | nil => exact h
  | cons s rest ih =>
      apply ih
      intro key
      rw [load?_put, load?_put, h key]

end Bag

/-! ## After changes -/

theorem changed_concat (changes : List Change) (c : Change) :
    changed (changes ++ [c]) = c.apply (changed changes) :=
  List.foldl_append

theorem isDistinct_changed (changes : List Change) : (changed changes).IsDistinct := by
  induction changes using List.reverseRecOn with
  | nil => exact ⟨List.nodup_nil, fun _ h => absurd h List.not_mem_nil⟩
  | append_singleton changes c ih =>
      rw [changed_concat]
      exact ih.apply c

theorem layers_changed (changes : List Change) : (changed changes).layers = pushed changes := by
  induction changes using List.reverseRecOn with
  | nil => rfl
  | append_singleton changes c ih =>
      rw [changed_concat, pushed, List.filterMap_append, ← pushed, ← ih]
      cases c with
      | put s => exact (List.append_nil _).symm
      | unset key => exact (List.append_nil _).symm
      | push l distinct => rfl

/-- A put stands if it is the last change, or stood before and the last one leaves its key alone. -/
theorem standsPut_concat_iff {changes : List Change} {c : Change} {s : Setting} :
    StandsPut (changes ++ [c]) s ↔ c = .put s ∨ (StandsPut changes s ∧ ¬c.Writes s.key) := by
  constructor
  · rintro ⟨before, after, heq, hafter⟩
    rcases List.eq_nil_or_concat after with rfl | ⟨after, last, rfl⟩
    · obtain ⟨-, h⟩ := List.append_inj' heq rfl
      exact .inl (List.singleton_inj.mp h)
    · rw [List.concat_eq_append] at heq hafter
      rw [← List.cons_append, ← List.append_assoc] at heq
      obtain ⟨rfl, h⟩ := List.append_inj' heq rfl
      cases h
      refine .inr ⟨⟨before, after, rfl, ?_⟩, ?_⟩
      · intro c hc
        exact hafter c (List.mem_append_left _ hc)
      · exact hafter c (List.mem_append_right _ List.mem_cons_self)
  · rintro (rfl | ⟨⟨before, after, rfl, hafter⟩, hc⟩)
    · exact ⟨changes, [], rfl, fun _ h => absurd h List.not_mem_nil⟩
    · refine ⟨before, after ++ [c], by simp, ?_⟩
      intro c' hc'
      rcases List.mem_append.mp hc' with hc' | hc'
      · exact hafter c' hc'
      · exact List.mem_singleton.mp hc' ▸ hc

/-- What is written under a key is what was put there and still stands. -/
theorem load?_state_changed_iff {changes : List Change} {key : SettingKey} {s : Setting} :
    (changed changes).state.load? key = some s ↔ s.key = key ∧ StandsPut changes s := by
  induction changes using List.reverseRecOn with
  | nil =>
      constructor
      · intro h
        cases h
      · rintro ⟨-, before, after, h, -⟩
        simp at h
  | append_singleton changes c ih =>
      have hdistinct := isDistinct_changed changes
      rw [changed_concat, standsPut_concat_iff]
      by_cases hc : c.Writes key
      · -- the last change decides alone
        rw [hdistinct.load?_state_apply_iff hc]
        constructor
        · rintro rfl
          exact ⟨hc, .inl rfl⟩
        · rintro ⟨rfl, hput | ⟨-, hleaves⟩⟩
          · exact hput
          · exact absurd hc hleaves
      · rw [hdistinct.load?_state_apply hc, ih]
        constructor
        · rintro ⟨rfl, hs⟩
          exact ⟨rfl, .inr ⟨hs, hc⟩⟩
        · rintro ⟨rfl, rfl | ⟨hs, -⟩⟩
          · exact absurd rfl hc
          · exact ⟨rfl, hs⟩

/-- Nothing is written under a key just when no put there still stands. -/
theorem load?_state_changed_eq_none_iff {changes : List Change} {key : SettingKey} :
    (changed changes).state.load? key = none ↔ ∀ s, s.key = key → ¬StandsPut changes s := by
  rw [Option.eq_none_iff_forall_ne_some]
  constructor
  · intro h s hkey hs
    exact h s (load?_state_changed_iff.mpr ⟨hkey, hs⟩)
  · intro h s hs
    obtain ⟨hkey, hs⟩ := load?_state_changed_iff.mp hs
    exact h s hkey hs

/-- What is found under a key is what `Finds` says, and that alone. -/
theorem finds_iff {changes : List Change} {key : SettingKey} {found : Option Setting} :
    Finds changes key found ↔ (changed changes).load? key = found := by
  rw [Bag.load?_eq, Bag.below?, layers_changed]
  constructor
  · intro h
    cases h with
    | written hkey hs => rw [load?_state_changed_iff.mpr ⟨hkey, hs⟩, Option.some_or]
    | below hput hl =>
        obtain ⟨s, hs⟩ := Layer.has_iff_exists.mp hl.has
        rw [load?_state_changed_eq_none_iff.mpr hput, Option.none_or, hs]
        exact findSome?_reverse_eq_some_iff.mpr ⟨_, hl, hs⟩
    | missing hput hl =>
        rw [load?_state_changed_eq_none_iff.mpr hput, Option.none_or, List.findSome?_eq_none_iff]
        intro l hmem
        exact Layer.load?_eq_none_iff.mpr (hl l (List.mem_reverse.mp hmem))
  · rintro rfl
    rcases hstate : (changed changes).state.load? key with _ | s
    · have hput := load?_state_changed_eq_none_iff.mp hstate
      rw [Option.none_or]
      rcases hbelow : (pushed changes).reverse.findSome? (·.load? key) with _ | s
      · rw [hbelow]
        rw [List.findSome?_eq_none_iff] at hbelow
        refine .missing hput ?_
        intro l hmem
        exact Layer.load?_eq_none_iff.mp (hbelow l (List.mem_reverse.mpr hmem))
      · obtain ⟨l, hl, hs⟩ := findSome?_reverse_eq_some_iff.mp hbelow
        rw [hbelow, ← hs]
        exact .below hput hl
    · obtain ⟨hkey, hs⟩ := load?_state_changed_iff.mp hstate
      exact .written hkey hs

/-- Whatever changes a bag went through, what is found under a key is the put that stands there,
else what the last layer pushed with the key holds, else nothing. The one layer made of the bag
holds the same and has the keys that some layer of the bag has, and a bag of that layer alone
cannot be told from the first one, whatever is put into both. -/
theorem freeze_changed (changes : List Change) (name : String) :
    (∀ key found, Finds changes key found ↔ (changed changes).load? key = found) ∧
    (∀ key, ((changed changes).freeze name).load? key = (changed changes).load? key) ∧
    (∀ key, ((changed changes).freeze name).has key = true ↔
      (changed changes).state.has key = true ∨
        ∃ l ∈ (changed changes).layers, l.has key = true) ∧
    ∀ settings key,
      (Bag.putAll settings { layers := [(changed changes).freeze name] }).load? key =
        ((changed changes).putAll settings).load? key := by
  have hfreeze := (isDistinct_changed changes).load?_freeze name
  refine ⟨fun _ _ => finds_iff, hfreeze, ?_, ?_⟩
  · intro key
    rw [← Bag.isSome_load?_iff, ← hfreeze key]
    rfl
  · intro settings
    apply Bag.HoldsSame.putAll
    intro key
    rw [← hfreeze key, Bag.load?_eq]
    exact List.findSome?_singleton

end UrlSigning.Pipeline
