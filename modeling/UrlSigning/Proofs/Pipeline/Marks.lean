import UrlSigning.Proofs.Pipeline.Steps

/-!
# Markers against interceptors

A marker in a bag switches off the interceptors of a kind. Layers of plugins hold markers and
interceptors put them, so whether a kind is switched off can change with every step. Two things
cannot change: a kind against which nobody has a marker stays on, and a kind against which a layer
has a marker stays off as long as all markers against it give a reason.
-/

namespace UrlSigning.Pipeline

open Stage

/-- The plugin never switches off the interceptors of a kind: neither its layer nor an interceptor
of it puts a marker for them. -/
structure Plugin.LeavesOn (kind : String) (plugin : Plugin) : Prop where
  layer : ∀ l, plugin.layer = some l → l.load? (.disabling kind) = none
  interceptors : ∀ i ∈ plugin.components.interceptors, ∀ s, i.behaviour.MayPut s →
    s.key ≠ .disabling kind

/-- The layer of the plugin has a marker against the interceptors of a kind. -/
def Plugin.Marks (kind : String) (plugin : Plugin) : Prop :=
  ∃ l s, plugin.layer = some l ∧ l.load? (.disabling kind) = some s

/-- All markers against the interceptors of a kind that the plugin's layer holds, and all that its
interceptors of other kinds put, give a reason. -/
structure Plugin.GivesReasons (kind : String) (plugin : Plugin) : Prop where
  layer : ∀ l s, plugin.layer = some l → l.load? (.disabling kind) = some s →
    ∃ reason, s = .disabling kind (some reason)
  interceptors : ∀ i ∈ plugin.components.interceptors, i.kind ≠ kind →
    ¬ i.behaviour.MayPut (.disabling kind none)

/-- What an interceptor of a pipeline may put, an interceptor of a plugin may put. -/
theorem mem_of_mayPut {plugins : List Plugin} {i : Interceptor} {s : Setting}
    (hi : i ∈ chainOf plugins) (hs : i.behaviour.MayPut s) :
    ∃ plugin ∈ plugins, i ∈ plugin.components.interceptors := by
  refine forall_mem_chainOf (Q := fun i => i.behaviour.MayPut s →
    ∃ plugin ∈ plugins, i ∈ plugin.components.interceptors) ?_ ?_ i hi hs
  · refine ⟨?_, ?_, ?_⟩ <;> rintro ⟨⟩
  · intro plugin hplugin i hi _
    exact ⟨plugin, hplugin, hi⟩

/-! ## The plugins of presigning -/

theorem Plugin.leavesOn_setup (config : Signing.Config) (kind : String) :
    (Plugin.setup config).LeavesOn kind where
  layer l hl := by
    cases hl
    rfl
  interceptors i hi := by cases hi

theorem Plugin.leavesOn_presigning (window : Signing.Window) (payload : Signing.Payload)
    {kind : String} (hkind : kind ∉ Builder.defaults.interceptors.map (·.kind)) :
    (Plugin.presigning window payload).LeavesOn kind where
  layer l hl := by
    cases hl
    simp [Builder.defaults] at hkind
    simp [Layer.ofSettings, Layer.load?_put, Setting.key, Ne.symm hkind.1, Ne.symm hkind.2.1,
      Ne.symm hkind.2.2]
    rfl
  interceptors i hi s hs := by
    rw [List.mem_singleton.mp hi] at hs
    rcases hs with rfl | ⟨c, rfl⟩ <;> simp [Setting.key]

theorem Plugin.marks_presigning (window : Signing.Window) (payload : Signing.Payload)
    {i : Interceptor} (hi : i ∈ Builder.defaults.interceptors) :
    (Plugin.presigning window payload).Marks i.kind := by
  simp only [Builder.defaults, List.mem_cons, List.not_mem_nil, or_false] at hi
  rcases hi with rfl | rfl | rfl
  · exact ⟨_, _, rfl, rfl⟩
  · exact ⟨_, _, rfl, rfl⟩
  · exact ⟨_, _, rfl, rfl⟩

theorem Plugin.givesReasons_setup (config : Signing.Config) (kind : String) :
    (Plugin.setup config).GivesReasons kind where
  layer l s hl hs := by
    cases hl
    cases hs
  interceptors i hi := by cases hi

theorem Plugin.givesReasons_presigning (window : Signing.Window) (payload : Signing.Payload)
    (kind : String) : (Plugin.presigning window payload).GivesReasons kind where
  layer l s hl hs := by
    cases hl
    simp only [Layer.ofSettings, List.map_cons, List.map_nil, List.foldl_cons, List.foldl_nil,
      Layer.load?_put, Setting.key, SettingKey.disabling.injEq] at hs
    -- the marker for the kind, if there is one, is one of the three
    split at hs
    · next hkind =>
        cases hs
        exact ⟨_, by rw [hkind]⟩
    split at hs
    · next hkind =>
        cases hs
        exact ⟨_, by rw [hkind]⟩
    split at hs
    · next hkind =>
        cases hs
        exact ⟨_, by rw [hkind]⟩
    · cases hs
  interceptors i hi _ hs := by
    rw [List.mem_singleton.mp hi] at hs
    rcases hs with hs | ⟨c, hs⟩ <;> cases hs

/-! ## Kinds that stay on -/

theorem below?_eq_none_of_leavesOn {plugins : List Plugin} {kind : String}
    (hon : ∀ plugin ∈ plugins, plugin.LeavesOn kind) :
    (freshBag plugins).below? (.disabling kind) = none :=
  below?_freshBag_eq_none_iff.mpr fun plugin hplugin => (hon plugin hplugin).layer

/-- Wherever an attempt stands, a kind that no plugin switches off is on. -/
theorem Reaches.left_on {w : Surroundings} {plugins : List Plugin} {o : Operation}
    {credentials : Option Signing.Credentials} {attempt : Nat} {done : List Step} {p : Pass}
    {kind : String} (h : Reaches w plugins o credentials attempt done p)
    (hdone : done ⊆ stepsOf (chainOf plugins))
    (hon : ∀ plugin ∈ plugins, plugin.LeavesOn kind) :
    p.bag.disabledReason? kind = none := by
  have hput : ∀ i ∈ chainOf plugins, ∀ s, i.behaviour.MayPut s → s.key ≠ .disabling kind := by
    intro i hi s hs
    obtain ⟨plugin, hplugin, hi'⟩ := mem_of_mayPut hi hs
    exact (hon plugin hplugin).interceptors i hi' s hs
  obtain ⟨hlayers, hwritten⟩ := h.written hdone hput
  have hbelow : p.bag.below? (.disabling kind) = none := by
    rw [Bag.below?_congr hlayers]
    exact below?_eq_none_of_leavesOn hon
  rw [Bag.disabledReason?, hwritten.load?_eq_none (fun _ hs => hs) hbelow]

/-! ## Kinds that stay off -/

theorem exists_of_below?_eq_some {plugins : List Plugin} {key : SettingKey} {s : Setting}
    (h : (freshBag plugins).below? key = some s) :
    ∃ plugin ∈ plugins, ∃ l, plugin.layer = some l ∧ l.load? key = some s := by
  rw [below?_freshBag] at h
  obtain ⟨plugin, hplugin, hs⟩ := List.exists_of_findSome?_eq_some h
  obtain ⟨l, hl, hs⟩ := Option.bind_eq_some_iff.mp hs
  exact ⟨plugin, List.mem_reverse.mp hplugin, l, hl, hs⟩

/-- Where a plugin has a marker and all markers give reasons, the topmost one in the layers does. -/
theorem below?_eq_some_of_marks {plugins : List Plugin} {kind : String}
    (hmarks : ∃ plugin ∈ plugins, plugin.Marks kind)
    (hreasons : ∀ plugin ∈ plugins, plugin.GivesReasons kind) :
    ∃ reason, (freshBag plugins).below? (.disabling kind) =
      some (.disabling kind (some reason)) := by
  obtain ⟨plugin, hplugin, l, s, hl, hs⟩ := hmarks
  rcases ht : (freshBag plugins).below? (.disabling kind) with _ | t
  · have hnone := below?_freshBag_eq_none_iff.mp ht plugin hplugin l hl
    rw [hs] at hnone
    cases hnone
  · obtain ⟨plugin', hplugin', l', hl', ht'⟩ := exists_of_below?_eq_some ht
    obtain ⟨reason, rfl⟩ := (hreasons plugin' hplugin').layer l' t hl' ht'
    exact ⟨reason, rfl⟩

theorem not_mayPut_of_givesReasons {plugins : List Plugin} {kind : String}
    (hreasons : ∀ plugin ∈ plugins, plugin.GivesReasons kind) {i : Interceptor}
    (hi : i ∈ chainOf plugins) (hne : i.kind ≠ kind) :
    ¬ i.behaviour.MayPut (.disabling kind none) := by
  intro hs
  obtain ⟨plugin, hplugin, hi'⟩ := mem_of_mayPut hi hs
  exact (hreasons plugin hplugin).interceptors i hi' hne hs

/-- A marker with a reason in the layers can be hidden by what stages write, but not by a marker
without a reason if there is none, and so the kind is off. -/
theorem Bag.Written.disabled {b : Bag} {kind reason : String}
    (h : b.Written (· ≠ .disabling kind none))
    (hbelow : b.below? (.disabling kind) = some (.disabling kind (some reason))) :
    ∃ shown, b.disabledReason? kind = some shown := by
  rw [Bag.disabledReason?, Bag.load?_eq, hbelow]
  rcases hst : b.state.load? (.disabling kind) with _ | s
  · exact ⟨reason, rfl⟩
  · obtain ⟨hkey, hs⟩ := h _ (Entries.mem_of_get? hst)
    -- a setting under the key of a marker is a marker
    rcases s with _ | _ | ⟨k, r⟩ | ⟨_ | _, _⟩ | _ | _ | _ | _ <;> simp [Setting.key] at hkey
    subst hkey
    rcases r with _ | r
    · exact absurd rfl hs
    · exact ⟨r, rfl⟩

end UrlSigning.Pipeline
