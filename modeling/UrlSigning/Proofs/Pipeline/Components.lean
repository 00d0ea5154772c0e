import Mathlib.Data.List.Induction
import UrlSigning.Pipeline.Presign
import UrlSigning.Proofs.Pipeline.Bag

/-!
# The components that plugins make

Merging the plugins of a pipeline in order gives the interceptors of all of them one after another,
and the last strategy and the last clock that one of them brings. Every pipeline starts from a
strategy and a clock, so there are always components.
-/

namespace UrlSigning.Pipeline

/-- The interceptors of a pipeline, in the order in which they are called. -/
def chainOf (plugins : List Plugin) : List Interceptor :=
  Builder.defaults.interceptors ++ plugins.flatMap (·.components.interceptors)

/-- The last strategy that a plugin brings. -/
def strategyOf (plugins : List Plugin) : Retry.Strategy :=
  (plugins.reverse.findSome? (·.components.strategy)).getD (.standard .immediate)

/-- The last clock that a plugin brings. -/
def clockOf (plugins : List Plugin) : Clock :=
  (plugins.reverse.findSome? (·.components.clock)).getD .system

/-- The components of a pipeline. -/
def componentsOf (plugins : List Plugin) : Components :=
  ⟨chainOf plugins, strategyOf plugins, clockOf plugins⟩

/-- What holds of the interceptors that every pipeline has, and of those of the plugins, holds of
all. -/
theorem forall_mem_chainOf {Q : Interceptor → Prop} {plugins : List Plugin}
    (hown : Q .invocationId ∧ Q .requestInfo ∧ Q .userAgent)
    (h : ∀ plugin ∈ plugins, ∀ i ∈ plugin.components.interceptors, Q i) :
    ∀ i ∈ chainOf plugins, Q i := by
  intro i hi
  rcases List.mem_append.mp hi with hi | hi
  · simp only [Builder.defaults, List.mem_cons, List.not_mem_nil, or_false] at hi
    obtain ⟨hid, hinfo, hagent⟩ := hown
    rcases hi with rfl | rfl | rfl
    · exact hid
    · exact hinfo
    · exact hagent
  · obtain ⟨plugin, hplugin, hi⟩ := List.mem_flatMap.mp hi
    exact h plugin hplugin i hi

/-! ## Merging -/

theorem mergedBuilder_append (plugins : List Plugin) (p : Plugin) :
    mergedBuilder (plugins ++ [p]) = (mergedBuilder plugins).merge p.components :=
  List.foldl_append

/-- Merging keeps a strategy and a clock, since there are some at first. -/
theorem mergedBuilder_eq (plugins : List Plugin) :
    mergedBuilder plugins =
      ⟨"defaults", chainOf plugins, some (strategyOf plugins), some (clockOf plugins)⟩ := by
  -- from the end, where the merge that counts was made
  induction plugins using List.reverseRecOn with
  | nil => rfl
  | append_singleton plugins p ih =>
      rw [mergedBuilder_append, ih]
      simp only [Builder.merge, chainOf, strategyOf, clockOf, List.reverse_append,
        List.reverse_singleton, List.singleton_append, List.findSome?_cons, List.flatMap_append,
        List.flatMap_singleton, List.append_assoc]
      cases p.components.strategy <;> cases p.components.clock <;> rfl

theorem build_mergedBuilder (plugins : List Plugin) :
    (mergedBuilder plugins).build = .ok (componentsOf plugins) := by
  rw [mergedBuilder_eq]
  rfl

theorem invoke_eq (w : Surroundings) (plugins : List Plugin) (o : Operation)
    (credentials : Option Signing.Credentials) :
    invoke w plugins o credentials =
      invokeWith w (freshBag plugins) (componentsOf plugins) o credentials := by
  rw [invoke, build_mergedBuilder]

section

variable {w : Surroundings} {bag : Bag} {c : Components} {o : Operation}
  {credentials : Option Signing.Credentials}

theorem invokeWith_of_refused (h : c.strategy.allowsFirst = false) :
    invokeWith w bag c o credentials = ⟨.error (.signing .refused), [], []⟩ := by
  rw [invokeWith, h]
  rfl

theorem invokeWith_of_allowed (h : c.strategy.allowsFirst = true) :
    invokeWith w bag c o credentials =
      ⟨(Retry.run c.strategy PassOutcome.result (runAttempt w bag c o credentials)).result,
        (Retry.run c.strategy PassOutcome.result
          (runAttempt w bag c o credentials)).passes.flatMap (·.pass.log),
        (Retry.run c.strategy PassOutcome.result (runAttempt w bag c o credentials)).delays⟩ := by
  rw [invokeWith, if_pos h]

end

/-! ## The fresh bag -/

@[simp] theorem layers_freshBag (plugins : List Plugin) :
    (freshBag plugins).layers = plugins.filterMap (·.layer) := rfl

theorem written_freshBag (P : Setting → Prop) (plugins : List Plugin) :
    (freshBag plugins).Written P := by
  intro e he
  cases he

/-- What lies under a key is what the last plugin gives whose layer has the key. -/
theorem below?_freshBag (plugins : List Plugin) (key : SettingKey) :
    (freshBag plugins).below? key =
      plugins.reverse.findSome? fun plugin => plugin.layer.bind (·.load? key) := by
  show (plugins.filterMap (·.layer)).reverse.findSome? _ = _
  rw [← List.filterMap_reverse]
  induction plugins.reverse with
  | nil => rfl
  | cons plugin rest ih =>
      rw [List.filterMap_cons, List.findSome?_cons]
      rcases plugin.layer with _ | l
      · exact ih
      · rw [List.findSome?_cons, ih]
        rfl

theorem below?_freshBag_eq_none_iff {plugins : List Plugin} {key : SettingKey} :
    (freshBag plugins).below? key = none ↔
      ∀ plugin ∈ plugins, ∀ l, plugin.layer = some l → l.load? key = none := by
  rw [below?_freshBag, List.findSome?_eq_none_iff]
  constructor
  · intro h plugin hplugin l hl
    have hnone := h plugin (List.mem_reverse.mpr hplugin)
    rwa [hl] at hnone
  · intro h plugin hplugin
    rcases hl : plugin.layer with _ | l
    · rfl
    · exact h plugin (List.mem_reverse.mp hplugin) l hl

/-! ## The plugins of presigning -/

section Presigning

variable (region : Json) (service : String) (window : Signing.Window) (payload : Signing.Payload)
  (plugins : List Plugin)

/-- What holds of the two plugins of presigning holds of all if it holds of the caller's. -/
theorem forall_mem_presignPlugins {P : Plugin → Prop} {plugins : List Plugin}
    (hsetup : ∀ config, P (.setup config)) (hown : P (.presigning window payload))
    (h : ∀ plugin ∈ plugins, P plugin) :
    ∀ plugin ∈ presignPlugins region service window payload plugins, P plugin := by
  intro plugin hplugin
  simp only [presignPlugins, List.cons_append, List.mem_cons, List.mem_append, List.not_mem_nil,
    or_false] at hplugin
  rcases hplugin with rfl | hplugin | rfl
  · exact hsetup _
  · exact h plugin hplugin
  · exact hown

theorem chainOf_presignPlugins :
    chainOf (presignPlugins region service window payload plugins) =
      chainOf plugins ++ [.presigning window payload] := by
  simp [chainOf, presignPlugins, Plugin.setup, Plugin.presigning]

/-- Presigning makes one attempt, whatever strategies the caller's plugins bring. -/
theorem strategyOf_presignPlugins :
    strategyOf (presignPlugins region service window payload plugins) = .once true := by
  simp [strategyOf, presignPlugins, Plugin.presigning]

/-- Presigning is done at the start of the window, whatever clocks the caller's plugins bring. -/
theorem clockOf_presignPlugins :
    clockOf (presignPlugins region service window payload plugins) = .pinned window.start := by
  simp [clockOf, presignPlugins, Plugin.presigning]

end Presigning

end UrlSigning.Pipeline
