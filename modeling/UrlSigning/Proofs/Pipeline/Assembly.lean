import UrlSigning.Proofs.Pipeline.Components

/-!
# How a pipeline is assembled

Of what plugins bring, the interceptors are kept one after another, while of the strategies, of the
clocks and of the settings under a key the last one counts. A pipeline brings a strategy and a
clock of its own, so there is nothing that plugins could leave out.

Plugins may also be registered in groups: a group is one plugin, whose builder was made by merging
the builders of its members, which may be groups themselves. Since merging is associative and a
new builder adds nothing, a pipeline is the same whatever groups its plugins come in.
-/

namespace UrlSigning.Pipeline

/-! ## Merging builders -/

namespace Builder

/-- It makes no difference whether a builder is merged with one and then with another, or with the
two merged. -/
theorem merge_assoc (a b c : Builder) : (a.merge b).merge c = a.merge (b.merge c) := by
  simp only [merge, List.append_assoc]
  -- the last strategy and the last clock that are there, on both sides
  cases c.strategy <;> cases c.clock <;> rfl

/-- A new builder adds nothing to one that it is merged into. -/
theorem merge_new (b : Builder) (name : String) : b.merge { name := name } = b := by
  simp only [merge, List.append_nil]
  rfl

/-- The builder with what plugins bring, one after another. -/
def mergeAll (b : Builder) (plugins : List Plugin) : Builder :=
  plugins.foldl (fun b plugin => b.merge plugin.components) b

theorem mergeAll_append (b : Builder) (plugins more : List Plugin) :
    b.mergeAll (plugins ++ more) = (b.mergeAll plugins).mergeAll more :=
  List.foldl_append

/-- A builder that plugins were merged into may be merged on, or the plugins after it. -/
theorem merge_mergeAll (a b : Builder) (plugins : List Plugin) :
    a.merge (b.mergeAll plugins) = (a.merge b).mergeAll plugins := by
  induction plugins generalizing b with
  | nil => rfl
  | cons plugin rest ih =>
      show a.merge ((b.merge plugin.components).mergeAll rest) =
        ((a.merge b).merge plugin.components).mergeAll rest
      rw [ih, merge_assoc]

end Builder

/-! ## Groups of plugins -/

/-- A plugin, or several groups that are combined: their builders are merged, in order, into a new
builder with a name. Which layer a combined plugin has is left open. -/
inductive PluginGroup where
  | single (plugin : Plugin)
  | combined (layer : Option Layer) (name : String) (members : List PluginGroup)

namespace PluginGroup

mutual

/-- The group as one plugin. -/
def asPlugin : PluginGroup → Plugin
  | .single plugin => plugin
  | .combined layer name members =>
      ⟨layer, Builder.mergeAll { name := name } (asPlugins members)⟩

def asPlugins : List PluginGroup → List Plugin
  | [] => []
  | g :: rest => asPlugin g :: asPlugins rest

end

mutual

/-- The plugins that are in a group, in order. -/
def plugins : PluginGroup → List Plugin
  | .single plugin => [plugin]
  | .combined _ _ members => pluginsOf members

def pluginsOf : List PluginGroup → List Plugin
  | [] => []
  | g :: rest => plugins g ++ pluginsOf rest

end

mutual

/-- Merging what a group brings is merging what its plugins bring. -/
theorem merge_asPlugin (b : Builder) (g : PluginGroup) :
    b.merge (asPlugin g).components = b.mergeAll (plugins g) := by
  cases g with
  | single plugin => rfl
  | combined layer name members =>
      rw [asPlugin, plugins, Builder.merge_mergeAll, Builder.merge_new]
      exact mergeAll_asPlugins b members

theorem mergeAll_asPlugins (b : Builder) (groups : List PluginGroup) :
    b.mergeAll (asPlugins groups) = b.mergeAll (pluginsOf groups) := by
  cases groups with
  | nil => rfl
  | cons g rest =>
      rw [asPlugins, pluginsOf, Builder.mergeAll_append, ← merge_asPlugin b g]
      exact mergeAll_asPlugins _ rest

end

end PluginGroup

/-! ## Assembling -/

/-- What the layer of a plugin holds under a key, if the plugin has a layer. -/
def Plugin.setting? (key : SettingKey) (plugin : Plugin) : Option Setting :=
  plugin.layer.bind (·.load? key)

/-- In a fresh bag there is what the last plugin gives whose layer has the key. -/
theorem lastGiven_setting_iff {plugins : List Plugin} {key : SettingKey} {found : Option Setting} :
    LastGiven (·.setting? key) plugins found ↔ (freshBag plugins).load? key = found := by
  rw [lastGiven_iff, Bag.load?_eq, below?_freshBag]
  rfl

/-- The components are those that every pipeline has and those that plugins bring: all the
interceptors, the last strategy and the last clock. -/
structure Components.Assembled (plugins : List Plugin) (c : Components) : Prop where
  interceptors : c.interceptors =
    [.invocationId, .requestInfo, .userAgent] ++ plugins.flatMap (·.components.interceptors)
  strategy : ∃ given, LastGiven (·.components.strategy) plugins given ∧
    c.strategy = given.getD (.standard .immediate)
  clock : ∃ given, LastGiven (·.components.clock) plugins given ∧ c.clock = given.getD .system

theorem assembled_componentsOf (plugins : List Plugin) :
    (componentsOf plugins).Assembled plugins where
  interceptors := rfl
  strategy := ⟨_, lastGiven_findSome? _ plugins, rfl⟩
  clock := ⟨_, lastGiven_findSome? _ plugins, rfl⟩

/-- Whatever plugins a pipeline has, its fresh bag holds under each key what the last of them holds
there whose layer has the key, and there are always components: all the interceptors in order,
behind those of every pipeline, with the last strategy and the last clock that a plugin brings.
Merging builders is associative, so the components do not depend on the groups in which the plugins
are registered. -/
theorem later_plugins_win (plugins : List Plugin) :
    (∀ key found,
      LastGiven (·.setting? key) plugins found ↔ (freshBag plugins).load? key = found) ∧
    (∃ c, (mergedBuilder plugins).build = .ok c ∧ c.Assembled plugins) ∧
    (∀ a b c : Builder, (a.merge b).merge c = a.merge (b.merge c)) ∧
    ∀ groups : List PluginGroup, (mergedBuilder (PluginGroup.asPlugins groups)).build =
      (mergedBuilder (PluginGroup.pluginsOf groups)).build := by
  refine ⟨fun _ _ => lastGiven_setting_iff, ?_, Builder.merge_assoc, ?_⟩
  · exact ⟨componentsOf plugins, build_mergedBuilder plugins, assembled_componentsOf plugins⟩
  · intro groups
    have hmerged : mergedBuilder (PluginGroup.asPlugins groups) =
        mergedBuilder (PluginGroup.pluginsOf groups) :=
      PluginGroup.mergeAll_asPlugins .defaults groups
    rw [hmerged]

end UrlSigning.Pipeline
