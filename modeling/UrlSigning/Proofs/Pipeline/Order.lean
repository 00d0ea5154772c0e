import UrlSigning.Pipeline.Presign
import UrlSigning.Proofs.Pipeline.Disabling

/-!
# The order of plugins

The order in which plugins are registered decides which layer lies on top, in which order the
interceptors are called and whose strategy and clock are used. Two neighbours that share none of
these may change places: the bag holds the same under every key then, and interceptors, the
serializer and the signer see no more of a bag than that.
-/

namespace UrlSigning.Pipeline

open Http Stage

/-- The plugins do not get in each other's way: their layers have no key in common, and at most one
of them has interceptors, at most one a strategy and at most one a clock. -/
structure Plugin.Independent (P Q : Plugin) : Prop where
  layers : ∀ l m, P.layer = some l → Q.layer = some m → List.Disjoint l.keys m.keys
  interceptors : P.components.interceptors = [] ∨ Q.components.interceptors = []
  strategy : P.components.strategy = none ∨ Q.components.strategy = none
  clock : P.components.clock = none ∨ Q.components.clock = none

/-! ## What plugins make together -/

section

variable {P Q : Plugin} (before after : List Plugin)

/-- The last plugin that gives something is the same if one of two neighbours gives nothing. -/
theorem findSome?_swap {β : Type} (give : Plugin → Option β)
    (h : give P = none ∨ give Q = none) :
    (before ++ [P, Q] ++ after).reverse.findSome? give =
      (before ++ [Q, P] ++ after).reverse.findSome? give := by
  simp only [List.reverse_append, List.findSome?_append]
  rcases h with h | h <;> simp [List.findSome?_cons, h]

theorem Layer.load?_eq_none {l : Layer} {key : SettingKey} (h : key ∉ l.keys) :
    l.load? key = none := by
  rcases hl : l.load? key with _ | s
  · rfl
  · exact absurd (List.mem_map_of_mem (Entries.mem_of_get? hl)) h

/-- Of two independent plugins at most one gives something under a key. -/
theorem Plugin.Independent.layer_eq_none (h : P.Independent Q) (key : SettingKey) :
    P.layer.bind (·.load? key) = none ∨ Q.layer.bind (·.load? key) = none := by
  rcases hP : P.layer with _ | l
  · exact .inl rfl
  rcases hQ : Q.layer with _ | m
  · exact .inr rfl
  have hdisjoint := h.layers l m hP hQ
  by_cases hkey : key ∈ l.keys
  · exact .inr (Layer.load?_eq_none fun hm => hdisjoint hkey hm)
  · exact .inl (Layer.load?_eq_none hkey)

theorem chainOf_swap (h : P.Independent Q) :
    chainOf (before ++ [P, Q] ++ after) = chainOf (before ++ [Q, P] ++ after) := by
  unfold chainOf
  rcases h.interceptors with hnone | hnone <;> simp [hnone]

theorem componentsOf_swap (h : P.Independent Q) :
    componentsOf (before ++ [P, Q] ++ after) = componentsOf (before ++ [Q, P] ++ after) := by
  unfold componentsOf strategyOf clockOf
  rw [chainOf_swap before after h, findSome?_swap before after (·.components.strategy) h.strategy,
    findSome?_swap before after (·.components.clock) h.clock]

theorem below?_swap (h : P.Independent Q) (key : SettingKey) :
    (freshBag (before ++ [P, Q] ++ after)).below? key =
      (freshBag (before ++ [Q, P] ++ after)).below? key := by
  rw [below?_freshBag, below?_freshBag]
  exact findSome?_swap before after _ (h.layer_eq_none key)

end

/-! ## Passes whose layers lie in another order -/

/-- The passes are the same, but the layers below what stages write may be others as long as they
hold the same under every key. -/
structure SameButLayers (p q : Pass) : Prop where
  state : p.bag.state = q.bag.state
  below : ∀ key, p.bag.below? key = q.bag.below? key
  request : p.request = q.request
  attempt : p.attempt = q.attempt
  log : p.log = q.log

theorem agreement_sameButLayers :
    Agreement (fun _ => True) (fun _ => True) SameButLayers where
  bag h key := by rw [Bag.load?_eq, Bag.load?_eq, h.state, h.below]
  request h := h.request
  attempt h := h.attempt
  putting s _ h := { h with state := congrArg (Layer.put s) h.state }
  unsetting key h := { h with state := congrArg (Layer.unset key) h.state }
  asking r h := { h with request := rfl }
  telling e _ h := { h with log := congrArg (· ++ [e]) h.log }

section

variable {w : Surroundings} {c : Components} {o : Operation}
  {credentials : Option Signing.Credentials} {bag bag' : Bag}

theorem runAttempt_sameButLayers (hstate : bag.state = bag'.state)
    (hbelow : ∀ key, bag.below? key = bag'.below? key) (attempt : Nat) :
    (runAttempt w bag c o credentials attempt).Related SameButLayers
      (runAttempt w bag' c o credentials attempt) := by
  have hstart : SameButLayers (startPass bag attempt) (startPass bag' attempt) :=
    ⟨hstate, hbelow, rfl, rfl, rfl⟩
  have hsim : Sim SameButLayers ((stepsOf c.interceptors).forM (Step.perform w c o credentials))
      ((stepsOf c.interceptors).forM (Step.perform w c o credentials)) := by
    apply sim_forM
    intro x _
    exact agreement_sameButLayers.sim_perform_step x (fun _ _ => trivial) fun _ _ => trivial
  rw [runAttempt_eq, runAttempt_eq]
  obtain ⟨hresult, hpass⟩ := hsim _ _ hstart
  exact PassOutcome.related_of hresult hpass

theorem log_of_sameButLayers {as bs : List PassOutcome}
    (h : List.Forall₂ (PassOutcome.Related SameButLayers) as bs) :
    as.flatMap (·.pass.log) = bs.flatMap (·.pass.log) := by
  induction h with
  | nil => rfl
  | cons hab _ ih => rw [List.flatMap_cons, List.flatMap_cons, ih, hab.pass.log]

/-- An invocation sees nothing of the bag that it begins with but what that holds. -/
theorem invokeWith_of_below (hstate : bag.state = bag'.state)
    (hbelow : ∀ key, bag.below? key = bag'.below? key) :
    invokeWith w bag c o credentials = invokeWith w bag' c o credentials := by
  rcases hfirst : c.strategy.allowsFirst with _ | _
  · rw [invokeWith_of_refused hfirst, invokeWith_of_refused hfirst]
  · have hattempts (attempt : Nat) : (runAttempt w bag c o credentials attempt).Related
        SameButLayers (runAttempt w bag' c o credentials attempt) :=
      runAttempt_sameButLayers hstate hbelow attempt
    obtain ⟨hresult, hdelays, hpasses⟩ := Retry.runFrom_agree hattempts
      (fun _ _ h => h.result h.pass.request) c.strategy 1 c.strategy.maxAttempts
    rw [invokeWith_of_allowed hfirst, invokeWith_of_allowed hfirst, Retry.run, Retry.run, hresult,
      hdelays, log_of_sameButLayers hpasses]

end

/-! ## Neighbours that change places -/

/-- What is set up for signing and presigning do not get in each other's way. -/
theorem Plugin.independent_presigning (config : Signing.Config) (window : Signing.Window)
    (payload : Signing.Payload) :
    (Plugin.setup config).Independent (.presigning window payload) where
  layers l m hl hm := by
    cases hl
    cases hm
    intro key hkey
    rw [List.mem_singleton.mp hkey]
    change SettingKey.signing ∉ _
    decide
  interceptors := .inl rfl
  strategy := .inl rfl
  clock := .inl rfl

theorem invoke_swap {P Q : Plugin} (h : P.Independent Q) (w : Surroundings)
    (before after : List Plugin) (o : Operation) (credentials : Option Signing.Credentials) :
    invoke w (before ++ [P, Q] ++ after) o credentials =
      invoke w (before ++ [Q, P] ++ after) o credentials := by
  rw [invoke_eq, invoke_eq, componentsOf_swap before after h]
  exact invokeWith_of_below rfl (below?_swap before after h)

/-- Wherever they are registered, neighbours that do not get in each other's way may change places:
the invocation comes to the same result or failure, tells the same, hence calls the same
interceptors at the same hooks, and waits as long. So it makes no difference to a presigned request
whether presigning is registered before or after what is set up for signing. -/
theorem independent_neighbours_commute (w : Surroundings) (before after : List Plugin)
    (o : Operation) (credentials : Option Signing.Credentials) :
    (∀ P Q : Plugin, P.Independent Q →
      let one := invoke w (before ++ [P, Q] ++ after) o credentials
      let other := invoke w (before ++ [Q, P] ++ after) o credentials
      one.result = other.result ∧ one.log = other.log ∧ hookCalls one.log = hookCalls other.log ∧
        one.delays = other.delays) ∧
    ∀ config window payload,
      (invoke w (before ++ [.setup config, .presigning window payload] ++ after) o
          credentials).result.bind (presignedOf window) =
        (invoke w (before ++ [.presigning window payload, .setup config] ++ after) o
          credentials).result.bind (presignedOf window) := by
  constructor
  · intro P Q h
    dsimp only
    rw [invoke_swap h w before after o credentials]
    exact ⟨rfl, rfl, rfl, rfl⟩
  · intro config window payload
    have h := Plugin.independent_presigning config window payload
    rw [invoke_swap h w before after o credentials]

/-- A plugin that leaves a word for the stages and pins the clock. -/
def stamped : Plugin where
  layer := some (Layer.ofSettings "Stamped" [.text "nightly"])
  components := { name := "StampedPlugin", clock := some (.pinned Sample.noon) }

theorem independent_neighbours_commute_stamped :
    stamped.Independent (blocking (some "off")) ∧
    let before := [Plugin.setup (Plugin.setupConfig "us-east-1" "s3" none)]
    let after := [Plugin.presigning Sample.hour .unsigned]
    let credentials : Option Signing.Credentials := some ⟨"AKIDEXAMPLE", "wJalrXUtnFEMI", none⟩
    (invoke Sample.surroundings (before ++ [stamped, blocking (some "off")] ++ after) Sample.upload
        credentials).result =
      (invoke Sample.surroundings (before ++ [blocking (some "off"), stamped] ++ after)
        Sample.upload credentials).result := by
  have h : stamped.Independent (blocking (some "off")) := by
    refine ⟨?_, .inl rfl, .inl rfl, .inr rfl⟩
    intro l m hl hm
    cases hl
    cases hm
    intro key hkey
    rw [List.mem_singleton.mp hkey]
    decide
  refine ⟨h, ?_⟩
  intro before after credentials
  exact ((independent_neighbours_commute _ before after _ credentials).1 _ _ h).1

end UrlSigning.Pipeline
