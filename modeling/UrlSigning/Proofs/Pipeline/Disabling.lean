import UrlSigning.Proofs.Event
import UrlSigning.Proofs.Pipeline.Marks
import UrlSigning.Proofs.Retry

/-!
# Interceptors that are switched off

An interceptor that is switched off might as well not be there. `AsIfAbsent` relates a pass of the
pipeline as it is to a pass of the pipeline without the interceptors of a kind: they are the same
but for what is told of interceptors that were passed over. It holds at first and is kept by each
step, because the kind is off wherever it holds.
-/

namespace UrlSigning.Pipeline

open Http Stage

/-- The components without the interceptors of a kind. -/
def Components.without (kind : String) (c : Components) : Components :=
  { c with interceptors := c.interceptors.filter (·.kind ≠ kind) }

/-- The passes are the same but for the interceptors of the kind, which are passed over in the first
one and absent from the second one. The layers are those of the bag that attempts begin with, and no
marker without a reason hides what they hold against the kind. -/
structure AsIfAbsent (kind : String) (fresh : Bag) (p q : Pass) : Prop where
  bag : p.bag = q.bag
  request : p.request = q.request
  attempt : p.attempt = q.attempt
  log : p.log.filter (!·.skips kind) = q.log
  absent : ∀ c ∈ hookCalls p.log, c.kind ≠ kind
  layers : p.bag.layers = fresh.layers
  written : p.bag.Written (· ≠ .disabling kind none)

variable {kind reason : String} {fresh : Bag}

theorem agreement_asIfAbsent (kind : String) (fresh : Bag) :
    Agreement (· ≠ .disabling kind none) (Event.IsApartFrom kind) (AsIfAbsent kind fresh) where
  bag h := .of_eq h.bag
  request h := h.request
  attempt h := h.attempt
  putting s hs h := { h with
    bag := by rw [h.bag]
    written := h.written.put hs }
  unsetting key h := { h with
    bag := by rw [h.bag]
    written := h.written.unset key }
  asking r h := { h with request := rfl }
  telling e he h := { h with
    log := by simp [h.log, he.1]
    absent := by
      intro c hc
      rw [hookCalls_append, List.mem_append] at hc
      rcases hc with hc | hc
      · exact h.absent c hc
      · obtain ⟨e', he', hc⟩ := List.mem_filterMap.mp hc
        rw [List.mem_singleton.mp he'] at hc
        exact he.2 c hc }

/-! ## Calls -/

theorem sim_call_absent
    (hmarked : fresh.below? (.disabling kind) = some (.disabling kind (some reason)))
    (w : Surroundings) (maxAttempts : Nat) (hook : Hook) {i : Interceptor} (hi : i.kind = kind) :
    Sim (AsIfAbsent kind fresh) (i.call w maxAttempts hook) (pure ()) := by
  intro p q h
  have hbelow : p.bag.below? (.disabling kind) = some (.disabling kind (some reason)) := by
    rw [Bag.below?_congr h.layers, hmarked]
  obtain ⟨shown, hshown⟩ := h.written.disabled hbelow
  rw [exec_call_of_disabled (hi ▸ hshown), exec_pure, hi]
  refine ⟨rfl, { h with log := ?_, absent := ?_ }⟩
  · have hskips : (Event.skipped kind hook shown).skips kind = true := by simp [Event.skips]
    simp [h.log, hskips]
  · rw [hookCalls_append, hookCalls_singleton_of_none rfl, List.append_nil]
    exact h.absent

theorem sim_call_present (w : Surroundings) (maxAttempts : Nat) (hook : Hook) {i : Interceptor}
    (hi : i.kind ≠ kind) (hput : ¬ i.behaviour.MayPut (.disabling kind none)) :
    Sim (AsIfAbsent kind fresh) (i.call w maxAttempts hook) (i.call w maxAttempts hook) := by
  refine (agreement_asIfAbsent kind fresh).sim_call w maxAttempts hook i ?_ ?_ ?_ ?_
  · rintro s hs rfl
    exact hput hs
  · intro reason
    exact ⟨by simp [Event.skips, hi], fun c hc => by cases hc⟩
  · intro attempt hasRequest
    refine ⟨rfl, fun c hc => ?_⟩
    cases hc
    exact hi
  · intro service length
    exact ⟨rfl, fun c hc => by cases hc⟩

theorem sim_callAll
    (hmarked : fresh.below? (.disabling kind) = some (.disabling kind (some reason)))
    (w : Surroundings) (maxAttempts : Nat) (hook : Hook) {chain : List Interceptor}
    (hput : ∀ i ∈ chain, i.kind ≠ kind → ¬ i.behaviour.MayPut (.disabling kind none)) :
    Sim (AsIfAbsent kind fresh) (callAll w maxAttempts hook chain)
      (callAll w maxAttempts hook (chain.filter (·.kind ≠ kind))) := by
  induction chain with
  | nil => exact sim_pure ()
  | cons i chain ih =>
      have hrest := ih fun j hj => hput j (List.mem_cons_of_mem i hj)
      by_cases hi : i.kind = kind
      · -- the call has no counterpart, so it is compared with doing nothing
        rw [List.filter_cons_of_neg (by simp [hi])]
        exact sim_bind (n := pure ()) (sim_call_absent hmarked w maxAttempts hook hi)
          fun _ => hrest
      · rw [List.filter_cons_of_pos (by simp [hi])]
        exact sim_bind
          (sim_call_present w maxAttempts hook hi (hput i List.mem_cons_self hi)) fun _ => hrest

/-! ## Attempts -/

section

variable {w : Surroundings} {c : Components} {o : Operation}
  {credentials : Option Signing.Credentials}

theorem sim_attemptStage
    (hmarked : fresh.below? (.disabling kind) = some (.disabling kind (some reason)))
    (hput : ∀ i ∈ c.interceptors, i.kind ≠ kind → ¬ i.behaviour.MayPut (.disabling kind none)) :
    Sim (AsIfAbsent kind fresh) (attemptStage w c o credentials)
      (attemptStage w (c.without kind) o credentials) := by
  have A := agreement_asIfAbsent kind fresh
  have hcall (hook : Hook) := sim_callAll hmarked w c.strategy.maxAttempts hook hput
  -- the signer is no interceptor, so nothing that it tells is left out
  have hsign : Sim (AsIfAbsent kind fresh) (signStage w c.clock credentials)
      (signStage w c.clock credentials) := by
    refine A.sim_signStage c.clock fun config now r e he => ?_
    exact Event.isApartFrom_of_signing (Signing.tellsSigning_sign config credentials now r e he)
  unfold attemptStage
  exact sim_bind (hcall _) fun _ => sim_bind (hcall _) fun _ => sim_bind A.sim_serializeStage
    fun _ => sim_bind (hcall _) fun _ => sim_bind (hcall _) fun _ => sim_bind hsign
      fun _ => hcall _

/-- Attempts that came to the same end and left passes that are the same but for the kind. -/
def PassOutcome.AsIfAbsent (kind : String) (fresh : Bag) (a b : PassOutcome) : Prop :=
  a.failure = b.failure ∧ Pipeline.AsIfAbsent kind fresh a.pass b.pass

theorem PassOutcome.AsIfAbsent.result {a b : PassOutcome} (h : a.AsIfAbsent kind fresh b) :
    a.result = b.result := by
  unfold PassOutcome.result
  rw [h.1, h.2.request]

theorem asIfAbsent_outcome {x y : Except Failure Unit × Pass} (hresult : x.1 = y.1)
    (hpass : AsIfAbsent kind fresh x.2 y.2) :
    (PassOutcome.of x).AsIfAbsent kind fresh (.of y) := by
  have h := PassOutcome.related_of hresult hpass
  exact ⟨h.failure, h.pass⟩

theorem runAttempt_asIfAbsent (hstate : fresh.Written (· ≠ .disabling kind none))
    (hmarked : fresh.below? (.disabling kind) = some (.disabling kind (some reason)))
    (hput : ∀ i ∈ c.interceptors, i.kind ≠ kind → ¬ i.behaviour.MayPut (.disabling kind none))
    (attempt : Nat) :
    (runAttempt w fresh c o credentials attempt).AsIfAbsent kind fresh
      (runAttempt w fresh (c.without kind) o credentials attempt) := by
  rw [runAttempt_eq_attemptStage, runAttempt_eq_attemptStage]
  have hstart : AsIfAbsent kind fresh (startPass fresh attempt) (startPass fresh attempt) :=
    { bag := rfl
      request := rfl
      attempt := rfl
      log := rfl
      absent := fun call hcall => by cases hcall
      layers := rfl
      written := hstate }
  have hsim : Sim (AsIfAbsent kind fresh) (attemptStage w c o credentials)
      (attemptStage w (c.without kind) o credentials) := sim_attemptStage hmarked hput
  obtain ⟨hresult, hpass⟩ := hsim _ _ hstart
  exact asIfAbsent_outcome hresult hpass

/-! ## Invocations -/

theorem log_of_forall₂ {as bs : List PassOutcome}
    (h : List.Forall₂ (PassOutcome.AsIfAbsent kind fresh) as bs) :
    (as.flatMap (·.pass.log)).filter (!·.skips kind) = bs.flatMap (·.pass.log) ∧
      ∀ call ∈ hookCalls (as.flatMap (·.pass.log)), call.kind ≠ kind := by
  induction h with
  | nil => exact ⟨rfl, fun call hcall => by cases hcall⟩
  | cons hab _ ih =>
      rw [List.flatMap_cons, List.flatMap_cons, List.filter_append, ih.1, hab.2.log]
      refine ⟨rfl, fun call hcall => ?_⟩
      rw [hookCalls_append, List.mem_append] at hcall
      rcases hcall with hcall | hcall
      · exact hab.2.absent call hcall
      · exact ih.2 call hcall

/-- An invocation is the invocation without the interceptors of the kind. -/
theorem invokeWith_without (hstate : fresh.Written (· ≠ .disabling kind none))
    (hmarked : fresh.below? (.disabling kind) = some (.disabling kind (some reason)))
    (hput : ∀ i ∈ c.interceptors, i.kind ≠ kind → ¬ i.behaviour.MayPut (.disabling kind none)) :
    (invokeWith w fresh c o credentials).result =
        (invokeWith w fresh (c.without kind) o credentials).result ∧
      (invokeWith w fresh c o credentials).delays =
        (invokeWith w fresh (c.without kind) o credentials).delays ∧
      (invokeWith w fresh c o credentials).log.filter (!·.skips kind) =
        (invokeWith w fresh (c.without kind) o credentials).log ∧
      ∀ call ∈ hookCalls (invokeWith w fresh c o credentials).log, call.kind ≠ kind := by
  have hstrategy : (c.without kind).strategy = c.strategy := rfl
  rcases hfirst : c.strategy.allowsFirst with _ | _
  · rw [invokeWith_of_refused hfirst, invokeWith_of_refused (c := c.without kind) hfirst]
    exact ⟨rfl, rfl, rfl, fun call hcall => by cases hcall⟩
  · have hattempts (n : Nat) : (runAttempt w fresh c o credentials n).AsIfAbsent kind fresh
        (runAttempt w fresh (c.without kind) o credentials n) :=
      runAttempt_asIfAbsent hstate hmarked hput n
    -- the strategy only looks at results, which agree attempt by attempt
    obtain ⟨hresult, hdelays, hpasses⟩ := Retry.runFrom_agree hattempts (fun _ _ h => h.result)
      c.strategy 1 c.strategy.maxAttempts
    rw [invokeWith_of_allowed hfirst, invokeWith_of_allowed (c := c.without kind) hfirst]
    exact ⟨hresult, hdelays, log_of_forall₂ hpasses⟩

end

/-- Where plugins have a marker against a kind and all markers against it give reasons, an
invocation is the invocation without the interceptors of the kind. -/
theorem invoke_without (w : Surroundings) {plugins : List Plugin} (o : Operation)
    (credentials : Option Signing.Credentials) {kind : String}
    (hmarks : ∃ plugin ∈ plugins, plugin.Marks kind)
    (hreasons : ∀ plugin ∈ plugins, plugin.GivesReasons kind) :
    (invoke w plugins o credentials).result =
        (invokeWith w (freshBag plugins) ((componentsOf plugins).without kind) o
          credentials).result ∧
      (invoke w plugins o credentials).delays =
        (invokeWith w (freshBag plugins) ((componentsOf plugins).without kind) o
          credentials).delays ∧
      (invoke w plugins o credentials).log.filter (!·.skips kind) =
        (invokeWith w (freshBag plugins) ((componentsOf plugins).without kind) o credentials).log ∧
      ∀ call ∈ hookCalls (invoke w plugins o credentials).log, call.kind ≠ kind := by
  obtain ⟨reason, hmarked⟩ := below?_eq_some_of_marks hmarks hreasons
  rw [invoke_eq]
  exact invokeWith_without (written_freshBag _ plugins) hmarked
    fun _ hi hne => not_mayPut_of_givesReasons hreasons hi hne

/-- An invocation comes to the same without all the kinds against which plugins have markers. -/
theorem result_invokeWith_withoutAll {w : Surroundings} {plugins : List Plugin} {o : Operation}
    {credentials : Option Signing.Credentials} {kinds : List String} {c : Components}
    (hc : c.interceptors ⊆ chainOf plugins)
    (hmarks : ∀ kind ∈ kinds, ∃ plugin ∈ plugins, plugin.Marks kind)
    (hreasons : ∀ kind ∈ kinds, ∀ plugin ∈ plugins, plugin.GivesReasons kind) :
    (invokeWith w (freshBag plugins) c o credentials).result =
      (invokeWith w (freshBag plugins) (kinds.foldl (fun c kind => c.without kind) c) o
        credentials).result := by
  induction kinds generalizing c with
  | nil => rfl
  | cons kind kinds ih =>
      obtain ⟨reason, hmarked⟩ := below?_eq_some_of_marks (hmarks kind List.mem_cons_self)
        (hreasons kind List.mem_cons_self)
      have hfirst : (invokeWith w (freshBag plugins) c o credentials).result =
          (invokeWith w (freshBag plugins) (c.without kind) o credentials).result :=
        (invokeWith_without (written_freshBag _ plugins) hmarked fun _ hi hne =>
          not_mayPut_of_givesReasons (hreasons kind List.mem_cons_self) (hc hi) hne).1
      -- the kinds go one at a time, and the chain stays within that of the plugins
      have hrest : (c.without kind).interceptors ⊆ chainOf plugins :=
        fun _ hi => hc (List.mem_filter.mp hi).1
      exact hfirst.trans (ih hrest (fun k hk => hmarks k (List.mem_cons_of_mem kind hk))
        fun k hk => hreasons k (List.mem_cons_of_mem kind hk))

/-- As long as all markers against a kind give a reason, a pipeline in which a layer has such a
marker comes to the same as the pipeline without the interceptors of the kind, with the same calls
and the same delays, and no interceptor of the kind is called. With presigning in the pipeline that
holds of all interceptors that every pipeline starts with. An interceptor against whose own kind
there is no marker is called as if there were no markers. -/
theorem disabled_as_if_absent {w : Surroundings} {plugins : List Plugin} {o : Operation}
    {credentials : Option Signing.Credentials} {kind : String}
    (hmarks : ∃ plugin ∈ plugins, plugin.Marks kind)
    (hreasons : ∀ plugin ∈ plugins, plugin.GivesReasons kind) :
    let all := invoke w plugins o credentials
    let without :=
      invokeWith w (freshBag plugins) ((componentsOf plugins).without kind) o credentials
    (all.result = without.result ∧ hookCalls all.log = hookCalls without.log ∧
      all.delays = without.delays ∧ all.log.filter (!·.skips kind) = without.log) ∧
    (∀ call ∈ hookCalls all.log, call.kind ≠ kind) ∧
    (∀ window payload, .presigning window payload ∈ plugins →
      ∀ i ∈ Builder.defaults.interceptors, (∀ plugin ∈ plugins, plugin.GivesReasons i.kind) →
        ∀ call ∈ hookCalls all.log, call.kind ≠ i.kind) ∧
    ∀ attempt done p hook, ∀ i : Interceptor, (∀ plugin ∈ plugins, plugin.LeavesOn i.kind) →
      Reaches w plugins o credentials attempt done p → done ⊆ stepsOf (chainOf plugins) →
        ((Step.call hook i).perform w (componentsOf plugins) o credentials).exec p =
          (i.behaviour.call w (componentsOf plugins).strategy.maxAttempts hook).exec
            { p with log := p.log ++ [.running i.kind hook p.attempt p.request.isSome] } := by
  intro all without
  obtain ⟨hresult, hdelays, hlog, habsent⟩ :=
    invoke_without w o credentials hmarks hreasons
  refine ⟨⟨hresult, ?_, hdelays, hlog⟩, habsent, ?_, ?_⟩
  · rw [← hookCalls_filter_skips kind all.log, hlog]
  · intro window payload hpresigning i hi hreasons'
    have hmarks' : ∃ plugin ∈ plugins, plugin.Marks i.kind :=
      ⟨_, hpresigning, Plugin.marks_presigning window payload hi⟩
    exact (invoke_without w o credentials hmarks' hreasons').2.2.2
  · intro attempt done p hook i hon h hdone
    exact exec_call_of_enabled (h.left_on hdone hon)

/-- A plugin whose layer has a marker against one of its interceptors, which would fail, while the
other one puts a marker of its own against it, with a reason or without. -/
def blocking (reason : Option String) : Plugin where
  layer := some (Layer.ofSettings "Blocking" [.disabling "ScriptB" (some "off")])
  components :=
    { name := "BlockingPlugin"
      interceptors :=
        [⟨"ScriptA", .scripted fun
          | .beforeExecution => [.put (.disabling "ScriptB" reason)]
          | _ => []⟩,
        ⟨"ScriptB", .scripted fun
          | .beforeSerialization => [.fail (.raised .value "boom") none]
          | _ => []⟩] }

theorem disabled_as_if_absent_blocking :
    let plugins := [blocking (some "still off")]
    ((∃ plugin ∈ plugins, plugin.Marks "ScriptB") ∧
      ∀ plugin ∈ plugins, plugin.GivesReasons "ScriptB") ∧
    (invoke Sample.surroundings plugins Sample.upload none).result =
      (invokeWith Sample.surroundings (freshBag plugins) ((componentsOf plugins).without "ScriptB")
        Sample.upload none).result := by
  intro plugins
  have hmarks : ∃ plugin ∈ plugins, plugin.Marks "ScriptB" :=
    ⟨_, List.mem_cons_self, _, _, rfl, rfl⟩
  have hreasons : ∀ plugin ∈ plugins, plugin.GivesReasons "ScriptB" := by
    intro plugin hplugin
    rw [List.mem_singleton.mp hplugin]
    constructor
    · rintro l s ⟨⟩ ⟨⟩
      exact ⟨_, rfl⟩
    · intro i hi hne hs
      rcases List.mem_cons.mp hi with rfl | hi
      · obtain ⟨hook, hs⟩ := hs
        cases hook <;> simp at hs
      · rw [List.mem_singleton.mp hi] at hne
        exact hne rfl
  exact ⟨⟨hmarks, hreasons⟩, (disabled_as_if_absent hmarks hreasons).1.1⟩

/-- A marker without a reason hides the one in the layer: the interceptor is called and fails. -/
theorem blocking_undone :
    let plugins := [Plugin.setup (Plugin.setupConfig "us-east-1" "s3" none), blocking none]
    let all := invoke Sample.surroundings plugins Sample.upload none
    let without := invokeWith Sample.surroundings (freshBag plugins)
      ((componentsOf plugins).without "ScriptB") Sample.upload none
    (freshBag plugins).disabledReason? "ScriptB" = some "off" ∧
      hookCalls all.log ≠ hookCalls without.log ∧
      all.result.mapError Failure.message = .error "boom" ∧
      without.result.mapError Failure.message =
        .error "Unable to sign request without credentials" := by
  decide +kernel

end UrlSigning.Pipeline
