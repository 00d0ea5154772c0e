import UrlSigning.Pipeline.Presign
import UrlSigning.Proofs.Event
import UrlSigning.Proofs.Pipeline.Steps
import UrlSigning.Proofs.Retry

/-!
# Presigning is one attempt at one instant

Whatever strategies and clocks a caller's plugins bring, presigning makes one attempt, does not wait
and signs for the start of the window. In that attempt each interceptor is called at most once at
each hook, and the failure of the first step that fails is the failure of presigning.
-/

namespace UrlSigning.Pipeline

open Http Stage

/-! ## The calls of an attempt -/

/-- The call that a step may make. -/
def Step.calls (attempt : Int) : Step → List HookCall
  | .call hook i => [⟨i.kind, hook, attempt⟩]
  | _ => []

/-- Each interceptor of a chain called once at each hook, in an attempt. -/
def callsOf (chain : List Interceptor) (attempt : Int) : List HookCall :=
  Hook.all.flatMap fun hook => chain.map fun i => ⟨i.kind, hook, attempt⟩

@[simp] theorem flatMap_calls_callsAt (attempt : Int) (hook : Hook) (chain : List Interceptor) :
    (callsAt hook chain).flatMap (Step.calls attempt) =
      chain.map fun i => ⟨i.kind, hook, attempt⟩ := by
  induction chain with
  | nil => rfl
  | cons i chain ih => exact congrArg (_ :: ·) ih

theorem flatMap_calls_stepsOf (attempt : Int) (chain : List Interceptor) :
    (stepsOf chain).flatMap (Step.calls attempt) = callsOf chain attempt := by
  simp [stepsOf, stepsToSigner, stepsToSerializer, stepsFromSerializer, callsOf, Hook.all,
    Step.calls]

/-- The calls that were told of and the number of the attempt stay, as long as nothing but events
of other kinds is told. -/
theorem agreement_calls (made : List HookCall) (attempt : Int) :
    Agreement (fun _ => True) (fun e => e.hookCall? = none)
      fun p q => p = q ∧ (hookCalls p.log = made ∧ p.attempt = attempt) :=
  .ofInvariant (fun _ _ h => h) (fun _ h => h) (fun _ h => h) fun e he h =>
    ⟨by rw [hookCalls_append, hookCalls_singleton_of_none he, List.append_nil, h.1], h.2⟩

section

variable {w : Surroundings} {c : Components} {o : Operation}
  {credentials : Option Signing.Credentials} {p q : Pass} {r : Except Failure Unit}

/-- A step makes at most the call that it may make, in the attempt in which it is performed. -/
theorem exec_perform_calls {x : Step} (h : (x.perform w c o credentials).exec p = (r, q)) :
    q.attempt = p.attempt ∧
      ∃ made, made.Sublist (x.calls p.attempt) ∧ hookCalls q.log = hookCalls p.log ++ made := by
  have A := agreement_calls (hookCalls p.log) p.attempt
  cases x with
  | call hook i =>
      change (i.call w _ hook).exec p = _ at h
      rcases hd : p.bag.disabledReason? i.kind with _ | reason
      · rw [exec_call_of_enabled hd] at h
        -- from the event of the call on, no further call is told of
        have B := agreement_calls (hookCalls p.log ++ [⟨i.kind, hook, p.attempt⟩]) p.attempt
        have hkeeps : Keeps _ _ := B.sim_behaviour w c.strategy.maxAttempts hook i.behaviour
          (fun _ _ => trivial) fun _ _ => rfl
        obtain ⟨hcalls, hattempt⟩ := hkeeps.of_exec
          (p := { p with log := p.log ++ [.running i.kind hook p.attempt p.request.isSome] })
          ⟨hookCalls_append _ _, rfl⟩ h
        exact ⟨hattempt, _, List.Sublist.refl _, hcalls⟩
      · rw [exec_call_of_disabled hd] at h
        cases h
        refine ⟨rfl, [], List.nil_sublist _, ?_⟩
        rw [hookCalls_append, hookCalls_singleton_of_none rfl]
  | serialize =>
      have hkeeps : Keeps _ _ := A.sim_serializeStage (o := o)
      obtain ⟨hcalls, hattempt⟩ := hkeeps.of_exec ⟨rfl, rfl⟩ h
      exact ⟨hattempt, [], List.nil_sublist _, by rw [hcalls, List.append_nil]⟩
  | sign =>
      have hkeeps : Keeps _ (Step.sign.perform w c o credentials) :=
        A.sim_perform_step .sign (fun _ _ => trivial) fun _ he => Event.hookCall?_of_signing he
      obtain ⟨hcalls, hattempt⟩ := hkeeps.of_exec ⟨rfl, rfl⟩ h
      exact ⟨hattempt, [], List.nil_sublist _, by rw [hcalls, List.append_nil]⟩

/-- Steps make at most the calls that they may make, in order, also when one of them fails. -/
theorem exec_forM_calls {xs : List Step}
    (h : (xs.forM (Step.perform w c o credentials)).exec p = (r, q)) :
    ∃ made, made.Sublist (xs.flatMap (Step.calls p.attempt)) ∧
      hookCalls q.log = hookCalls p.log ++ made := by
  induction xs generalizing p with
  | nil =>
      cases h
      exact ⟨[], List.Sublist.refl _, (List.append_nil _).symm⟩
  | cons x xs ih =>
      rw [exec_forM_cons] at h
      rcases hx : (x.perform w c o credentials).exec p with ⟨e | _, s⟩ <;> rw [hx] at h
      · -- the steps after one that fails are not performed, and make no calls
        cases h
        obtain ⟨-, made, hmade, hcalls⟩ := exec_perform_calls hx
        exact ⟨made, hmade.trans (List.sublist_append_left _ _), hcalls⟩
      · obtain ⟨hattempt, made, hmade, hcalls⟩ := exec_perform_calls hx
        obtain ⟨rest, hrest, hcalls'⟩ := ih h
        rw [hattempt] at hrest
        refine ⟨made ++ rest, hmade.append hrest, ?_⟩
        rw [hcalls', hcalls, List.append_assoc]

end

/-- An attempt calls each interceptor at most once at each hook, in order. -/
theorem hookCalls_runAttempt (w : Surroundings) (bag : Bag) (c : Components) (o : Operation)
    (credentials : Option Signing.Credentials) (attempt : Nat) :
    (hookCalls (runAttempt w bag c o credentials attempt).pass.log).Sublist
      (callsOf c.interceptors attempt) := by
  rw [runAttempt_eq]
  rcases hrun : ((stepsOf c.interceptors).forM (Step.perform w c o credentials)).exec
    (startPass bag attempt) with ⟨r, q⟩
  obtain ⟨made, hmade, hcalls⟩ := exec_forM_calls hrun
  rw [flatMap_calls_stepsOf] at hmade
  have hlog : hookCalls q.log = made := hcalls
  rcases r with e | _
  · rw [PassOutcome.of, hlog]
    exact hmade
  · rw [PassOutcome.of, hlog]
    exact hmade

/-! ## The failure of an attempt -/

/-- In an attempt of the pipeline of the plugins, the steps before one step ended well and that one
failed. -/
def Fails (w : Surroundings) (plugins : List Plugin) (o : Operation)
    (credentials : Option Signing.Credentials) (attempt : Nat) (x : Step) (e : Failure) : Prop :=
  ∃ done rest p q, stepsOf (chainOf plugins) = done ++ x :: rest ∧
    Reaches w plugins o credentials attempt done p ∧
      (x.perform w (componentsOf plugins) o credentials).exec p = (.error e, q)

section

variable {w : Surroundings} {plugins : List Plugin} {o : Operation}
  {credentials : Option Signing.Credentials} {attempt : Nat}

/-- An attempt that performed all its steps well has a request. -/
theorem Reaches.result_of {p : Pass}
    (h : Reaches w plugins o credentials attempt (stepsOf (chainOf plugins)) p) :
    ∃ r, (PassOutcome.of (.ok (), p)).result = .ok r := by
  obtain ⟨q, hq, hrest⟩ := h.between
  obtain ⟨r, hr⟩ := hq.hasRequest
  have hsome := (keeps_hasRequest _).of_exec (Option.isSome_iff_exists.mpr ⟨r, hr⟩) hrest
  obtain ⟨s, hs⟩ := Option.isSome_iff_exists.mp hsome
  refine ⟨s, ?_⟩
  rw [PassOutcome.of, PassOutcome.result, hs]

/-- An attempt fails with the failure of the first step that fails, as it stands. -/
theorem result_runAttempt_eq_error {e : Failure} :
    (runAttempt w (freshBag plugins) (componentsOf plugins) o credentials attempt).result =
      .error e ↔ ∃ x, Fails w plugins o credentials attempt x e := by
  rw [runAttempt_eq]
  rcases hrun : ((stepsOf (componentsOf plugins).interceptors).forM
    (Step.perform w (componentsOf plugins) o credentials)).exec
      (startPass (freshBag plugins) attempt) with ⟨e' | _, q⟩
  · obtain ⟨done, x, rest, p, hsteps, hdone, hx⟩ := exec_forM_error_iff.mp hrun
    constructor
    · rintro ⟨⟩
      exact ⟨x, done, rest, p, q, hsteps, hdone, hx⟩
    · rintro ⟨x', done', rest', p', q', hsteps', hdone', hx'⟩
      -- two failing steps of one run would leave it with two failures
      have hrun' := exec_forM_error_iff.mpr ⟨done', x', rest', p', hsteps', hdone', hx'⟩
      rw [show stepsOf (chainOf plugins) = stepsOf (componentsOf plugins).interceptors from rfl,
        hrun] at hrun'
      cases hrun'
      rfl
  · obtain ⟨r, hr⟩ := Reaches.result_of hrun
    rw [hr]
    constructor
    · rintro ⟨⟩
    · rintro ⟨x', done', rest', p', q', hsteps', hdone', hx'⟩
      have hrun' := exec_forM_error_iff.mpr ⟨done', x', rest', p', hsteps', hdone', hx'⟩
      rw [show stepsOf (chainOf plugins) = stepsOf (componentsOf plugins).interceptors from rfl,
        hrun] at hrun'
      cases hrun'

/-- Only a call of an interceptor comes to a failure that says that attempts are used up. -/
theorem Fails.of_exhausted {x : Step} {message : String} {attempts : Int} {last : Option Failure}
    (h : Fails w plugins o credentials attempt x (.exhausted message attempts last)) :
    ∃ hook, ∃ i ∈ chainOf plugins, x = .call hook i := by
  obtain ⟨done, rest, p, q, hsteps, -, hx⟩ := h
  have hmem : x ∈ stepsOf (chainOf plugins) := by
    rw [hsteps]
    exact List.mem_append_right done List.mem_cons_self
  rcases mem_stepsOf hmem with hcall | rfl | rfl
  · exact hcall
  · -- the serializer does not fail
    cases hx
  · change (signStage w _ credentials).exec p = _ at hx
    rcases hc : p.bag.signing? with _ | config
    · rw [exec_signStage_none w credentials _ (.inl hc)] at hx
      cases hx
    rcases hr : p.request with _ | r
    · rw [exec_signStage_none w credentials _ (.inr hr)] at hx
      cases hx
    rw [exec_signStage w credentials _ hc hr] at hx
    rcases hfailure : (Signing.sign config credentials ((componentsOf plugins).clock.now w)
      r).failure with _ | e <;> rw [signedPass, hfailure] at hx <;> cases hx
    -- the signer refuses a request or finds it malformed, and says nothing of attempts
    rcases Signing.failure_sign hfailure with ⟨fault, hfault⟩ | hfault
    · cases hfault
    · cases hfault

end

/-! ## Presigning -/

section Presigning

variable (w : Surroundings) (o : Operation) (credentials : Option Signing.Credentials)
  (region : Json) (service : String) (window : Signing.Window) (payload : Option Signing.Payload)
  (plugins : List Plugin)

theorem invoke_presignPlugins (payload : Signing.Payload) :
    invoke w (presignPlugins region service window payload plugins) o credentials =
      ⟨(runAttempt w (freshBag (presignPlugins region service window payload plugins))
          (componentsOf (presignPlugins region service window payload plugins)) o credentials
            1).result,
        (runAttempt w (freshBag (presignPlugins region service window payload plugins))
          (componentsOf (presignPlugins region service window payload plugins)) o credentials
            1).pass.log, []⟩ := by
  have hstrategy : (componentsOf (presignPlugins region service window payload plugins)).strategy =
    .once true := strategyOf_presignPlugins region service window payload plugins
  rw [invoke_eq, invokeWith_of_allowed (by rw [hstrategy]; rfl), hstrategy, Retry.run_once,
    List.flatMap_singleton]

/-- A signed request is made into a presigned one unless the window has no end. -/
theorem presignedOf_eq_error {r : Request} {e : Failure} :
    presignedOf window r = .error e ↔ ∃ fault, window.finish = .error fault ∧ e = .time fault := by
  rw [presignedOf, bind_eq_error, mapError_eq_error]
  constructor
  · rintro (⟨fault, hfault, rfl⟩ | ⟨_, -, h⟩)
    · exact ⟨fault, hfault, rfl⟩
    · cases h
  · rintro ⟨fault, hfault, rfl⟩
    exact .inl ⟨fault, hfault, rfl⟩

/-- Presigning comes to what its attempt comes to, with the end of the window. -/
theorem presign_eq :
    presign w o credentials region service window payload plugins =
      ⟨(runAttempt w
          (freshBag (presignPlugins region service window (payload.getD .unsigned) plugins))
          (componentsOf (presignPlugins region service window (payload.getD .unsigned) plugins)) o
          credentials 1).result.bind (presignedOf window),
        (runAttempt w
          (freshBag (presignPlugins region service window (payload.getD .unsigned) plugins))
          (componentsOf (presignPlugins region service window (payload.getD .unsigned) plugins)) o
          credentials 1).pass.log⟩ := by
  rw [presign, invoke_presignPlugins]

/-- Presigning fails with the failure of the first step that fails; if none does, because the window
has no end. -/
theorem result_presign_eq_error {e : Failure} :
    (presign w o credentials region service window payload plugins).result = .error e ↔
      (∃ x, Fails w (presignPlugins region service window (payload.getD .unsigned) plugins) o
          credentials 1 x e) ∨
        (¬ ∃ x e', Fails w (presignPlugins region service window (payload.getD .unsigned) plugins)
          o credentials 1 x e') ∧
            ∃ fault, window.finish = .error fault ∧ e = .time fault := by
  rw [presign_eq]
  show ((runAttempt w _ _ o credentials 1).result >>= presignedOf window) = _ ↔ _
  rw [bind_eq_error, result_runAttempt_eq_error]
  refine or_congr_right ⟨?_, ?_⟩
  · rintro ⟨r, hr, he⟩
    refine ⟨?_, (presignedOf_eq_error window).mp he⟩
    -- a step that fails leaves no request
    rintro ⟨x, e', hx⟩
    rw [result_runAttempt_eq_error.mpr ⟨x, hx⟩] at hr
    cases hr
  · rintro ⟨hnone, he⟩
    rcases hr : (runAttempt w _ _ o credentials 1).result with e' | r
    · obtain ⟨x, hx⟩ := result_runAttempt_eq_error.mp hr
      exact absurd ⟨x, e', hx⟩ hnone
    · exact ⟨r, rfl, (presignedOf_eq_error window).mpr he⟩

/-- Presigning is one attempt, without delay: each interceptor is called at most once at each hook,
in the first attempt. Its failure is the failure of the first step that fails, or, if none does,
says that the window has no end; so that attempts are used up is only said by an interceptor.
Whatever is signed is signed for the start of the window. -/
theorem presign_is_one_attempt :
    let all := presignPlugins region service window (payload.getD .unsigned) plugins
    let first := runAttempt w (freshBag all) (componentsOf all) o credentials 1
    let outcome := presign w o credentials region service window payload plugins
    (invoke w all o credentials = ⟨first.result, first.pass.log, []⟩ ∧
      outcome = ⟨first.result.bind (presignedOf window), first.pass.log⟩) ∧
    (hookCalls outcome.log).Sublist (callsOf (chainOf all) 1) ∧
    (∀ e, outcome.result = .error e ↔
      (∃ x, Fails w all o credentials 1 x e) ∨
        (¬ ∃ x e', Fails w all o credentials 1 x e') ∧
          ∃ fault, window.finish = .error fault ∧ e = .time fault) ∧
    (∀ message attempts last, outcome.result = .error (.exhausted message attempts last) →
      ∃ hook, ∃ i ∈ chainOf all,
        Fails w all o credentials 1 (.call hook i) (.exhausted message attempts last)) ∧
    ∀ p config r, p.bag.signing? = some config → p.request = some r →
      (Step.sign.perform w (componentsOf all) o credentials).exec p =
        signedPass p (Signing.sign config credentials window.start r) := by
  intro all first outcome
  have houtcome : outcome = ⟨first.result.bind (presignedOf window), first.pass.log⟩ :=
    presign_eq w o credentials region service window payload plugins
  have herror : ∀ e, outcome.result = .error e ↔
      (∃ x, Fails w all o credentials 1 x e) ∨
        (¬ ∃ x e', Fails w all o credentials 1 x e') ∧
          ∃ fault, window.finish = .error fault ∧ e = .time fault :=
    fun _ => result_presign_eq_error w o credentials region service window payload plugins
  refine ⟨⟨invoke_presignPlugins w o credentials region service window plugins _, houtcome⟩, ?_,
    herror, ?_, ?_⟩
  · rw [houtcome]
    exact hookCalls_runAttempt w _ _ o credentials 1
  · intro message attempts last he
    rcases (herror _).mp he with ⟨x, hx⟩ | ⟨-, fault, -, hfault⟩
    · obtain ⟨hook, i, hi, rfl⟩ := hx.of_exhausted
      exact ⟨hook, i, hi, hx⟩
    · cases hfault
  · intro p config r hconfig hr
    show (signStage w (clockOf all) credentials).exec p = _
    rw [exec_signStage w credentials _ hconfig hr, clockOf_presignPlugins]
    rfl

end Presigning

end UrlSigning.Pipeline
