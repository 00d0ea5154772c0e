import UrlSigning.Proofs.Pipeline.OneAttempt

/-!
# Attempts of an invocation

An invocation makes one attempt after another, and each of them is a pass through the pipeline on
its own: it begins with a fresh bag and without a request, so nothing that an earlier attempt wrote
can be seen in it. `passOf` is such a pass, and depends on nothing but its number;
`invoke_makes_attempts` says that an invocation is the passes from the first to one that is not
tried again.
-/

namespace UrlSigning.Pipeline

open Http Stage

/-- One pass through the pipeline of the plugins, in an attempt of a number: the steps of the merged
chain in order, from a fresh bag and without a request, up to the first step that fails. -/
def passOf (w : Surroundings) (plugins : List Plugin) (o : Operation)
    (credentials : Option Signing.Credentials) (attempt : Nat) : PassOutcome :=
  .of (((stepsOf (chainOf plugins)).forM (Step.perform w (componentsOf plugins) o credentials)).exec
    { bag := freshBag plugins, request := none, attempt := attempt, log := [] })

theorem passOf_eq_runAttempt (w : Surroundings) (plugins : List Plugin) (o : Operation)
    (credentials : Option Signing.Credentials) (attempt : Nat) :
    passOf w plugins o credentials attempt =
      runAttempt w (freshBag plugins) (componentsOf plugins) o credentials attempt :=
  (runAttempt_eq w (componentsOf plugins) o credentials (freshBag plugins) attempt).symm

/-! ## What can be seen in an attempt -/

theorem agreement_attempt (attempt : Int) :
    Agreement (fun _ => True) (fun _ => True) fun p q => p = q ∧ p.attempt = attempt :=
  .ofInvariant (fun _ _ h => h) (fun _ h => h) (fun _ h => h) fun _ _ h => h

section

variable {w : Surroundings} {plugins : List Plugin} {o : Operation}
  {credentials : Option Signing.Credentials} {attempt : Nat} {done : List Step} {p : Pass}

theorem keeps_attempt (number : Int) (xs : List Step) :
    Keeps (fun p => p.attempt = number)
      (xs.forM (Step.perform w (componentsOf plugins) o credentials)) :=
  sim_forM fun x _ =>
    (agreement_attempt number).sim_perform_step x (fun _ _ => trivial) fun _ _ => trivial

/-- Wherever an attempt stands, interceptors see its number. -/
theorem Reaches.attempt_eq (h : Reaches w plugins o credentials attempt done p) :
    p.attempt = attempt :=
  Keeps.of_exec (keeps_attempt (attempt : Int) done) rfl h

/-- Wherever an attempt stands, its bag holds what the layers of the plugins hold and what the steps
put that were performed in this attempt. -/
theorem Reaches.put_by_done (h : Reaches w plugins o credentials attempt done p) :
    p.bag.layers = (freshBag plugins).layers ∧
      p.bag.Written fun s => ∃ x ∈ done, x.MayPut s := by
  have hstart := written_freshBag (fun s => ∃ x ∈ done, x.MayPut s) plugins
  refine h.invariant
    (I := fun p => p.bag.layers = (freshBag plugins).layers ∧
      p.bag.Written fun s => ∃ x ∈ done, x.MayPut s) (fun x hx => ?_) ⟨rfl, hstart⟩
  exact (agreement_written _ _).sim_perform_step x (fun s hs => ⟨x, hx, hs⟩) fun _ _ => trivial

/-- An interceptor that is on where an attempt stands is called, and sees the attempt's number. -/
theorem Reaches.exec_call (h : Reaches w plugins o credentials attempt done p) (hook : Hook)
    {i : Interceptor} (hon : p.bag.disabledReason? i.kind = none) :
    ((Step.call hook i).perform w (componentsOf plugins) o credentials).exec p =
      (i.behaviour.call w (strategyOf plugins).maxAttempts hook).exec
        { p with log := p.log ++ [.running i.kind hook attempt p.request.isSome] } := by
  rw [← h.attempt_eq]
  exact exec_call_of_enabled hon

/-- The request of an attempt is built by the attempt itself, from the operation and its own bag. -/
theorem Reaches.request_eq
    (h : Reaches w plugins o credentials attempt
      (stepsToSerializer (chainOf plugins) ++ [.serialize]) p) :
    p.request = some (o.serialize (p.bag.headerDefaults?.getD {})) := by
  obtain ⟨q, -, hserialize⟩ := h.last
  change (serializeStage o).exec q = _ at hserialize
  rw [exec_serializeStage] at hserialize
  cases hserialize
  rfl

end

section

variable {w : Surroundings} {plugins : List Plugin} {o : Operation}
  {credentials : Option Signing.Credentials} {p : Pass} {r : Request}

/-! ## The request of an invocation -/

/-- The request that an invocation comes to is that of an attempt that performed all its steps. -/
theorem exists_reaches_of_invoke
    (h : (invoke w plugins o credentials).result = .ok r) :
    ∃ attempt p, Reaches w plugins o credentials attempt (stepsOf (chainOf plugins)) p ∧
      p.request = some r := by
  rw [invoke_eq] at h
  rcases hfirst : (strategyOf plugins).allowsFirst with _ | _
  · rw [invokeWith_of_refused hfirst] at h
    cases h
  rw [invokeWith_of_allowed hfirst] at h
  obtain ⟨last, -, -, hcourse⟩ := Retry.course_run (strategyOf plugins) PassOutcome.result
    (runAttempt w (freshBag plugins) (componentsOf plugins) o credentials)
  have hends := hcourse.ends
  rw [show (Retry.run (strategyOf plugins) _ _).result = .ok r from h] at hends
  have hlast := hends.eq_ok
  rw [runAttempt_eq] at hlast
  obtain ⟨hdone, hrequest⟩ := PassOutcome.result_of_eq_ok hlast
  exact ⟨last, _, Prod.ext hdone rfl, hrequest⟩

/-- An invocation comes to the request of its first attempt if that performs all its steps. -/
theorem invoke_of_reaches (hfirst : (strategyOf plugins).allowsFirst = true)
    (h : Reaches w plugins o credentials 1 (stepsOf (chainOf plugins)) p) :
    ∃ r, p.request = some r ∧ (invoke w plugins o credentials).result = .ok r := by
  obtain ⟨r, hr⟩ := h.result_of
  have hattempt : (runAttempt w (freshBag plugins) (componentsOf plugins) o credentials 1).result =
      .ok r := by
    rw [runAttempt_eq, ← hr]
    exact congrArg (PassOutcome.result ∘ PassOutcome.of) h
  refine ⟨r, (PassOutcome.result_of_eq_ok hr).2, ?_⟩
  rw [invoke_eq, invokeWith_of_allowed hfirst]
  exact Retry.result_run_of_first hattempt

/-- An invocation succeeds if the request can be signed in its first attempt, and no interceptor
does anything after that. -/
theorem exists_invoke {config : Signing.Config} (hfirst : (strategyOf plugins).allowsFirst = true)
    (h : Reaches w plugins o credentials 1 (stepsToSigner (chainOf plugins)) p)
    (hc : p.bag.signing? = some config) (hr : p.request = some r)
    (hsigned : (Signing.sign config credentials ((clockOf plugins).now w) r).failure = none)
    (hidle : ∀ i ∈ chainOf plugins,
      i.behaviour.call w (strategyOf plugins).maxAttempts .afterSigning = pure ()) :
    ∃ r, (invoke w plugins o credentials).result = .ok r := by
  have hsign := h.sign hc hr hsigned
  obtain ⟨q, hq⟩ := exists_exec_callsAt w (componentsOf plugins) o credentials hidle
    (signedPass p (Signing.sign config credentials ((clockOf plugins).now w) r)).2
  have hall := hsign.append hq
  rw [List.append_assoc] at hall
  obtain ⟨signed, -, hinvoke⟩ := invoke_of_reaches hfirst hall
  exact ⟨signed, hinvoke⟩

end

section

variable (w : Surroundings) (plugins : List Plugin) (o : Operation)
  (credentials : Option Signing.Credentials)

/-- The number that interceptors saw in an attempt is its number, also if the attempt failed. -/
theorem attempt_passOf (attempt : Nat) :
    (passOf w plugins o credentials attempt).pass.attempt = attempt := by
  unfold passOf
  rcases hrun : ((stepsOf (chainOf plugins)).forM
    (Step.perform w (componentsOf plugins) o credentials)).exec
      { bag := freshBag plugins, request := none, attempt := attempt, log := [] } with ⟨r, q⟩
  have hq : q.attempt = attempt :=
    Keeps.of_exec (keeps_attempt (attempt : Int) (stepsOf (chainOf plugins))) rfl hrun
  rcases r with e | _
  · exact hq
  · exact hq

/-! ## Invocations -/

/-- An invocation makes the attempts with a count of its own, and comes to what they come to. -/
theorem invoke_eq_drive (hfirst : (strategyOf plugins).allowsFirst = true) :
    invoke w plugins o credentials =
      ⟨(Retry.drive (strategyOf plugins) PassOutcome.result
          (Retry.counting (passOf w plugins o credentials)) 0).result,
        (Retry.drive (strategyOf plugins) PassOutcome.result
          (Retry.counting (passOf w plugins o credentials)) 0).passes.flatMap (·.pass.log),
        (Retry.drive (strategyOf plugins) PassOutcome.result
          (Retry.counting (passOf w plugins o credentials)) 0).delays⟩ := by
  have hmake : passOf w plugins o credentials =
      runAttempt w (freshBag plugins) (componentsOf plugins) o credentials :=
    funext fun attempt => passOf_eq_runAttempt w plugins o credentials attempt
  rw [Retry.drive_eq_run, hmake, invoke_eq, invokeWith_of_allowed hfirst]
  rfl

/-- An invocation makes the attempts one to `last` and nothing else, where each attempt is a pass of
its own. The number that is counted for the interceptors is the one that the strategy is told; it
never exceeds what the strategy allows. All attempts but the last one fail, and the result is the
request of the last one, its failure as it stands, or the failure that attempts are used up, with
their number and the last failure. In an attempt every interceptor that is on is called, in order
and with the attempt's number, up to the first failure; there is no setting that the attempt did not
find in the layers or put itself, and no request that it did not build itself. If the strategy
refuses the first attempt, no interceptor is called. -/
theorem invoke_makes_attempts :
    let all := invoke w plugins o credentials
    let pass := passOf w plugins o credentials
    let driven := Retry.drive (strategyOf plugins) PassOutcome.result (Retry.counting pass) 0
    ((strategyOf plugins).allowsFirst = false → all = ⟨.error (.signing .refused), [], []⟩) ∧
    ((strategyOf plugins).allowsFirst = true →
      all = ⟨driven.result, driven.passes.flatMap (·.pass.log), driven.delays⟩ ∧
      ∃ last, 1 ≤ last ∧ last ≤ (strategyOf plugins).maxAttempts ∧
        Retry.Course (strategyOf plugins) PassOutcome.result pass 1 last driven) ∧
    ∀ attempt,
      ((pass attempt).pass.attempt = attempt ∧
        (hookCalls (pass attempt).pass.log).Sublist (callsOf (chainOf plugins) attempt)) ∧
      (∀ e, (pass attempt).result = .error e ↔
        ∃ x, Fails w plugins o credentials attempt x e) ∧
      (∀ done p, Reaches w plugins o credentials attempt done p →
        (p.bag.layers = (freshBag plugins).layers ∧
          p.bag.Written fun s => ∃ x ∈ done, x.MayPut s) ∧
        ∀ hook, ∀ i : Interceptor, p.bag.disabledReason? i.kind = none →
          ((Step.call hook i).perform w (componentsOf plugins) o credentials).exec p =
            (i.behaviour.call w (strategyOf plugins).maxAttempts hook).exec
              { p with log := p.log ++ [.running i.kind hook attempt p.request.isSome] }) ∧
      ∀ p, Reaches w plugins o credentials attempt
          (stepsToSerializer (chainOf plugins) ++ [.serialize]) p →
        p.request = some (o.serialize (p.bag.headerDefaults?.getD {})) := by
  intro all pass driven
  refine ⟨fun hfirst => ?_, fun hfirst => ⟨?_, ?_⟩, fun attempt => ⟨⟨?_, ?_⟩, ?_, ?_, ?_⟩⟩
  · show invoke w plugins o credentials = _
    rw [invoke_eq, invokeWith_of_refused hfirst]
  · exact invoke_eq_drive w plugins o credentials hfirst
  · obtain ⟨last, hfirst', hmax, hcourse⟩ :=
      Retry.course_run (strategyOf plugins) PassOutcome.result pass
    rw [← Retry.drive_eq_run] at hcourse
    exact ⟨last, hfirst', hmax, hcourse⟩
  · exact attempt_passOf w plugins o credentials attempt
  · show (hookCalls (passOf w plugins o credentials attempt).pass.log).Sublist _
    rw [passOf_eq_runAttempt]
    exact hookCalls_runAttempt w (freshBag plugins) (componentsOf plugins) o credentials attempt
  · intro e
    show (passOf w plugins o credentials attempt).result = .error e ↔ _
    rw [passOf_eq_runAttempt]
    exact result_runAttempt_eq_error
  · intro done p h
    exact ⟨h.put_by_done, fun hook _ hon => h.exec_call hook hon⟩
  · intro p h
    exact h.request_eq

end

end UrlSigning.Pipeline
