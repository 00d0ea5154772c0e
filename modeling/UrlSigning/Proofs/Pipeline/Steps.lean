import UrlSigning.Proofs.Pipeline.Agreement
import UrlSigning.Proofs.Pipeline.Components
import UrlSigning.Proofs.Signing.Signer

/-!
# The steps of an attempt

An attempt is a list of steps that are performed one after another: calls of interceptors at hooks,
with the serializer and the signer between them. `runAttempt_eq` says that an attempt is its steps
and nothing else. `Reaches` says where an attempt stands after some of its steps, so that one can
speak of what the signer is handed, and of the step that fails.
-/

namespace UrlSigning.Pipeline

open Http Stage

/-- One step of an attempt. -/
inductive Step where
  /-- An interceptor is called at a hook. -/
  | call (hook : Hook) (i : Interceptor)
  | serialize
  | sign

/-- What a step does. -/
def Step.perform (w : Surroundings) (c : Components) (o : Operation)
    (credentials : Option Signing.Credentials) : Step → Stage Unit
  | .call hook i => i.call w c.strategy.maxAttempts hook
  | .serialize => serializeStage o
  | .sign => signStage w c.clock credentials

/-- The calls of a chain at a hook. -/
def callsAt (hook : Hook) (chain : List Interceptor) : List Step :=
  chain.map (.call hook)

/-- The steps up to the serializer. -/
def stepsToSerializer (chain : List Interceptor) : List Step :=
  callsAt .beforeExecution chain ++ callsAt .beforeSerialization chain

/-- The steps from the serializer to the hook that comes before the signer. -/
def stepsFromSerializer (chain : List Interceptor) : List Step :=
  .serialize :: callsAt .afterSerialization chain

/-- The steps up to the signer. -/
def stepsToSigner (chain : List Interceptor) : List Step :=
  stepsToSerializer chain ++ stepsFromSerializer chain ++ callsAt .beforeSigning chain

/-- All steps of an attempt. -/
def stepsOf (chain : List Interceptor) : List Step :=
  stepsToSigner chain ++ .sign :: callsAt .afterSigning chain

theorem stepsToSigner_eq (chain : List Interceptor) :
    stepsToSigner chain = (stepsToSerializer chain ++ [.serialize]) ++
      (callsAt .afterSerialization chain ++ callsAt .beforeSigning chain) := by
  simp [stepsToSigner, stepsFromSerializer]

def startPass (bag : Bag) (attempt : Nat) : Pass := { bag := bag, attempt := attempt }

section

variable (w : Surroundings) (c : Components) (o : Operation)
  (credentials : Option Signing.Credentials)

/-! ## An attempt is its steps -/

theorem exec_callsAt (hook : Hook) (chain : List Interceptor) (p : Pass) :
    ((callsAt hook chain).forM (Step.perform w c o credentials)).exec p =
      (callAll w c.strategy.maxAttempts hook chain).exec p := by
  induction chain generalizing p with
  | nil => rfl
  | cons i chain ih =>
      have hcons : callsAt hook (i :: chain) = .call hook i :: callsAt hook chain := rfl
      rw [hcons, exec_forM_cons, callAll, exec_forM_cons]
      congr
      funext _ q
      exact ih q

/-- Calls of interceptors that do nothing at a hook end well. -/
theorem exists_exec_callsAt {hook : Hook} {chain : List Interceptor}
    (h : ∀ i ∈ chain, i.behaviour.call w c.strategy.maxAttempts hook = pure ()) (p : Pass) :
    ∃ q, ((callsAt hook chain).forM (Step.perform w c o credentials)).exec p = (.ok (), q) := by
  induction chain generalizing p with
  | nil => exact ⟨p, rfl⟩
  | cons i chain ih =>
      have hcall : ∃ q, (i.call w c.strategy.maxAttempts hook).exec p = (.ok (), q) := by
        rcases hd : p.bag.disabledReason? i.kind with _ | reason
        · rw [exec_call_of_enabled hd, h i List.mem_cons_self]
          exact ⟨_, rfl⟩
        · rw [exec_call_of_disabled hd]
          exact ⟨_, rfl⟩
      obtain ⟨q, hq⟩ := hcall
      obtain ⟨s, hs⟩ := ih (fun j hj => h j (List.mem_cons_of_mem i hj)) q
      have hcons : callsAt hook (i :: chain) = .call hook i :: callsAt hook chain := rfl
      refine ⟨s, ?_⟩
      rw [hcons, exec_forM_cons]
      show andThen ((i.call w c.strategy.maxAttempts hook).exec p) _ = _
      rw [hq]
      exact hs

theorem exec_attemptStage (p : Pass) :
    (attemptStage w c o credentials).exec p =
      ((stepsOf c.interceptors).forM (Step.perform w c o credentials)).exec p := by
  simp only [attemptStage, stepsOf, stepsToSigner, stepsToSerializer, stepsFromSerializer,
    List.append_assoc, List.cons_append, exec_forM_append, exec_forM_cons, exec_bind, exec_callsAt]
  rfl

/-- The outcome of an attempt that came to an end in some way. -/
def PassOutcome.of : Except Failure Unit × Pass → PassOutcome
  | (.ok (), pass) => ⟨none, pass⟩
  | (.error failure, pass) => ⟨some failure, pass⟩

theorem PassOutcome.result_of_eq_ok {x : Except Failure Unit × Pass} {r : Request}
    (h : (PassOutcome.of x).result = .ok r) : x.1 = .ok () ∧ x.2.request = some r := by
  obtain ⟨e | _, p⟩ := x
  · cases h
  · rcases hr : p.request with _ | r' <;>
      rw [PassOutcome.of, PassOutcome.result, hr] at h <;> cases h
    exact ⟨rfl, rfl⟩

/-- Attempts that came to the same end and left passes that are related. -/
structure PassOutcome.Related (R : Pass → Pass → Prop) (a b : PassOutcome) : Prop where
  failure : a.failure = b.failure
  pass : R a.pass b.pass

theorem PassOutcome.related_of {R : Pass → Pass → Prop} {x y : Except Failure Unit × Pass}
    (hresult : x.1 = y.1) (hpass : R x.2 y.2) : (PassOutcome.of x).Related R (.of y) := by
  obtain ⟨r, p⟩ := x
  obtain ⟨s, q⟩ := y
  obtain rfl : r = s := hresult
  cases r <;> exact ⟨rfl, hpass⟩

theorem PassOutcome.Related.result {R : Pass → Pass → Prop} {a b : PassOutcome}
    (h : a.Related R b) (hrequest : a.pass.request = b.pass.request) : a.result = b.result := by
  unfold PassOutcome.result
  rw [h.failure, hrequest]

theorem runAttempt_eq_attemptStage (bag : Bag) (attempt : Nat) :
    runAttempt w bag c o credentials attempt =
      .of ((attemptStage w c o credentials).exec (startPass bag attempt)) := by
  unfold runAttempt
  show (match (attemptStage w c o credentials).exec (startPass bag attempt) with
    | (.ok (), pass) => (⟨none, pass⟩ : PassOutcome)
    | (.error failure, pass) => ⟨some failure, pass⟩) = _
  rcases (attemptStage w c o credentials).exec (startPass bag attempt) with ⟨_ | _, _⟩ <;> rfl

theorem runAttempt_eq (bag : Bag) (attempt : Nat) :
    runAttempt w bag c o credentials attempt =
      .of (((stepsOf c.interceptors).forM (Step.perform w c o credentials)).exec
        (startPass bag attempt)) := by
  rw [runAttempt_eq_attemptStage, exec_attemptStage]

/-- The steps of an attempt call interceptors of the chain, serialize and sign. -/
theorem mem_stepsOf {chain : List Interceptor} {x : Step} (h : x ∈ stepsOf chain) :
    (∃ hook, ∃ i ∈ chain, x = .call hook i) ∨ x = .serialize ∨ x = .sign := by
  simp only [stepsOf, stepsToSigner, stepsToSerializer, stepsFromSerializer, callsAt,
    List.mem_append, List.mem_cons, List.mem_map] at h
  grind

/-! ## The stages between the hooks -/

/-- What signing makes of a pass. -/
def signedPass (p : Pass) (s : Signing.Signed) : Except Failure Unit × Pass :=
  (match s.failure with
    | none => .ok ()
    | some failure => .error failure,
    { p with request := some s.request, log := p.log ++ s.log })

/-- The signer is handed the configuration that holds, the time of the clock and the request. -/
theorem exec_signStage (clock : Clock) {p : Pass} {config : Signing.Config} {r : Request}
    (hc : p.bag.signing? = some config) (hr : p.request = some r) :
    (signStage w clock credentials).exec p =
      signedPass p (Signing.sign config credentials (clock.now w) r) := by
  unfold signStage signedPass
  rw [exec_get_bind, hc, hr]
  show ((set _ : Stage Unit) >>= _).exec p = _
  rw [exec_bind, exec_set, andThen_ok]
  cases (Signing.sign config credentials (clock.now w) r).failure <;> rfl

theorem exec_signStage_none (clock : Clock) {p : Pass}
    (h : p.bag.signing? = none ∨ p.request = none) :
    (signStage w clock credentials).exec p = (.error (.signing .noConfig), p) := by
  unfold signStage
  rw [exec_get_bind]
  rcases hc : p.bag.signing? with _ | config
  · rfl
  · rw [hc] at h
    rcases h with h | h
    · cases h
    · rw [h]
      rfl

theorem exec_serializeStage (p : Pass) :
    (serializeStage o).exec p =
      (.ok (), { p with request := some (o.serialize (p.bag.headerDefaults?.getD {})) }) := rfl

/-! ## What steps keep -/

def Step.MayPut (s : Setting) : Step → Prop
  | .call _ i => i.behaviour.MayPut s
  | _ => False

def Step.MayTell (e : Event) : Step → Prop
  | .call hook i =>
      (∃ reason, e = .skipped i.kind hook reason) ∨
        (∃ attempt hasRequest, e = .running i.kind hook attempt hasRequest) ∨
          ∃ service length, e = .presigning service length
  | .serialize => False
  | .sign => e.source = .signing

variable {w c o credentials} {put : Setting → Prop} {told : Event → Prop} {R : Pass → Pass → Prop}

theorem Agreement.sim_serializeStage (A : Agreement put told R) :
    Sim R (serializeStage o) (serializeStage o) := by
  intro p q h
  have hb : o.serialize (q.bag.headerDefaults?.getD {}) =
      o.serialize (p.bag.headerDefaults?.getD {}) := by rw [(A.bag h).headerDefaults?]
  rw [exec_serializeStage, exec_serializeStage, hb]
  exact ⟨rfl, A.asking _ h⟩

theorem Agreement.sim_signStage (A : Agreement put told R) (clock : Clock)
    (hsign : ∀ config now r, ∀ e ∈ (Signing.sign config credentials now r).log, told e) :
    Sim R (signStage w clock credentials) (signStage w clock credentials) := by
  intro p q h
  have hb := (A.bag h).signing?
  have hr := A.request h
  rcases hc : p.bag.signing? with _ | config
  · rw [exec_signStage_none w credentials clock (.inl hc),
      exec_signStage_none w credentials clock (.inl (hb ▸ hc))]
    exact ⟨rfl, h⟩
  rcases hp : p.request with _ | r
  · rw [exec_signStage_none w credentials clock (.inr hp),
      exec_signStage_none w credentials clock (.inr (hr ▸ hp))]
    exact ⟨rfl, h⟩
  · rw [exec_signStage w credentials clock hc hp,
      exec_signStage w credentials clock (hb ▸ hc) (hr ▸ hp)]
    exact ⟨rfl, A.tellAll (hsign _ _ _) (A.asking _ h)⟩

/-- A step keeps an agreement that allows what the step puts and tells. -/
theorem Agreement.sim_perform_step (A : Agreement put told R) (x : Step)
    (hput : ∀ s, x.MayPut s → put s) (htold : ∀ e, x.MayTell e → told e) :
    Sim R (x.perform w c o credentials) (x.perform w c o credentials) := by
  cases x with
  | call hook i =>
      exact A.sim_call w _ hook i hput (fun _ => htold _ (.inl ⟨_, rfl⟩))
        (fun _ _ => htold _ (.inr (.inl ⟨_, _, rfl⟩)))
        fun _ _ => htold _ (.inr (.inr ⟨_, _, rfl⟩))
  | serialize => exact A.sim_serializeStage
  | sign =>
      refine A.sim_signStage c.clock fun config now r e he => htold e ?_
      exact Signing.tellsSigning_sign config credentials now r e he

theorem keeps_hasRequest (xs : List Step) :
    Keeps (fun p => p.request.isSome = true) (xs.forM (Step.perform w c o credentials)) :=
  sim_forM fun x _ =>
    agreement_hasRequest.sim_perform_step x (fun _ _ => trivial) fun _ _ => trivial

end

/-! ## Where an attempt stands -/

/-- In an attempt of the pipeline of the plugins the steps were performed, all of them well, and
left the pass. -/
def Reaches (w : Surroundings) (plugins : List Plugin) (o : Operation)
    (credentials : Option Signing.Credentials) (attempt : Nat) (done : List Step) (p : Pass) :
    Prop :=
  (done.forM (Step.perform w (componentsOf plugins) o credentials)).exec
    (startPass (freshBag plugins) attempt) = (.ok (), p)

section

variable {w : Surroundings} {plugins : List Plugin} {o : Operation}
  {credentials : Option Signing.Credentials} {attempt : Nat}

/-- The pass that steps leave in an attempt, also if one of them fails. -/
def passAfter (w : Surroundings) (plugins : List Plugin) (o : Operation)
    (credentials : Option Signing.Credentials) (attempt : Nat) (done : List Step) : Pass :=
  ((done.forM (Step.perform w (componentsOf plugins) o credentials)).exec
    (startPass (freshBag plugins) attempt)).2

theorem reaches_passAfter {done : List Step}
    (h : ((done.forM (Step.perform w (componentsOf plugins) o credentials)).exec
      (startPass (freshBag plugins) attempt)).1.isOk = true) :
    Reaches w plugins o credentials attempt done
      (passAfter w plugins o credentials attempt done) := by
  unfold Reaches passAfter
  rcases hrun : (done.forM (Step.perform w (componentsOf plugins) o credentials)).exec
    (startPass (freshBag plugins) attempt) with ⟨e | _, p⟩
  · rw [hrun] at h
    cases h
  · rfl

theorem Reaches.eq_passAfter {done : List Step} {p : Pass}
    (h : Reaches w plugins o credentials attempt done p) :
    p = passAfter w plugins o credentials attempt done :=
  (congrArg Prod.snd h).symm

theorem exists_reaches {done : List Step}
    (h : ((done.forM (Step.perform w (componentsOf plugins) o credentials)).exec
      (startPass (freshBag plugins) attempt)).1.isOk = true) :
    ∃ p, Reaches w plugins o credentials attempt done p :=
  ⟨_, reaches_passAfter h⟩

theorem Reaches.append {xs ys : List Step} {p q : Pass}
    (h : Reaches w plugins o credentials attempt xs p)
    (hys : (ys.forM (Step.perform w (componentsOf plugins) o credentials)).exec p = (.ok (), q)) :
    Reaches w plugins o credentials attempt (xs ++ ys) q := by
  unfold Reaches at h ⊢
  rw [exec_forM_append, h]
  exact hys

theorem Reaches.between {xs ys : List Step} {p : Pass}
    (h : Reaches w plugins o credentials attempt (xs ++ ys) p) :
    ∃ q, Reaches w plugins o credentials attempt xs q ∧
      (ys.forM (Step.perform w (componentsOf plugins) o credentials)).exec q = (.ok (), p) :=
  exec_forM_append_ok h

theorem Reaches.last {xs : List Step} {x : Step} {p : Pass}
    (h : Reaches w plugins o credentials attempt (xs ++ [x]) p) :
    ∃ q, Reaches w plugins o credentials attempt xs q ∧
      (x.perform w (componentsOf plugins) o credentials).exec q = (.ok (), p) := by
  obtain ⟨q, hq, hx⟩ := h.between
  refine ⟨q, hq, ?_⟩
  rw [exec_forM_cons] at hx
  rcases hp : (x.perform w (componentsOf plugins) o credentials).exec q with ⟨_ | _, r⟩ <;>
    rw [hp] at hx
  · cases hx
  · exact hx

/-- What holds of the fresh pass and is kept by every step holds wherever an attempt stands. -/
theorem Reaches.invariant {I : Pass → Prop} {done : List Step} {p : Pass}
    (h : Reaches w plugins o credentials attempt done p)
    (hkeeps : ∀ x ∈ done, Keeps I (x.perform w (componentsOf plugins) o credentials))
    (hstart : I (startPass (freshBag plugins) attempt)) : I p :=
  Keeps.of_exec (sim_forM hkeeps) hstart h

/-- Wherever an attempt stands, its bag has the layers of the plugins, and what was written has each
property that all settings have that the interceptors put. -/
theorem Reaches.written {P : Setting → Prop} {done : List Step} {p : Pass}
    (h : Reaches w plugins o credentials attempt done p) (hdone : done ⊆ stepsOf (chainOf plugins))
    (hput : ∀ i ∈ chainOf plugins, ∀ s, i.behaviour.MayPut s → P s) :
    p.bag.layers = (freshBag plugins).layers ∧ p.bag.Written P := by
  have hstart := written_freshBag P plugins
  refine h.invariant (I := fun p => p.bag.layers = _ ∧ p.bag.Written P) (fun x hx => ?_)
    ⟨rfl, hstart⟩
  refine (agreement_written _ P).sim_perform_step x (fun s hs => ?_) fun _ _ => trivial
  rcases mem_stepsOf (hdone hx) with ⟨hook, i, hi, rfl⟩ | rfl | rfl
  · exact hput i hi s hs
  · cases hs
  · cases hs

theorem Reaches.hasRequest {p : Pass}
    (h : Reaches w plugins o credentials attempt (stepsToSigner (chainOf plugins)) p) :
    ∃ r, p.request = some r := by
  rw [stepsToSigner_eq] at h
  obtain ⟨q, hq, hrest⟩ := h.between
  obtain ⟨t, -, hserialize⟩ := hq.last
  change (serializeStage o).exec t = _ at hserialize
  have hsome : q.request.isSome = true := by
    rw [exec_serializeStage] at hserialize
    cases hserialize
    rfl
  exact Option.isSome_iff_exists.mp ((keeps_hasRequest _).of_exec hsome hrest)

/-- A request that can be signed is signed where the signer's turn comes. -/
theorem Reaches.sign {p : Pass} {config : Signing.Config} {r : Request}
    (h : Reaches w plugins o credentials attempt (stepsToSigner (chainOf plugins)) p)
    (hc : p.bag.signing? = some config)
    (hr : p.request = some r)
    (hsigned : (Signing.sign config credentials ((clockOf plugins).now w) r).failure = none) :
    Reaches w plugins o credentials attempt (stepsToSigner (chainOf plugins) ++ [.sign])
      (signedPass p (Signing.sign config credentials ((clockOf plugins).now w) r)).2 := by
  apply h.append
  rw [exec_forM_cons]
  show andThen ((signStage w (clockOf plugins) credentials).exec p) _ = _
  rw [exec_signStage w credentials _ hc hr, signedPass, hsigned]
  rfl

/-- An attempt that performed all its steps signed the request, and called interceptors after
that. -/
theorem Reaches.exists_signed {p : Pass}
    (h : Reaches w plugins o credentials attempt (stepsOf (chainOf plugins)) p) :
    ∃ q config r, Reaches w plugins o credentials attempt (stepsToSigner (chainOf plugins)) q ∧
      q.bag.signing? = some config ∧ q.request = some r ∧
      (Signing.sign config credentials ((clockOf plugins).now w) r).failure = none ∧
      ((callsAt .afterSigning (chainOf plugins)).forM
        (Step.perform w (componentsOf plugins) o credentials)).exec
          (signedPass q (Signing.sign config credentials ((clockOf plugins).now w) r)).2 =
            (.ok (), p) := by
  obtain ⟨q, hq, hrest⟩ := h.between
  obtain ⟨r, hr⟩ := hq.hasRequest
  rw [exec_forM_cons] at hrest
  change andThen ((signStage w (clockOf plugins) credentials).exec q) _ = _ at hrest
  rcases hc : q.bag.signing? with _ | config
  · rw [exec_signStage_none w credentials _ (.inl hc)] at hrest
    cases hrest
  rw [exec_signStage w credentials _ hc hr] at hrest
  rcases hfailure : (Signing.sign config credentials ((clockOf plugins).now w) r).failure
    with _ | failure
  · refine ⟨q, config, r, hq, hc, hr, hfailure, ?_⟩
    rw [signedPass, hfailure] at hrest ⊢
    exact hrest
  · rw [signedPass, hfailure] at hrest
    cases hrest

end

/-! ## A sample -/

namespace Sample

/-- Noon of the tenth of January 2024, in universal time. -/
def noon : DateTime := ⟨63840484800000000, some .zero, by decide⟩

/-- The hour after it. -/
def hour : Signing.Window := ⟨noon, ⟨3600000000, by decide⟩, by decide, by decide, by decide⟩

def surroundings : Surroundings := ⟨noon, "3f2b"⟩

/-- An object that is put into a bucket. -/
def upload : Operation where
  method := "put"
  url := "https://bucket.example.com/a/b.txt?part=1"
  body := [104, 105]
  headers := [("x-amz-meta-owner", "me")]

end Sample

end UrlSigning.Pipeline
