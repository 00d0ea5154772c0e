import UrlSigning.Proofs.Pipeline.Attempts

/-!
# What interceptors do to requests

Of all that an interceptor does, three things change a request: setting a header, adding one and
setting the URL. `Behaviour.MayEdit` says which of these an interceptor may do at a hook. What every
such edit keeps is kept by a call of the interceptor, whatever else it does and whether it fails or
not; so it is kept along the steps of an attempt if the serializer and the signer see to it as well.
-/

namespace UrlSigning.Pipeline

open Http Stage

/-- What an interceptor can do to a request. -/
inductive Edit where
  | set (name value : String)
  | add (name value : String)
  | setUrl (url : String)
deriving DecidableEq

/-- The request with an edit made. -/
def Edit.apply : Edit → Request → Request
  | .set name value, r => { r with headers := r.headers.set name value }
  | .add name value, r => { r with headers := r.headers.add name value }
  | .setUrl url, r => { r with url := url }

/-- The edit that an action makes, if it makes one. -/
def Action.edit? : Action → Option Edit
  | .setHeader name value => some (.set name value)
  | .addHeader name value => some (.add name value)
  | .setUrl url => some (.setUrl url)
  | _ => none

/-- Whether the behaviour may make the edit at the hook. The stamps of the pipeline itself are set
before the request is signed, under names of their own. -/
def Behaviour.MayEdit (hook : Hook) (e : Edit) : Behaviour → Prop
  | .invocationId => hook = .beforeSigning ∧ ∃ value, e = .set "amz-sdk-invocation-id" value
  | .requestInfo => hook = .beforeSigning ∧ ∃ value, e = .set "amz-sdk-request" value
  | .userAgent _ _ _ => hook = .beforeSigning ∧ ∃ value, e = .set "User-Agent" value
  | .scripted actions => ∃ a ∈ actions hook, a.edit? = some e
  | _ => False

/-- If there is a request, it has the property. -/
def Pass.RequestHas (J : Request → Prop) (p : Pass) : Prop :=
  ∀ r, p.request = some r → J r

section

variable {J : Request → Prop} {α : Type}

/-! ## Parts of a call -/

theorem keeps_get_bind {I : Pass → Prop} {f : Pass → Stage α} (h : ∀ p, Keeps I (f p)) :
    Keeps I ((get : Stage Pass) >>= f) := by
  rintro p q ⟨rfl, hp⟩
  rw [exec_get_bind]
  exact h p p p ⟨rfl, hp⟩

theorem keeps_modify {I : Pass → Prop} {f : Pass → Pass} (h : ∀ p, I p → I (f p)) :
    Keeps I (modify f) := by
  apply sim_modify
  rintro p q ⟨rfl, hp⟩
  exact ⟨rfl, h p hp⟩

theorem keeps_throw (I : Pass → Prop) (e : Failure) : Keeps I (throw e : Stage α) :=
  fun _ _ h => ⟨rfl, h⟩

theorem keeps_changeRequest (part : String) {f : Request → Request} (h : ∀ r, J r → J (f r)) :
    Keeps (Pass.RequestHas J) (changeRequest part f) := by
  rintro p q ⟨rfl, hp⟩
  unfold changeRequest
  rw [exec_get_bind]
  rcases hr : p.request with _ | r
  · exact ⟨rfl, rfl, hp⟩
  · refine ⟨rfl, rfl, ?_⟩
    rintro _ ⟨⟩
    exact h r (hp r hr)

theorem keeps_putSetting (s : Setting) : Keeps (Pass.RequestHas J) (putSetting s) :=
  keeps_modify fun _ h => h

theorem keeps_tell (e : Event) : Keeps (Pass.RequestHas J) (tell e) :=
  keeps_modify fun _ h => h

/-- Making an edit is to change the request by it. -/
theorem keeps_perform (a : Action) (h : ∀ e, a.edit? = some e → ∀ r, J r → J (e.apply r)) :
    Keeps (Pass.RequestHas J) a.perform := by
  cases a with
  | fail e attempts =>
      apply keeps_get_bind
      intro p
      dsimp only
      split
      · exact keeps_throw _ e
      · exact sim_pure ()
  | setHeader name value => exact keeps_changeRequest _ (h (.set name value) rfl)
  | addHeader name value => exact keeps_changeRequest _ (h (.add name value) rfl)
  | setUrl url => exact keeps_changeRequest _ (h (.setUrl url) rfl)
  | put s => exact keeps_putSetting s
  | unset key => exact keeps_modify fun _ h => h

theorem keeps_whenSigning {I : Pass → Prop} {hook : Hook} {m : Stage Unit}
    (h : hook = .beforeSigning → Keeps I m) : Keeps I (whenSigning hook m) := by
  unfold whenSigning
  split
  · next hhook => exact h hhook
  · exact sim_pure ()

theorem keeps_editConfig (window : Signing.Window) (payload : Signing.Payload) :
    Keeps (Pass.RequestHas J) (editConfig window payload) := by
  apply keeps_get_bind
  intro p
  split
  · exact keeps_throw _ _
  · exact sim_bind (keeps_putSetting _) fun _ => keeps_tell _

/-! ## Calls -/

section

variable (w : Surroundings) (maxAttempts : Nat) (hook : Hook)

theorem keeps_behaviour (b : Behaviour)
    (h : ∀ e, b.MayEdit hook e → ∀ r, J r → J (e.apply r)) :
    Keeps (Pass.RequestHas J) (b.call w maxAttempts hook) := by
  cases b with
  | inert => exact sim_pure ()
  | invocationId =>
      apply keeps_whenSigning
      intro hhook
      exact keeps_changeRequest _ (h (.set _ _) ⟨hhook, _, rfl⟩)
  | requestInfo =>
      apply keeps_whenSigning
      intro hhook
      apply keeps_get_bind
      intro p
      exact keeps_changeRequest _ (h (.set _ _) ⟨hhook, _, rfl⟩)
  | userAgent product version extras =>
      apply keeps_whenSigning
      intro hhook
      exact keeps_changeRequest _ (h (.set _ _) ⟨hhook, _, rfl⟩)
  | presigning window payload =>
      cases hook with
      | beforeSerialization => exact keeps_putSetting _
      | beforeSigning => exact keeps_editConfig window payload
      | _ => exact sim_pure ()
  | scripted actions =>
      apply sim_forM
      intro a ha
      exact keeps_perform a fun e he => h e ⟨a, ha, he⟩

/-- A call of an interceptor keeps what each edit keeps that it may make. -/
theorem keeps_call (i : Interceptor)
    (h : ∀ e, i.behaviour.MayEdit hook e → ∀ r, J r → J (e.apply r)) :
    Keeps (Pass.RequestHas J) (i.call w maxAttempts hook) := by
  apply keeps_get_bind
  intro p
  split
  · exact keeps_tell _
  · exact sim_bind (keeps_tell _) fun _ => keeps_behaviour w maxAttempts hook i.behaviour h

end

/-! ## Steps -/

/-- Whether the step may make the edit. -/
def Step.MayEdit (e : Edit) : Step → Prop
  | .call hook i => i.behaviour.MayEdit hook e
  | _ => False

variable {w : Surroundings} {c : Components} {o : Operation}
  {credentials : Option Signing.Credentials}

/-- A step keeps what each edit keeps that it may make, if the serializer and the signer see to
it. -/
theorem keeps_perform_step (x : Step)
    (hedit : ∀ e, x.MayEdit e → ∀ r, J r → J (e.apply r))
    (hserialize : ∀ d, J (o.serialize d))
    (hsign : ∀ config now r, J r → J (Signing.sign config credentials now r).request) :
    Keeps (Pass.RequestHas J) (x.perform w c o credentials) := by
  cases x with
  | call hook i => exact keeps_call w c.strategy.maxAttempts hook i hedit
  | serialize =>
      apply keeps_modify
      rintro p - _ ⟨⟩
      exact hserialize _
  | sign =>
      rintro p q ⟨rfl, hp⟩
      refine ⟨rfl, rfl, ?_⟩
      show ((signStage w c.clock credentials).exec p).2.RequestHas J
      rcases hc : p.bag.signing? with _ | config
      · rw [exec_signStage_none w credentials c.clock (.inl hc)]
        exact hp
      rcases hr : p.request with _ | r
      · rw [exec_signStage_none w credentials c.clock (.inr hr)]
        exact hp
      · -- the request stays as signing left it, also if signing failed
        rw [exec_signStage w credentials c.clock hc hr]
        rintro _ ⟨⟩
        exact hsign config _ r (hp r hr)

end

end UrlSigning.Pipeline
