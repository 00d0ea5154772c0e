import UrlSigning.Proofs.Pipeline.Bag
import UrlSigning.Proofs.Pipeline.Stage

/-!
# Passes that interceptors cannot tell apart

What an interceptor does depends on the bag, the request and the number of the attempt, and it
changes a pass by putting and unsetting settings, changing the request and telling events. An
`Agreement` is a relation of passes that fixes the former and is kept by the latter;
`Agreement.sim_call` says that every call of an interceptor keeps it. Which settings are put and
which events are told is left open, so that an agreement need only be kept by those that occur.
-/

namespace UrlSigning.Pipeline

open Http Stage

/-- Whether the behaviour puts the setting at some hook. -/
def Behaviour.MayPut (s : Setting) : Behaviour → Prop
  | .presigning window payload =>
      s = .headerDefaults ⟨true, true⟩ ∨ ∃ c, s = .signing (presigned window payload c)
  | .scripted actions => ∃ hook, .put s ∈ actions hook
  | _ => False

section

variable {w : Surroundings} {maxAttempts : Nat} {hook : Hook} {i : Interceptor} {p : Pass}

/-- An interceptor that is not switched off does what its behaviour says. -/
theorem exec_call_of_enabled (h : p.bag.disabledReason? i.kind = none) :
    (i.call w maxAttempts hook).exec p =
      (i.behaviour.call w maxAttempts hook).exec
        { p with log := p.log ++ [.running i.kind hook p.attempt p.request.isSome] } := by
  unfold Interceptor.call
  rw [exec_get_bind, h]
  exact exec_bind _ _ p

/-- An interceptor that is switched off does nothing, and says why. -/
theorem exec_call_of_disabled {reason : String}
    (h : p.bag.disabledReason? i.kind = some reason) :
    (i.call w maxAttempts hook).exec p =
      (.ok (), { p with log := p.log ++ [.skipped i.kind hook reason] }) := by
  unfold Interceptor.call
  rw [exec_get_bind, h]
  rfl

end

/-- A relation of passes that fixes what interceptors read, and is kept by what they do as long as
they put settings with `put` and tell events with `told`. -/
structure Agreement (put : Setting → Prop) (told : Event → Prop) (R : Pass → Pass → Prop) :
    Prop where
  bag : ∀ {p q}, R p q → p.bag.HoldsSame q.bag
  request : ∀ {p q}, R p q → p.request = q.request
  attempt : ∀ {p q}, R p q → p.attempt = q.attempt
  putting : ∀ {p q} s, put s → R p q → R { p with bag := p.bag.put s } { q with bag := q.bag.put s }
  unsetting : ∀ {p q} key, R p q →
    R { p with bag := p.bag.unset key } { q with bag := q.bag.unset key }
  asking : ∀ {p q} r, R p q → R { p with request := some r } { q with request := some r }
  telling : ∀ {p q} e, told e → R p q →
    R { p with log := p.log ++ [e] } { q with log := q.log ++ [e] }

/-- An invariant that is kept by what interceptors do, as an agreement of a pass with itself. -/
theorem Agreement.ofInvariant {put : Setting → Prop} {told : Event → Prop} {I : Pass → Prop}
    (putting : ∀ {p} s, put s → I p → I { p with bag := p.bag.put s })
    (unsetting : ∀ {p} key, I p → I { p with bag := p.bag.unset key })
    (asking : ∀ {p} r, I p → I { p with request := some r })
    (telling : ∀ {p} e, told e → I p → I { p with log := p.log ++ [e] }) :
    Agreement put told fun p q => p = q ∧ I p where
  bag h := .of_eq (by rw [h.1])
  request h := by rw [h.1]
  attempt h := by rw [h.1]
  putting s hs h := ⟨by rw [h.1], putting s hs h.2⟩
  unsetting key h := ⟨by rw [h.1], unsetting key h.2⟩
  asking r h := ⟨by rw [h.1], asking r h.2⟩
  telling e he h := ⟨by rw [h.1], telling e he h.2⟩

theorem agreement_written (layers : List Layer) (P : Setting → Prop) :
    Agreement P (fun _ => True) fun p q => p = q ∧ (p.bag.layers = layers ∧ p.bag.Written P) :=
  .ofInvariant (fun _ hs h => ⟨h.1, h.2.put hs⟩) (fun key h => ⟨h.1, h.2.unset key⟩)
    (fun _ h => h) (fun _ _ h => h)

theorem agreement_hasRequest :
    Agreement (fun _ => True) (fun _ => True) fun p q => p = q ∧ p.request.isSome = true :=
  .ofInvariant (fun _ _ h => h) (fun _ h => h) (fun _ _ => rfl) (fun _ _ h => h)

namespace Agreement

variable {put : Setting → Prop} {told : Event → Prop} {R : Pass → Pass → Prop}

/-! ## The parts of a call -/

theorem sim_tell (A : Agreement put told R) {e : Event} (he : told e) :
    Sim R (tell e) (tell e) :=
  sim_modify fun _ _ => A.telling e he

theorem sim_putSetting (A : Agreement put told R) {s : Setting} (hs : put s) :
    Sim R (putSetting s) (putSetting s) :=
  sim_modify fun _ _ => A.putting s hs

theorem sim_changeRequest (A : Agreement put told R) (part : String) (f : Request → Request) :
    Sim R (changeRequest part f) (changeRequest part f) := by
  intro p q h
  unfold changeRequest
  rw [exec_get_bind, exec_get_bind, ← A.request h]
  cases p.request with
  | none => exact ⟨rfl, h⟩
  | some r => exact ⟨rfl, A.asking (f r) h⟩

theorem sim_perform (A : Agreement put told R) (a : Action) (ha : ∀ s, a = .put s → put s) :
    Sim R a.perform a.perform := by
  cases a with
  | fail e attempts =>
      intro p q h
      simp only [Action.perform, exec_get_bind, ← A.attempt h]
      split
      · exact ⟨rfl, h⟩
      · exact ⟨rfl, h⟩
  | setHeader name value => exact A.sim_changeRequest _ _
  | addHeader name value => exact A.sim_changeRequest _ _
  | setUrl url => exact A.sim_changeRequest _ _
  | put s => exact A.sim_putSetting (ha s rfl)
  | unset key => exact sim_modify fun _ _ => A.unsetting key

theorem sim_whenSigning {m : Stage Unit} (hook : Hook) (hm : Sim R m m) :
    Sim R (whenSigning hook m) (whenSigning hook m) := by
  unfold whenSigning
  split
  · exact hm
  · exact sim_pure ()

theorem sim_editConfig (A : Agreement put told R) (window : Signing.Window)
    (payload : Signing.Payload) (hput : ∀ c, put (.signing (presigned window payload c)))
    (htold : ∀ service, told (.presigning service window.length)) :
    Sim R (editConfig window payload) (editConfig window payload) := by
  intro p q h
  unfold editConfig
  rw [exec_get_bind, exec_get_bind, ← (A.bag h).signing?]
  cases p.bag.signing? with
  | none => exact ⟨rfl, h⟩
  | some c => exact sim_bind (A.sim_putSetting (hput c)) (fun _ => A.sim_tell (htold _)) p q h

/-! ## Calls -/

/-- What an interceptor does at a hook keeps an agreement. -/
theorem sim_behaviour (A : Agreement put told R) (w : Surroundings) (maxAttempts : Nat)
    (hook : Hook) (b : Behaviour) (hput : ∀ s, b.MayPut s → put s)
    (htold : ∀ service length, told (.presigning service length)) :
    Sim R (b.call w maxAttempts hook) (b.call w maxAttempts hook) := by
  cases b with
  | inert => exact sim_pure ()
  | invocationId => exact sim_whenSigning hook (A.sim_changeRequest _ _)
  | requestInfo =>
      refine sim_whenSigning hook fun p q h => ?_
      rw [exec_get_bind, exec_get_bind, ← A.attempt h]
      exact A.sim_changeRequest _ _ p q h
  | userAgent product version extras => exact sim_whenSigning hook (A.sim_changeRequest _ _)
  | presigning window payload =>
      cases hook with
      | beforeSerialization => exact A.sim_putSetting (hput _ (.inl rfl))
      | beforeSigning =>
          exact A.sim_editConfig window payload (fun c => hput _ (.inr ⟨c, rfl⟩)) (htold · _)
      | _ => exact sim_pure ()
  | scripted actions =>
      refine sim_forM fun a ha => A.sim_perform a ?_
      rintro s rfl
      exact hput s ⟨hook, ha⟩

/-- A call of an interceptor keeps an agreement, whether its kind is switched off or not. -/
theorem sim_call (A : Agreement put told R) (w : Surroundings) (maxAttempts : Nat) (hook : Hook)
    (i : Interceptor) (hput : ∀ s, i.behaviour.MayPut s → put s)
    (hskip : ∀ reason, told (.skipped i.kind hook reason))
    (hrun : ∀ attempt hasRequest, told (.running i.kind hook attempt hasRequest))
    (htold : ∀ service length, told (.presigning service length)) :
    Sim R (i.call w maxAttempts hook) (i.call w maxAttempts hook) := by
  intro p q h
  unfold Interceptor.call
  -- the two bags hold the same, so the interceptor is called in both passes or in none
  rw [exec_get_bind, exec_get_bind, ← (A.bag h).disabledReason? i.kind, ← A.attempt h,
    ← A.request h]
  cases p.bag.disabledReason? i.kind with
  | some reason => exact A.sim_tell (hskip reason) p q h
  | none =>
      exact sim_bind (A.sim_tell (hrun _ _))
        (fun _ => A.sim_behaviour w maxAttempts hook i.behaviour hput htold) p q h

theorem tellAll (A : Agreement put told R) {es : List Event} (hes : ∀ e ∈ es, told e) {p q : Pass}
    (h : R p q) : R { p with log := p.log ++ es } { q with log := q.log ++ es } := by
  induction es generalizing p q with
  | nil => simpa using h
  | cons e es ih =>
      have ht := A.telling e (hes e List.mem_cons_self) h
      simpa using ih (fun f hf => hes f (List.mem_cons_of_mem e hf)) ht

end Agreement

end UrlSigning.Pipeline
