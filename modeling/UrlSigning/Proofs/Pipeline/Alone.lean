import UrlSigning.Proofs.Pipeline.Disabling
import UrlSigning.Proofs.Pipeline.Handover
import UrlSigning.Proofs.Pipeline.OneAttempt

/-!
# Presigning on its own

Without plugins of a caller, the interceptors that every pipeline starts with are switched off and
the interceptor of presigning is the only one that is called. What is left of the pipeline is the
signer: it is handed the configuration of the operation, edited for presigning, and the request of
the operation without default headers.
-/

namespace UrlSigning.Pipeline

open Http Stage

/-- What signing comes to: the request, or the failure if there was one. -/
def resultOf (s : Signing.Signed) : Except Failure Request :=
  match s.failure with
  | none => .ok s.request
  | some failure => .error failure

section

variable (w : Surroundings) (c : Components) (o : Operation)
  (credentials : Option Signing.Credentials) (window : Signing.Window) (payload : Signing.Payload)

theorem exec_presigning_idle (maxAttempts : Nat) {hook : Hook} {p : Pass}
    (hidle : hook ≠ .beforeSerialization ∧ hook ≠ .beforeSigning)
    (hon : p.bag.disabledReason? "PresigningInterceptor" = none) :
    ((Interceptor.presigning window payload).call w maxAttempts hook).exec p =
      (.ok (),
        { p with
          log := p.log ++
            [.running "PresigningInterceptor" hook p.attempt p.request.isSome] }) := by
  rw [exec_call_of_enabled hon]
  cases hook with
  | beforeSerialization => exact absurd rfl hidle.1
  | beforeSigning => exact absurd rfl hidle.2
  | _ => rfl

/-- Presigning comes to the signer with the edited configuration and without default headers. -/
theorem exec_stepsToSigner_presigning {p : Pass} {config : Signing.Config}
    (hon : p.bag.disabledReason? "PresigningInterceptor" = none)
    (hconfig : p.bag.signing? = some config) :
    ∃ q, ((stepsToSigner [.presigning window payload]).forM
        (Step.perform w c o credentials)).exec p = (.ok (), q) ∧
      q.bag.disabledReason? "PresigningInterceptor" = none ∧
      q.bag.signing? = some (presigned window payload config) ∧
      q.request = some (o.serialize ⟨true, true⟩) := by
  have hsteps : stepsToSigner [.presigning window payload] =
      [.call .beforeExecution (.presigning window payload),
        .call .beforeSerialization (.presigning window payload), .serialize,
        .call .afterSerialization (.presigning window payload),
        .call .beforeSigning (.presigning window payload)] := rfl
  -- the call before the serializer leaves out default headers, the one before the signer edits
  rw [hsteps, exec_forM_cons]
  dsimp only [Step.perform]
  rw [exec_presigning_idle w window payload _ (by decide) hon, andThen_ok, exec_forM_cons]
  dsimp only [Step.perform]
  rw [exec_presigning_beforeSerialization w _ window payload (by exact hon), andThen_ok,
    exec_forM_cons]
  dsimp only [Step.perform]
  rw [exec_serializeStage, andThen_ok, exec_forM_cons]
  dsimp only [Step.perform]
  rw [exec_presigning_idle w window payload _ (by decide) (by simpa using hon), andThen_ok,
    exec_forM_cons]
  dsimp only [Step.perform]
  rw [exec_presigning_beforeSigning w _ window payload (by simpa using hon)
    (by simpa using hconfig), andThen_ok, exec_forM_nil]
  exact ⟨_, rfl, by simpa using hon, Bag.signing?_put_signing _ _, by simp⟩

/-- An attempt in which only presigning is called comes to what signing comes to. -/
theorem result_runAttempt_presigning (attempt : Nat) {b : Bag} {config : Signing.Config}
    (hchain : c.interceptors = [.presigning window payload])
    (hon : b.disabledReason? "PresigningInterceptor" = none) (hconfig : b.signing? = some config) :
    (runAttempt w b c o credentials attempt).result =
      resultOf (Signing.sign (presigned window payload config) credentials (c.clock.now w)
        (o.serialize ⟨true, true⟩)) := by
  obtain ⟨p, hp, hpon, hpconfig, hrequest⟩ :=
    exec_stepsToSigner_presigning w c o credentials window payload (p := startPass b attempt) hon
      hconfig
  rw [runAttempt_eq, hchain, stepsOf, exec_forM_append, hp, andThen_ok, exec_forM_cons]
  dsimp only [Step.perform]
  rw [exec_signStage w credentials c.clock hpconfig hrequest, signedPass, resultOf]
  cases (Signing.sign (presigned window payload config) credentials (c.clock.now w)
    (o.serialize ⟨true, true⟩)).failure with
  | some failure => rfl
  | none =>
      -- the hook after the signer changes nothing
      rw [andThen_ok, exec_callsAt, callAll, exec_forM_cons,
        exec_presigning_idle w window payload _ (by decide)]
      · rfl
      · exact hpon

end

/-! ## Without plugins of a caller -/

section

variable (w : Surroundings) (o : Operation) (credentials : Option Signing.Credentials)
  (region : Json) (service : String) (window : Signing.Window)

/-- Without plugins of a caller, presigning comes to what signing comes to. -/
theorem result_invoke_alone (payload : Signing.Payload) :
    (invoke w (presignPlugins region service window payload []) o credentials).result =
      resultOf (Signing.sign
        (presigned window payload (Plugin.setupConfig region service none)) credentials
        window.start (o.serialize ⟨true, true⟩)) := by
  have hmarks : ∀ kind ∈ Builder.defaults.interceptors.map (·.kind),
      ∃ plugin ∈ presignPlugins region service window payload [], plugin.Marks kind := by
    intro kind hkind
    obtain ⟨i, hi, rfl⟩ := List.mem_map.mp hkind
    exact ⟨.presigning window payload, by simp [presignPlugins],
      Plugin.marks_presigning window payload hi⟩
  have hreasons : ∀ kind ∈ Builder.defaults.interceptors.map (·.kind),
      ∀ plugin ∈ presignPlugins region service window payload [], plugin.GivesReasons kind := by
    intro kind _ plugin hplugin
    rcases List.mem_cons.mp hplugin with rfl | hplugin
    · exact Plugin.givesReasons_setup _ kind
    · rw [List.mem_singleton.mp hplugin]
      exact Plugin.givesReasons_presigning window payload kind
  rw [invoke_eq, result_invokeWith_withoutAll (List.Subset.refl _) hmarks hreasons]
  -- all the interceptors of the pipeline itself are disabled, which leaves presigning alone
  have hleft : (Builder.defaults.interceptors.map (·.kind)).foldl (fun c kind => c.without kind)
      (componentsOf (presignPlugins region service window payload [])) =
        ⟨[.presigning window payload], .once true, .pinned window.start⟩ := rfl
  rw [hleft, invokeWith_of_allowed rfl, Retry.run_once]
  have hstart : Reaches w (presignPlugins region service window payload []) o credentials 1 []
    (startPass (freshBag (presignPlugins region service window payload [])) 1) := rfl
  refine result_runAttempt_presigning w _ o credentials window payload 1 rfl ?_ ?_
  · exact hstart.left_on (List.nil_subset _) (leavesOn_presignPlugins (by simp))
  · rfl

/-- Without plugins of a caller, a presigned request is what signing leaves. -/
theorem result_presign_alone (payload : Option Signing.Payload) :
    (presign w o credentials region service window payload []).result =
      (resultOf (Signing.sign (presigned window (payload.getD .unsigned)
        (Plugin.setupConfig region service none)) credentials window.start
          (o.serialize ⟨true, true⟩))).bind (presignedOf window) := by
  rw [presign, ← result_invoke_alone]

end

end UrlSigning.Pipeline
