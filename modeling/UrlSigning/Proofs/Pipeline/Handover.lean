import UrlSigning.Proofs.Pipeline.Marks

/-!
# What presigning hands to the signer

A caller's plugins may bring layers and interceptors that write what they like. As long as none of
them switches off the interceptor of presigning, that interceptor comes last at both of its hooks,
so the serializer leaves the default headers out and the signer is handed the edited configuration.
-/

namespace UrlSigning.Pipeline

open Http Stage

/-- The second configuration is the first one edited for presigning: the expiry, the place of the
signature and the payload are those of presigning, and all else is as it was. -/
structure EditedFor (window : Signing.Window) (payload : Signing.Payload)
    (before after : Signing.Config) : Prop where
  expires : after.options.expires = some window.length
  location : after.options.location = .query
  payload : after.options.payload = some payload
  region : after.region = before.region
  service : after.service = before.service
  encodePath : after.options.encodePath = before.options.encodePath
  normalizePath : after.options.normalizePath = before.options.normalizePath
  omitToken : after.options.omitToken = before.options.omitToken

theorem editedFor_presigned (window : Signing.Window) (payload : Signing.Payload)
    (c : Signing.Config) : EditedFor window payload c (presigned window payload c) := by
  constructor <;> rfl

/-- The steps before the interceptor of presigning edits the configuration. -/
def stepsToEdit (chain callers : List Interceptor) : List Step :=
  stepsToSerializer chain ++ stepsFromSerializer chain ++ callsAt .beforeSigning callers

/-! ## The interceptor of presigning -/

section Own

variable (w : Surroundings) (maxAttempts : Nat) (window : Signing.Window)
  (payload : Signing.Payload)

theorem exec_presigning_beforeSerialization {p : Pass}
    (hon : p.bag.disabledReason? "PresigningInterceptor" = none) :
    ((Interceptor.presigning window payload).call w maxAttempts .beforeSerialization).exec p =
      (.ok (),
        { p with
          bag := p.bag.put (.headerDefaults ⟨true, true⟩)
          log := p.log ++ [.running "PresigningInterceptor" .beforeSerialization p.attempt
            p.request.isSome] }) := by
  rw [exec_call_of_enabled hon]
  rfl

theorem exec_presigning_beforeSigning {p : Pass} {c : Signing.Config}
    (hon : p.bag.disabledReason? "PresigningInterceptor" = none) (hc : p.bag.signing? = some c) :
    ((Interceptor.presigning window payload).call w maxAttempts .beforeSigning).exec p =
      (.ok (),
        { p with
          bag := p.bag.put (.signing (presigned window payload c))
          log := p.log ++ [.running "PresigningInterceptor" .beforeSigning p.attempt
            p.request.isSome] ++ [.presigning c.service window.length] }) := by
  rw [exec_call_of_enabled hon]
  change (editConfig window payload).exec _ = _
  rw [editConfig, exec_get_bind]
  dsimp only
  rw [hc]
  rfl

theorem exists_signing?_of_presigning {p q : Pass}
    (hon : p.bag.disabledReason? "PresigningInterceptor" = none)
    (h : ((Interceptor.presigning window payload).call w maxAttempts .beforeSigning).exec p =
      (.ok (), q)) : ∃ c, p.bag.signing? = some c := by
  rw [exec_call_of_enabled hon] at h
  change (editConfig window payload).exec _ = _ at h
  rw [editConfig, exec_get_bind] at h
  dsimp only at h
  rcases hc : p.bag.signing? with _ | c <;> rw [hc] at h
  · cases h
  · exact ⟨c, rfl⟩

end Own

/-! ## The pipeline of presigning -/

section Presigning

variable {w : Surroundings} {o : Operation} {credentials : Option Signing.Credentials}
  {region : Json} {service : String} {window : Signing.Window} {payload : Signing.Payload}
  {plugins : List Plugin} {attempt : Nat} {p : Pass}

/-- No plugin of presigning itself switches presigning off. -/
theorem leavesOn_presignPlugins
    (hon : ∀ plugin ∈ plugins, plugin.LeavesOn "PresigningInterceptor") :
    ∀ plugin ∈ presignPlugins region service window payload plugins,
      plugin.LeavesOn "PresigningInterceptor" := by
  apply forall_mem_presignPlugins
  · intro config
    exact Plugin.leavesOn_setup config _
  · exact Plugin.leavesOn_presigning window payload (by decide)
  · exact hon

theorem fields_serialize_of_omitted (o : Operation) :
    (o.serialize ⟨true, true⟩).headers.fields = o.headers := by
  simp [Operation.serialize]

/-- The serializer of presigning adds no header to those of the operation. -/
theorem Reaches.serialized_headers
    (h : Reaches w (presignPlugins region service window payload plugins) o credentials attempt
      (stepsToSerializer (chainOf (presignPlugins region service window payload plugins)) ++
        [.serialize]) p)
    (hon : ∀ plugin ∈ plugins, plugin.LeavesOn "PresigningInterceptor") :
    ∃ r, p.request = some r ∧ r.headers.fields = o.headers := by
  obtain ⟨q, hq, hserialize⟩ := h.last
  -- the interceptor of presigning is called last before the serializer
  have hsteps : stepsToSerializer (chainOf (presignPlugins region service window payload plugins)) =
      (callsAt .beforeExecution (chainOf (presignPlugins region service window payload plugins)) ++
        callsAt .beforeSerialization (chainOf plugins)) ++
          [.call .beforeSerialization (.presigning window payload)] := by
    rw [stepsToSerializer, List.append_assoc]
    congr 1
    rw [chainOf_presignPlugins, callsAt, List.map_append]
    rfl
  rw [hsteps] at hq
  obtain ⟨t, ht, hown⟩ := hq.last
  have ht' := ht.left_on (by grind [stepsOf, stepsToSigner, stepsToSerializer, callsAt])
    (leavesOn_presignPlugins hon)
  change ((Interceptor.presigning window payload).call w _ .beforeSerialization).exec t = _ at hown
  rw [exec_presigning_beforeSerialization w _ window payload ht'] at hown
  cases hown
  change (serializeStage o).exec _ = _ at hserialize
  rw [exec_serializeStage, Bag.headerDefaults?_put_headerDefaults] at hserialize
  cases hserialize
  exact ⟨_, rfl, fields_serialize_of_omitted o⟩

/-- Where the signer's turn comes, presigning has edited the configuration that was there before it,
and there is a request. -/
theorem Reaches.edited
    (h : Reaches w (presignPlugins region service window payload plugins) o credentials attempt
      (stepsToSigner (chainOf (presignPlugins region service window payload plugins))) p)
    (hon : ∀ plugin ∈ plugins, plugin.LeavesOn "PresigningInterceptor") :
    ∃ q before, Reaches w (presignPlugins region service window payload plugins) o credentials
        attempt (stepsToEdit (chainOf (presignPlugins region service window payload plugins))
          (chainOf plugins)) q ∧
      q.bag.signing? = some before ∧ p.bag.signing? = some (presigned window payload before) := by
  -- the interceptor of presigning is called last before the signer
  have hsteps : stepsToSigner (chainOf (presignPlugins region service window payload plugins)) =
      stepsToEdit (chainOf (presignPlugins region service window payload plugins))
        (chainOf plugins) ++ [.call .beforeSigning (.presigning window payload)] := by
    rw [stepsToSigner, stepsToEdit, List.append_assoc _ (callsAt _ (chainOf plugins))]
    congr 1
    rw [chainOf_presignPlugins, callsAt, List.map_append]
    rfl
  rw [hsteps] at h
  obtain ⟨q, hq, hown⟩ := h.last
  have hq' := hq.left_on (by grind [stepsOf, stepsToSigner]) (leavesOn_presignPlugins hon)
  change ((Interceptor.presigning window payload).call w _ .beforeSigning).exec q = _ at hown
  obtain ⟨before, hbefore⟩ := exists_signing?_of_presigning w _ window payload hq' hown
  rw [exec_presigning_beforeSigning w _ window payload hq' hbefore] at hown
  cases hown
  exact ⟨q, before, hq, hbefore, Bag.signing?_put_signing _ _⟩

end Presigning

/-- When presigning comes to the signer, the serializer has built a request with exactly the headers
of the operation, and the signer is handed the configuration that held just before the interceptor
of presigning was called, edited for presigning. -/
theorem presign_hands_over_edited {w : Surroundings} {o : Operation}
    {credentials : Option Signing.Credentials} {region : Json} {service : String}
    {window : Signing.Window} {payload : Option Signing.Payload} {plugins all : List Plugin}
    {attempt : Nat} {p : Pass}
    (hall : all = presignPlugins region service window (payload.getD .unsigned) plugins)
    (hon : ∀ plugin ∈ plugins, plugin.LeavesOn "PresigningInterceptor")
    (h : Reaches w all o credentials attempt (stepsToSigner (chainOf all)) p) :
    (∃ s r, Reaches w all o credentials attempt
        (stepsToSerializer (chainOf all) ++ [.serialize]) s ∧
      s.request = some r ∧ r.headers.fields = o.headers) ∧
    ∃ q before after r, Reaches w all o credentials attempt
        (stepsToEdit (chainOf all) (chainOf plugins)) q ∧
      q.bag.signing? = some before ∧ EditedFor window (payload.getD .unsigned) before after ∧
      (Step.sign.perform w (componentsOf all) o credentials).exec p =
        signedPass p (Signing.sign after credentials window.start r) := by
  subst hall
  constructor
  · have h' := h
    rw [stepsToSigner_eq] at h'
    obtain ⟨s, hs, -⟩ := h'.between
    obtain ⟨r, hr, hfields⟩ := hs.serialized_headers hon
    exact ⟨s, r, hs, hr, hfields⟩
  · obtain ⟨q, before, hq, hbefore, hafter⟩ := h.edited hon
    obtain ⟨r, hr⟩ := h.hasRequest
    refine ⟨q, before, _, r, hq, hbefore, editedFor_presigned window _ before, ?_⟩
    show (signStage w (clockOf _) credentials).exec p = _
    rw [exec_signStage w credentials _ hafter hr, clockOf_presignPlugins]
    rfl

/-- A plugin that would have the signature put into a header and the default headers added. -/
def meddling : Plugin where
  layer := some (Layer.ofSettings "Meddling"
    [.headerDefaults {}, .signing ⟨"eu-west-1", "s3", { location := .headers }⟩])
  components :=
    { name := "MeddlingPlugin"
      interceptors := [⟨"Meddler", .scripted fun
        | .beforeSerialization => [.put (.headerDefaults {}), .unset .signing]
        | .beforeSigning =>
          [.put (.signing ⟨"eu-north-1", "s3", { omitToken := true }⟩),
            .setHeader "x-amz-acl" "none"]
        | _ => []⟩]
      strategy := some (.once false) }

theorem leavesOn_meddling : meddling.LeavesOn "PresigningInterceptor" where
  layer l hl := by
    cases hl
    rfl
  interceptors i hi s hs := by
    rw [List.mem_singleton.mp hi] at hs
    obtain ⟨hook, hs⟩ := hs
    cases hook <;> simp at hs
    · simp [hs, Setting.key]
    · simp [hs, Setting.key]

/-- The plugins of presigning around it. -/
def meddled : List Plugin :=
  presignPlugins "us-east-1" "s3" Sample.hour .unsigned [meddling]

theorem presign_hands_over_edited_meddled :
    ∃ p, Reaches Sample.surroundings meddled Sample.upload none 1
        (stepsToSigner (chainOf meddled)) p ∧
      (∃ s r, Reaches Sample.surroundings meddled Sample.upload none 1
          (stepsToSerializer (chainOf meddled) ++ [.serialize]) s ∧
        s.request = some r ∧ r.headers.fields = Sample.upload.headers) ∧
      ∃ q before after r, Reaches Sample.surroundings meddled Sample.upload none 1
          (stepsToEdit (chainOf meddled) (chainOf [meddling])) q ∧
        q.bag.signing? = some before ∧ EditedFor Sample.hour .unsigned before after ∧
        (Step.sign.perform Sample.surroundings (componentsOf meddled) Sample.upload none).exec p =
          signedPass p (Signing.sign after none Sample.hour.start r) := by
  obtain ⟨p, hp⟩ : ∃ p, Reaches Sample.surroundings meddled Sample.upload none 1
    (stepsToSigner (chainOf meddled)) p := exists_reaches (by decide +kernel)
  have hall : meddled =
    presignPlugins "us-east-1" "s3" Sample.hour ((none : Option Signing.Payload).getD .unsigned)
      [meddling] := rfl
  have hon : ∀ plugin ∈ [meddling], plugin.LeavesOn "PresigningInterceptor" := by
    intro plugin hplugin
    rw [List.mem_singleton.mp hplugin]
    exact leavesOn_meddling
  exact ⟨p, hp, presign_hands_over_edited hall hon hp⟩

end UrlSigning.Pipeline
