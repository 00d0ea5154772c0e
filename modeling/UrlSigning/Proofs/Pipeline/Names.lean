import UrlSigning.Proofs.Pipeline.Edits
import UrlSigning.Proofs.Presigning.Signer
import UrlSigning.Proofs.Signing.Names

/-!
# Names of headers along a pipeline

Header fields are added one after another on a request's way, by the serializer, by interceptors and
by the signer, and a list of fields may hold a name twice. None of them makes it so: the serializer
adds a default only where the operation names none, setting a header takes away what there was, and
the signer does the same for its own. So the names of a request stay distinct from the operation to
the end, in whatever case they are written, unless an interceptor adds a header without asking.
-/

namespace UrlSigning.Pipeline

open Http Stage

/-- The interceptors of the plugin add no header beside one that there is: they change headers by
setting them, if at all. -/
def Plugin.SetsHeaders (plugin : Plugin) : Prop :=
  ∀ i ∈ plugin.components.interceptors, ∀ hook name value,
    ¬ i.behaviour.MayEdit hook (.add name value)

/-- The interceptors of a pipeline set headers if those of its plugins do. -/
theorem setsHeaders_of_mem_chainOf {plugins : List Plugin}
    (hset : ∀ plugin ∈ plugins, plugin.SetsHeaders) :
    ∀ i ∈ chainOf plugins, ∀ hook name value, ¬ i.behaviour.MayEdit hook (.add name value) := by
  apply forall_mem_chainOf _ hset
  -- the pipeline's own interceptors set what they stamp
  refine ⟨?_, ?_, ?_⟩
  · rintro hook name value ⟨-, _, ⟨⟩⟩
  · rintro hook name value ⟨-, _, ⟨⟩⟩
  · rintro hook name value ⟨-, _, ⟨⟩⟩

section

-- names may only be related if they are the same but for their case
variable {R : String → String → Prop} (hR : ∀ a b, R a b → Headers.sameName a b = true)
include hR

theorem apart_apply {e : Edit} (hset : ∀ name value, e ≠ .add name value) {r : Request}
    (hd : r.headers.Apart R) : (e.apply r).headers.Apart R := by
  cases e with
  | set name value => exact hd.set hR name value
  | add name value => exact absurd rfl (hset name value)
  | setUrl url => exact hd

/-- A default is added only if the operation has no header of its name, and the two defaults have
different names. -/
theorem apart_serialize {o : Operation} (hd : (Headers.mk o.headers).Apart R)
    (d : HeaderDefaults) : (o.serialize d).headers.Apart R := by
  have hnew {kept : Bool} {name : String}
      (h : ¬ (kept || (Headers.mk o.headers).has name) = true) :
      (Headers.mk o.headers).has name = false := by
    rw [Bool.or_eq_true, not_or, Bool.not_eq_true, Bool.not_eq_true] at h
    exact h.2
  have hother : Headers.sameName "Content-Length" "Content-Type" = false := by decide
  simp only [Operation.serialize]
  split
  · split
    · exact hd
    · next hlength => exact hd.add hR _ (hnew hlength)
  · next htype =>
      split
      · exact hd.add hR _ (hnew htype)
      · next hlength =>
          apply (hd.add hR _ (hnew hlength)).add hR
          rw [Headers.has_add, hnew htype, hother]
          rfl

/-- Wherever an attempt stands, the names of its request are distinct. -/
theorem Reaches.apart {w : Surroundings} {plugins : List Plugin} {o : Operation}
    {credentials : Option Signing.Credentials} {attempt : Nat} {done : List Step} {p : Pass}
    (h : Reaches w plugins o credentials attempt done p)
    (hdone : done ⊆ stepsOf (chainOf plugins)) (hset : ∀ plugin ∈ plugins, plugin.SetsHeaders)
    (hd : (Headers.mk o.headers).Apart R) : p.RequestHas fun r => r.headers.Apart R := by
  apply h.invariant
  · intro x hx
    apply keeps_perform_step
    · intro e he r hr
      apply apart_apply hR _ hr
      rintro name value rfl
      rcases mem_stepsOf (hdone hx) with ⟨hook, i, hi, rfl⟩ | rfl | rfl
      · exact setsHeaders_of_mem_chainOf hset i hi hook name value he
      · exact he
      · exact he
    · exact apart_serialize hR hd
    · intro config now r hr
      exact Signing.apart_sign hR config credentials now hr
  · rintro _ ⟨⟩

end

/-- If an operation names no header twice, in whatever case, and no plugin has an interceptor that
adds headers instead of setting them, the request that the pipeline comes to names none twice: what
is sent along with a body, what is stamped and what belongs to the signature stand there once, under
a name in the case of the operation or of the pipeline. -/
theorem invoke_keeps_names_distinct {w : Surroundings} {plugins : List Plugin} {o : Operation}
    {credentials : Option Signing.Credentials} {r : Request}
    (hset : ∀ plugin ∈ plugins, plugin.SetsHeaders) (hd : (Headers.mk o.headers).NamesDistinct)
    (h : (invoke w plugins o credentials).result = .ok r) :
    r.headers.NamesDistinct ∧ ∀ name, (r.headers.getAll name).length ≤ 1 := by
  obtain ⟨attempt, p, hp, hr⟩ := exists_reaches_of_invoke h
  have hdistinct : r.headers.NamesDistinct :=
    hp.apart (fun _ _ h => h) (List.Subset.refl _) hset hd r hr
  exact ⟨hdistinct, hdistinct.length_getAll_le⟩

/-- An upload whose headers are those of the pipeline in another case. -/
def recased : Operation :=
  { Sample.reading "/a/b.txt?part=1" with
    method := "put"
    body := [104, 105]
    headers := [("content-length", "2"), ("AUTHORIZATION", "none"), ("x-amz-date", "today"),
      ("user-agent", "curl"), ("X-AMZ-SECURITY-TOKEN", "old")] }

/-- A plugin that sets the content type twice, in two cases. -/
def retyping : Plugin where
  layer := none
  components :=
    { name := "RetypingPlugin"
      interceptors := [⟨"Retyper", .scripted fun
        | .afterSerialization => [.setHeader "CONTENT-TYPE" "text/plain"]
        | .beforeSigning => [.setHeader "content-type" "text/html"]
        | _ => []⟩] }

theorem setsHeaders_retyping : retyping.SetsHeaders := by
  intro i hi hook name value he
  rw [List.mem_singleton.mp hi] at he
  obtain ⟨a, ha, he⟩ := he
  cases hook <;> simp at ha <;> subst ha <;> cases he

/-- The plugins of an upload that is signed in a header. -/
def retyped : List Plugin := [.setup (Plugin.setupConfig "us-east-1" "s3" none), retyping]

def Sample.sessionKeys : Signing.Credentials := ⟨"AKIDEXAMPLE", "wJalrXUtnFEMI", some "new"⟩

theorem exists_invoke_retyped :
    ∃ r, (invoke Sample.surroundings retyped recased (some Sample.sessionKeys)).result =
      .ok r := by
  let p := passAfter Sample.surroundings retyped recased (some Sample.sessionKeys) 1
    (stepsToSigner (chainOf retyped))
  have hp : Reaches Sample.surroundings retyped recased (some Sample.sessionKeys) 1
    (stepsToSigner (chainOf retyped)) p := reaches_passAfter (by decide +kernel)
  have hconfig : p.bag.signing?.map (fun c => (c.options.location, c.region.text?)) =
    some (.headers, some "us-east-1") := by decide +kernel
  have hrequest : p.request.map (fun r => (r.url, r.headers.has "Date")) =
    some (recased.url, false) := by decide +kernel
  obtain ⟨config, hc, hconfig⟩ := Option.map_eq_some_iff.mp hconfig
  obtain ⟨r, hr, hrequest⟩ := Option.map_eq_some_iff.mp hrequest
  obtain ⟨hlocation, hregion⟩ := Prod.mk.inj hconfig
  obtain ⟨hurl, hdate⟩ := Prod.mk.inj hrequest
  obtain ⟨parts, hparts, hhosted⟩ :=
    split_reading "/a/b.txt?part=1" fun c hc => by cases hc; rfl
  change Url.split recased.url = .ok parts at hparts
  rw [← hurl] at hparts
  obtain ⟨host, hhost⟩ := Url.exists_host? hhosted hparts
  have hsigned : (Signing.sign config (some Sample.sessionKeys)
      ((clockOf retyped).now Sample.surroundings) r).failure = none :=
    Signing.failure_sign_headers hlocation rfl ⟨_, rfl⟩ (Signing.exists_text hregion) hdate hparts
      hhost
  apply exists_invoke rfl hp hc hr hsigned
  apply forall_mem_chainOf
  · exact ⟨rfl, rfl, rfl⟩
  · intro plugin hplugin i hi
    rcases List.mem_cons.mp hplugin with rfl | hplugin
    · cases hi
    · rw [List.mem_singleton.mp hplugin] at hi
      rw [List.mem_singleton.mp hi]
      rfl

theorem invoke_keeps_names_distinct_retyped :
    (∀ plugin ∈ retyped, plugin.SetsHeaders) ∧ (Headers.mk recased.headers).NamesDistinct ∧
      ∃ r, (invoke Sample.surroundings retyped recased (some Sample.sessionKeys)).result = .ok r ∧
        r.headers.NamesDistinct ∧ ∀ name, (r.headers.getAll name).length ≤ 1 := by
  have hset : ∀ plugin ∈ retyped, plugin.SetsHeaders := by
    intro plugin hplugin
    simp only [retyped, List.mem_cons, List.not_mem_nil, or_false] at hplugin
    rcases hplugin with rfl | rfl
    · rintro i ⟨⟩
    · exact setsHeaders_retyping
  have hd : (Headers.mk recased.headers).NamesDistinct := by decide
  obtain ⟨r, hr⟩ := exists_invoke_retyped
  exact ⟨hset, hd, r, hr, invoke_keeps_names_distinct hset hd hr⟩

end UrlSigning.Pipeline
