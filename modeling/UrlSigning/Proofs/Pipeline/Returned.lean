import UrlSigning.Proofs.Pipeline.Names
import UrlSigning.Proofs.Signing.Prepared
import UrlSigning.Proofs.Verification.Dictionary

/-!
# What is left of the signed headers in a presigned request

A presigned request is handed over with a dictionary of its headers, while the signer signs a list
of fields. A value is lost on the way if a name is there twice in one spelling, and only then. That
comes about by adding a header that there is; whoever sets headers loses nothing.
-/

namespace UrlSigning.Pipeline

open Http Stage Signing Verification

/-- The edits have a property that interceptors of the plugin make once the request is signed. -/
def Plugin.EditsSigned (P : Edit → Prop) (plugin : Plugin) : Prop :=
  ∀ i ∈ plugin.components.interceptors, ∀ e, i.behaviour.MayEdit .afterSigning e → P e

/-- Once the request is signed, the interceptors of the plugin change no header. -/
def Plugin.LeavesSignedHeaders (plugin : Plugin) : Prop :=
  plugin.EditsSigned fun e => ∃ url, e = .setUrl url

/-- Once the request is signed, the interceptors of the plugin do not change the URL. -/
def Plugin.LeavesSignedUrl (plugin : Plugin) : Prop :=
  plugin.EditsSigned fun e => ∀ url, e ≠ .setUrl url

/-- How a presigned request came about: where the signer's turn came in the attempt, there was a
request, which was prepared and of which the fields were signed, and what was signed was handed over
with its headers as a dictionary. -/
structure ComesFrom (w : Surroundings) (plugins : List Plugin) (o : Operation)
    (credentials : Option Credentials) (now : DateTime) (m : Presigned) (p : Pass) (config : Config)
    (r prepared : Request) (fields : List SignedField) : Prop where
  reaches : Reaches w plugins o credentials 1 (stepsToSigner (chainOf plugins)) p
  configured : p.bag.signing? = some config
  request : p.request = some r
  success : (sign config credentials now r).failure = none
  signed : SignedThrough config credentials now r prepared fields
    (sign config credentials now r).request
  headers : m.headers = Entries.ofPairs (sign config credentials now r).request.headers.fields

/-! ## After signing -/

section

variable {w : Surroundings} {plugins : List Plugin} {o : Operation}
  {credentials : Option Credentials} {p q : Pass} {P : Edit → Prop}

/-- The pipeline's own interceptors make no edits once the request is signed. -/
theorem editsSigned_of_mem_chainOf (h : ∀ plugin ∈ plugins, plugin.EditsSigned P) :
    ∀ i ∈ chainOf plugins, ∀ e, i.behaviour.MayEdit .afterSigning e → P e := by
  apply forall_mem_chainOf _ h
  refine ⟨?_, ?_, ?_⟩
  · rintro e ⟨⟨⟩, _⟩
  · rintro e ⟨⟨⟩, _⟩
  · rintro e ⟨⟨⟩, _⟩

/-- What the edits keep that plugins make after signing is kept to the end. -/
theorem requestHas_after_signing {J : Request → Prop}
    (hplugins : ∀ plugin ∈ plugins, plugin.EditsSigned P)
    (hedit : ∀ e, P e → ∀ r, J r → J (e.apply r))
    (hexec : ((callsAt .afterSigning (chainOf plugins)).forM
      (Step.perform w (componentsOf plugins) o credentials)).exec p = (.ok (), q))
    (hp : p.RequestHas J) : q.RequestHas J := by
  have hkeeps : Keeps (Pass.RequestHas J) ((callsAt .afterSigning (chainOf plugins)).forM
      (Step.perform w (componentsOf plugins) o credentials)) := by
    apply sim_forM
    intro x hx
    obtain ⟨i, hi, rfl⟩ := List.mem_map.mp hx
    apply keeps_call
    intro e he
    exact hedit e (editsSigned_of_mem_chainOf hplugins i hi e he)
  exact hkeeps.of_exec hp hexec

end

/-! ## Presigning -/

section

variable {w : Surroundings} {o : Operation} {credentials : Option Credentials} {region : Json}
  {service : String} {window : Window} {payload : Option Payload} {plugins all : List Plugin}
  {m : Presigned} {p : Pass} {config : Config} {r prepared : Request} {fields : List SignedField}

theorem editsSigned_presignPlugins {P : Edit → Prop} (payload : Payload)
    (h : ∀ plugin ∈ plugins, plugin.EditsSigned P) :
    ∀ plugin ∈ presignPlugins region service window payload plugins, plugin.EditsSigned P := by
  apply forall_mem_presignPlugins
  · rintro config i ⟨⟩
  · intro i hi e he
    rw [List.mem_singleton.mp hi] at he
    cases he
  · exact h

/-- A presigned request came about by a signature, unless headers were changed after that. -/
theorem exists_comesFrom
    (hall : all = presignPlugins region service window (payload.getD .unsigned) plugins)
    (hafter : ∀ plugin ∈ plugins, plugin.LeavesSignedHeaders)
    (h : (presign w o credentials region service window payload plugins).result = .ok m) :
    ∃ p config r prepared fields,
      ComesFrom w all o credentials window.start m p config r prepared fields ∧
        ((∀ plugin ∈ plugins, plugin.LeavesSignedUrl) →
          m.url = (sign config credentials window.start r).request.url) := by
  subst hall
  rw [presign_eq, runAttempt_eq] at h
  obtain ⟨final, hresult, hfinal⟩ := bind_eq_ok.mp h
  obtain ⟨hdone, hrequest⟩ := PassOutcome.result_of_eq_ok hresult
  obtain ⟨finish, -, hm⟩ := bind_eq_ok.mp hfinal
  cases hm
  obtain ⟨p, config, r, hp, hc, hr, hsuccess, hcalls⟩ :=
    Reaches.exists_signed (Prod.ext hdone rfl)
  rw [clockOf_presignPlugins] at hsuccess hcalls
  change (sign config credentials window.start r).failure = none at hsuccess
  obtain ⟨prepared, fields, hthrough⟩ := exists_signedThrough hsuccess
  -- an edit that sets the URL leaves the headers, and all other edits leave the URL
  have hheaders : final.headers = (sign config credentials window.start r).request.headers := by
    apply requestHas_after_signing (J := fun r' =>
      r'.headers = (sign config credentials window.start r).request.headers)
      (editsSigned_presignPlugins _ hafter) _ hcalls
    · rintro _ ⟨⟩
      rfl
    · exact hrequest
    · rintro _ ⟨url, rfl⟩ r' hr'
      exact hr'
  refine ⟨p, config, r, prepared, fields,
    ⟨hp, hc, hr, hsuccess, hthrough, congrArg (fun h => Entries.ofPairs h.fields) hheaders⟩, ?_⟩
  intro hleaves
  apply requestHas_after_signing (J := fun r' =>
    r'.url = (sign config credentials window.start r).request.url)
    (editsSigned_presignPlugins _ hleaves) _ hcalls
  · rintro _ ⟨⟩
    rfl
  · exact hrequest
  · intro e he r' hr'
    cases e with
    | set name value => exact hr'
    | add name value => exact hr'
    | setUrl url => exact absurd rfl (he url)

namespace ComesFrom

variable {now : DateTime} {name : String}

/-- Under a signed name, what is handed over is a dictionary of the fields that were signed. -/
theorem fieldsOf_headers (h : ComesFrom w plugins o credentials now m p config r prepared fields)
    (hname : name ∈ fields.map (·.1)) (hhost : name ≠ "host") :
    fieldsOf name m.headers = Entries.ofPairs (fieldsOf name prepared.headers.fields) := by
  rw [h.headers, fieldsOf_ofPairs]
  exact congrArg Entries.ofPairs (h.signed.filter_fields hname hhost)

/-- The line of a signed name is written again from what is handed over just when no spelling of the
name was there twice. -/
theorem headerLine?_iff (h : ComesFrom w plugins o credentials now m p config r prepared fields)
    (hname : name ∈ fields.map (·.1)) (hhost : name ≠ "host") :
    ∃ line, headerLine fields name = .ok line ∧ (headerLine? m name = some line ↔
      ((fieldsOf name prepared.headers.fields).map (·.1)).Nodup) :=
  ⟨_, headerLine_eq_ok h.signed.fields_eq hname hhost,
    headerLine?_iff_nodup hhost (h.fieldsOf_headers hname hhost)⟩

/-- If the URL was left as well, the request says itself which names were signed. -/
theorem signedHeaders (h : ComesFrom w plugins o credentials now m p config r prepared fields)
    (hlocation : config.options.location = .query)
    (hurl : m.url = (sign config credentials now r).request.url) :
    (m.parameters "X-Amz-SignedHeaders").getLast? = some (signedNames fields) := by
  obtain ⟨q, hq, hnames⟩ := h.signed.signedHeaders hlocation h.success rfl
  rw [← hurl] at hq
  rw [Presigned.parameters, hq]
  exact hnames

/-- If headers are set and never added, no name is there twice in one spelling. -/
theorem nodup_of_setsHeaders
    (h : ComesFrom w plugins o credentials now m p config r prepared fields)
    (hset : ∀ plugin ∈ plugins, plugin.SetsHeaders) (hnames : (Entries.keys o.headers).Nodup)
    (name : String) : ((fieldsOf name prepared.headers.fields).map (·.1)).Nodup := by
  have hR : ∀ a b : String, a = b → Headers.sameName a b = true := by
    rintro a _ rfl
    simp [Headers.sameName]
  have hdone : stepsToSigner (chainOf plugins) ⊆ stepsOf (chainOf plugins) :=
    List.subset_append_left _ _
  have hstart : (Headers.mk o.headers).Apart Eq := Headers.apart_eq_iff.mpr hnames
  have hr : r.headers.Apart Eq := h.reaches.apart hR hdone hset hstart r h.request
  have hprepared := Headers.apart_eq_iff.mp (h.signed.apart hR hr)
  exact hprepared.sublist (List.filter_sublist.map _)

end ComesFrom

/-- Of what the signer signed, a presigned request keeps the line of each name of which no spelling
was there twice, and of no other: whoever is sent its headers writes the same line just then. So all
lines are kept, but for the host's, if the operation names no header twice and the interceptors set
headers instead of adding them. -/
theorem presigned_keeps_lines
    (hall : all = presignPlugins region service window (payload.getD .unsigned) plugins)
    (hafter : ∀ plugin ∈ plugins, plugin.LeavesSignedHeaders)
    (h : (presign w o credentials region service window payload plugins).result = .ok m) :
    ∃ p config r prepared fields,
      ComesFrom w all o credentials window.start m p config r prepared fields ∧
      (config.options.location = .query → (∀ plugin ∈ plugins, plugin.LeavesSignedUrl) →
        (m.parameters "X-Amz-SignedHeaders").getLast? = some (signedNames fields)) ∧
      (∀ name ∈ fields.map (·.1), name ≠ "host" →
        ∃ line, headerLine fields name = .ok line ∧ (headerLine? m name = some line ↔
          ((fieldsOf name prepared.headers.fields).map (·.1)).Nodup)) ∧
      ((∀ plugin ∈ plugins, plugin.SetsHeaders) → (Entries.keys o.headers).Nodup →
        ∀ name ∈ fields.map (·.1), name ≠ "host" →
          ∃ line, headerLine fields name = .ok line ∧ headerLine? m name = some line) := by
  obtain ⟨p, config, r, prepared, fields, hfrom, hurl⟩ := exists_comesFrom hall hafter h
  refine ⟨p, config, r, prepared, fields, hfrom, ?_, ?_, ?_⟩
  · intro hlocation hleaves
    exact hfrom.signedHeaders hlocation (hurl hleaves)
  · intro name hname hhost
    exact hfrom.headerLine?_iff hname hhost
  · intro hset hnames name hname hhost
    have hsetAll : ∀ plugin ∈ all, plugin.SetsHeaders := by
      subst hall
      apply forall_mem_presignPlugins
      · rintro config i ⟨⟩
      · intro i hi hook name value he
        rw [List.mem_singleton.mp hi] at he
        cases he
      · exact hset
    obtain ⟨line, hline, hiff⟩ := hfrom.headerLine?_iff hname hhost
    exact ⟨line, hline, hiff.mpr (hfrom.nodup_of_setsHeaders hsetAll hnames name)⟩

end

/-- A plugin that adds a header twice, with two values. -/
def tagging : Plugin where
  layer := none
  components :=
    { name := "TaggingPlugin"
      interceptors := [⟨"Tagger", .scripted fun
        | .beforeSigning => [.addHeader "x-amz-meta-tag" "a", .addHeader "x-amz-meta-tag" "b"]
        | _ => []⟩] }

/-- The plugins of presigning around it. -/
def tagged : List Plugin := presignPlugins "us-east-1" "s3" Sample.hour .unsigned [tagging]

/-- Once the request is signed, it makes no edits. -/
theorem editsSigned_tagging (P : Edit → Prop) : ∀ plugin ∈ [tagging], plugin.EditsSigned P := by
  intro plugin hplugin i hi e he
  rw [List.mem_singleton.mp hplugin] at hi
  rw [List.mem_singleton.mp hi] at he
  obtain ⟨a, ⟨⟩, -⟩ := he

/-- Where the signer's turn comes. -/
def taggedPass : Pass :=
  passAfter Sample.surroundings tagged (Sample.reading "/a.txt") (some Sample.keys) 1
    (stepsToSigner (chainOf tagged))

theorem configured_taggedPass : taggedPass.bag.signing?.map (fun c =>
      (c.options.location, c.region.text?, c.options.expirySeconds.toOption)) =
    some (.query, some "us-east-1", some 3600) := by
  decide +kernel

theorem request_taggedPass :
    taggedPass.request.map (fun r => (r.url, r.headers)) = some ((Sample.reading "/a.txt").url,
      ⟨[("x-amz-meta-tag", "a"), ("x-amz-meta-tag", "b")]⟩) := by
  decide +kernel

theorem exists_presign_tagged :
    ∃ m, (presign Sample.surroundings (Sample.reading "/a.txt") (some Sample.keys) "us-east-1" "s3"
      Sample.hour none [tagging]).result = .ok m := by
  have hp : Reaches Sample.surroundings tagged (Sample.reading "/a.txt") (some Sample.keys) 1
    (stepsToSigner (chainOf tagged)) taggedPass := reaches_passAfter (by decide +kernel)
  obtain ⟨config, hc, hconfig⟩ := Option.map_eq_some_iff.mp configured_taggedPass
  obtain ⟨r, hr, hrequest⟩ := Option.map_eq_some_iff.mp request_taggedPass
  obtain ⟨hlocation, hconfig⟩ := Prod.mk.inj hconfig
  obtain ⟨hregion, hexpires⟩ := Prod.mk.inj hconfig
  obtain ⟨hurl, -⟩ := Prod.mk.inj hrequest
  obtain ⟨parts, hparts, hhosted⟩ := split_reading "/a.txt" fun c hc => by cases hc; rfl
  rw [← hurl] at hparts
  rcases hseconds : config.options.expirySeconds with fault | n
  · rw [hseconds] at hexpires
    cases hexpires
  have hsigned : (sign config (some Sample.keys) ((clockOf tagged).now Sample.surroundings)
      r).failure = none :=
    failure_sign_query hlocation hseconds rfl ⟨_, rfl⟩ (exists_text hregion) hparts hhosted
  have hidle : ∀ i ∈ chainOf tagged, i.behaviour.call Sample.surroundings
      (strategyOf tagged).maxAttempts .afterSigning = pure () := by
    apply forall_mem_chainOf
    · exact ⟨rfl, rfl, rfl⟩
    · intro plugin hplugin i hi
      simp only [tagged, presignPlugins, List.cons_append, List.nil_append, List.mem_cons,
        List.not_mem_nil, or_false] at hplugin
      rcases hplugin with rfl | rfl | rfl
      · cases hi
      · rw [List.mem_singleton.mp hi]
        rfl
      · rw [List.mem_singleton.mp hi]
        rfl
  obtain ⟨signed, hinvoke⟩ := exists_invoke rfl hp hc hr hsigned hidle
  have hfinish : Sample.hour.finish.isOk = true := by decide +kernel
  rcases hend : Sample.hour.finish with fault | finish <;> rw [hend] at hfinish
  · cases hfinish
  · exact ⟨_, bind_eq_ok.mpr
      ⟨signed, hinvoke, bind_eq_ok.mpr ⟨finish, mapError_eq_ok.mpr hend, rfl⟩⟩⟩

theorem presigned_keeps_lines_tagged :
    (∀ plugin ∈ [tagging], plugin.LeavesSignedHeaders) ∧ ∃ m p config r prepared fields,
      (presign Sample.surroundings (Sample.reading "/a.txt") (some Sample.keys) "us-east-1" "s3"
        Sample.hour none [tagging]).result = .ok m ∧
      ComesFrom Sample.surroundings tagged (Sample.reading "/a.txt") (some Sample.keys)
        Sample.hour.start m p config r prepared fields ∧
      ∀ name ∈ fields.map (·.1), name ≠ "host" →
        ∃ line, headerLine fields name = .ok line ∧ (headerLine? m name = some line ↔
          ((fieldsOf name prepared.headers.fields).map (·.1)).Nodup) := by
  obtain ⟨m, hm⟩ := exists_presign_tagged
  obtain ⟨p, config, r, prepared, fields, hfrom, -, hkept, -⟩ :=
    presigned_keeps_lines rfl (editsSigned_tagging _) hm
  exact ⟨editsSigned_tagging _, m, p, config, r, prepared, fields, hm, hfrom, hkept⟩

theorem presigned_loses_value :
    (∀ plugin ∈ [tagging], plugin.LeavesSignedHeaders) ∧ ∃ m p config r prepared fields,
      (presign Sample.surroundings (Sample.reading "/a.txt") (some Sample.keys) "us-east-1" "s3"
        Sample.hour none [tagging]).result = .ok m ∧
      ComesFrom Sample.surroundings tagged (Sample.reading "/a.txt") (some Sample.keys)
        Sample.hour.start m p config r prepared fields ∧
      (m.parameters "X-Amz-SignedHeaders").getLast? = some (signedNames fields) ∧
      "x-amz-meta-tag" ∈ fields.map (·.1) ∧
      headerLine fields "x-amz-meta-tag" = .ok "x-amz-meta-tag:a,b" ∧
      headerLine? m "x-amz-meta-tag" = some "x-amz-meta-tag:b" := by
  obtain ⟨m, hm⟩ := exists_presign_tagged
  obtain ⟨p, config, r, prepared, fields, hfrom, hurl⟩ :=
    exists_comesFrom rfl (editsSigned_tagging _) hm
  refine ⟨editsSigned_tagging _, m, p, config, r, prepared, fields, hm, hfrom, ?_⟩
  obtain rfl : p = taggedPass := hfrom.reaches.eq_passAfter
  have hconfig := configured_taggedPass
  have hrequest := request_taggedPass
  rw [hfrom.configured] at hconfig
  rw [hfrom.request] at hrequest
  obtain ⟨hlocation, -⟩ := Prod.mk.inj (Option.some_inj.mp hconfig)
  obtain ⟨-, hheaders⟩ := Prod.mk.inj (Option.some_inj.mp hrequest)
  have hprepared : prepared.headers = ⟨[("x-amz-meta-tag", "a"), ("x-amz-meta-tag", "b")]⟩ := by
    rw [hfrom.signed.headers_of_query hlocation, hheaders]
    decide
  have hname : "x-amz-meta-tag" ∈ fields.map (·.1) := by
    apply (mem_names_iff hfrom.signed.fields_eq).mpr
    rw [hprepared]
    exact .inr ⟨by decide, _, List.mem_cons_self, by decide⟩
  have hline := headerLine_eq_ok hfrom.signed.fields_eq hname (by decide)
  have hsent := hfrom.fieldsOf_headers hname (by decide)
  rw [hprepared] at hline hsent
  refine ⟨hfrom.signedHeaders hlocation (hurl (editsSigned_tagging _)), hname, ?_, ?_⟩
  · rw [hline]
    apply congrArg
    decide +kernel
  · rw [headerLine?_of_ne_host (by decide), hsent]
    decide +kernel

end UrlSigning.Pipeline
