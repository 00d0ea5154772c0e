import UrlSigning.Proofs.Http.Headers
import UrlSigning.Proofs.Signing.Signer

/-!
# Names of the headers of a signed request

The signer takes its own headers out of a request before it adds them, each on a way of its own: a
date replaces the date that there is, a token replaces a token, and the old signature goes before
anything else happens. So the names of the headers stay distinct, wherever signing stops, whether or
not names count as the same that are written in another case.
-/

namespace UrlSigning.Signing

open Http

/-- What a signer with these credentials can leave of a request: the prepared request, without a
signature or with one. -/
inductive Signer.Leaves (s : Signer) (c : Credentials) (r : Request) : Request → Prop where
  | prepared : s.Leaves c r (s.prepare c r).1
  | signed {signature : String} {signed : Request} (hprepared : (s.prepare c r).2 = none)
      (hinject : s.inject c (s.prepare c r).1 signature = .ok signed) : s.Leaves c r signed

section

variable {s : Signer} {c : Credentials} {r : Request}

/-! ## What signing leaves -/

theorem leaves_signPrepared (hprepared : (s.prepare c r).2 = none) :
    s.Leaves c r (s.signPrepared c (s.prepare c r).1).request := by
  rcases signPrepared_cases s c (s.prepare c r).1 with ⟨_, -, h⟩ | ⟨_, _, -, -, h⟩ |
    ⟨_, _, -, -, ⟨_, -, h⟩ | ⟨signed, hinject, h⟩⟩ <;> rw [h]
  · exact .prepared
  · exact .prepared
  · exact .prepared
  · exact .signed hprepared hinject

theorem leaves_addSignature (hc : s.credentials = some c) :
    s.Leaves c r (s.addSignature r).request := by
  rcases addSignature_cases s r with ⟨hnone, -⟩ | ⟨c', prepared, _, hc', hprepare, h⟩ |
    ⟨c', prepared, hc', hprepare, h⟩
  · cases hc.symm.trans hnone
  · cases hc.symm.trans hc'
    have hleaves : s.Leaves c r (s.prepare c r).1 := .prepared
    rw [hprepare] at hleaves
    rw [h]
    exact hleaves
  · cases hc.symm.trans hc'
    have hleaves := leaves_signPrepared (s := s) (c := c) (r := r) (by rw [hprepare])
    rw [hprepare] at hleaves
    rw [h]
    exact hleaves

/-- Signing leaves the request as it was, or what a signer for the place of the signature leaves. -/
theorem leaves_sign (config : Config) (credentials : Option Credentials) (now : DateTime)
    (r : Request) :
    (sign config credentials now r).request = r ∨
      ∃ s : Signer, ∃ c, s.Leaves c r (sign config credentials now r).request := by
  rcases sign_cases config credentials now r with ⟨-, h⟩ | ⟨_, _, -, -, h⟩ | ⟨c, s, -, hs, h⟩ <;>
    rw [h]
  · exact .inl rfl
  · exact .inl rfl
  · exact .inr ⟨s, _, leaves_addSignature (of_ofConfig hs).1⟩

/-! ## Headers of a signature -/

variable {h : Headers} {name : String}

/-- A date is put under names of its own. -/
theorem has_setDate (hname : h.has name = false) (hdate : Headers.sameName "Date" name = false)
    (hstamp : Headers.sameName "X-Amz-Date" name = false) :
    (s.setDate h).1.has name = false := by
  unfold Signer.setDate
  split
  · dsimp only
    split <;> simp [hname, hdate]
  · simp [hname, hstamp]

theorem has_setToken (hname : h.has name = false)
    (htoken : Headers.sameName "X-Amz-Security-Token" name = false) (token : Option String) :
    (Signer.setToken token h).has name = false := by
  unfold Signer.setToken
  split
  · exact hname
  · split
    · exact hname
    · simp [hname, htoken]

/-- A request that is prepared for a signature in a header has none yet, in whatever case its own
was written. -/
theorem has_authorization_prepare (hlocation : s.location = .headers) :
    (s.prepare c r).1.headers.has "Authorization" = false := by
  have hdated : (s.setDate (r.headers.erase "Authorization")).1.has "Authorization" = false :=
    has_setDate (Headers.has_erase _ _) (by decide) (by decide)
  unfold Signer.prepare
  rw [hlocation]
  dsimp only
  unfold Signer.prepareHeaders
  split
  · next hdate =>
      rw [hdate] at hdated
      exact hdated
  · next hdate =>
      rw [hdate] at hdated
      exact has_setToken hdated (by decide) _

/-! ## Prepared and signed requests -/

section

-- names may only be related if they are the same but for their case
variable {R : String → String → Prop} (hR : ∀ a b, R a b → Headers.sameName a b = true)
include hR

theorem apart_setDate (hd : h.Apart R) : (s.setDate h).1.Apart R := by
  unfold Signer.setDate
  split
  · have herased := hd.erase "Date"
    dsimp only
    split
    · exact (herased.add hR _ (Headers.has_erase "Date" h)).erase "X-Amz-Date"
    · exact herased
  · exact hd.set hR "X-Amz-Date" _

theorem apart_setToken (hd : h.Apart R) (token : Option String) :
    (Signer.setToken token h).Apart R := by
  unfold Signer.setToken
  split
  · exact hd
  · split
    · exact hd
    · exact hd.set hR _ _

omit hR in
theorem apart_dropFormType (hd : h.Apart R) : (Signer.dropFormType h).Apart R := by
  unfold Signer.dropFormType
  split
  · exact hd.erase _
  · exact hd

theorem apart_prepare (hd : r.headers.Apart R) : (s.prepare c r).1.headers.Apart R := by
  unfold Signer.prepare
  split
  · have hdated : (s.setDate (r.headers.erase "Authorization")).1.Apart R :=
      apart_setDate hR (hd.erase _)
    unfold Signer.prepareHeaders
    split
    · next hdate =>
        rw [hdate] at hdated
        exact hdated
    · next hdate =>
        rw [hdate] at hdated
        exact apart_setToken hR hdated _
  · unfold Signer.prepareQuery
    dsimp only
    split <;> exact apart_dropFormType hd

theorem apart_of_leaves {left : Request} (hd : r.headers.Apart R) (h : s.Leaves c r left) :
    left.headers.Apart R := by
  have hprepared : (s.prepare c r).1.headers.Apart R := apart_prepare hR hd
  cases h with
  | prepared => exact hprepared
  | signed _ hinject =>
      unfold Signer.inject at hinject
      split at hinject
      · next hlocation =>
          obtain ⟨value, -, hinject⟩ := bind_eq_ok.mp hinject
          cases hinject
          exact hprepared.add hR value (has_authorization_prepare hlocation)
      · cases hinject
        exact hprepared

/-- Signing keeps the names of the headers distinct, also when it fails. -/
theorem apart_sign (config : Config) (credentials : Option Credentials) (now : DateTime)
    (hd : r.headers.Apart R) : (sign config credentials now r).request.headers.Apart R := by
  rcases leaves_sign config credentials now r with hsame | ⟨s, c, hleaves⟩
  · rw [hsame]
    exact hd
  · exact apart_of_leaves hR hd hleaves

end

end

end UrlSigning.Signing
