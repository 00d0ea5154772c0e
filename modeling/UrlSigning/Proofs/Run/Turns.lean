import UrlSigning.Proofs.Checked
import UrlSigning.Proofs.Entries
import UrlSigning.Run.Progress

/-!
# The turns of a run

Every result of a run comes from the turn of a provider that is kept under its key, and a request in
a result is what presigning came to in that turn.
-/

namespace UrlSigning.Run

section

variable {w : Pipeline.Surroundings} {plan : Plan} {start : DateTime} {p : Provider}
  {key : String} {result : Result} {m : Presigned}

theorem takeTurn_of_ok (h : (presignFor w p plan start).result = .ok m) :
    (takeTurn w key p plan start).result =
      .ok ⟨p.key, p.name, plan.objectKey, .ok, some m, none⟩ := by
  unfold takeTurn
  dsimp only
  rw [h]

theorem takeTurn_of_error {f : Failure} (h : (presignFor w p plan start).result = .error f)
    (hown : f.kind.isOwn = true) :
    (takeTurn w key p plan start).result =
      .ok ⟨key, p.name, plan.objectKey, .error, none, some f.message⟩ := by
  unfold takeTurn
  dsimp only
  rw [h]
  dsimp only
  rw [if_pos hown]

/-- A turn comes to a request or to the message of a failure of this library's own. -/
theorem takeTurn_eq_ok (h : (takeTurn w key p plan start).result = .ok result) :
    (∃ m, (presignFor w p plan start).result = .ok m ∧
        result = ⟨p.key, p.name, plan.objectKey, .ok, some m, none⟩) ∨
      ∃ f, (presignFor w p plan start).result = .error f ∧ f.kind.isOwn = true ∧
        result = ⟨key, p.name, plan.objectKey, .error, none, some f.message⟩ := by
  unfold takeTurn at h
  dsimp only at h
  rcases hpresigned : (presignFor w p plan start).result with f | m <;> rw [hpresigned] at h
  · dsimp only at h
    split at h
    · next hown =>
        cases h
        exact .inr ⟨f, rfl, hown, rfl⟩
    · cases h
  · cases h
    exact .inl ⟨m, rfl, rfl⟩

theorem presignFor_of_takeTurn (h : (takeTurn w key p plan start).result = .ok result)
    (hrequest : result.request = some m) : (presignFor w p plan start).result = .ok m := by
  rcases takeTurn_eq_ok h with ⟨m', hm', rfl⟩ | ⟨f, -, -, rfl⟩
  · cases hrequest
    exact hm'
  · cases hrequest

/-- What is presigned for a provider is the operation on its object. -/
theorem presignFor_eq_ok (h : (presignFor w p plan start).result = .ok m) :
    ∃ window url, p.objectUrl plan.objectKey = .ok url ∧
      (Pipeline.presign w { method := plan.method, url := url, headers := plan.headers }
        p.credentials p.region service window (some plan.payload) []).result = .ok m := by
  unfold presignFor at h
  rcases hwindow : windowFor p plan start with e | window <;> rw [hwindow] at h
  · cases h
  rcases hoperation : operationFor p plan with e | operation <;> rw [hoperation] at h
  · cases h
  obtain ⟨url, hurl, hoperation⟩ := bind_eq_ok.mp hoperation
  cases hoperation
  exact ⟨window, url, hurl, h⟩

/-- A result was there before, or a turn that is left comes to it. -/
theorem exists_turn {turns : List (String × Provider)} {done results : Results}
    (h : (runFrom w plan start done turns).result = .ok results) (hmem : (key, result) ∈ results) :
    (key, result) ∈ done ∨
      ∃ p, (key, p) ∈ turns ∧ (takeTurn w key p plan start).result = .ok result := by
  induction turns generalizing done with
  | nil =>
      cases h
      exact .inl hmem
  | cons turn turns ih =>
      obtain ⟨k, p⟩ := turn
      unfold runFrom at h
      dsimp only at h
      rcases hturn : (takeTurn w k p plan start).result with e | r <;> rw [hturn] at h
      · cases h
      rcases ih h with hdone | ⟨p', hp', hresult⟩
      · rcases Entries.mem_put hdone with heq | hdone
        · cases heq
          exact .inr ⟨p, List.mem_cons_self, hturn⟩
        · exact .inl hdone
      · exact .inr ⟨p', List.mem_cons_of_mem _ hp', hresult⟩

theorem exists_takeTurn {clock : Pipeline.Clock} {providers : Entries String Provider}
    {results : Results} (h : (run w clock providers plan).result = .ok results)
    (hmem : (key, result) ∈ results) :
    ∃ p, (key, p) ∈ providers ∧
      (takeTurn w key p plan (plan.start.getD (clock.now w))).result = .ok result := by
  rcases exists_turn h hmem with hnone | hturn
  · cases hnone
  · exact hturn

/-- A run with one provider comes to the request that is presigned for it. -/
theorem result_run_of_presignFor {clock : Pipeline.Clock} (key : String)
    (h : (presignFor w p plan (plan.start.getD (clock.now w))).result = .ok m) :
    (run w clock [(key, p)] plan).result =
      .ok [(key, ⟨p.key, p.name, plan.objectKey, .ok, some m, none⟩)] := by
  unfold run runFrom
  dsimp only
  rw [takeTurn_of_ok h]
  rfl

/-- A request among the results of a run was presigned for a provider that is kept under the key of
the result. -/
theorem exists_presignFor {clock : Pipeline.Clock} {providers : Entries String Provider}
    {results : Results} (h : (run w clock providers plan).result = .ok results)
    (hmem : (key, result) ∈ results) (hrequest : result.request = some m) :
    ∃ p, (key, p) ∈ providers ∧
      (presignFor w p plan (plan.start.getD (clock.now w))).result = .ok m := by
  obtain ⟨p, hp, hturn⟩ := exists_takeTurn h hmem
  exact ⟨p, hp, presignFor_of_takeTurn hturn hrequest⟩

end

end UrlSigning.Run
