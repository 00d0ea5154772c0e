import Mathlib.Data.List.Forall2
import UrlSigning.Proofs.Run.WellFormed

/-!
# Providers do not affect each other

A run that returns comes to one result for each provider, in their order, and each of them is what a
run with that provider alone comes to from the same instant on. The turns are taken one after
another: the first provider's turn adds its result and its steps, and leaves the rest as they are.
-/

namespace UrlSigning.Run

open Signing Pipeline

/-! ## Turns -/

section

variable {w : Surroundings} {plan : Plan} {start : DateTime} {key : String} {p : Provider}
  {result : Result}

/-- Neither the clock nor anything else around a run takes part in a turn, and the plan's own start
does not either, once it is settled when the run starts. -/
theorem result_takeTurn_eq (w w' : Surroundings) (other : Option DateTime) :
    (takeTurn w' key p { plan with start := other } start).result =
      (takeTurn w key p plan start).result := by
  have hsame : (presignFor w' p { plan with start := other } start).result =
      (presignFor w p plan start).result := by
    rw [result_presignFor, result_presignFor]
    rfl
  unfold takeTurn
  dsimp only
  rw [hsame]
  rcases (presignFor w p plan start).result with f | m
  · dsimp only
    split <;> rfl
  · rfl

/-- What reporters hear of the steps: all of them but what was logged. -/
def heard (steps : List Step) : List Step :=
  steps.filter fun s =>
    match s with
    | .logged _ => false
    | _ => true

theorem heard_append (steps more : List Step) :
    heard (steps ++ more) = heard steps ++ heard more := List.filter_append _ _

theorem heard_logged (log : List Event) : heard (log.map .logged) = [] := by
  rw [heard, List.filter_eq_nil_iff]
  intro s hs
  obtain ⟨event, -, rfl⟩ := List.mem_map.mp hs
  simp

/-- What is heard of one provider's turn and its result. -/
def turnSteps (plan : Plan) (e : String × Provider) (r : String × Result) : List Step :=
  [.started e.2.name plan.objectKey, .completed r.2]

theorem runFrom_cons_of_ok {done : Results} {turns : List (String × Provider)}
    (hturn : (takeTurn w key p plan start).result = .ok result) :
    runFrom w plan start done ((key, p) :: turns) =
      ⟨(runFrom w plan start (done.put key result) turns).result,
        .started p.name plan.objectKey :: (takeTurn w key p plan start).log.map .logged ++
          .completed result :: (runFrom w plan start (done.put key result) turns).steps⟩ := by
  rw [runFrom]
  dsimp only
  rw [hturn]

/-- The turn of the first provider: its result is put under its key, and its steps come first. -/
theorem runFrom_cons_eq_ok {done results : Results} {turns : List (String × Provider)}
    (h : (runFrom w plan start done ((key, p) :: turns)).result = .ok results) :
    ∃ result, (takeTurn w key p plan start).result = .ok result ∧
      (runFrom w plan start (done.put key result) turns).result = .ok results ∧
      heard (runFrom w plan start done ((key, p) :: turns)).steps =
        turnSteps plan (key, p) (key, result) ++
          heard (runFrom w plan start (done.put key result) turns).steps := by
  rcases hturn : (takeTurn w key p plan start).result with f | result
  · rw [runFrom] at h
    dsimp only at h
    rw [hturn] at h
    cases h
  rw [runFrom_cons_of_ok hturn] at h ⊢
  refine ⟨result, rfl, h, ?_⟩
  have hturnSteps (log : List Event) (rest : List Step) :
      heard (.started p.name plan.objectKey :: log.map .logged ++ .completed result :: rest) =
        turnSteps plan (key, p) (key, result) ++ heard rest := by
    rw [heard_append, ← List.singleton_append, heard_append, heard_logged, List.append_nil]
    rfl
  exact hturnSteps _ _

/-- A run that returns adds to the results that there were one for each turn, under its key. -/
theorem runFrom_eq_ok {done results : Results} {turns : List (String × Provider)}
    (hkeys : (Entries.keys done ++ Entries.keys turns).Nodup)
    (h : (runFrom w plan start done turns).result = .ok results) :
    ∃ added : Results,
      List.Forall₂
        (fun e r => r.1 = e.1 ∧ (takeTurn w e.1 e.2 plan start).result = .ok r.2) turns added ∧
      results = done ++ added ∧
      heard (runFrom w plan start done turns).steps =
        (List.zipWith (turnSteps plan) turns added).flatten ++ [.finished results] := by
  induction turns generalizing done with
  | nil =>
      cases h
      exact ⟨[], .nil, (List.append_nil _).symm, rfl⟩
  | cons e turns ih =>
      obtain ⟨key, p⟩ := e
      obtain ⟨result, hturn, hrest, hheard⟩ := runFrom_cons_eq_ok h
      -- the key is new, so the result goes to the end
      have hnew : key ∉ Entries.keys done := by
        intro hmem
        exact (List.nodup_append.mp hkeys).2.2 key hmem key List.mem_cons_self rfl
      rw [Entries.put_of_not_mem result hnew] at hrest hheard
      have hkeys' : (Entries.keys (done ++ [(key, result)]) ++ Entries.keys turns).Nodup := by
        simpa [Entries.keys] using hkeys
      obtain ⟨added, hadded, hresults, hsteps⟩ := ih hkeys' hrest
      refine ⟨(key, result) :: added, .cons ⟨rfl, hturn⟩ hadded, ?_, ?_⟩
      · rw [hresults, List.append_assoc]
        rfl
      · rw [hheard, hsteps, List.zipWith_cons_cons, List.flatten_cons, List.append_assoc]

/-- A run that returns comes to one result for each turn, under its key. -/
theorem runFrom_nil_eq_ok {results : Results} {turns : List (String × Provider)}
    (hkeys : (Entries.keys turns).Nodup)
    (h : (runFrom w plan start [] turns).result = .ok results) :
    List.Forall₂
        (fun e r => r.1 = e.1 ∧ (takeTurn w e.1 e.2 plan start).result = .ok r.2) turns results ∧
      heard (runFrom w plan start [] turns).steps =
        (List.zipWith (turnSteps plan) turns results).flatten ++ [.finished results] := by
  obtain ⟨added, hturns, hresults, hsteps⟩ := runFrom_eq_ok (by simpa [Entries.keys] using hkeys) h
  rw [List.nil_append] at hresults
  subst hresults
  exact ⟨hturns, hsteps⟩

/-- A run returns if and only if every turn comes to a result. -/
theorem exists_runFrom_iff {done : Results} {turns : List (String × Provider)} :
    (∃ results, (runFrom w plan start done turns).result = .ok results) ↔
      ∀ e ∈ turns, ∃ result, (takeTurn w e.1 e.2 plan start).result = .ok result := by
  induction turns generalizing done with
  | nil => exact ⟨fun _ e he => (List.not_mem_nil he).elim, fun _ => ⟨done, rfl⟩⟩
  | cons e turns ih =>
      obtain ⟨key, p⟩ := e
      rw [List.forall_mem_cons]
      constructor
      · rintro ⟨results, h⟩
        obtain ⟨result, hturn, hrest, -⟩ := runFrom_cons_eq_ok h
        exact ⟨⟨result, hturn⟩, ih.mp ⟨results, hrest⟩⟩
      · rintro ⟨⟨result, hturn⟩, hrest⟩
        have hadded : ∃ results,
            (runFrom w plan start (done.put key result) turns).result = .ok results := ih.mpr hrest
        obtain ⟨results, hresults⟩ := hadded
        refine ⟨results, ?_⟩
        rw [runFrom_cons_of_ok hturn]
        exact hresults

end

/-! ## Two lists side by side -/

section

variable {α β : Type} {R : α → β → Prop} {xs : List α} {ys : List β}

theorem exists_of_mem_left (h : List.Forall₂ R xs ys) {x : α} (hx : x ∈ xs) : ∃ y ∈ ys, R x y := by
  induction h with
  | nil => cases hx
  | cons hxy hrest ih =>
      rcases List.mem_cons.mp hx with rfl | hx
      · exact ⟨_, List.mem_cons_self, hxy⟩
      · obtain ⟨y, hy, hR⟩ := ih hx
        exact ⟨y, List.mem_cons_of_mem _ hy, hR⟩

theorem exists_of_mem_right (h : List.Forall₂ R xs ys) {y : β} (hy : y ∈ ys) : ∃ x ∈ xs, R x y :=
  exists_of_mem_left (R := flip R) h.flip hy

end

/-! ## Results of a whole run -/

section

variable {w : Surroundings} {clock : Clock} {plan : Plan} {start : DateTime}

/-- The run is that of the plan from the instant on, whatever the clock tells. -/
theorem run_from (w : Surroundings) (clock : Clock) (providers : Entries String Provider)
    (plan : Plan) (start : DateTime) :
    run w clock providers { plan with start := some start } =
      runFrom w { plan with start := some start } start [] providers := rfl

theorem keys_eq_of_forall₂ {providers : Entries String Provider} {results : Results}
    {R : String × Provider → String × Result → Prop}
    (h : List.Forall₂ (fun e r => r.1 = e.1 ∧ R e r) providers results) :
    Entries.keys results = Entries.keys providers := by
  induction h with
  | nil => rfl
  | cons hhead hrest ih =>
      exact congrArg₂ List.cons hhead.1 ih

/-- The result that is kept under the key of a provider: it names the provider and the object; it is
a request that was signed at the start of the run, or the message of a failure of this library's
own; and a run with this provider alone comes to it from the same start. -/
structure IsEntryOf (w : Surroundings) (plan : Plan) (start : DateTime) (e : String × Provider)
    (r : String × Result) : Prop where
  key : r.1 = e.1 ∧ r.2.providerKey = e.1
  named : r.2.providerName = e.2.name ∧ r.2.objectKey = plan.objectKey
  outcome :
    (r.2.status = .ok ∧ r.2.message = none ∧ ∃ m time, r.2.request = some m ∧
      (presignFor w e.2 plan start).result = .ok m ∧ start.toUtc = .ok time ∧
      Carries e.2 m "X-Amz-Date" (Time.Stamp.text time)) ∨
    (r.2.status = .error ∧ r.2.request = none ∧ ∃ f, r.2.message = some f.message ∧
      (presignFor w e.2 plan start).result = .error f ∧ f.kind.isOwn = true)
  alone : ∀ w' clock, (run w' clock [e] { plan with start := some start }).result = .ok [r]

theorem isEntryOf_of_takeTurn {key : String} {p : Provider} {result : Result} (hkey : p.key = key)
    (hturn : (takeTurn w key p plan start).result = .ok result) :
    IsEntryOf w plan start (key, p) (key, result) := by
  have halone : ∀ w' clock,
      (run w' clock [(key, p)] { plan with start := some start }).result = .ok [(key, result)] := by
    intro w' clock
    have hturn' : (takeTurn w' key p { plan with start := some start } start).result = .ok result :=
      (result_takeTurn_eq w w' (some start)).trans hturn
    rw [run_from, runFrom_cons_of_ok hturn']
    rfl
  rcases takeTurn_eq_ok hturn with ⟨m, hm, rfl⟩ | ⟨f, hf, hown, rfl⟩
  · obtain ⟨s, url, hs⟩ := exists_isPresignedBy hm
    obtain ⟨-, -, hdate, -⟩ := hs.carries
    exact ⟨⟨rfl, hkey⟩, ⟨rfl, rfl⟩, .inl ⟨rfl, rfl, m, s.time, rfl, hm, hs.time, hdate⟩, halone⟩
  · exact ⟨⟨rfl, rfl⟩, ⟨rfl, rfl⟩, .inr ⟨rfl, rfl, f, rfl, hf, hown⟩, halone⟩

/-- Where the turns of some providers came to results, a run over any of these providers, in any
order, comes to the same results for them. -/
theorem exists_run_of_chosen {providers chosen : Entries String Provider} {results : Results}
    (hturns : List.Forall₂
      (fun e r => r.1 = e.1 ∧ (takeTurn w e.1 e.2 plan start).result = .ok r.2) providers results)
    (hchosen : chosen ⊆ providers) (hdistinct : (Entries.keys chosen).Nodup)
    (w' : Surroundings) (clock' : Clock) :
    ∃ kept : Results,
      (run w' clock' chosen { plan with start := some start }).result = .ok kept ∧
        Entries.keys kept = Entries.keys chosen ∧ kept ⊆ results := by
  have hturn (e : String × Provider) (he : e ∈ chosen) : ∃ r ∈ results, r.1 = e.1 ∧
      (takeTurn w' e.1 e.2 { plan with start := some start } start).result = .ok r.2 := by
    obtain ⟨r, hr, hkey, hturn⟩ := exists_of_mem_left hturns (hchosen he)
    exact ⟨r, hr, hkey, (result_takeTurn_eq w w' (some start)).trans hturn⟩
  have hreturns : ∃ kept, (run w' clock' chosen
      { plan with start := some start }).result = .ok kept := by
    rw [run_from, exists_runFrom_iff]
    intro e he
    obtain ⟨r, -, -, hr⟩ := hturn e he
    exact ⟨r.2, hr⟩
  obtain ⟨kept, hkept⟩ := hreturns
  obtain ⟨hkeptTurns, -⟩ := runFrom_nil_eq_ok hdistinct hkept
  refine ⟨kept, hkept, keys_eq_of_forall₂ hkeptTurns, fun r hr => ?_⟩
  -- the turn of the provider comes to one result only
  obtain ⟨e, he, hkey, hresult⟩ := exists_of_mem_right hkeptTurns hr
  obtain ⟨r', hr', hkey', hresult'⟩ := hturn e he
  have heq : r = r' :=
    Prod.ext (hkey.trans hkey'.symm) (Except.ok.inj (hresult.symm.trans hresult'))
  exact heq ▸ hr'

/-- A run that returns treats each provider on its own. Its results are those of the providers, in
their order and under their keys; each is what a run with that provider alone comes to from the same
start; a run over any of the providers, in any order, comes to the same results for them; and what
reporters hear is, for each provider in order, that its turn begins and what it came to, and last
all the results. -/
theorem run_isolates {providers : Entries String Provider} {results : Results}
    (hkeys : (Entries.keys providers).Nodup) (hsame : ∀ e ∈ providers, e.2.key = e.1)
    (hrun : (run w clock providers plan).result = .ok results) :
    List.Forall₂ (IsEntryOf w plan (plan.start.getD (clock.now w))) providers results ∧
    (∀ chosen : Entries String Provider, chosen ⊆ providers → (Entries.keys chosen).Nodup →
      ∀ w' clock', ∃ kept : Results,
        (run w' clock' chosen
          { plan with start := some (plan.start.getD (clock.now w)) }).result = .ok kept ∧
        Entries.keys kept = Entries.keys chosen ∧ kept ⊆ results) ∧
    heard (run w clock providers plan).steps =
      (List.zipWith (turnSteps plan) providers results).flatten ++ [.finished results] := by
  generalize hstart : plan.start.getD (clock.now w) = start
  have hrunFrom : run w clock providers plan = runFrom w plan start [] providers := by
    rw [run, hstart]
  rw [hrunFrom] at hrun ⊢
  obtain ⟨hturns, hsteps⟩ := runFrom_nil_eq_ok hkeys hrun
  refine ⟨?_, fun chosen hchosen hdistinct w' clock' =>
    exists_run_of_chosen hturns hchosen hdistinct w' clock', hsteps⟩
  rw [List.forall₂_iff_zip] at hturns ⊢
  refine ⟨hturns.1, fun {e r} her => ?_⟩
  obtain ⟨key, p⟩ := e
  obtain ⟨rkey, result⟩ := r
  obtain ⟨rfl, hturn⟩ := hturns.2 her
  exact isEntryOf_of_takeTurn (hsame (_, p) (List.of_mem_zip her).1) hturn

end

/-! ### Two stores, one of them without keys -/

section

open Outgoing

/-- There is nothing to sign with for this store. -/
def Sample.keyless : Provider :=
  { Sample.store with
    key := "spare", name := .text "Spare", access := .text "", secret := .text "" }

def Sample.stores : Entries String Provider := [("main", Sample.store), ("spare", Sample.keyless)]

def Sample.storesWith (m : Presigned) : Results :=
  [("main", ⟨"main", .text "Main", "a.txt", .ok, some m, none⟩),
    ("spare", ⟨"spare", .text "Spare", "a.txt", .error, none,
      some "Unable to sign request without credentials"⟩)]

theorem presignFor_keyless (w : Surroundings) :
    (presignFor w Sample.keyless (Sample.planFor "a.txt") Sample.noon).result =
      .error (.signing .noCredentials) := by
  have hwindow : windowFor Sample.keyless (Sample.planFor "a.txt") Sample.noon =
      .ok Sample.hour := rfl
  have hbase : Url.split "https://s3.example.com" = .ok Sample.base := by decide +kernel
  have hurl := Provider.objectUrl_eq (p := Sample.keyless) rfl hbase "a.txt"
  rw [result_presignFor, hwindow]
  show (Sample.keyless.objectUrl "a.txt" >>=
    signedFor Sample.keyless (Sample.planFor "a.txt") Sample.hour) = _
  rw [hurl]
  rfl

theorem exists_run_stores (w : Surroundings) (clock : Clock) :
    ∃ m, (run w clock Sample.stores (Sample.planFor "a.txt")).result =
      .ok (Sample.storesWith m) := by
  have hmain : ∃ m, (presignFor w Sample.store (Sample.planFor "a.txt") Sample.noon).result =
      .ok m := exists_presignFor_store w rfl
  obtain ⟨m, hm⟩ := hmain
  refine ⟨m, ?_⟩
  show (runFrom w (Sample.planFor "a.txt") Sample.noon [] Sample.stores).result = _
  unfold Sample.stores
  rw [runFrom_cons_of_ok (takeTurn_of_ok hm),
    runFrom_cons_of_ok (takeTurn_of_error (presignFor_keyless w) rfl)]
  rfl

theorem run_isolates_keyless :
    ∃ m, (Entries.keys Sample.stores).Nodup ∧ (∀ e ∈ Sample.stores, e.2.key = e.1) ∧
      (run Sample.surroundings .system Sample.stores (Sample.planFor "a.txt")).result =
        .ok (Sample.storesWith m) ∧
      List.Forall₂ (IsEntryOf Sample.surroundings (Sample.planFor "a.txt") Sample.noon)
        Sample.stores (Sample.storesWith m) ∧
      heard (run Sample.surroundings .system Sample.stores (Sample.planFor "a.txt")).steps =
        (List.zipWith (turnSteps (Sample.planFor "a.txt")) Sample.stores
          (Sample.storesWith m)).flatten ++ [.finished (Sample.storesWith m)] := by
  have hkeys : (Entries.keys Sample.stores).Nodup := by decide
  have hsame : ∀ e ∈ Sample.stores, e.2.key = e.1 := by
    intro e he
    rcases List.mem_cons.mp he with rfl | he
    · rfl
    · rw [List.mem_singleton.mp he]
      rfl
  obtain ⟨m, hrun⟩ := exists_run_stores Sample.surroundings .system
  obtain ⟨hentries, -, hheard⟩ := run_isolates hkeys hsame hrun
  exact ⟨m, hkeys, hsame, hrun, hentries, hheard⟩

end

end UrlSigning.Run
