import UrlSigning.CommandLine.Command
import UrlSigning.Proofs.Checked
import UrlSigning.Proofs.CommandLine.Plan
import UrlSigning.Proofs.Provider.Load
import UrlSigning.Proofs.Report.Document
import UrlSigning.Proofs.Run.Isolation

/-!
# Runs of the program

How the program comes to an exit code: it declines what it is asked for before anything is presigned
or reported, or it carries out a plan for the chosen providers and hears no crash. What reporters
leave in the files comes from the end of the run.
-/

namespace UrlSigning.CommandLine

open Run

/-! ## Choosing providers -/

/-- The providers among those that are loaded; an empty list counts as none. -/
def chosen (a : Arguments) (loaded : Entries String Provider) : Entries String Provider :=
  match nonempty? a.providers with
  | none => loaded
  | some list => keepListed list loaded

/-- Why the program declines what arguments ask for. -/
inductive Declines (a : Arguments) (env : Provider.Environment) (t : Files.Tree) : Prop where
  /-- There is no key, or an empty one. -/
  | key (h : nonempty? a.key = none)
  | configuration {fault : Provider.LoadFault} (h : Provider.load env t a.config = .error fault)
      (hconfig : fault.isConfig = true)
  /-- A list is given, and it names none of the providers. -/
  | noMatch {loaded : Entries String Provider} {list : String}
      (h : Provider.load env t a.config = .ok loaded) (hlist : nonempty? a.providers = some list)
      (hnone : keepListed list loaded = [])
  | arguments {fault : PlanFault} (h : planOf a t = .error fault)
      (hreported : fault.isReported = true)

/-- The program has all that it needs: a key, providers that are chosen, and a plan for them. -/
structure GoesAhead (a : Arguments) (env : Provider.Environment) (t : Files.Tree)
    (loaded : Entries String Provider) (plan : Plan) : Prop where
  key : nonempty? a.key ≠ none
  load : Provider.load env t a.config = .ok loaded
  nonempty : chosen a loaded ≠ []
  plan : planOf a t = .ok plan

section

variable {w : Pipeline.Surroundings} {env : Provider.Environment} {t : Files.Tree} {a : Arguments}
  {loaded : Entries String Provider} {plan : Plan} {results : Results} {n : Nat}

/-- The providers that are chosen are some of those that are loaded. -/
theorem chosen_sublist (a : Arguments) (loaded : Entries String Provider) :
    (chosen a loaded).Sublist loaded := by
  unfold chosen
  split
  · exact List.Sublist.refl loaded
  · exact List.filter_sublist

theorem nodup_keys_chosen (a : Arguments) (h : (Entries.keys loaded).Nodup) :
    (Entries.keys (chosen a loaded)).Nodup :=
  h.sublist ((chosen_sublist a loaded).map _)

theorem chooseProviders_of_fault {fault : Provider.LoadFault}
    (h : Provider.load env t a.config = .error fault) :
    chooseProviders a env t = .error
      (if fault.isConfig then complain t s!"Configuration error: {fault.message}"
        else ⟨.crashed (.load fault), { tree := t }, ""⟩) := by
  unfold chooseProviders
  rw [h]
  dsimp only
  split <;> rfl

theorem chooseProviders_of_load (h : Provider.load env t a.config = .ok loaded) :
    chooseProviders a env t =
      if chosen a loaded = [] then .error (complain t "No matching providers found")
      else .ok (chosen a loaded) := by
  have hne := Provider.ne_nil_of_load h
  unfold chooseProviders chosen
  rw [h]
  rcases nonempty? a.providers with _ | list
  · exact (if_neg hne).symm
  · dsimp only
    by_cases hkept : keepListed list loaded = []
    · show (if (keepListed list loaded).isEmpty then _ else _) = _
      rw [if_pos hkept, if_pos (by simpa using hkept)]
      rfl
    · show (if (keepListed list loaded).isEmpty then _ else _) = _
      rw [if_neg hkept, if_neg (by simpa using hkept)]
      rfl

/-- A plan that cannot be made is reported, or it ends the program on the spot. -/
theorem perform_of_fault {fault : PlanFault} (hkey : nonempty? a.key ≠ none)
    (hload : Provider.load env t a.config = .ok loaded) (hchosen : chosen a loaded ≠ [])
    (h : planOf a t = .error fault) (w : Pipeline.Surroundings) :
    perform w env t a =
      if fault.isReported then complain t s!"Invalid arguments: {fault.message}"
      else ⟨.crashed (.plan fault), { tree := t }, ""⟩ := by
  obtain ⟨key, hkey⟩ := Option.ne_none_iff_exists'.mp hkey
  rw [perform, hkey, chooseProviders_of_load hload, if_neg hchosen, h]
  rfl

theorem command_of_fault {words : List String} {fault : PlanFault}
    (hwords : readArguments words = .ok a) (hkey : nonempty? a.key ≠ none)
    (hload : Provider.load env t a.config = .ok loaded) (hchosen : chosen a loaded ≠ [])
    (h : planOf a t = .error fault) (w : Pipeline.Surroundings) :
    command w env t words =
      if fault.isReported then complain t s!"Invalid arguments: {fault.message}"
      else ⟨.crashed (.plan fault), { tree := t }, ""⟩ := by
  rw [command, hwords]
  exact perform_of_fault hkey hload hchosen h w

theorem GoesAhead.perform_eq (hg : GoesAhead a env t loaded plan) (w : Pipeline.Surroundings) :
    perform w env t a = carryOut w a (chosen a loaded) plan t := by
  obtain ⟨key, hkey⟩ := Option.ne_none_iff_exists'.mp hg.key
  rw [perform, hkey, chooseProviders_of_load hg.load, if_neg hg.nonempty, hg.plan]
  rfl

/-- The plan is for the object of the key that is given. -/
theorem GoesAhead.objectKey (hg : GoesAhead a env t loaded plan) : a.key = some plan.objectKey := by
  obtain ⟨key, hkey⟩ := Option.ne_none_iff_exists'.mp hg.key
  obtain ⟨-, -, -, hobject⟩ := planOf_eq_ok hg.plan
  rw [hobject, (Option.filter_eq_some_iff.mp hkey).1]
  rfl

/-- When the variables have distinct names, the results of a run that returns are those of one turn
of each provider that is chosen, in order. -/
theorem GoesAhead.turns (hg : GoesAhead a env t loaded plan) (henv : (Entries.keys env).Nodup)
    (hrun : (run w .system (chosen a loaded) plan).result = .ok results) :
    List.Forall₂ (fun e r => r.1 = e.1 ∧
      (takeTurn w e.1 e.2 plan (plan.start.getD w.now)).result = .ok r.2)
        (chosen a loaded) results :=
  (runFrom_nil_eq_ok (nodup_keys_chosen a (Provider.nodup_keys_load henv hg.load)) hrun).1

/-- The program comes to an exit code by declining what the arguments ask for, whatever is around
it, or by going ahead. -/
theorem perform_eq_code (h : (perform w env t a).exit = .code n) :
    (n = 2 ∧ Declines a env t ∧ ∃ complaint, ∀ w', perform w' env t a = complain t complaint) ∨
      ∃ loaded plan, GoesAhead a env t loaded plan := by
  -- a complaint is the same whatever is around the program, and its code is two
  have hdeclined (complaint : String) (hd : Declines a env t)
      (hall : ∀ w', perform w' env t a = complain t complaint) :
      n = 2 ∧ Declines a env t ∧ ∃ complaint, ∀ w', perform w' env t a = complain t complaint := by
    rw [hall w] at h
    cases h
    exact ⟨rfl, hd, complaint, hall⟩
  rcases hkey : nonempty? a.key with _ | key
  · have hall (w' : Pipeline.Surroundings) :
        perform w' env t a = complain t "An object key is required (-k/--key)" := by
      rw [perform, hkey]
      rfl
    exact .inl (hdeclined _ (.key hkey) hall)
  rcases hload : Provider.load env t a.config with fault | loaded
  · by_cases hconfig : fault.isConfig = true
    · have hall (w' : Pipeline.Surroundings) :
          perform w' env t a = complain t s!"Configuration error: {fault.message}" := by
        rw [perform, hkey, chooseProviders_of_fault hload, if_pos hconfig]
        rfl
      exact .inl (hdeclined _ (.configuration hload hconfig) hall)
    · rw [perform, hkey, chooseProviders_of_fault hload, if_neg hconfig] at h
      cases h
  by_cases hchosen : chosen a loaded = []
  · have hall (w' : Pipeline.Surroundings) :
        perform w' env t a = complain t "No matching providers found" := by
      rw [perform, hkey, chooseProviders_of_load hload, if_pos hchosen]
      rfl
    refine .inl (hdeclined _ ?_ hall)
    unfold chosen at hchosen
    rcases hlist : nonempty? a.providers with _ | list <;> rw [hlist] at hchosen
    · exact absurd hchosen (Provider.ne_nil_of_load hload)
    · exact .noMatch hload hlist hchosen
  rcases hplan : planOf a t with fault | plan
  · have hfault := perform_of_fault (by simp [hkey]) hload hchosen hplan
    by_cases hreported : fault.isReported = true
    · simp only [if_pos hreported] at hfault
      exact .inl (hdeclined _ (.arguments hplan hreported) hfault)
    · rw [hfault, if_neg hreported] at h
      cases h
  · exact .inr ⟨loaded, plan, by simp [hkey], hload, hchosen, hplan⟩

end

/-! ## Carrying out a plan -/

section

variable {w : Pipeline.Surroundings} {t : Files.Tree} {a : Arguments} {s s' : Session}
  {providers : Entries String Provider} {plan : Plan} {start : DateTime} {n : Nat}
  {reporters : List Reporter} {step : Step} {steps : List Step}

/-- A plan that is carried out to an exit code was run without a crash of a reporter. -/
theorem carryOut_eq_code (h : (carryOut w a providers plan t).exit = .code n) :
    ∃ results, (run w .system providers plan).result = .ok results ∧
      n = (if allOk results then 0 else 1) ∧
      play w (reportersOf a) { tree := t } (run w .system providers plan).steps =
        ((carryOut w a providers plan t).session, none) := by
  unfold carryOut at h ⊢
  dsimp only at h ⊢
  rcases hplay : play w (reportersOf a) { tree := t } (run w .system providers plan).steps with
    ⟨s, _ | crash⟩ <;> rw [hplay] at h
  · rcases hresult : (run w .system providers plan).result with e | results <;> rw [hresult] at h
    · cases h
    · cases h
      exact ⟨results, rfl, rfl, rfl⟩
  · cases h

/-- A command line comes to an exit code in one of two ways: its arguments are declined, whatever is
around the program, or a run for the chosen providers returns, and reporters heard it all. -/
theorem command_eq_code {env : Provider.Environment} {words : List String}
    (h : (command w env t words).exit = .code n) :
    ∃ a, readArguments words = .ok a ∧
      ((n = 2 ∧ Declines a env t ∧
          ∃ complaint, ∀ w', command w' env t words = complain t complaint) ∨
        ∃ loaded plan results, GoesAhead a env t loaded plan ∧
          (run w .system (chosen a loaded) plan).result = .ok results ∧
          n = (if allOk results then 0 else 1) ∧
          play w (reportersOf a) { tree := t } (run w .system (chosen a loaded) plan).steps =
            ((command w env t words).session, none)) := by
  rcases hwords : readArguments words with refusal | a
  · rw [command, hwords] at h
    cases h
  have hcommand (w' : Pipeline.Surroundings) : command w' env t words = perform w' env t a := by
    rw [command, hwords]
  rw [hcommand] at h
  refine ⟨a, rfl, ?_⟩
  rcases perform_eq_code h with ⟨hn, hdeclines, complaint, hall⟩ | ⟨loaded, plan, hg⟩
  · exact .inl ⟨hn, hdeclines, complaint, fun w' => (hcommand w').trans (hall w')⟩
  · rw [hg.perform_eq] at h
    obtain ⟨results, hrun, hn, hplay⟩ := carryOut_eq_code h
    rw [hcommand, hg.perform_eq]
    exact .inr ⟨loaded, plan, results, hg, hrun, hn, hplay⟩

/-- What is not logged is heard by the reporters. -/
theorem play_cons (hstep : ∀ event, step ≠ .logged event) :
    play w reporters s (step :: steps) =
      match hearAll w s step reporters with
      | (s, none) => play w reporters s steps
      | failed => failed := by
  cases step with
  | logged event => exact absurd rfl (hstep event)
  | _ => rfl

theorem logged_or_heard (step : Step) :
    (∃ event, step = .logged event) ∨ ∀ event, step ≠ .logged event := by
  cases step <;> simp

theorem play_append (w : Pipeline.Surroundings) (reporters : List Reporter) (s : Session)
    (steps more : List Step) :
    play w reporters s (steps ++ more) =
      match play w reporters s steps with
      | (s, none) => play w reporters s more
      | failed => failed := by
  induction steps generalizing s with
  | nil => rfl
  | cons step steps ih =>
      rcases logged_or_heard step with ⟨event, rfl⟩ | hstep
      · exact ih _
      · rw [List.cons_append, play_cons hstep, play_cons hstep]
        rcases hearAll w s step reporters with ⟨heard, _ | crash⟩
        · exact ih heard
        · rfl

/-- A run that returns tells its results last and not before. -/
theorem steps_of_runFrom {done results : Results} {turns : List (String × Provider)}
    (h : (runFrom w plan start done turns).result = .ok results) :
    ∃ before, (runFrom w plan start done turns).steps = before ++ [.finished results] ∧
      ∀ step ∈ before, ∀ others, step ≠ .finished others := by
  induction turns generalizing done with
  | nil =>
      cases h
      exact ⟨[], rfl, fun _ hstep => (List.not_mem_nil hstep).elim⟩
  | cons e turns ih =>
      obtain ⟨key, p⟩ := e
      obtain ⟨result, hturn, hrest, -⟩ := runFrom_cons_eq_ok h
      obtain ⟨before, hbefore, hnone⟩ := ih hrest
      rw [runFrom_cons_of_ok hturn]
      refine ⟨.started p.name plan.objectKey ::
        (takeTurn w key p plan start).log.map .logged ++ .completed result :: before, ?_, ?_⟩
      · rw [hbefore]
        simp only [List.cons_append, List.append_assoc]
      · intro step hstep others heq
        subst heq
        simp only [List.mem_append, List.mem_cons, List.mem_map] at hstep
        rcases hstep with (hstep | ⟨event, -, hstep⟩) | hstep | hstep
        · cases hstep
        · cases hstep
        · cases hstep
        · exact hnone _ hstep others rfl

/-- A quiet reporter does nothing before the end of a run. -/
theorem hear_quiet {r : Reporter} (hquiet : r ≠ .console false)
    (hstep : ∀ results, step ≠ .finished results) : r.hear w s step = (s, none) := by
  rcases r with quiet | path
  · have hprint : Report.Console.print quiet step = ⟨[], none⟩ := by
      rcases quiet with _ | _
      · exact absurd rfl hquiet
      · cases step with
        | finished results => exact absurd rfl (hstep results)
        | _ => rfl
    rw [Reporter.hear, hprint]
    simp
  · cases step with
    | finished results => exact absurd rfl (hstep results)
    | _ => rfl

theorem hearAll_quiet (hquiet : ∀ r ∈ reporters, r ≠ .console false)
    (hstep : ∀ results, step ≠ .finished results) : hearAll w s step reporters = (s, none) := by
  induction reporters with
  | nil => rfl
  | cons r reporters ih =>
      obtain ⟨hfirst, hrest⟩ := List.forall_mem_cons.mp hquiet
      rw [hearAll, hear_quiet hfirst hstep]
      exact ih hrest

/-- Before the end of a run, quiet reporters do not fail. -/
theorem play_quiet (hquiet : ∀ r ∈ reporters, r ≠ .console false)
    (hsteps : ∀ step ∈ steps, ∀ results, step ≠ .finished results) :
    ∃ s', play w reporters s steps = (s', none) ∧ s'.tree = s.tree := by
  induction steps generalizing s with
  | nil => exact ⟨s, rfl, rfl⟩
  | cons step steps ih =>
      obtain ⟨hfirst, hrest⟩ := List.forall_mem_cons.mp hsteps
      rcases logged_or_heard step with ⟨event, rfl⟩ | hstep
      · exact ih hrest
      · rw [play_cons hstep, hearAll_quiet hquiet hfirst]
        exact ih hrest

/-- A quiet program comes to an exit code if the run returns, its results can be shown in a table,
and the report that is asked for can be written. -/
theorem exit_of_quiet {env : Provider.Environment} {words : List String} {results : Results}
    {loaded : Entries String Provider} (hwords : readArguments words = .ok a)
    (hquiet : a.quiet = true) (hg : GoesAhead a env t loaded plan)
    (hrun : (run w .system (chosen a loaded) plan).result = .ok results)
    (hshown : (Report.Console.print true (.finished results)).fault = none)
    (hwritten : ∀ path, nonempty? a.jsonOutput = some path →
      ∃ made, Report.writeDocument w.now results path t = .ok made) :
    (command w env t words).exit = .code (if allOk results then 0 else 1) := by
  have hreporters : ∀ r ∈ reportersOf a, r ≠ .console false := by
    simp [reportersOf, hquiet]
  obtain ⟨before, hsteps, hnone⟩ := steps_of_runFrom hrun
  change (run w .system (chosen a loaded) plan).steps = _ at hsteps
  obtain ⟨heard, hheard, htree⟩ :=
    play_quiet (w := w) (s := { tree := t }) hreporters hnone
  have hlast : ∃ s', hearAll w heard (.finished results) (reportersOf a) = (s', none) := by
    rw [reportersOf, hquiet, hearAll]
    unfold Reporter.hear
    dsimp only
    rw [hshown]
    rcases hpath : nonempty? a.jsonOutput with _ | path
    · exact ⟨_, rfl⟩
    · obtain ⟨made, hmade⟩ := hwritten path hpath
      simp only [Option.map_none, Option.toList_some, List.map_cons, List.map_nil, hearAll,
        Reporter.hear, htree, hmade]
      exact ⟨_, rfl⟩
  obtain ⟨s', hs'⟩ := hlast
  have hplay : play w (reportersOf a) { tree := t } (run w .system (chosen a loaded) plan).steps =
      (s', none) := by
    rw [hsteps, play_append, hheard]
    dsimp only
    rw [play_cons (by simp), hs']
    rfl
  rw [command, hwords]
  dsimp only
  rw [hg.perform_eq, carryOut, hplay, hrun]

end

end UrlSigning.CommandLine
