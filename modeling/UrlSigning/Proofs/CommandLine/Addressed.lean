import UrlSigning.Proofs.CommandLine.Exit
import UrlSigning.Proofs.Sending.Target

/-!
# What a good run presigns

When the program says that all is good, the URL for each provider is at the provider's place and
names, behind the path of the bucket, the object that the key asks for. The program asks for a key
that is not empty, but the slashes in front of a key do not count: a key of nothing but slashes asks
for no object, and what is presigned for it is the bucket itself.
-/

namespace UrlSigning.CommandLine

open Run

/-- The URL is at the place of the provider, and names an object behind the path of its bucket. -/
def Addresses (p : Provider) (base : Url.Parts) (url name : String) : Prop :=
  ∃ q encoded, Url.split url = .ok q ∧ q.authority = p.place base ∧
    q.path = p.bucketPath base ++ encoded ∧ Text.Percent.decode encoded = name

section

variable {w : Pipeline.Surroundings} {env : Provider.Environment} {t : Files.Tree}
  {words : List String} {p : Provider} {base : Url.Parts} {plan : Plan} {start : DateTime}
  {m : Presigned}

/-- What is presigned for a provider that can be reached addresses the object of the plan. -/
theorem addresses_of_presignFor (hp : p.IsReachable base)
    (h : (presignFor w p plan start).result = .ok m) :
    Addresses p base m.url (Provider.objectName plan.objectKey) := by
  obtain ⟨pairs, -, -, hsplit⟩ := Outgoing.url_of_presignFor hp h
  exact ⟨_, Provider.encodeKey plan.objectKey, hsplit, rfl, Provider.objectPath_eq p base _,
    Provider.decode_encodeKey _⟩

/-- When the program says that all is good, what it presigned for each provider that can be reached
addresses, in the bucket of the provider, the object that the key asks for, without the slashes in
front of it. So it is an object and not the bucket itself if and only if the key has a character
that is no slash. -/
theorem presigned_addresses_object (henv : (Entries.keys env).Nodup)
    (h : (command w env t words).exit = .code 0) :
    ∃ a key loaded plan results, readArguments words = .ok a ∧ a.key = some key ∧
      Provider.load env t a.config = .ok loaded ∧ planOf a t = .ok plan ∧
      (run w .system (chosen a loaded) plan).result = .ok results ∧
      (∀ k p base, (k, p) ∈ chosen a loaded → p.IsReachable base →
        ∃ r m, (k, r) ∈ results ∧ r.request = some m ∧
          Addresses p base m.url (Provider.objectName key)) ∧
      (Provider.objectName key ≠ "" ↔ ∃ c ∈ key.toList, c ≠ '/') := by
  obtain ⟨a, hwords, ⟨hcode, -⟩ | ⟨loaded, plan, results, hg, hrun, hcode, -⟩⟩ := command_eq_code h
  · cases hcode
  have hgood : ∀ r ∈ results, r.2.status = .ok := by
    refine (allOk_iff.mp ?_).2
    by_contra hbad
    rw [if_neg hbad] at hcode
    cases hcode
  refine ⟨a, plan.objectKey, loaded, plan, results, hwords, hg.objectKey, hg.load, hg.plan, hrun,
    ?_, Provider.objectName_ne_empty_iff⟩
  intro k p base hp hreachable
  obtain ⟨⟨k', r⟩, hr, hsame, hturn⟩ := exists_of_mem_left (hg.turns henv hrun) hp
  obtain rfl : k' = k := hsame
  dsimp only at hturn
  rcases takeTurn_eq_ok hturn with ⟨m, hm, rfl⟩ | ⟨f, -, -, rfl⟩
  · exact ⟨_, m, hr, rfl, addresses_of_presignFor hreachable hm⟩
  · cases hgood _ hr

end

/-! ### A store of the environment -/

section

open Pipeline Outgoing

theorem isReachable_quarterHour : Sample.quarterHour.IsReachable Sample.base where
  endpoint := isReachable_store.endpoint
  scheme := isReachable_store.scheme
  authority := isReachable_store.authority
  path := isReachable_store.path
  bucket := isReachable_store.bucket
  place := isReachable_store.place

theorem presigned_addresses_object_nested :
    (command Sample.surroundings Sample.environment {} ["-q", "-k", "//a/b.txt"]).exit = .code 0 ∧
    Sample.quarterHour.IsReachable Sample.base ∧
    ∃ m : Presigned, Addresses Sample.quarterHour Sample.base m.url "a/b.txt" := by
  have hwords : readArguments ["-q", "-k", "//a/b.txt"] =
      .ok { key := some "//a/b.txt", quiet := true } := by
    decide +kernel
  have hexit : (command Sample.surroundings Sample.environment {}
      ["-q", "-k", "//a/b.txt"]).exit = .code 0 :=
    exit_quarterHour hwords (by decide) (Report.Console.shows_of_isOk (by decide +kernel))
      fun _ _ hpath => nomatch hpath
  obtain ⟨a, key, loaded, plan, results, ha, hkey, hload, -, -, haddresses, -⟩ :=
    presigned_addresses_object (by decide) hexit
  cases hwords.symm.trans ha
  cases hkey
  have hloaded : loaded = [("main", Sample.quarterHour)] := (Except.ok.inj hload).symm
  subst hloaded
  obtain ⟨-, m, -, -, hm⟩ :=
    haddresses "main" _ Sample.base List.mem_cons_self isReachable_quarterHour
  exact ⟨hexit, isReachable_quarterHour, m, hm⟩

/-- A key of one slash is not empty, all is said to be good, and the bucket itself is presigned. -/
theorem presigned_addresses_bucket :
    (command Sample.surroundings Sample.environment {} ["-q", "-k", "/"]).exit = .code 0 ∧
    Sample.quarterHour.IsReachable Sample.base ∧
    ∃ m q, (run Sample.surroundings .system [("main", Sample.quarterHour)]
        { objectKey := "/" }).result =
          .ok [("main", ⟨"main", .text "Main", "/", .ok, some m, none⟩)] ∧
      Url.split m.url = .ok q ∧ q.authority = "s3.example.com" ∧ q.path = "/bucket/" := by
  have hwords : readArguments ["-q", "-k", "/"] = .ok { key := some "/", quiet := true } := by
    decide +kernel
  have hexit : (command Sample.surroundings Sample.environment {} ["-q", "-k", "/"]).exit =
      .code 0 :=
    exit_quarterHour hwords (by decide) (Report.Console.shows_of_isOk (by decide +kernel))
      fun _ _ hpath => nomatch hpath
  obtain ⟨m, -, hrun, -, -⟩ := exists_run_quarterHour "/"
  obtain ⟨p, hp, hm⟩ := exists_presignFor hrun List.mem_cons_self rfl
  cases List.mem_singleton.mp hp
  obtain ⟨pairs, -, -, hsplit⟩ := url_of_presignFor isReachable_quarterHour hm
  have hplace : Sample.quarterHour.place Sample.base = "s3.example.com" := by decide +kernel
  have hpath : Sample.quarterHour.objectPath Sample.base "/" = "/bucket/" := by decide +kernel
  exact ⟨hexit, isReachable_quarterHour, m, _, hrun, hsplit, hplace, hpath⟩

end

end UrlSigning.CommandLine
