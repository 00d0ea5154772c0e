import UrlSigning.CommandLine.Plan
import UrlSigning.Proofs.CommandLine.Uses
import UrlSigning.Proofs.Signing.Digest

/-!
# Payloads that are asked for

Three flags say what the signature is to cover, and a command line that is accepted calls one of
them at most. The payload is the one that was asked for, or the request fails, except that an empty
value counts as none: then nothing is covered, although a flag was given that asks for it.
-/

namespace UrlSigning.CommandLine

open Signing Text

/-! ## One flag at most -/

/-- Only one of the flags that shut each other out is among these. -/
def IsSingle (used : List Flag) : Prop :=
  ∃ flag ∈ Flag.exclusive, ∀ f ∈ used, f = flag

section

variable {t t' : Taken} {u : Use} {uses : List Use} {flag : Flag} {words : List String}
  {a : Arguments}

theorem isSingle_of_noteUse {used used' : List Flag} (h : noteUse flag used = .ok used')
    (hused : IsSingle used) : IsSingle used' := by
  rcases noteUse_eq_ok h with ⟨-, rfl⟩ | ⟨hflag, rfl, hothers⟩
  · exact hused
  · obtain ⟨single, hsingle, hall⟩ := hused
    refine ⟨flag, hflag, List.forall_mem_cons.mpr ⟨rfl, fun f hf => ?_⟩⟩
    exact hothers f (hall f hf ▸ hsingle) hf

theorem mem_used_of_noteUse {used used' : List Flag} (h : noteUse flag used = .ok used') :
    used ⊆ used' ∧ (flag ∈ Flag.exclusive → flag ∈ used') := by
  rcases noteUse_eq_ok h with ⟨hflag, rfl⟩ | ⟨-, rfl, -⟩
  · exact ⟨List.Subset.refl _, fun h => absurd h hflag⟩
  · exact ⟨List.subset_cons_self _ _, fun _ => List.mem_cons_self⟩

theorem used_of_foldlM (h : uses.foldlM take t = .ok t') (ht : IsSingle t.used) :
    IsSingle t'.used ∧ t.used ⊆ t'.used ∧
      ∀ u ∈ uses, u.flag ∈ Flag.exclusive → u.flag ∈ t'.used := by
  induction uses generalizing t with
  | nil =>
      cases h
      exact ⟨ht, List.Subset.refl _, by simp⟩
  | cons u uses ih =>
      obtain ⟨next, htake, h⟩ := foldlM_take_cons.mp h
      obtain ⟨hnote, -⟩ := take_eq_ok htake
      obtain ⟨hkept, hmem⟩ := mem_used_of_noteUse hnote
      obtain ⟨hsingle, hsubset, hall⟩ := ih h (isSingle_of_noteUse hnote ht)
      exact ⟨hsingle, List.Subset.trans hkept hsubset,
        List.forall_mem_cons.mpr ⟨fun hflag => hsubset (hmem hflag), hall⟩⟩

/-- A command line that is accepted calls only one of the flags that shut each other out. -/
theorem mentions_unique (h : readArguments words = .ok a) {other : Flag}
    (hflag : flag ∈ Flag.exclusive) (hother : other ∈ Flag.exclusive)
    (hmentions : Mentions flag words) (hmentions' : Mentions other words) : flag = other := by
  obtain ⟨uses, t, hreads, htaken, -⟩ := exists_reads_of_readArguments h
  have hempty : IsSingle ({} : Taken).used := ⟨.streaming, by decide, by simp⟩
  obtain ⟨⟨single, -, hsingle⟩, -, hall⟩ := used_of_foldlM htaken hempty
  obtain ⟨u, hu, rfl⟩ := ((hreads.tells hflag).mentions_iff).mp hmentions
  obtain ⟨v, hv, rfl⟩ := ((hreads.tells hother).mentions_iff).mp hmentions'
  rw [hsingle _ (hall u hu hflag), hsingle _ (hall v hv hother)]

end

/-! ## What the arguments hold -/

/-- What arguments hold for a flag that gives the payload a value. -/
def Arguments.payload? (a : Arguments) : Flag → Option String
  | .payloadFile => a.payloadFile
  | .payloadDigest => a.payloadDigest
  | _ => none

section

variable {t t' : Taken} {u : Use} {uses : List Use} {flag : Flag} {words : List String}
  {a a' : Arguments} {value : String}

theorem setValue_eq_ok {f : Flag} (h : setValue a f value = .ok a') :
    a'.payloadFile = (if f = .payloadFile then some value else a.payloadFile) ∧
      a'.payloadDigest = (if f = .payloadDigest then some value else a.payloadDigest) ∧
      a'.streaming = a.streaming := by
  cases f with
  | expires =>
      rw [setValue] at h
      split at h
      · cases h
        exact ⟨rfl, rfl, rfl⟩
      · cases h
  | _ =>
      cases h
      exact ⟨rfl, rfl, rfl⟩

theorem setFlag_eq (a : Arguments) (f : Flag) :
    (setFlag a f).payloadFile = a.payloadFile ∧ (setFlag a f).payloadDigest = a.payloadDigest ∧
      (setFlag a f).streaming = (a.streaming || f == .streaming) := by
  cases f <;> simp [setFlag]

theorem payload?_of_take (h : take t u = .ok t')
    (hflag : flag = .payloadFile ∨ flag = .payloadDigest) :
    t'.arguments.payload? flag = (u.valueFor? flag).or (t.arguments.payload? flag) := by
  obtain ⟨-, -, ⟨f, value, rfl, hvalue⟩ | ⟨hu, harguments⟩⟩ := take_eq_ok h
  · obtain ⟨hfile, hdigest, -⟩ := setValue_eq_ok hvalue
    rcases hflag with rfl | rfl
    · rw [Arguments.payload?, hfile, Use.valueFor?]
      split <;> rfl
    · rw [Arguments.payload?, hdigest, Use.valueFor?]
      split <;> rfl
  · obtain ⟨hfile, hdigest, -⟩ := setFlag_eq t.arguments u.flag
    have hnone : u.valueFor? flag = none := by
      rcases hu with hu | hu <;> rw [hu] <;> rfl
    rw [hnone, harguments, Option.none_or]
    rcases hflag with rfl | rfl
    · exact hfile
    · exact hdigest

theorem streaming_of_take (h : take t u = .ok t') :
    t'.arguments.streaming = true ↔
      t.arguments.streaming = true ∨ u = .alone .streaming ∨ u = .wanting .streaming := by
  obtain ⟨-, -, ⟨f, value, rfl, hvalue⟩ | ⟨hu, harguments⟩⟩ := take_eq_ok h
  · rw [(setValue_eq_ok hvalue).2.2]
    simp
  · rw [harguments, (setFlag_eq _ _).2.2, Bool.or_eq_true, beq_iff_eq]
    rcases hu with hu | hu <;> rw [hu] <;> simp [Use.flag]

/-- A value that is left is the last that was given. -/
theorem payload?_of_foldlM (h : uses.foldlM take t = .ok t')
    (hflag : flag = .payloadFile ∨ flag = .payloadDigest) :
    t'.arguments.payload? flag = (lastValue? flag uses).or (t.arguments.payload? flag) := by
  induction uses generalizing t with
  | nil =>
      cases h
      rfl
  | cons u uses ih =>
      obtain ⟨next, htake, h⟩ := foldlM_take_cons.mp h
      rw [ih h, payload?_of_take htake hflag, ← List.singleton_append, lastValue?_append,
        lastValue?_singleton, Option.or_assoc]

theorem streaming_of_foldlM (h : uses.foldlM take t = .ok t') :
    t'.arguments.streaming = true ↔ t.arguments.streaming = true ∨
      ∃ u ∈ uses, u = .alone .streaming ∨ u = .wanting .streaming := by
  induction uses generalizing t with
  | nil =>
      cases h
      simp
  | cons u uses ih =>
      obtain ⟨next, htake, h⟩ := foldlM_take_cons.mp h
      rw [ih h, streaming_of_take htake]
      simp [or_assoc]

/-- Arguments hold the value that the words give a flag last, and none if no word calls it. -/
theorem payload?_of_readArguments (h : readArguments words = .ok a)
    (hflag : flag = .payloadFile ∨ flag = .payloadDigest) :
    (∀ value, a.payload? flag = some value ↔ GivesLast flag words value) ∧
      (a.payload? flag = none ↔ ¬Mentions flag words) := by
  obtain ⟨uses, t, hreads, htaken, rfl⟩ := exists_reads_of_readArguments h
  have hexclusive : flag ∈ Flag.exclusive := by rcases hflag with rfl | rfl <;> decide
  have hvalue : flag.takesValue = true := by rcases hflag with rfl | rfl <;> rfl
  have hlast : t.arguments.payload? flag = lastValue? flag uses := by
    rw [payload?_of_foldlM htaken hflag]
    rcases hflag with rfl | rfl <;> exact Option.or_none
  have htells := hreads.tells hexclusive
  rw [hlast]
  exact ⟨fun value => (htells.givesLast_iff hvalue).symm, htells.lastValue?_eq_none_iff hvalue⟩

theorem streaming_of_readArguments (h : readArguments words = .ok a) :
    a.streaming = true ↔ Mentions .streaming words := by
  obtain ⟨uses, t, hreads, htaken, rfl⟩ := exists_reads_of_readArguments h
  have htells : Tells .streaming words uses := hreads.tells (by decide)
  rw [streaming_of_foldlM htaken, htells.mentions_iff]
  constructor
  · rintro (h | ⟨u, hu, rfl | rfl⟩)
    · cases h
    · exact ⟨_, hu, rfl⟩
    · exact ⟨_, hu, rfl⟩
  · rintro ⟨u, hu, hflag⟩
    rcases htells.eq_of_flag hu hflag with ⟨hno, -⟩ | ⟨-, rfl⟩
    · cases hno
    · exact .inr ⟨_, hu, .inl rfl⟩

end

/-! ## The payload -/

theorem nonempty?_eq_none_iff {value : Option String} :
    nonempty? value = none ↔ value = none ∨ value = some "" := by
  cases value <;> simp [nonempty?]

theorem nonempty?_of_ne {value : String} (h : value ≠ "") :
    nonempty? (some value) = some value := by
  simp [nonempty?, h]

/-- Nothing is covered when there is neither a path nor a digest, but perhaps an empty one. -/
theorem payloadOf_eq_unsigned_iff {a : Arguments} {t : Files.Tree} :
    payloadOf a t = .ok .unsigned ↔ nonempty? a.payloadFile = none ∧
      nonempty? a.payloadDigest = none ∧ a.streaming = false := by
  rcases hfile : nonempty? a.payloadFile with _ | path
  · rcases hdigest : nonempty? a.payloadDigest with _ | digest
    · rw [payloadOf, hfile, hdigest]
      cases a.streaming <;> simp
    · rw [payloadOf, hfile, hdigest]
      refine iff_of_false (fun h => ?_) (by simp)
      obtain ⟨d, -, h⟩ := ofDigest_eq_ok_iff.mp (mapError_eq_ok.mp h)
      cases h
  · rw [payloadOf, hfile]
    refine iff_of_false (fun h => ?_) (by simp)
    obtain ⟨content, -, h⟩ := map_eq_ok.mp h
    cases h

section

variable {words : List String} {a : Arguments} {flag other : Flag} {value : String}

/-- A flag that is called shuts the others out. -/
theorem Mentions.shuts (hmentions : Mentions flag words) (h : readArguments words = .ok a)
    (hne : flag ≠ other) (hflag : flag ∈ Flag.exclusive := by decide)
    (hother : other ∈ Flag.exclusive := by decide) : ¬Mentions other words :=
  fun hmentions' => hne (mentions_unique h hflag hother hmentions hmentions')

theorem exists_givesLast (h : readArguments words = .ok a)
    (hflag : flag = .payloadFile ∨ flag = .payloadDigest) (hmentions : Mentions flag words) :
    ∃ value, GivesLast flag words value := by
  obtain ⟨hvalue, hnone⟩ := payload?_of_readArguments h hflag
  obtain ⟨value, hsome⟩ := Option.ne_none_iff_exists'.mp (mt hnone.mp (not_not_intro hmentions))
  exact ⟨value, (hvalue value).mp hsome⟩

theorem payloadFile_eq_none (h : readArguments words = .ok a)
    (hno : ¬Mentions .payloadFile words) : a.payloadFile = none :=
  (payload?_of_readArguments h (.inl rfl)).2.mpr hno

theorem payloadDigest_eq_none (h : readArguments words = .ok a)
    (hno : ¬Mentions .payloadDigest words) : a.payloadDigest = none :=
  (payload?_of_readArguments h (.inr rfl)).2.mpr hno

theorem payloadOf_of_digest (h : readArguments words = .ok a)
    (hgives : GivesLast .payloadDigest words value) (hne : value ≠ "") (t : Files.Tree) :
    payloadOf a t = (Payload.ofDigest (lower value)).mapError .digest := by
  have hnone := payloadFile_eq_none h (hgives.mentions.shuts h (by decide))
  have hsome : a.payloadDigest = some value :=
    ((payload?_of_readArguments h (.inr rfl)).1 value).mpr hgives
  rw [payloadOf, hnone, hsome, nonempty?_of_ne hne]
  rfl

theorem payloadOf_of_file (h : readArguments words = .ok a)
    (hgives : GivesLast .payloadFile words value) (hne : value ≠ "") (t : Files.Tree) :
    payloadOf a t = ((t.read (.ofText value)).mapError .payloadFile).map .bytes := by
  have hsome : a.payloadFile = some value :=
    ((payload?_of_readArguments h (.inl rfl)).1 value).mpr hgives
  rw [payloadOf, hsome, nonempty?_of_ne hne]

theorem payloadOf_of_streaming (h : readArguments words = .ok a)
    (hmentions : Mentions .streaming words) (t : Files.Tree) :
    payloadOf a t = .ok .streaming := by
  have hnone := payloadFile_eq_none h (hmentions.shuts h (by decide))
  have hnone' := payloadDigest_eq_none h (hmentions.shuts h (by decide))
  rw [payloadOf, hnone, hnone', (streaming_of_readArguments h).mpr hmentions]
  rfl

/-- Nothing is covered just when no flag asks for a payload, or the one that does is given an empty
value last. -/
theorem payloadOf_eq_unsigned_iff_words (h : readArguments words = .ok a) (t : Files.Tree) :
    payloadOf a t = .ok .unsigned ↔ (∀ flag ∈ Flag.exclusive, ¬Mentions flag words) ∨
      GivesLast .payloadDigest words "" ∨ GivesLast .payloadFile words "" := by
  obtain ⟨hfile, hnoFile⟩ := payload?_of_readArguments h (.inl rfl)
  obtain ⟨hdigest, hnoDigest⟩ := payload?_of_readArguments h (.inr rfl)
  have hempty : a.payloadFile = some "" ↔ GivesLast .payloadFile words "" := hfile ""
  have hempty' : a.payloadDigest = some "" ↔ GivesLast .payloadDigest words "" := hdigest ""
  change a.payloadFile = none ↔ _ at hnoFile
  change a.payloadDigest = none ↔ _ at hnoDigest
  rw [payloadOf_eq_unsigned_iff, nonempty?_eq_none_iff, nonempty?_eq_none_iff, hnoFile, hnoDigest,
    hempty, hempty', ← Bool.not_eq_true, streaming_of_readArguments h]
  have hall : (∀ flag ∈ Flag.exclusive, ¬Mentions flag words) ↔
      ¬Mentions .payloadFile words ∧ ¬Mentions .payloadDigest words ∧
        ¬Mentions .streaming words := by
    simp [Flag.exclusive]
  rw [hall]
  constructor
  · rintro ⟨hf | hf, hd | hd, hs⟩
    · exact .inl ⟨hf, hd, hs⟩
    · exact .inr (.inl hd)
    · exact .inr (.inr hf)
    · exact .inr (.inl hd)
  · -- an empty value calls its flag, and that shuts out the two others
    rintro (⟨hf, hd, hs⟩ | hd | hf)
    · exact ⟨.inl hf, .inl hd, hs⟩
    · exact ⟨.inl (hd.mentions.shuts h (by decide)), .inr hd, hd.mentions.shuts h (by decide)⟩
    · exact ⟨.inr hf, .inl (hf.mentions.shuts h (by decide)), hf.mentions.shuts h (by decide)⟩

end

/-- The payload of a command line that is accepted, whatever the files are. A digest or a file that
is given last, with a value that is not empty, is what the payload comes from, or it fails; a stream
is one; and nothing is covered just when no flag asks for a payload, or the one that does is given
an empty value last. -/
theorem payload_as_asked {words : List String} {a : Arguments} (h : readArguments words = .ok a)
    (t : Files.Tree) :
    (∀ flag ∈ [Flag.payloadFile, Flag.payloadDigest], Mentions flag words →
      ∃ value, GivesLast flag words value) ∧
    (∀ digest, GivesLast .payloadDigest words digest → digest ≠ "" →
      payloadOf a t = (Payload.ofDigest (lower digest)).mapError .digest) ∧
    (∀ path, GivesLast .payloadFile words path → path ≠ "" →
      payloadOf a t = ((t.read (.ofText path)).mapError .payloadFile).map .bytes) ∧
    (Mentions .streaming words → payloadOf a t = .ok .streaming) ∧
    (payloadOf a t = .ok .unsigned ↔ (∀ flag ∈ Flag.exclusive, ¬Mentions flag words) ∨
      GivesLast .payloadDigest words "" ∨ GivesLast .payloadFile words "") := by
  refine ⟨fun flag hflag hmentions => ?_,
    fun digest hgives hne => payloadOf_of_digest h hgives hne t,
    fun path hgives hne => payloadOf_of_file h hgives hne t,
    fun hmentions => payloadOf_of_streaming h hmentions t, payloadOf_eq_unsigned_iff_words h t⟩
  have hpayload : flag = .payloadFile ∨ flag = .payloadDigest := by simpa using hflag
  exact exists_givesLast h hpayload hmentions

/-! ### A digest, and values that are empty -/

section

open Signing.Sample

/-- The words of a digest that is given are sixty-four zeros, and these are signed. -/
theorem payload_as_asked_zeros :
    ∃ a, readArguments ["--payload-sha256", zeros] = .ok a ∧
      ∀ t, ∃ d : Digest, d.text = zeros ∧ payloadOf a t = .ok (.digest d) := by
  have hwords : readArguments ["--payload-sha256", zeros] =
      .ok { payloadDigest := some zeros } := by
    decide +kernel
  have hgives : GivesLast .payloadDigest ["--payload-sha256", zeros] zeros :=
    ⟨[], "--payload-sha256", [zeros], rfl, by decide +kernel, .inr ⟨by decide +kernel, rfl⟩⟩
  have hlower : lower zeros = zeros := by decide +kernel
  refine ⟨_, hwords, fun t => ⟨⟨zeros, by decide⟩, rfl, ?_⟩⟩
  obtain ⟨-, hdigest, -⟩ := payload_as_asked hwords t
  rw [hdigest zeros hgives (by decide), hlower]
  rfl

/-- A digest or a path that is given, but empty, is neither taken nor refused: nothing is
covered. -/
theorem payload_dropped_empty :
    (∃ a, readArguments ["--payload-sha256", ""] = .ok a ∧
      GivesLast .payloadDigest ["--payload-sha256", ""] "" ∧
      ∀ t, payloadOf a t = .ok .unsigned ∧
        payloadOf a t ≠ (Payload.ofDigest (lower "")).mapError .digest) ∧
    ∃ a, readArguments ["--payload-file="] = .ok a ∧
      GivesLast .payloadFile ["--payload-file="] "" ∧
      ∀ t, payloadOf a t = .ok .unsigned ∧
        payloadOf a t ≠ ((t.read (.ofText "")).mapError .payloadFile).map .bytes := by
  have hdigest : readArguments ["--payload-sha256", ""] = .ok { payloadDigest := some "" } := by
    decide +kernel
  have hfile : readArguments ["--payload-file="] = .ok { payloadFile := some "" } := by
    decide +kernel
  refine ⟨⟨_, hdigest, ?_, fun t => ⟨rfl, ?_⟩⟩, ⟨_, hfile, ?_, fun t => ⟨rfl, fun h => ?_⟩⟩⟩
  · exact ⟨[], "--payload-sha256", [""], rfl, by decide +kernel, .inr ⟨by decide +kernel, rfl⟩⟩
  · rintro ⟨⟩
  · exact ⟨[], "--payload-file=", [], rfl, by decide +kernel, .inl (by decide +kernel)⟩
  · obtain ⟨content, -, hcontent⟩ := map_eq_ok.mp h.symm
    cases hcontent

end

end UrlSigning.CommandLine
