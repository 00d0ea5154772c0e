import UrlSigning.Proofs.Checked
import UrlSigning.Proofs.CommandLine.Words

/-!
# Uses of flags

A command line that is accepted is read as uses of flags: each word uses one flag or, by letters,
several, and the last of them may take the next word for its value. No word is left over. What the
arguments hold is what is left by the uses, one after another.
-/

namespace UrlSigning.CommandLine

/-- The words are read as uses of flags. -/
inductive Reads : List String → List Use → Prop where
  | done : Reads [] []
  | whole {word : String} {rest : List String} {flag : Flag} {isShort : Bool}
      {value : Option String} {first uses : List Use}
      (hkind : kindOf word = .ok (.flag flag isShort value))
      (hfirst : usesOf flag isShort value = .ok first)
      (hlast : ∀ f, first.getLast? ≠ some (.wanting f)) (hrest : Reads rest uses) :
      Reads (word :: rest) (first ++ uses)
  /-- The last use in the word wants a value, and the next word is one. -/
  | fed {word next : String} {rest : List String} {flag wanting : Flag} {isShort : Bool}
      {value : Option String} {first uses : List Use}
      (hkind : kindOf word = .ok (.flag flag isShort value))
      (hfirst : usesOf flag isShort value = .ok (first ++ [.wanting wanting]))
      (hnext : kindOf next = .ok .plain) (hrest : Reads rest uses) :
      Reads (word :: next :: rest) (first ++ [.valued wanting next] ++ uses)

/-- The flag that is used. -/
def Use.flag : Use → Flag
  | .alone f | .valued f _ | .wanting f => f

/-! ## Taking uses -/

section

variable {t t' : Taken} {u : Use} {uses : List Use} {flag : Flag} {used used' : List Flag}

theorem noteUse_eq_ok (h : noteUse flag used = .ok used') :
    (flag ∉ Flag.exclusive ∧ used' = used) ∨
      (flag ∈ Flag.exclusive ∧ used' = flag :: used ∧
        ∀ other ∈ Flag.exclusive, other ∈ used → other = flag) := by
  unfold noteUse at h
  split at h
  · next hflag =>
      split at h
      · cases h
      · next hnone =>
          cases h
          refine .inr ⟨by simpa using hflag, rfl, fun other hother hused => ?_⟩
          have hshut := List.find?_eq_none.mp hnone other hother
          simpa [hused] using hshut
  · next hflag =>
      cases h
      exact .inl ⟨by simpa using hflag, rfl⟩

/-- What taking a use does: the use is noted, and it sets a value or the flag itself. -/
theorem take_eq_ok (h : take t u = .ok t') :
    noteUse u.flag t.used = .ok t'.used ∧ t'.left = t.left ∧
      ((∃ flag value, u = .valued flag value ∧
          setValue t.arguments flag value = .ok t'.arguments) ∨
        (u = .alone u.flag ∨ u = .wanting u.flag) ∧
          t'.arguments = setFlag t.arguments u.flag) := by
  unfold take at h
  split at h
  · cases h
  · next flag _ =>
      obtain ⟨used, hused, h⟩ := bind_eq_ok.mp h
      cases h
      exact ⟨mapError_eq_ok.mp hused, rfl, .inr ⟨.inl rfl, rfl⟩⟩
  · next flag =>
      obtain ⟨used, hused, h⟩ := bind_eq_ok.mp h
      cases h
      exact ⟨mapError_eq_ok.mp hused, rfl, .inr ⟨.inr rfl, rfl⟩⟩
  · next flag value =>
      obtain ⟨arguments, harguments, h⟩ := bind_eq_ok.mp h
      obtain ⟨used, hused, h⟩ := bind_eq_ok.mp h
      cases h
      exact ⟨mapError_eq_ok.mp hused, rfl, .inl ⟨flag, value, rfl, mapError_eq_ok.mp harguments⟩⟩

theorem foldlM_take_cons :
    (u :: uses).foldlM take t = .ok t' ↔
      ∃ next, take t u = .ok next ∧ uses.foldlM take next = .ok t' := by
  rw [List.foldlM_cons, bind_eq_ok]

theorem left_of_foldlM (h : uses.foldlM take t = .ok t') : t'.left = t.left := by
  induction uses generalizing t with
  | nil =>
      cases h
      rfl
  | cons u uses ih =>
      obtain ⟨next, htake, h⟩ := foldlM_take_cons.mp h
      rw [ih h, (take_eq_ok htake).2.1]

end

/-! ## Reading words -/

section

variable {words : List String} {ws : List Word} {t t' : Taken} {uses done : List Use} {count : Nat}

theorem complete_eq_ok (h : complete uses ws = .ok (done, count)) :
    ((∀ f, uses.getLast? ≠ some (.wanting f)) ∧ done = uses ∧ count = 0) ∨
      ∃ first flag text rest, uses = first ++ [.wanting flag] ∧ ws = ⟨text, .plain⟩ :: rest ∧
        done = first ++ [.valued flag text] ∧ count = 1 := by
  unfold complete at h
  split at h
  · next flag text rest hlast =>
      cases h
      obtain ⟨first, rfl⟩ := List.getLast?_eq_some_iff.mp hlast
      rw [List.dropLast_concat]
      exact .inr ⟨first, flag, text, rest, rfl, rfl, rfl, rfl⟩
  · cases h
  · next hlast _ =>
      cases h
      exact .inl ⟨fun f hf => hlast f hf, rfl, rfl⟩

theorem eq_nil_of_classify (h : classify words = .ok []) : words = [] := by
  cases words with
  | nil => rfl
  | cons word words =>
      rw [classify] at h
      split at h
      · cases h
      · obtain ⟨kind, -, h⟩ := bind_eq_ok.mp h
        obtain ⟨ws, -, h⟩ := bind_eq_ok.mp h
        cases h

theorem exists_of_classify {word : Word} (h : classify words = .ok (word :: ws))
    (hkind : word.kind ≠ .separator) :
    ∃ rest, words = word.text :: rest ∧ kindOf word.text = .ok word.kind ∧
      classify rest = .ok ws := by
  cases words with
  | nil => cases h
  | cons text rest =>
      rw [classify] at h
      split at h
      · cases h
        exact absurd rfl hkind
      · obtain ⟨kind, htext, h⟩ := bind_eq_ok.mp h
        obtain ⟨ws, hws, h⟩ := bind_eq_ok.mp h
        cases h
        exact ⟨rest, rfl, htext, hws⟩

/-- A word that uses flags, and what is taken by it and by the words after those it takes. -/
theorem takeWords_of_flag {word : Word} {rest : List Word} {flag : Flag} {isShort : Bool}
    {value : Option String} (hkind : word.kind = .flag flag isShort value)
    (h : takeWords t (word :: rest) = .ok t') :
    ∃ first done count next, usesOf flag isShort value = .ok first ∧
      complete first rest = .ok (done, count) ∧ done.foldlM take t = .ok next ∧
      takeWords next (rest.drop count) = .ok t' := by
  rw [takeWords, hkind] at h
  obtain ⟨first, hfirst, h⟩ := bind_eq_ok.mp h
  obtain ⟨⟨done, count⟩, hdone, h⟩ := bind_eq_ok.mp h
  obtain ⟨next, hnext, h⟩ := bind_eq_ok.mp h
  exact ⟨first, done, count, next, mapError_eq_ok.mp hfirst, mapError_eq_ok.mp hdone, hnext, h⟩

theorem takeWords_of_loose {word : Word} {rest : List Word}
    (hkind : ∀ flag isShort value, word.kind ≠ .flag flag isShort value) :
    takeWords t (word :: rest) = takeWords { t with left := t.left ++ [word.text] } rest := by
  rw [takeWords]
  split
  · next flag isShort value heq => exact absurd heq (hkind flag isShort value)
  · rfl

/-- The words that are left over only become more. -/
theorem left_of_takeWords (h : takeWords t ws = .ok t') : t.left <+: t'.left := by
  induction t, ws using takeWords.induct with
  | case1 t =>
      rw [takeWords] at h
      cases h
      exact List.prefix_rfl
  | case2 t word rest flag isShort value hkind ih =>
      obtain ⟨first, done, count, next, -, -, hnext, h⟩ := takeWords_of_flag hkind h
      have hleft := ih count next h
      rwa [left_of_foldlM hnext] at hleft
  | case3 t word rest hkind ih =>
      rw [takeWords_of_loose hkind] at h
      exact (List.prefix_append _ _).trans (ih h)

/-- When no word is left over, each word uses flags or is the value of a use. -/
theorem exists_reads (hws : classify words = .ok ws) (h : takeWords t ws = .ok t')
    (hleft : t'.left = []) : ∃ uses, Reads words uses ∧ uses.foldlM take t = .ok t' := by
  -- a word that uses no flag is left over
  have hloose {t : Taken} {word : Word} {rest : List Word}
      (hkind : ∀ flag isShort value, word.kind ≠ .flag flag isShort value) :
      takeWords t (word :: rest) ≠ .ok t' := by
    intro h
    rw [takeWords_of_loose hkind] at h
    have hmore := left_of_takeWords h
    rw [hleft, List.prefix_nil] at hmore
    exact List.append_ne_nil_of_right_ne_nil _ (List.cons_ne_nil _ _) hmore
  induction t, ws using takeWords.induct generalizing words with
  | case1 t =>
      rw [takeWords] at h
      rw [eq_nil_of_classify hws]
      exact ⟨[], .done, h⟩
  | case2 t word rest flag isShort value hkind ih =>
      obtain ⟨first, done, count, next, hfirst, hdone, hnext, h⟩ := takeWords_of_flag hkind h
      obtain ⟨texts, rfl, hword, hrest⟩ := exists_of_classify hws (by simp [hkind])
      rw [hkind] at hword
      have hfold {uses : List Use} (huses : uses.foldlM take next = .ok t') :
          (done ++ uses).foldlM take t = .ok t' := by
        rw [List.foldlM_append, hnext]
        exact huses
      rcases complete_eq_ok hdone with
        ⟨hlast, rfl, rfl⟩ | ⟨start, wanting, text, left, rfl, rfl, rfl, rfl⟩
      · obtain ⟨uses, hreads, huses⟩ := ih 0 next hrest h
        exact ⟨_, .whole hword hfirst hlast hreads, hfold huses⟩
      · obtain ⟨more, rfl, hplain, hmore⟩ := exists_of_classify hrest (by simp)
        obtain ⟨uses, hreads, huses⟩ := ih 1 next hmore h
        exact ⟨_, .fed hword hfirst hplain hreads, hfold huses⟩
  | case3 t word rest hkind ih => exact absurd h (hloose hkind)

/-- A command line that is accepted is read through, and its arguments are what is taken. -/
theorem exists_reads_of_readArguments {a : Arguments} (h : readArguments words = .ok a) :
    ∃ uses t, Reads words uses ∧ uses.foldlM take {} = .ok t ∧ t.arguments = a := by
  obtain ⟨ws, hws, h⟩ := bind_eq_ok.mp h
  obtain ⟨t, ht, h⟩ := bind_eq_ok.mp h
  split at h
  · next hleft =>
      cases h
      obtain ⟨uses, hreads, huses⟩ :=
        exists_reads (mapError_eq_ok.mp hws) ht (List.isEmpty_iff.mp hleft)
      exact ⟨uses, t, hreads, huses, rfl⟩
  · cases h

end

/-! ## Uses in a word -/

section

variable {flag : Flag} {isShort : Bool} {value : Option String} {cs : List Char} {uses : List Use}

/-- A flag that a letter stands for has a short name. -/
theorem not_exclusive_of_ofLetter? {c : Char} (h : Flag.ofLetter? c = some flag) :
    flag ∉ Flag.exclusive := by
  intro hflag
  have hlong := Flag.isShortName_of_exclusive hflag (Flag.mem_named_of_ofName? h)
  rw [isShortName, String.toList_ofList] at hlong
  obtain rfl : c = '-' := by simpa using hlong
  have hnone : Flag.ofLetter? '-' = none := by decide
  rw [hnone] at h
  cases h

theorem flags_of_letterUses (h : letterUses flag cs = .ok uses) :
    ∃ u rest, uses = u :: rest ∧ u.flag = flag ∧ ∀ v ∈ rest, v.flag ∉ Flag.exclusive := by
  induction cs generalizing flag uses with
  | nil =>
      cases h
      refine ⟨_, [], rfl, ?_, by simp⟩
      split <;> rfl
  | cons c cs ih =>
      rw [letterUses] at h
      split at h
      · cases h
        exact ⟨_, [], rfl, rfl, by simp⟩
      · split at h
        · next next hnext =>
            obtain ⟨rest, hrest, h⟩ := bind_eq_ok.mp h
            cases h
            obtain ⟨u, more, rfl, hu, hmore⟩ := ih hrest
            refine ⟨_, _, rfl, rfl, List.forall_mem_cons.mpr ⟨?_, hmore⟩⟩
            rw [hu]
            exact not_exclusive_of_ofLetter? hnext
        · cases h

/-- A word uses the flag that it is told to be, and then none of those that shut each other out. -/
theorem flags_of_usesOf (h : usesOf flag isShort value = .ok uses) :
    ∃ u rest, uses = u :: rest ∧ u.flag = flag ∧ ∀ v ∈ rest, v.flag ∉ Flag.exclusive := by
  cases value with
  | none => exact flags_of_letterUses h
  | some value =>
      rw [usesOf] at h
      split at h
      · cases h
        exact ⟨_, [], rfl, rfl, by simp⟩
      · split at h
        · exact flags_of_letterUses h
        · cases h

/-- A word that is told to be a flag by a long name uses that flag and nothing else. -/
theorem usesOf_long (h : usesOf flag false value = .ok uses) :
    (∃ given, value = some given ∧ flag.takesValue = true ∧ uses = [.valued flag given]) ∨
      value = none ∧ uses = [if flag.takesValue then .wanting flag else .alone flag] := by
  cases value with
  | none =>
      cases h
      exact .inr ⟨rfl, rfl⟩
  | some given =>
      rw [usesOf] at h
      split at h
      · next hvalue =>
          cases h
          exact .inl ⟨given, rfl, hvalue, rfl⟩
      · cases h

end

/-! ## Flags among words -/

/-- What words that are read as uses say of one flag. -/
inductive Tells (flag : Flag) : List String → List Use → Prop where
  | done : Tells flag [] []
  | other {word : String} {rest : List String} {first uses : List Use}
      (hword : ∀ value, ¬Calls flag word value) (hfirst : ∀ u ∈ first, u.flag ≠ flag)
      (hrest : Tells flag rest uses) : Tells flag (word :: rest) (first ++ uses)
  | alone {word : String} {rest : List String} {uses : List Use} (hword : Calls flag word none)
      (hvalue : flag.takesValue = false) (hrest : Tells flag rest uses) :
      Tells flag (word :: rest) (.alone flag :: uses)
  | within {word value : String} {rest : List String} {uses : List Use}
      (hword : Calls flag word (some value)) (hvalue : flag.takesValue = true)
      (hrest : Tells flag rest uses) : Tells flag (word :: rest) (.valued flag value :: uses)
  | next {word value : String} {rest : List String} {uses : List Use}
      (hword : Calls flag word none) (hvalue : flag.takesValue = true)
      (hnext : ∀ given, ¬Calls flag value given) (hrest : Tells flag rest uses) :
      Tells flag (word :: value :: rest) (.valued flag value :: uses)

section

variable {flag other : Flag} {word : String} {words : List String} {uses : List Use}
  {isShort : Bool} {value : Option String}

theorem not_calls_of_kindOf (hflag : flag ∈ Flag.exclusive) {kind : Kind}
    (hkind : kindOf word = .ok kind) (hne : ∀ value, kind ≠ .flag flag false value)
    (value : Option String) : ¬Calls flag word value := by
  intro hcalls
  rw [(kindOf_eq_flag_iff hflag).mpr ⟨rfl, hcalls⟩] at hkind
  cases hkind
  exact hne value rfl

/-- A word that is told to be another flag does not use the flag. -/
theorem flag_ne_of_usesOf (hflag : flag ∈ Flag.exclusive) (hne : other ≠ flag)
    (h : usesOf other isShort value = .ok uses) : ∀ u ∈ uses, u.flag ≠ flag := by
  obtain ⟨v, more, rfl, hv, hmore⟩ := flags_of_usesOf h
  refine List.forall_mem_cons.mpr ⟨hv ▸ hne, fun u hu heq => ?_⟩
  exact hmore u hu (heq ▸ hflag)

theorem eq_of_concat {first : List Use} {u v : Use} (h : first ++ [u] = [v]) :
    first = [] ∧ u = v := by
  rcases List.append_eq_singleton_iff.mp h with ⟨rfl, h⟩ | ⟨-, h⟩
  · exact ⟨rfl, List.singleton_inj.mp h⟩
  · cases h

theorem Reads.tells (hflag : flag ∈ Flag.exclusive) (h : Reads words uses) :
    Tells flag words uses := by
  induction h with
  | done => exact .done
  | @whole word rest other isShort value first uses hkind hfirst hlast hrest ih =>
      by_cases hother : other = flag
      · subst hother
        obtain ⟨rfl, hword⟩ := (kindOf_eq_flag_iff hflag).mp hkind
        rcases usesOf_long hfirst with ⟨given, rfl, hvalue, rfl⟩ | ⟨rfl, rfl⟩
        · exact .within hword hvalue ih
        · split at hlast
          · exact absurd rfl (hlast other)
          · next hvalue =>
              rw [if_neg hvalue]
              exact .alone hword (by simpa using hvalue) ih
      · exact .other (not_calls_of_kindOf hflag hkind (by simp [hother]))
          (flag_ne_of_usesOf hflag hother hfirst) ih
  | @fed word next rest other wanting isShort value first uses hkind hfirst hnext hrest ih =>
      have hnot := not_calls_of_kindOf hflag hnext (by simp)
      by_cases hother : other = flag
      · subst hother
        obtain ⟨rfl, hword⟩ := (kindOf_eq_flag_iff hflag).mp hkind
        rcases usesOf_long hfirst with ⟨given, -, -, heq⟩ | ⟨rfl, heq⟩
        · cases (eq_of_concat heq).2
        · obtain ⟨rfl, heq⟩ := eq_of_concat heq
          split at heq
          · next hvalue =>
              cases heq
              exact .next hword hvalue hnot ih
          · cases heq
      · obtain ⟨hall, hwanting⟩ :=
          List.forall_mem_append.mp (flag_ne_of_usesOf hflag hother hfirst)
        have hskip : Tells flag (next :: rest) ([] ++ uses) := .other hnot (by simp) ih
        refine .other (not_calls_of_kindOf hflag hkind (by simp [hother])) ?_ hskip
        exact List.forall_mem_append.mpr ⟨hall, by simpa [Use.flag] using hwanting⟩

end

/-- The flag is called by one of the words. -/
def Mentions (flag : Flag) (words : List String) : Prop :=
  ∃ word ∈ words, ∃ value, Calls flag word value

/-- The last word that calls the flag gives it the value, behind an equals sign or by the word that
follows. -/
def GivesLast (flag : Flag) (words : List String) (value : String) : Prop :=
  ∃ before word after, words = before ++ word :: after ∧ ¬Mentions flag after ∧
    (Calls flag word (some value) ∨ Calls flag word none ∧ after.head? = some value)

/-- The value that a use gives to the flag. -/
def Use.valueFor? (flag : Flag) : Use → Option String
  | .valued f value => if f = flag then some value else none
  | _ => none

/-- The value that is given to the flag last. -/
def lastValue? (flag : Flag) (uses : List Use) : Option String :=
  (uses.filterMap (·.valueFor? flag)).getLast?

section

variable {flag : Flag} {word value : String} {words rest : List String} {uses : List Use}

instance : Decidable (Mentions flag words) :=
  decidable_of_iff (∃ word ∈ words, flag.IsMeantBy (parts word).1) <| by
    simp [Mentions, calls_iff]

theorem mentions_cons :
    Mentions flag (word :: rest) ↔ (∃ value, Calls flag word value) ∨ Mentions flag rest := by
  simp [Mentions]

theorem not_givesLast_nil : ¬GivesLast flag [] value := by
  rintro ⟨before, word, after, heq, -⟩
  exact List.append_ne_nil_of_right_ne_nil _ (List.cons_ne_nil _ _) heq.symm

theorem givesLast_cons :
    GivesLast flag (word :: rest) value ↔ GivesLast flag rest value ∨ ¬Mentions flag rest ∧
      (Calls flag word (some value) ∨ Calls flag word none ∧ rest.head? = some value) := by
  constructor
  · rintro ⟨before, last, after, heq, hafter, hcalls⟩
    cases before with
    | nil =>
        cases heq
        exact .inr ⟨hafter, hcalls⟩
    | cons first before =>
        cases heq
        exact .inl ⟨before, last, after, rfl, hafter, hcalls⟩
  · rintro (⟨before, last, after, rfl, hafter, hcalls⟩ | ⟨hrest, hcalls⟩)
    · exact ⟨word :: before, last, after, rfl, hafter, hcalls⟩
    · exact ⟨[], word, rest, rfl, hrest, hcalls⟩

theorem GivesLast.mentions (h : GivesLast flag words value) : Mentions flag words := by
  obtain ⟨before, word, after, rfl, -, hcalls⟩ := h
  have hmem : word ∈ before ++ word :: after := List.mem_append_right _ List.mem_cons_self
  rcases hcalls with hcalls | ⟨hcalls, -⟩
  · exact ⟨word, hmem, _, hcalls⟩
  · exact ⟨word, hmem, _, hcalls⟩

theorem valueFor?_eq_some {u : Use} : u.valueFor? flag = some value ↔ u = .valued flag value := by
  unfold Use.valueFor?
  split
  · next f v => simp
  · next hno =>
      refine iff_of_false (by simp) ?_
      rintro rfl
      exact hno _ _ rfl

theorem lastValue?_append (first more : List Use) :
    lastValue? flag (first ++ more) = (lastValue? flag more).or (lastValue? flag first) := by
  rw [lastValue?, List.filterMap_append, List.getLast?_append]
  rfl

theorem lastValue?_singleton (u : Use) : lastValue? flag [u] = u.valueFor? flag := by
  rw [lastValue?, List.filterMap_cons]
  split
  · next h => exact h.symm
  · next h => exact h.symm

theorem lastValue?_of_ne (h : ∀ u ∈ uses, u.flag ≠ flag) : lastValue? flag uses = none := by
  rw [lastValue?, List.getLast?_eq_none_iff, List.filterMap_eq_nil_iff]
  intro u hu
  by_contra hvalue
  obtain ⟨value, hvalue⟩ := Option.ne_none_iff_exists'.mp hvalue
  rw [valueFor?_eq_some.mp hvalue] at hu
  exact h _ hu rfl

theorem lastValue?_valued (value : String) (uses : List Use) :
    lastValue? flag (.valued flag value :: uses) = (lastValue? flag uses).or (some value) := by
  rw [← List.singleton_append, lastValue?_append, lastValue?_singleton,
    valueFor?_eq_some.mpr rfl]

namespace Tells

/-- A use of the flag has a value just when the flag takes one. -/
theorem eq_of_flag (h : Tells flag words uses) {u : Use} (hu : u ∈ uses) (hflag : u.flag = flag) :
    (flag.takesValue = true ∧ ∃ value, u = .valued flag value) ∨
      flag.takesValue = false ∧ u = .alone flag := by
  induction h with
  | done => cases hu
  | other hword hfirst hrest ih =>
      rcases List.mem_append.mp hu with hu | hu
      · exact absurd hflag (hfirst u hu)
      · exact ih hu
  | alone hword hvalue hrest ih =>
      rcases List.mem_cons.mp hu with rfl | hu
      · exact .inr ⟨hvalue, rfl⟩
      · exact ih hu
  | within hword hvalue hrest ih | next hword hvalue hnext hrest ih =>
      rcases List.mem_cons.mp hu with rfl | hu
      · exact .inl ⟨hvalue, _, rfl⟩
      · exact ih hu

/-- The flag is used just when a word calls it. -/
theorem mentions_iff (h : Tells flag words uses) :
    Mentions flag words ↔ ∃ u ∈ uses, u.flag = flag := by
  induction h with
  | done => simp [Mentions]
  | other hword hfirst hrest ih =>
      rw [mentions_cons, ih]
      constructor
      · rintro (⟨value, hcalls⟩ | ⟨u, hu, hflag⟩)
        · exact absurd hcalls (hword value)
        · exact ⟨u, List.mem_append_right _ hu, hflag⟩
      · rintro ⟨u, hu, hflag⟩
        rcases List.mem_append.mp hu with hu | hu
        · exact absurd hflag (hfirst u hu)
        · exact .inr ⟨u, hu, hflag⟩
  | alone hword hvalue hrest ih | within hword hvalue hrest ih | next hword hvalue hnext hrest ih =>
      exact iff_of_true (mentions_cons.mpr (.inl ⟨_, hword⟩)) ⟨_, List.mem_cons_self, rfl⟩

theorem lastValue?_eq_none_iff (h : Tells flag words uses) (hvalue : flag.takesValue = true) :
    lastValue? flag uses = none ↔ ¬Mentions flag words := by
  rw [h.mentions_iff]
  constructor
  · rintro hnone ⟨u, hu, hflag⟩
    rcases h.eq_of_flag hu hflag with ⟨-, value, rfl⟩ | ⟨hno, -⟩
    · rw [lastValue?, List.getLast?_eq_none_iff, List.filterMap_eq_nil_iff] at hnone
      have hgives := hnone _ hu
      rw [valueFor?_eq_some.mpr rfl] at hgives
      cases hgives
    · rw [hvalue] at hno
      cases hno
  · intro hnone
    exact lastValue?_of_ne fun u hu hflag => hnone ⟨u, hu, hflag⟩

/-- The last value that words give the flag is that of its last use. -/
theorem givesLast_iff (h : Tells flag words uses) (htakes : flag.takesValue = true) :
    GivesLast flag words value ↔ lastValue? flag uses = some value := by
  induction h with
  | done => exact iff_of_false not_givesLast_nil (by simp [lastValue?])
  | other hword hfirst hrest ih =>
      rw [givesLast_cons, lastValue?_append, lastValue?_of_ne hfirst, Option.or_none, ih]
      simp [hword]
  | alone hword hvalue hrest ih =>
      rw [htakes] at hvalue
      cases hvalue
  | @within word given rest uses hword hvalue hrest ih =>
      have hsame : Calls flag word (some value) ↔ given = value :=
        ⟨fun h => Option.some.inj (hword.unique h), fun h => h ▸ hword⟩
      have hnone : ¬Calls flag word none := fun h => Option.some_ne_none _ (hword.unique h)
      rw [givesLast_cons, lastValue?_valued, Option.or_eq_some_iff, ih,
        hrest.lastValue?_eq_none_iff hvalue, Option.some_inj, hsame]
      simp [hnone]
  | @next word given rest uses hword hvalue hnext hrest ih =>
      have hnone : ¬Calls flag word (some value) := fun h =>
        Option.some_ne_none _ (h.unique hword)
      rw [givesLast_cons, givesLast_cons, mentions_cons, lastValue?_valued, Option.or_eq_some_iff,
        ih, hrest.lastValue?_eq_none_iff hvalue, List.head?_cons]
      simp [hnone, hnext, hword]

end Tells

end

end UrlSigning.CommandLine
