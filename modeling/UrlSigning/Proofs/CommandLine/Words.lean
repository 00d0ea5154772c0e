import UrlSigning.CommandLine.Arguments
import UrlSigning.Proofs.Text.Cut

/-!
# Words that call flags

When a word of the command line calls one of the flags that shut each other out. These have a long
name only, so a word calls such a flag by a text that begins its name and no other one, and a value
may stand in the same word after an equals sign.
-/

namespace UrlSigning.CommandLine

open Text

/-- The flag is meant by the text: it begins a name of the flag, and no other name. -/
def Flag.IsMeantBy (flag : Flag) (text : String) : Prop :=
  ∃ name ∈ flag.names, ∀ n ∈ Flag.named, text.toList <+: n.1.toList ↔ n.1 = name

instance (flag : Flag) (text : String) : Decidable (flag.IsMeantBy text) :=
  inferInstanceAs
    (Decidable (∃ name ∈ flag.names, ∀ n ∈ Flag.named, text.toList <+: n.1.toList ↔ n.1 = name))

/-- The word calls the flag, alone or with a value behind an equals sign. -/
inductive Calls (flag : Flag) : String → Option String → Prop where
  | alone {text : String} (h : flag.IsMeantBy text) : Calls flag text none
  | valued {text : String} (value : String) (h : flag.IsMeantBy text) :
      Calls flag (text ++ "=" ++ value) (some value)

/-! ## Names -/

namespace Flag

variable {flag : Flag} {text name : String}

theorem mem_named : (name, flag) ∈ named ↔ name ∈ flag.names := by
  have hall : flag ∈ all := by cases flag <;> decide
  constructor
  · intro h
    obtain ⟨f, -, h⟩ := List.mem_flatMap.mp h
    obtain ⟨n, hn, h⟩ := List.mem_map.mp h
    cases h
    exact hn
  · intro h
    exact List.mem_flatMap.mpr ⟨flag, hall, List.mem_map.mpr ⟨name, h, rfl⟩⟩

/-- A name belongs to one flag. -/
theorem eq_of_mem_named {m n : String × Flag} (hm : m ∈ named) (hn : n ∈ named)
    (h : m.1 = n.1) : m = n := by
  have hall : ∀ m ∈ named, ∀ n ∈ named, m.1 = n.1 → m = n := by decide +kernel
  exact hall m hm n hn h

theorem mem_beginning {n : String × Flag} :
    n ∈ beginning text ↔ n ∈ named ∧ text.toList <+: n.1.toList := by
  rw [beginning, List.mem_filter, List.isPrefixOf_iff_prefix]

theorem isMeantBy_iff : flag.IsMeantBy text ↔ ∃ name, beginning text = [(name, flag)] := by
  have hsole : ∀ m ∈ named, (named.filter fun n => n.1 == m.1) = [m] := by decide +kernel
  constructor
  · rintro ⟨name, hname, hall⟩
    refine ⟨name, ?_⟩
    rw [beginning, ← hsole (name, flag) (mem_named.mpr hname)]
    refine List.filter_congr fun n hn => ?_
    rw [Bool.eq_iff_iff, List.isPrefixOf_iff_prefix, hall n hn, beq_iff_eq]
  · rintro ⟨name, hbeginning⟩
    have hmem (n : String × Flag) :
        n ∈ named ∧ text.toList <+: n.1.toList ↔ n = (name, flag) := by
      rw [← mem_beginning, hbeginning, List.mem_singleton]
    have hnamed := ((hmem (name, flag)).mpr rfl).1
    refine ⟨name, mem_named.mp hnamed, fun n hn => ⟨fun h => ?_, fun h => ?_⟩⟩
    · rw [(hmem n).mp ⟨hn, h⟩]
    · exact ((hmem n).mpr (eq_of_mem_named hn hnamed h)).2

theorem mem_named_of_ofName? (h : ofName? name = some flag) : (name, flag) ∈ named := by
  obtain ⟨before, after, hnamed, -⟩ := List.lookup_eq_some_iff.mp h
  rw [hnamed]
  exact List.mem_append_right _ List.mem_cons_self

/-- A flag is meant by its whole name. -/
theorem isMeantBy_of_ofName? (h : ofName? name = some flag) : flag.IsMeantBy name := by
  have hall : ∀ n ∈ named, beginning n.1 = [n] := by decide +kernel
  exact isMeantBy_iff.mpr ⟨name, hall (name, flag) (mem_named_of_ofName? h)⟩

theorem IsMeantBy.unique {other : Flag} (h : flag.IsMeantBy text) (h' : other.IsMeantBy text) :
    flag = other := by
  obtain ⟨name, hname⟩ := isMeantBy_iff.mp h
  obtain ⟨name', hname'⟩ := isMeantBy_iff.mp h'
  rw [hname] at hname'
  cases hname'
  rfl

/-- A text that means a flag begins a name of it. -/
theorem IsMeantBy.exists_prefix (h : flag.IsMeantBy text) :
    ∃ name, (name, flag) ∈ named ∧ text.toList <+: name.toList := by
  obtain ⟨name, hname, hall⟩ := h
  have hnamed := mem_named.mpr hname
  exact ⟨name, hnamed, (hall _ hnamed).mpr rfl⟩

theorem IsMeantBy.not_mem (h : flag.IsMeantBy text) : '=' ∉ text.toList := by
  obtain ⟨name, hname, hbegins⟩ := h.exists_prefix
  have hall : ∀ n ∈ named, '=' ∉ n.1.toList := by decide +kernel
  exact fun hmem => hall (name, flag) hname (hbegins.subset hmem)

theorem isShortName_of_exclusive (hflag : flag ∈ exclusive) (h : (name, flag) ∈ named) :
    isShortName name = false := by
  have hall : ∀ f ∈ exclusive, ∀ n ∈ named, n.2 = f → isShortName n.1 = false := by decide +kernel
  exact hall flag hflag (name, flag) h rfl

/-- No text or a dash alone means nothing, since it begins more than one name. -/
theorem IsMeantBy.not_dash (h : flag.IsMeantBy text) : ¬text.toList <+: ['-'] := by
  intro hdash
  obtain ⟨name, -, hall⟩ := h
  have hshort := (hall ("-h", .help) (by decide)).mp (hdash.trans (by decide))
  have hlong := (hall ("--help", .help) (by decide)).mp (hdash.trans (by decide))
  have hne : "-h" ≠ "--help" := by decide
  exact hne (hshort.trans hlong.symm)

/-- A text that means one of the flags that shut each other out begins with two dashes. -/
theorem IsMeantBy.dashes (hflag : flag ∈ exclusive) (h : flag.IsMeantBy text) :
    ∃ rest, text.toList = '-' :: '-' :: rest := by
  obtain ⟨name, hname, hbegins⟩ := h.exists_prefix
  have hall : ∀ n ∈ named, isShortName n.1 = false → n.1.toList.take 2 = ['-', '-'] := by
    decide +kernel
  rw [← List.take_append_drop 2 name.toList,
    hall (name, flag) hname (isShortName_of_exclusive hflag hname)] at hbegins
  match text.toList, hbegins, h.not_dash with
  | [], _, hmore => exact absurd List.nil_prefix hmore
  | [c], hbegins, hmore =>
      obtain ⟨rfl, -⟩ := List.cons_prefix_cons.mp hbegins
      exact absurd List.prefix_rfl hmore
  | c :: d :: cs, hbegins, _ =>
      obtain ⟨rfl, hrest⟩ := List.cons_prefix_cons.mp hbegins
      obtain ⟨rfl, -⟩ := List.cons_prefix_cons.mp hrest
      exact ⟨cs, rfl⟩

end Flag

/-! ## Kinds of words -/

section

variable {flag : Flag} {word : String} {isShort : Bool} {value : Option String}

/-- The word in front of its first equals sign, and what is behind that. -/
def parts (word : String) : String × Option String :=
  match cutFirst? '=' word.toList with
  | some (a, b) => (String.ofList a, some (String.ofList b))
  | none => (word, none)

theorem parts_of_not_mem (h : '=' ∉ word.toList) : parts word = (word, none) := by
  rw [parts, cutFirst?_eq_none_iff.mpr h]

theorem parts_of_cut {a b : List Char} (h : cutFirst? '=' word.toList = some (a, b)) :
    parts word = (String.ofList a, some (String.ofList b)) := by
  rw [parts, h]

theorem calls_iff :
    Calls flag word value ↔ flag.IsMeantBy (parts word).1 ∧ (parts word).2 = value := by
  constructor
  · intro h
    cases h with
    | alone h =>
        rw [parts_of_not_mem h.not_mem]
        exact ⟨h, rfl⟩
    | @valued text value h =>
        have hcut : cutFirst? '=' (text ++ "=" ++ value).toList =
            some (text.toList, value.toList) := by
          rw [String.toList_append, String.toList_append, List.append_assoc]
          exact cutFirst?_append h.not_mem value.toList
        rw [parts_of_cut hcut]
        simpa using h
  · rintro ⟨h, rfl⟩
    rcases hcut : cutFirst? '=' word.toList with _ | ⟨a, b⟩
    · rw [parts_of_not_mem (cutFirst?_eq_none_iff.mp hcut)] at h ⊢
      exact .alone h
    · obtain ⟨hparts, -⟩ := cutFirst?_eq_some hcut
      have hword : String.ofList a ++ "=" ++ String.ofList b = word := by
        rw [← String.toList_inj, hparts]
        simp
      rw [parts_of_cut hcut] at h ⊢
      exact hword ▸ .valued (String.ofList b) h

instance : Decidable (Calls flag word value) := decidable_of_iff _ calls_iff.symm

theorem Calls.unique {a b : Option String} (ha : Calls flag word a) (hb : Calls flag word b) :
    a = b :=
  (calls_iff.mp ha).2.symm.trans (calls_iff.mp hb).2

theorem Calls.dashes (hflag : flag ∈ Flag.exclusive) (h : Calls flag word value) :
    ∃ rest, word.toList = '-' :: '-' :: rest := by
  cases h with
  | alone h => exact h.dashes hflag
  | valued value h =>
      obtain ⟨rest, hrest⟩ := h.dashes hflag
      exact ⟨rest ++ '=' :: value.toList, by simp [hrest]⟩

/-- A word with two dashes in front is told by the names that it begins. -/
theorem looseKind_of_dashes {rest : List Char} (hword : word.toList = '-' :: '-' :: rest)
    (candidates : List (String × Flag × Option String)) :
    candidates = (Flag.beginning (parts word).1).map (fun n => (n.1, n.2, (parts word).2)) →
      looseKind word =
        match candidates with
        | [(name, flag, value)] => .ok (.flag flag (isShortName name) value)
        | [] =>
          if isNegativeNumber word.toList || word.toList.contains ' ' then .ok .plain
          else .ok .unknown
        | _ => .error (.ambiguous word (candidates.map (·.1))) := by
  rintro rfl
  unfold looseKind
  dsimp only
  rw [if_pos (by rw [hword]; rfl)]
  rfl

theorem looseKind_eq_flag_iff {rest : List Char} (hword : word.toList = '-' :: '-' :: rest) :
    looseKind word = .ok (.flag flag isShort value) ↔
      ∃ name, Flag.beginning (parts word).1 = [(name, flag)] ∧ isShortName name = isShort ∧
        (parts word).2 = value := by
  rw [looseKind_of_dashes hword _ rfl]
  rcases Flag.beginning (parts word).1 with _ | ⟨⟨name, f⟩, _ | ⟨m, ns⟩⟩
  · rw [List.map_nil]
    dsimp only
    split <;> simp
  · simp [and_assoc]
  · simp

/-- A flag that is told by the first two characters of a word has them for a name. -/
theorem dash_of_looseKind (hflag : flag ∈ Flag.exclusive)
    (h : looseKind word = .ok (.flag flag isShort value)) : word.toList[1]? = some '-' := by
  by_contra hdash
  unfold looseKind at h
  dsimp only at h
  rw [if_neg (by simpa using hdash)] at h
  rcases hname : Flag.ofName? (String.ofList (word.toList.take 2)) with _ | f <;> rw [hname] at h
  · rw [Option.toList_none, List.map_nil] at h
    dsimp only at h
    split at h <;> cases h
  · cases h
    have hlong := Flag.isShortName_of_exclusive hflag (Flag.mem_named_of_ofName? hname)
    rw [isShortName, String.toList_ofList, List.getElem?_take_of_lt (by decide)] at hlong
    exact hdash (by simpa using hlong)

theorem calls_of_looseKind (hflag : flag ∈ Flag.exclusive) {rest : List Char}
    (hword : word.toList = '-' :: rest) (h : looseKind word = .ok (.flag flag isShort value)) :
    isShort = false ∧ Calls flag word value := by
  have hdash := dash_of_looseKind hflag h
  cases rest with
  | nil =>
      rw [hword] at hdash
      cases hdash
  | cons c rest =>
      rw [hword] at hdash
      cases hdash
      obtain ⟨name, hname, rfl, hvalue⟩ := (looseKind_eq_flag_iff hword).mp h
      have hnamed := (Flag.mem_beginning.mp (hname ▸ List.mem_singleton_self _)).1
      exact ⟨Flag.isShortName_of_exclusive hflag hnamed,
        calls_iff.mpr ⟨Flag.isMeantBy_iff.mpr ⟨name, hname⟩, hvalue⟩⟩

theorem looseKind_of_calls (hflag : flag ∈ Flag.exclusive) (h : Calls flag word value) :
    looseKind word = .ok (.flag flag false value) := by
  obtain ⟨rest, hword⟩ := h.dashes hflag
  obtain ⟨hmeant, hvalue⟩ := calls_iff.mp h
  obtain ⟨name, hname⟩ := Flag.isMeantBy_iff.mp hmeant
  have hnamed := (Flag.mem_beginning.mp (hname ▸ List.mem_singleton_self _)).1
  exact (looseKind_eq_flag_iff hword).mpr
    ⟨name, hname, Flag.isShortName_of_exclusive hflag hnamed, hvalue⟩

/-- A word is told to be one of the flags that shut each other out just when it calls that flag. -/
theorem kindOf_eq_flag_iff (hflag : flag ∈ Flag.exclusive) :
    kindOf word = .ok (.flag flag isShort value) ↔ isShort = false ∧ Calls flag word value := by
  have hlong {name : String} (hname : Flag.ofName? name = some flag) : isShortName name = false :=
    Flag.isShortName_of_exclusive hflag (Flag.mem_named_of_ofName? hname)
  unfold kindOf
  constructor
  · intro h
    split at h
    · next rest hword =>
        split at h
        · next f hname =>
            cases h
            exact ⟨hlong hname, .alone (Flag.isMeantBy_of_ofName? hname)⟩
        · split at h
          · cases h
          · split at h
            · next a b hcut =>
                split at h
                · next f hname =>
                    cases h
                    refine ⟨hlong hname, calls_iff.mpr ?_⟩
                    rw [parts_of_cut hcut]
                    exact ⟨Flag.isMeantBy_of_ofName? hname, rfl⟩
                · exact calls_of_looseKind hflag hword h
            · exact calls_of_looseKind hflag hword h
    · cases h
  · rintro ⟨rfl, h⟩
    have hloose := looseKind_of_calls hflag h
    obtain ⟨rest, hword⟩ := h.dashes hflag
    obtain ⟨hmeant, hvalue⟩ := calls_iff.mp h
    split
    · next more hmore =>
        split
        · next f hname =>
            have hwhole := Flag.isMeantBy_of_ofName? hname
            rw [parts_of_not_mem hwhole.not_mem] at hmeant hvalue
            cases hwhole.unique hmeant
            cases hvalue
            rw [hlong hname]
        · have hfull : more.isEmpty = false := by
            rw [hword] at hmore
            cases hmore
            rfl
          rw [hfull, if_neg Bool.false_ne_true]
          split
          · next a b hcut =>
              split
              · next f hname =>
                  rw [parts_of_cut hcut] at hmeant hvalue
                  cases (Flag.isMeantBy_of_ofName? hname).unique hmeant
                  cases hvalue
                  rw [hlong hname]
              · exact hloose
          · exact hloose
    · next hno => exact absurd hword (hno _)

end

end UrlSigning.CommandLine
