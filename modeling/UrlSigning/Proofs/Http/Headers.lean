import Mathlib.Data.List.Forall2
import UrlSigning.Http.Headers
import UrlSigning.Proofs.Text.Case

/-!
# Names of header fields

What is found under a name after fields are added or taken away, and when the names of the fields
are distinct, as they are written or in whatever case. Taking fields away keeps them distinct;
adding one does if there is none of its name, so setting one always does. Of fields with distinct
names the same is found in whatever order and in whatever case they are written.
-/

namespace UrlSigning.Http.Headers

variable {h h' : Headers} {name : String}

theorem sameName_comm (a b : String) : sameName a b = sameName b a := by
  rw [sameName, sameName, Bool.beq_comm]

/-! ## Whether there is a field -/

@[simp] theorem has_add (other value : String) :
    (h.add other value).has name = (h.has name || sameName other name) := by
  simp [has, add]

@[simp] theorem has_erase_eq (other : String) :
    (h.erase other).has name = (h.has name && !sameName other name) := by
  unfold has erase
  rw [List.any_filter]
  by_cases hsame : sameName other name = true
  · -- the fields of the name are the ones that are taken away
    have hname : Text.lower other = Text.lower name := by simpa [sameName] using hsame
    simp [sameName, hname]
  · have hkept (f : String × String) :
        (!sameName f.1 other && sameName f.1 name) = sameName f.1 name := by
      by_cases hf : Text.lower f.1 = Text.lower name
      · have hne : Text.lower name ≠ Text.lower other := by
          intro heq
          exact hsame (by simp [sameName, heq])
        simp [sameName, hf, hne]
      · simp [sameName, hf]
    simp only [hkept, hsame]
    simp

@[simp] theorem has_set (other value : String) :
    (h.set other value).has name = (h.has name || sameName other name) := by
  cases hsame : sameName other name <;> simp [set, hsame]

/-! ## Fields under other names -/

/-- The fields under none of the names. -/
def without (names : List String) (h : Headers) : Headers :=
  ⟨h.fields.filter fun f => !names.any fun name => sameName f.1 name⟩

theorem erase_eq_without (name : String) (h : Headers) : h.erase name = h.without [name] := by
  simp [erase, without]

theorem without_without (names more : List String) (h : Headers) :
    (h.without names).without more = h.without (names ++ more) := by
  simp only [without, List.filter_filter, List.any_append, Bool.not_or, Bool.and_comm]

/-- Names that are there before, or there twice, make no difference. -/
theorem without_congr {names names' : List String}
    (hnames : ∀ name, names.any (sameName name) = names'.any (sameName name)) (h : Headers) :
    h.without names = h.without names' := by
  simp only [without, hnames]

/-- Fields under these names at the end are taken away as well. -/
theorem without_append {names : List String} {fields : List (String × String)}
    (hfields : ∀ f ∈ fields, names.any (sameName f.1) = true) (h : Headers) :
    (Headers.mk (h.fields ++ fields)).without names = h.without names := by
  have hnone : fields.filter (fun f => !names.any fun name => sameName f.1 name) = [] := by
    rw [List.filter_eq_nil_iff]
    intro f hf
    simpa using hfields f hf
  rw [without, List.filter_append, hnone, List.append_nil, without]

theorem without_add_of_not_any {names : List String} (hname : names.any (sameName name) = false)
    (value : String) (h : Headers) :
    (h.add name value).without names = (h.without names).add name value := by
  simp only [without, add, List.filter_append, List.filter_singleton, hname]
  simp

/-- Taking fields away leaves what is found under the other names. -/
theorem get?_without {names : List String} (hname : names.any (sameName name) = false)
    (h : Headers) : (h.without names).get? name = h.get? name := by
  unfold get? without
  rw [List.find?_filter]
  congr 2
  funext f
  by_cases hf : sameName f.1 name = true
  · have hother : names.any (sameName f.1) = false := by
      rw [← hname]
      congr 1
      funext other
      rw [sameName, sameName, beq_iff_eq.mp hf]
    simp [hother]
  · simp [hf]

theorem get?_erase {other : String} (hname : sameName name other = false) (h : Headers) :
    (h.erase other).get? name = h.get? name := by
  rw [erase_eq_without]
  exact get?_without (by simp [hname]) h

/-- Fields under other names at the end leave what is found under the name. -/
theorem get?_append {fields : List (String × String)}
    (hfields : ∀ f ∈ fields, sameName f.1 name = false) (h : Headers) :
    (Headers.mk (h.fields ++ fields)).get? name = h.get? name := by
  have hnone : fields.find? (fun f => sameName f.1 name) = none := by
    rw [List.find?_eq_none]
    intro f hf
    simp [hfields f hf]
  rw [get?, List.find?_append, hnone, Option.or_none, get?]

/-- Taking away what is not there leaves the fields as they are. -/
theorem erase_of_has_eq_false (hname : h.has name = false) : h.erase name = h := by
  have hall : h.fields.filter (fun f => !sameName f.1 name) = h.fields := by
    rw [List.filter_eq_self]
    intro f hf
    simp [List.any_eq_false.mp hname f hf]
  rw [erase, hall]

/-! ## Distinct names -/

/-- No two fields have names that are related. -/
def Apart (R : String → String → Prop) (h : Headers) : Prop :=
  h.fields.Pairwise fun f g => ¬ R f.1 g.1

instance (R : String → String → Prop) [DecidableRel R] (h : Headers) : Decidable (h.Apart R) :=
  inferInstanceAs (Decidable (h.fields.Pairwise _))

/-- No two fields have the same name without regard to case. -/
abbrev NamesDistinct (h : Headers) : Prop :=
  h.Apart fun a b => sameName a b = true

namespace Apart

variable {R : String → String → Prop}

theorem erase (hd : h.Apart R) (name : String) : (h.erase name).Apart R :=
  List.Pairwise.filter _ hd

section

-- names may only be related if they are the same but for their case
variable (hR : ∀ a b, R a b → sameName a b = true)
include hR

theorem add (hd : h.Apart R) (value : String) (hnew : h.has name = false) :
    (h.add name value).Apart R := by
  apply List.pairwise_append.mpr
  refine ⟨hd, List.pairwise_singleton _ _, ?_⟩
  intro f hf g hg hsame
  rw [List.mem_singleton.mp hg] at hsame
  exact List.any_eq_false.mp hnew f hf (hR _ _ hsame)

theorem set (hd : h.Apart R) (name value : String) : (h.set name value).Apart R :=
  (hd.erase name).add hR value (has_erase name h)

end

end Apart

/-- Of fields whose names are distinct without regard to case at most one has a name. -/
theorem length_filter_sameName_le {α : Type} {fields : List (String × α)}
    (hd : fields.Pairwise fun f g => ¬ sameName f.1 g.1 = true) (name : String) :
    (fields.filter fun f => sameName f.1 name).length ≤ 1 := by
  have hpair := List.Pairwise.filter (fun f => sameName f.1 name) hd
  have hname : ∀ f ∈ fields.filter fun f => sameName f.1 name, sameName f.1 name = true :=
    fun f hf => (List.mem_filter.mp hf).2
  rcases hfound : fields.filter fun f => sameName f.1 name with _ | ⟨f, _ | ⟨g, rest⟩⟩ <;>
    rw [hfound] at hpair hname ⊢
  · exact Nat.zero_le 1
  · exact Nat.le_refl 1
  · -- two fields of one name would have the same name
    have hne := List.rel_of_pairwise_cons hpair List.mem_cons_self
    have hf := hname f List.mem_cons_self
    have hg := hname g (List.mem_cons_of_mem f List.mem_cons_self)
    simp only [sameName, beq_iff_eq] at hf hg hne
    exact absurd (hf.trans hg.symm) hne

/-- A name has at most one value if the names are distinct. -/
theorem NamesDistinct.length_getAll_le (hd : h.NamesDistinct) (name : String) :
    (h.getAll name).length ≤ 1 := by
  rw [getAll, List.length_map]
  exact length_filter_sameName_le hd name

/-- The names are apart as they are written just when they have no duplicates. -/
theorem apart_eq_iff : h.Apart Eq ↔ (h.fields.map (·.1)).Nodup := by
  rw [Apart, List.Nodup, List.pairwise_map]

/-! ## Fields in another order and in other cases -/

/-- The fields with their names in lower case. -/
def lowered (h : Headers) : List (String × String) :=
  h.fields.map fun f => (Text.lower f.1, f.2)

theorem lowered_erase (name : String) :
    (h.erase name).lowered = h.lowered.filter fun f => !(f.1 == Text.lower name) := by
  rw [lowered, lowered, List.filter_map]
  rfl

theorem getAll_eq (name : String) :
    h.getAll name = (h.lowered.filter fun f => f.1 == Text.lower name).map (·.2) := by
  rw [lowered, List.filter_map, List.map_map]
  rfl

theorem get?_eq (name : String) : h.get? name = (h.getAll name).head? := by
  rw [get?, getAll, List.head?_map, List.head?_filter]

theorem eq_of_perm_of_length_le {α : Type} {l l' : List α} (h : l.Perm l')
    (hl : l.length ≤ 1) : l = l' := by
  rcases l with _ | ⟨a, _ | ⟨b, rest⟩⟩
  · exact h.nil_eq
  · exact List.singleton_perm.mp h
  · simp at hl

/-- If the names are distinct, the same is found whatever the order of the fields is and in whatever
case their names are written. -/
theorem NamesDistinct.get?_of_perm (hd : h.NamesDistinct) (hp : h.lowered.Perm h'.lowered)
    (name : String) : h.get? name = h'.get? name := by
  have hall : (h.getAll name).Perm (h'.getAll name) := by
    rw [getAll_eq, getAll_eq]
    exact (hp.filter _).map _
  rw [get?_eq, get?_eq, eq_of_perm_of_length_le hall (hd.length_getAll_le name)]

/-- The same fields in some order, with their names respelled. -/
def Respelled (h h' : Headers) : Prop :=
  ∃ fields, h.fields.Perm fields ∧
    List.Forall₂ (fun f g => Text.IsRespelling f.1 g.1 ∧ f.2 = g.2) fields h'.fields

theorem Respelled.lowered_perm (hr : h.Respelled h') : h.lowered.Perm h'.lowered := by
  obtain ⟨fields, hp, hf⟩ := hr
  have hlowered : (fields.map fun f => (Text.lower f.1, f.2)) = h'.lowered := by
    rw [lowered, ← List.forall₂_eq_eq_eq, List.forall₂_map_left_iff, List.forall₂_map_right_iff]
    exact hf.imp fun f g hfg => Prod.ext hfg.1.lower hfg.2
  rw [← hlowered]
  exact hp.map _

end UrlSigning.Http.Headers
