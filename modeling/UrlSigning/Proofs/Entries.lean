import UrlSigning.Entries

/-!
# Dictionaries as lists of pairs

The members of a dictionary after a value is put or a key is taken away, and the dictionary of pairs
whose keys are distinct, which is the pairs themselves. If a key comes twice, the dictionary of the
pairs has lost something, whatever the values are: `weight_ofPairs_eq_iff` measures that.
-/

namespace UrlSigning.Entries

variable {κ α : Type} [DecidableEq κ]

theorem mem_of_get? {key : κ} {value : α} {es : Entries κ α} (h : get? key es = some value) :
    (key, value) ∈ es := by
  induction es with
  | nil => cases h
  | cons e rest ih =>
      obtain ⟨k, v⟩ := e
      by_cases hk : k = key
      · subst hk
        simp only [get?, if_true, Option.some.injEq] at h
        rw [h]
        exact List.mem_cons_self
      · simp only [get?, hk, if_false] at h
        exact List.mem_cons_of_mem _ (ih h)

theorem mem_put {key : κ} {value : α} {es : Entries κ α} {e : κ × α} (h : e ∈ put key value es) :
    e = (key, value) ∨ e ∈ es := by
  induction es with
  | nil => exact .inl (List.mem_singleton.mp h)
  | cons f rest ih =>
      obtain ⟨k, v⟩ := f
      by_cases hk : k = key
      · subst hk
        simp only [put, if_true, List.mem_cons] at h
        exact h.imp_right (List.mem_cons_of_mem _)
      · simp only [put, hk, if_false, List.mem_cons] at h
        rcases h with rfl | h
        · exact .inr List.mem_cons_self
        · exact (ih h).imp_right (List.mem_cons_of_mem _)

theorem mem_erase {key : κ} {es : Entries κ α} {e : κ × α} (h : e ∈ erase key es) : e ∈ es := by
  induction es with
  | nil => cases h
  | cons f rest ih =>
      obtain ⟨k, v⟩ := f
      by_cases hk : k = key
      · simp only [erase, hk, if_true] at h
        exact List.mem_cons_of_mem _ h
      · simp only [erase, hk, if_false, List.mem_cons] at h
        rcases h with rfl | h
        · exact List.mem_cons_self
        · exact List.mem_cons_of_mem _ (ih h)

theorem put_of_not_mem {key : κ} (value : α) {es : Entries κ α} (h : key ∉ keys es) :
    put key value es = es ++ [(key, value)] := by
  induction es with
  | nil => rfl
  | cons e rest ih =>
      obtain ⟨k, v⟩ := e
      simp only [keys, List.map_cons, List.mem_cons, not_or] at h
      rw [put, if_neg (Ne.symm h.1), ih h.2]
      rfl

theorem has_iff {key : κ} {es : Entries κ α} : es.has key = true ↔ key ∈ keys es := by
  induction es with
  | nil => simp [has, get?, keys]
  | cons e rest ih =>
      obtain ⟨k, v⟩ := e
      by_cases hk : k = key
      · simp [has, get?, keys, hk]
      · simp only [has, keys] at ih
        simp [has, get?, keys, hk, Ne.symm hk, ih]

theorem get?_of_mem_of_nodup {key : κ} {value : α} {es : Entries κ α} (h : (key, value) ∈ es)
    (hn : (keys es).Nodup) : get? key es = some value := by
  induction es with
  | nil => cases h
  | cons e rest ih =>
      obtain ⟨k, v⟩ := e
      obtain ⟨hk, hn⟩ := List.nodup_cons.mp hn
      rcases List.mem_cons.mp h with h | h
      · cases h
        rw [get?, if_pos rfl]
      · have hne : k ≠ key := by
          rintro rfl
          exact hk (List.mem_map.mpr ⟨_, h, rfl⟩)
        rw [get?, if_neg hne]
        exact ih h hn

theorem get?_eq_none {key : κ} {es : Entries κ α} (h : key ∉ keys es) : get? key es = none := by
  rw [← has_iff, has] at h
  simpa using h

theorem keys_erase_sublist (key : κ) (es : Entries κ α) :
    (keys (erase key es)).Sublist (keys es) := by
  induction es with
  | nil => exact List.Sublist.refl []
  | cons e rest ih =>
      obtain ⟨k, v⟩ := e
      by_cases hk : k = key
      · rw [erase, if_pos hk]
        exact List.sublist_cons_self k (keys rest)
      · rw [erase, if_neg hk]
        exact ih.cons_cons k

/-- Among distinct keys, one that is taken away is gone. -/
theorem get?_erase {key : κ} {es : Entries κ α} (hn : (keys es).Nodup) (k : κ) :
    get? k (erase key es) = if key = k then none else get? k es := by
  induction es with
  | nil => simp [erase, get?]
  | cons e rest ih =>
      obtain ⟨a, v⟩ := e
      obtain ⟨ha, hn⟩ := List.nodup_cons.mp hn
      by_cases hkey : a = key
      · subst hkey
        rw [erase, if_pos rfl, get?]
        split
        · next hk => exact get?_eq_none (hk ▸ ha)
        · rfl
      · rw [erase, if_neg hkey, get?, get?, ih hn]
        by_cases hk : a = k
        · rw [if_pos hk, if_pos hk, if_neg (hk ▸ Ne.symm hkey)]
        · rw [if_neg hk, if_neg hk]

omit [DecidableEq κ] in
/-- A key that comes after others is not one of them if the keys are distinct. -/
theorem not_mem_keys_of_nodup {p : κ × α} {es rest : Entries κ α}
    (h : (keys (es ++ p :: rest)).Nodup) : p.1 ∉ keys es := by
  simp only [keys, List.map_append, List.map_cons, List.nodup_append] at h
  intro hm
  exact h.2.2 _ hm _ List.mem_cons_self rfl

theorem putAll_of_nodup {pairs es : Entries κ α} (h : (keys (es ++ pairs)).Nodup) :
    putAll pairs es = es ++ pairs := by
  induction pairs generalizing es with
  | nil => exact (List.append_nil es).symm
  | cons p rest ih =>
      -- the key is new, and the keys stay distinct with it in front of the others
      show putAll rest (put p.1 p.2 es) = _
      rw [put_of_not_mem p.2 (not_mem_keys_of_nodup h), ih] <;> rw [List.append_assoc]
      · rfl
      · exact h

/-- The dictionary of pairs with distinct keys is the pairs. -/
theorem ofPairs_of_nodup {pairs : Entries κ α} (h : (keys pairs).Nodup) :
    ofPairs pairs = pairs := by
  show putAll pairs [] = [] ++ pairs
  exact putAll_of_nodup h

/-! ## The last value of a key -/

theorem get?_putAll_of_not_mem {key : κ} {pairs : Entries κ α} (h : key ∉ keys pairs)
    (es : Entries κ α) : get? key (putAll pairs es) = get? key es := by
  induction pairs generalizing es with
  | nil => rfl
  | cons p rest ih =>
      simp only [keys, List.map_cons, List.mem_cons, not_or] at h
      show get? key (putAll rest (put p.1 p.2 es)) = _
      rw [ih h.2, get?_put, if_neg (Ne.symm h.1)]

/-- Pairs with distinct keys hide what there was under their keys. -/
theorem get?_putAll {pairs : Entries κ α} (hn : (keys pairs).Nodup) (key : κ)
    (es : Entries κ α) : get? key (putAll pairs es) = (get? key pairs).or (get? key es) := by
  induction pairs generalizing es with
  | nil => rfl
  | cons p rest ih =>
      obtain ⟨k, v⟩ := p
      obtain ⟨hk, hn⟩ := List.nodup_cons.mp hn
      show get? key (putAll rest (put k v es)) = _
      rw [ih hn, get?_put, get?]
      split
      · next heq =>
          rw [get?_eq_none (heq ▸ hk)]
          rfl
      · rfl

theorem get?_ofPairs_of_last {key : κ} {value : α} {before after : Entries κ α}
    (h : key ∉ keys after) : get? key (ofPairs (before ++ (key, value) :: after)) = some value := by
  rw [ofPairs, putAll, List.foldl_append]
  show get? key (putAll after (put key value (putAll before []))) = _
  rw [get?_putAll_of_not_mem h, get?_put, if_pos rfl]

theorem nodup_keys_put (key : κ) (value : α) {es : Entries κ α} (h : (keys es).Nodup) :
    (keys (put key value es)).Nodup := by
  rw [keys_put]
  split
  · exact h
  · next hnew =>
      refine List.nodup_append.mpr ⟨h, by simp, ?_⟩
      rintro k hk _ hp rfl
      exact hnew (List.mem_singleton.mp hp ▸ hk)

theorem nodup_keys_putAll {pairs es : Entries κ α} (h : (keys es).Nodup) :
    (keys (putAll pairs es)).Nodup := by
  induction pairs generalizing es with
  | nil => exact h
  | cons p rest ih =>
      show (keys (putAll rest (put p.1 p.2 es))).Nodup
      exact ih (nodup_keys_put p.1 p.2 h)

/-- The keys of a dictionary are distinct. -/
theorem nodup_keys_ofPairs (pairs : Entries κ α) : (keys (ofPairs pairs)).Nodup :=
  nodup_keys_putAll List.nodup_nil

/-! ## Some of the keys -/

theorem filter_put (keep : κ → Bool) (key : κ) (value : α) (es : Entries κ α) :
    (put key value es).filter (fun e => keep e.1) =
      if keep key then put key value (es.filter fun e => keep e.1)
      else es.filter fun e => keep e.1 := by
  induction es with
  | nil => cases h : keep key <;> simp [put, h]
  | cons e rest ih =>
      obtain ⟨k, v⟩ := e
      by_cases hk : k = key
      · subst hk
        cases h : keep k <;> simp [put, h]
      · rw [put, if_neg hk, List.filter_cons, ih, List.filter_cons]
        cases hkeep : keep k <;> cases hkey : keep key <;> simp [put, hk]

/-- The dictionary of the pairs with some of the keys is that part of the dictionary. -/
theorem filter_putAll (keep : κ → Bool) (pairs es : Entries κ α) :
    (putAll pairs es).filter (fun e => keep e.1) =
      putAll (pairs.filter fun e => keep e.1) (es.filter fun e => keep e.1) := by
  induction pairs generalizing es with
  | nil => rfl
  | cons p rest ih =>
      show (putAll rest (put p.1 p.2 es)).filter _ = _
      rw [ih, filter_put, List.filter_cons]
      split
      · rfl
      · rfl

theorem filter_ofPairs (keep : κ → Bool) (pairs : Entries κ α) :
    (ofPairs pairs).filter (fun e => keep e.1) = ofPairs (pairs.filter fun e => keep e.1) :=
  filter_putAll keep pairs []

/-! ## Other values under the same keys -/

section Values

variable {β : Type} (f : α → β)

/-- The dictionary with each value replaced. -/
def mapValues (es : Entries κ α) : Entries κ β :=
  es.map fun e => (e.1, f e.2)

theorem get?_mapValues (key : κ) (es : Entries κ α) :
    get? key (mapValues f es) = (get? key es).map f := by
  induction es with
  | nil => rfl
  | cons e rest ih =>
      obtain ⟨k, v⟩ := e
      show get? key ((k, f v) :: mapValues f rest) = _
      rw [get?, get?]
      split
      · rfl
      · exact ih

theorem mapValues_put (key : κ) (value : α) (es : Entries κ α) :
    mapValues f (put key value es) = put key (f value) (mapValues f es) := by
  induction es with
  | nil => rfl
  | cons e rest ih =>
      obtain ⟨k, v⟩ := e
      show _ = put key (f value) ((k, f v) :: mapValues f rest)
      rw [put, put]
      split
      · rfl
      · rw [← ih]
        rfl

omit [DecidableEq κ] in
theorem mapValues_congr {f g : α → β} {es : Entries κ α} (h : ∀ e ∈ es, f e.2 = g e.2) :
    mapValues f es = mapValues g es :=
  List.map_congr_left fun e he => by rw [h e he]

end Values

/-! ## What a dictionary loses -/

section Weight

variable (size : α → Nat)

/-- The sizes of the values, and one more for each of them. -/
def weight : Entries κ α → Nat
  | [] => 0
  | e :: rest => size e.2 + 1 + weight rest

omit [DecidableEq κ] in
theorem weight_append (es more : Entries κ α) :
    weight size (es ++ more) = weight size es + weight size more := by
  induction es with
  | nil => simp [weight]
  | cons e rest ih =>
      rw [List.cons_append, weight, weight, ih]
      omega

/-- A value that is put in the place of another one weighs less than both. -/
theorem weight_put_lt {key : κ} (value : α) {es : Entries κ α} (h : key ∈ keys es) :
    weight size (put key value es) < weight size es + (size value + 1) := by
  induction es with
  | nil => cases h
  | cons e rest ih =>
      obtain ⟨k, v⟩ := e
      by_cases hk : k = key
      · rw [put, if_pos hk]
        simp only [weight]
        omega
      · have hrest : key ∈ keys rest := by
          rcases List.mem_cons.mp h with heq | hrest
          · exact absurd heq.symm hk
          · exact hrest
        have hput := ih hrest
        rw [put, if_neg hk]
        simp only [weight]
        omega

theorem weight_put_of_not_mem {key : κ} (value : α) {es : Entries κ α} (h : key ∉ keys es) :
    weight size (put key value es) = weight size es + (size value + 1) := by
  rw [put_of_not_mem value h, weight_append]
  rfl

theorem weight_putAll_le (pairs es : Entries κ α) :
    weight size (putAll pairs es) ≤ weight size es + weight size pairs := by
  induction pairs generalizing es with
  | nil => exact Nat.le_refl _
  | cons p rest ih =>
      have hput : weight size (put p.1 p.2 es) ≤ weight size es + (size p.2 + 1) := by
        by_cases hp : p.1 ∈ keys es
        · exact Nat.le_of_lt (weight_put_lt size p.2 hp)
        · exact Nat.le_of_eq (weight_put_of_not_mem size p.2 hp)
      have hrest := ih (put p.1 p.2 es)
      show weight size (putAll rest (put p.1 p.2 es)) ≤ _
      simp only [weight]
      omega

/-- Pairs that weigh all they weigh when they are put have keys of their own. -/
theorem nodup_of_weight_putAll {pairs es : Entries κ α} (hn : (keys es).Nodup)
    (h : weight size es + weight size pairs ≤ weight size (putAll pairs es)) :
    (keys (es ++ pairs)).Nodup := by
  induction pairs generalizing es with
  | nil => simpa using hn
  | cons p rest ih =>
      change _ ≤ weight size (putAll rest (put p.1 p.2 es)) at h
      have hrest := weight_putAll_le size rest (put p.1 p.2 es)
      have hcons : weight size (p :: rest) = (size p.2 + 1) + weight size rest := rfl
      have hnew : p.1 ∉ keys es := by
        intro hp
        have hlost := weight_put_lt size p.2 hp
        omega
      have hput := weight_put_of_not_mem size p.2 hnew
      have hkeys := nodup_keys_put p.1 p.2 hn
      have hall := ih hkeys (by omega)
      rw [put_of_not_mem p.2 hnew, List.append_assoc] at hall
      exact hall

/-- The dictionary of pairs weighs what the pairs weigh just when their keys are distinct. -/
theorem weight_ofPairs_eq_iff {pairs : Entries κ α} :
    weight size (ofPairs pairs) = weight size pairs ↔ (keys pairs).Nodup := by
  constructor
  · intro h
    have hempty : weight size ([] : Entries κ α) = 0 := rfl
    have hnone : (keys ([] : Entries κ α)).Nodup := List.nodup_nil
    change weight size (putAll pairs []) = _ at h
    exact nodup_of_weight_putAll size hnone (by omega)
  · intro h
    rw [ofPairs_of_nodup h]

end Weight

end UrlSigning.Entries
