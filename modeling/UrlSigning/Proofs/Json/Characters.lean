import UrlSigning.Proofs.Json.RoundTrip

/-!
# The characters of a document

A document that can be read again is written in printable ASCII characters and line feeds, so that
neither its encoding nor the reading of its line ends changes it.
-/

namespace UrlSigning.Json

/-- A printable character of ASCII, or a line feed. -/
def IsPlain (c : Char) : Prop :=
  c = '\n' ∨ 0x20 ≤ c.toNat ∧ c.toNat < 0x7F

instance (c : Char) : Decidable (IsPlain c) := by
  unfold IsPlain
  infer_instance

theorem isPlain_of_all {cs : List Char} {c : Char}
    (h : cs.all (fun c => decide (IsPlain c)) = true) (hc : c ∈ cs) : IsPlain c :=
  of_decide_eq_true (List.all_eq_true.mp h c hc)

/-- The layout puts only such characters around items. -/
structure Layout.IsPlain (l : Layout) : Prop where
  lineBreak (level : Nat) : ∀ c ∈ l.lineBreak level, Json.IsPlain c
  colon : ∀ c ∈ l.colon, Json.IsPlain c
  comma : ∀ c ∈ l.comma, Json.IsPlain c

theorem isPlain_compact : compact.IsPlain where
  lineBreak _ := by
    rintro c ⟨⟩
  colon _ := isPlain_of_all (by decide)
  comma _ := isPlain_of_all (by decide)

theorem isPlain_indented : indented.IsPlain where
  lineBreak level := by
    intro c hc
    rcases List.mem_cons.mp hc with rfl | hc
    · decide
    · rw [List.eq_of_mem_replicate hc]
      decide
  colon _ := isPlain_of_all (by decide)
  comma _ := isPlain_of_all (by decide)

section

variable {l : Layout} {depth level : Nat} {v : Json} {c : Char}

theorem isPlain_of_mem_padded {width n : Nat} (h : c ∈ Text.Hex.padded .lower width n) :
    IsPlain c := by
  have hdigit : ∀ n < 16, IsPlain (Text.Hex.digit .lower n) := by decide
  induction width generalizing n with
  | zero => cases h
  | succ width ih =>
      rcases List.mem_append.mp h with h | h
      · exact ih h
      · rw [List.mem_singleton.mp h]
        exact hdigit _ (Nat.mod_lt _ (by decide))

theorem isPlain_of_mem_escapeCode {n : Nat} (h : c ∈ escapeCode n) : IsPlain c := by
  rcases List.mem_cons.mp h with rfl | h
  · decide
  · rcases List.mem_cons.mp h with rfl | h
    · decide
    · exact isPlain_of_mem_padded h

theorem isPlain_of_mem_writeChar {d : Char} (h : c ∈ writeChar d) : IsPlain c := by
  unfold writeChar at h
  split at h
  case h_1 | h_2 | h_3 | h_4 | h_5 | h_6 | h_7 =>
    simp only [List.mem_cons, List.not_mem_nil, or_false] at h
    rcases h with rfl | rfl <;> decide
  case h_8 =>
    dsimp only at h
    split at h
    · next hplain =>
        rw [List.mem_singleton.mp h]
        exact .inr hplain
    · split at h
      · exact isPlain_of_mem_escapeCode h
      · rcases List.mem_append.mp h with h | h <;> exact isPlain_of_mem_escapeCode h

theorem isPlain_of_mem_writeString {s : String} (h : c ∈ writeString s) : IsPlain c := by
  simp only [writeString, List.cons_append, List.mem_cons, List.mem_append, List.mem_flatMap,
    List.not_mem_nil, or_false] at h
  rcases h with rfl | ⟨d, -, h⟩ | rfl
  · decide
  · exact isPlain_of_mem_writeChar h
  · decide

theorem mem_of_mem_writeItems {vs : List Json} (h : c ∈ writeItems l level vs) :
    c ∈ l.comma ∨ c ∈ l.lineBreak level ∨ ∃ v ∈ vs, c ∈ write l level v := by
  induction vs with
  | nil => cases h
  | cons v vs ih =>
      simp only [writeItems, List.mem_append] at h
      rcases h with ((h | h) | h) | h
      · exact .inl h
      · exact .inr (.inl h)
      · exact .inr (.inr ⟨v, List.mem_cons_self, h⟩)
      · rcases ih h with h | h | ⟨u, hu, h⟩
        · exact .inl h
        · exact .inr (.inl h)
        · exact .inr (.inr ⟨u, List.mem_cons_of_mem v hu, h⟩)

theorem mem_of_mem_writeFields {fields : List (String × Json)}
    (h : c ∈ writeFields l level fields) :
    c ∈ l.comma ∨ c ∈ l.lineBreak level ∨ c ∈ l.colon ∨
      ∃ e ∈ fields, c ∈ writeString e.1 ∨ c ∈ write l level e.2 := by
  induction fields with
  | nil => cases h
  | cons e fields ih =>
      simp only [writeFields, List.mem_append] at h
      rcases h with ((((h | h) | h) | h) | h) | h
      · exact .inl h
      · exact .inr (.inl h)
      · exact .inr (.inr (.inr ⟨e, List.mem_cons_self, .inl h⟩))
      · exact .inr (.inr (.inl h))
      · exact .inr (.inr (.inr ⟨e, List.mem_cons_self, .inr h⟩))
      · rcases ih h with h | h | h | ⟨f, hf, h⟩
        · exact .inl h
        · exact .inr (.inl h)
        · exact .inr (.inr (.inl h))
        · exact .inr (.inr (.inr ⟨f, List.mem_cons_of_mem e hf, h⟩))

theorem isPlain_of_isDigit (h : c.isDigit = true) : IsPlain c := by
  obtain ⟨hlow, hhigh⟩ := Text.toNat_of_isDigit h
  exact .inr ⟨by omega, by omega⟩

theorem isPlain_of_mem_toString {n : Int} (h : c ∈ (toString n).toList) : IsPlain c := by
  rw [Text.toList_toString, List.mem_append] at h
  rcases h with h | h
  · split at h
    · rw [List.mem_singleton.mp h]
      decide
    · cases h
  · exact isPlain_of_isDigit (Text.isDigit_of_mem h)

/-- A document is written in printable ASCII characters and line feeds. -/
theorem isPlain_of_mem_write (hl : l.IsPlain) (hv : IsLegible depth v) (h : c ∈ write l level v) :
    IsPlain c := by
  induction hv generalizing level with
  | word hname =>
      have hnames : ∀ n ∈ names, n.1.toList.all (fun c => decide (IsPlain c)) = true := by
        decide +kernel
      rw [write_of_mem hname] at h
      exact isPlain_of_all (hnames _ hname) h
  | int hn => exact isPlain_of_mem_toString h
  | text s => exact isPlain_of_mem_writeString h
  | @array depth items hitems ih =>
      cases items with
      | nil =>
          have hbrackets : c ∈ ['[', ']'] := h
          exact isPlain_of_all (by decide) hbrackets
      | cons v vs =>
          simp only [write, List.cons_append, List.mem_cons, List.mem_append, List.not_mem_nil,
            or_false] at h
          rcases h with rfl | (((h | h) | h) | h) | rfl
          · decide
          · exact hl.lineBreak _ c h
          · exact ih v List.mem_cons_self h
          · rcases mem_of_mem_writeItems h with h | h | ⟨u, hu, h⟩
            · exact hl.comma c h
            · exact hl.lineBreak _ c h
            · exact ih u (List.mem_cons_of_mem v hu) h
          · exact hl.lineBreak _ c h
          · decide
  | @object depth fields hkeys hfields ih =>
      cases fields with
      | nil =>
          have hbraces : c ∈ ['{', '}'] := h
          exact isPlain_of_all (by decide) hbraces
      | cons e fields =>
          obtain ⟨name, v⟩ := e
          simp only [write, List.cons_append, List.mem_cons, List.mem_append, List.not_mem_nil,
            or_false] at h
          rcases h with rfl | (((((h | h) | h) | h) | h) | h) | rfl
          · decide
          · exact hl.lineBreak _ c h
          · exact isPlain_of_mem_writeString h
          · exact hl.colon c h
          · exact ih (name, v) List.mem_cons_self h
          · rcases mem_of_mem_writeFields h with h | h | h | ⟨f, hf, h | h⟩
            · exact hl.comma c h
            · exact hl.lineBreak _ c h
            · exact hl.colon c h
            · exact isPlain_of_mem_writeString h
            · exact ih f (List.mem_cons_of_mem _ hf) h
          · exact hl.lineBreak _ c h
          · decide

end

end UrlSigning.Json
