import UrlSigning.Proofs.Provider.Document
import UrlSigning.Proofs.Provider.Load

/-!
# Files that escape the checks

A file that cannot be loaded is to be answered with a fault of the configuration. Some are not:
bytes that are no text, documents beyond the limits of the reader, documents and entries that are no
objects, and infinite expiries bring the loader to a fault of the machinery. These are all.
-/

namespace UrlSigning.Provider

/-- The entry passes each check that is made, but is no object or has an infinite expiry. -/
inductive EntryEscapes : Json → Prop where
  | notFields {entry : Json} (h : ∀ fields, entry ≠ .object fields) : EntryEscapes entry
  /-- The entry is switched on and complete, and its style is one of the two. -/
  | infinite {fields : Entries String Json} {negative : Bool}
      (hon : ((fields.get? "enabled").getD (.bool true)).isGiven = true)
      (hcomplete : ∀ name ∈ requiredFields, fields.has name = true)
      (hstyle : ∃ s ∈ styles, (fields.get? "addressing_style").getD "path" = .text s)
      (hexpiry : fields.get? "presign_expires_seconds" = some (.real (.infinite negative))) :
      EntryEscapes (.object fields)

/-- The content of a file passes each check that is made, but cannot be loaded. -/
inductive Escapes (content : Bytes) : Prop where
  /-- The bytes are those of no text. -/
  | encoding (h : ∀ cs, Text.Utf8.encode cs ≠ content)
  /-- A whole number has too many digits, or arrays and objects are nested too deeply. -/
  | limit {cs : List Char} {e : Json.ReadError} (hcs : Text.Utf8.encode cs = content)
      (h : Json.read (String.ofList (Text.unifyLineEnds cs)) = .error e)
      (hlimit : (∃ count, e.fault = .digits count) ∨ ∃ inObject, e.fault = .nesting inObject)
  | notFields {document : Json} (h : readDocument content = .ok document)
      (hfields : ∀ fields, document ≠ .object fields)
  /-- An entry escapes, and those before it are loaded or switched off. -/
  | entry {before after : Entries String Json} {key : String} {value : Json}
      (h : readDocument content = .ok (.object (before ++ (key, value) :: after)))
      (hbefore : ∀ e ∈ before, ∃ p, ofEntry e.1 e.2 = .ok p) (hvalue : EntryEscapes value)

theorem escapes_of_first {content : Bytes} {key : String} {value : Json}
    {after : Entries String Json}
    (h : readDocument content = .ok (.object ((key, value) :: after)))
    (hvalue : EntryEscapes value) : Escapes content :=
  @Escapes.entry content [] after key value h (List.forall_mem_nil _) hvalue

/-! ## One entry -/

section

variable {source key : String} {value : Json} {fault : LoadFault}

theorem isConfig_of_checkStyle (h : checkStyle source value = .error fault) :
    fault.isConfig = true := by
  unfold checkStyle at h
  repeat' split at h
  all_goals cases h
  all_goals rfl

/-- An expiry that is refused is infinite, or the fault is one of the configuration. -/
theorem isConfig_of_checkExpiry (h : checkExpiry source value = .error fault) :
    fault.isConfig = false ↔ ∃ negative, value = .real (.infinite negative) := by
  unfold checkExpiry at h
  rcases bind_eq_error.mp h with h | ⟨n, hn, h⟩
  · unfold wholeNumber at h
    repeat' split at h
    all_goals cases h
    all_goals simp_all [LoadFault.isConfig]
  · split at h <;> cases h
    constructor
    · rintro ⟨⟩
    · rintro ⟨negative, rfl⟩
      cases hn

/-- Where an entry that is refused fails: it is no object, it lacks a field, or a field of it does
not pass its check. -/
theorem ofEntry_eq_error (h : ofEntry key value = .error fault) :
    (∀ fields, value ≠ .object fields) ∨
      ∃ fields : Entries String Json, value = .object fields ∧
        ((fields.get? "enabled").getD (.bool true)).isGiven = true ∧
        ((∃ name, fault = .missingField name key) ∨
          (∀ name ∈ requiredFields, fields.has name = true) ∧
            ofFields key (.object fields) s!"provider '{key}'" s!"provider '{key}'" =
              .error fault) := by
  cases value with
  | object fields =>
      refine .inr ⟨fields, rfl, ?_⟩
      unfold ofEntry at h
      dsimp only at h
      split at h
      · cases h
      · next hon =>
          have hon : ¬(!((Entries.get? "enabled" fields).getD (.bool true)).isGiven) = true := hon
          refine ⟨by simpa using hon, ?_⟩
          rcases hfind : requiredFields.find? (!Entries.has · fields) with _ | name <;>
            rw [hfind] at h
          · refine .inr ⟨fun name hname => ?_, ?_⟩
            · simpa using List.find?_eq_none.mp hfind name hname
            · exact map_eq_error.mp h
          · cases h
            exact .inl ⟨name, rfl⟩
  | _ => exact .inl (by rintro fields ⟨⟩)

/-- An entry escapes just when loading it comes to a fault that is not one of the configuration. -/
theorem entryEscapes_iff :
    EntryEscapes value ↔ ∃ fault, ofEntry key value = .error fault ∧ fault.isConfig = false := by
  constructor
  · rintro (h | ⟨hon, hcomplete, ⟨s, hs, hstyle⟩, hexpiry⟩)
    · refine ⟨.notProvider value.kindName, ?_, rfl⟩
      cases value with
      | object fields => exact absurd rfl (h fields)
      | _ => rfl
    · refine ⟨.expiryInfinite, ?_, rfl⟩
      rw [ofEntry_of_complete key hon hcomplete, ofFields]
      dsimp only [Json.field?]
      rw [checkStyle_eq_ok_iff.mpr ⟨s, hs, hstyle, rfl⟩, hexpiry]
      rfl
  · rintro ⟨fault, h, hconfig⟩
    rcases ofEntry_eq_error h with hfields | ⟨fields, rfl, hon, ⟨name, rfl⟩ | ⟨hcomplete, h⟩⟩
    · exact .notFields hfields
    · cases hconfig
    · rcases bind_eq_error.mp h with h | ⟨style, hstyle, h⟩
      · rw [isConfig_of_checkStyle h] at hconfig
        cases hconfig
      · obtain ⟨s, hs, hstyle, -⟩ := checkStyle_eq_ok_iff.mp hstyle
        rcases bind_eq_error.mp h with h | ⟨seconds, -, h⟩
        · obtain ⟨negative, hexpiry⟩ := (isConfig_of_checkExpiry h).mp hconfig
          have hgiven : (fields.get? "presign_expires_seconds").getD (.int defaultSeconds) =
              .real (.infinite negative) := hexpiry
          -- the default is finite, so the entry has the field
          rcases hget : fields.get? "presign_expires_seconds" with _ | value <;> rw [hget] at hgiven
          · cases hgiven
          · rw [Option.getD_some] at hgiven
            exact .infinite hon hcomplete ⟨s, hs, hstyle⟩ (hgiven ▸ hget)
        · cases h

end

/-! ## The whole file -/

section

variable {content : Bytes} {fault : LoadFault}

theorem isSyntax_eq_false_iff {fault : Json.Fault} :
    fault.isSyntax = false ↔
      (∃ count, fault = .digits count) ∨ ∃ inObject, fault = .nesting inObject := by
  cases fault <;> simp [Json.Fault.isSyntax]

/-- Where a file that holds no document fails: its bytes are those of no text, or the text cannot
be read. -/
theorem readDocument_eq_error_iff :
    readDocument content = .error fault ↔
      (∃ e, Text.Utf8.decode content = .error e ∧ fault = .encoding e) ∨
        ∃ cs e, Text.Utf8.encode cs = content ∧
          Json.read (String.ofList (Text.unifyLineEnds cs)) = .error e ∧ fault = .document e := by
  unfold readDocument
  simp only [bind_eq_error, mapError_eq_error, mapError_eq_ok, Text.Utf8.decode_eq_ok_iff]
  constructor
  · rintro (⟨e, h, rfl⟩ | ⟨cs, hcs, e, h, rfl⟩)
    · exact .inl ⟨e, h, rfl⟩
    · exact .inr ⟨cs, e, hcs, h, rfl⟩
  · rintro (⟨e, h, rfl⟩ | ⟨cs, e, hcs, h, rfl⟩)
    · exact .inl ⟨e, h, rfl⟩
    · exact .inr ⟨cs, hcs, e, h, rfl⟩

/-- Where a document fails: it is no object, or an entry of it is the first one that is refused. -/
theorem ofDocument_eq_error_iff {document : Json} :
    ofDocument document = .error fault ↔
      (∀ fields, document ≠ .object fields) ∧ fault = .notFields document.kindName ∨
        ∃ before key value after, document = .object (before ++ (key, value) :: after) ∧
          (∀ e ∈ before, ∃ p, ofEntry e.1 e.2 = .ok p) ∧ ofEntry key value = .error fault := by
  cases document with
  | object entries =>
      rw [ofDocument_object]
      constructor
      · intro h
        obtain ⟨before, ⟨key, value⟩, after, rfl, hbefore, hvalue⟩ :=
          mapM_eq_error_iff.mp (map_eq_error.mp h)
        exact .inr ⟨before, key, value, after, rfl,
          fun e he => exists_loadEntry_eq_ok_iff.mp (hbefore e he),
          loadEntry_eq_error_iff.mp hvalue⟩
      · rintro (⟨h, -⟩ | ⟨before, key, value, after, heq, hbefore, hvalue⟩)
        · exact absurd rfl (h entries)
        · cases heq
          exact map_eq_error.mpr (mapM_eq_error_iff.mpr ⟨before, (key, value), after, rfl,
            fun e he => exists_loadEntry_eq_ok_iff.mpr (hbefore e he),
            loadEntry_eq_error_iff.mpr hvalue⟩)
  | _ =>
      constructor
      · rintro ⟨⟩
        exact .inl ⟨by rintro fields ⟨⟩, rfl⟩
      · rintro (⟨-, rfl⟩ | ⟨_, _, _, _, ⟨⟩, -⟩)
        rfl

/-- The loader's faults that are not of the configuration are those of files that escape. -/
theorem escapes_iff :
    Escapes content ↔ ∃ fault, (readDocument content >>= ofDocument) = .error fault ∧
      fault.isConfig = false := by
  constructor
  · rintro (h | ⟨hcs, h, hlimit⟩ | ⟨h, hfields⟩ | ⟨h, hbefore, hvalue⟩)
    · rcases hdecode : Text.Utf8.decode content with e | cs
      · exact ⟨.encoding e, bind_eq_error.mpr (.inl (readDocument_eq_error_iff.mpr
          (.inl ⟨e, hdecode, rfl⟩))), rfl⟩
      · exact absurd (Text.Utf8.decode_eq_ok_iff.mp hdecode) (h cs)
    · exact ⟨.document _, bind_eq_error.mpr (.inl (readDocument_eq_error_iff.mpr
        (.inr ⟨_, _, hcs, h, rfl⟩))), isSyntax_eq_false_iff.mpr hlimit⟩
    · exact ⟨.notFields _, bind_eq_error.mpr (.inr ⟨_, h, ofDocument_eq_error_iff.mpr
        (.inl ⟨hfields, rfl⟩)⟩), rfl⟩
    · obtain ⟨fault, hfault, hconfig⟩ := entryEscapes_iff.mp hvalue
      exact ⟨fault, bind_eq_error.mpr (.inr ⟨_, h, ofDocument_eq_error_iff.mpr
        (.inr ⟨_, _, _, _, rfl, hbefore, hfault⟩)⟩), hconfig⟩
  · rintro ⟨fault, h, hconfig⟩
    rcases bind_eq_error.mp h with h | ⟨document, hdocument, h⟩
    · rcases readDocument_eq_error_iff.mp h with ⟨e, hdecode, rfl⟩ | ⟨cs, e, hcs, hread, rfl⟩
      · refine .encoding fun cs hcs => ?_
        rw [Text.Utf8.decode_eq_ok_iff.mpr hcs] at hdecode
        cases hdecode
      · exact .limit hcs hread (isSyntax_eq_false_iff.mp hconfig)
    · rcases ofDocument_eq_error_iff.mp h with
        ⟨hfields, -⟩ | ⟨before, key, value, after, rfl, hbefore, hvalue⟩
      · exact .notFields hdocument hfields
      · exact .entry hdocument hbefore (entryEscapes_iff.mpr ⟨fault, hvalue, hconfig⟩)

end

end UrlSigning.Provider
