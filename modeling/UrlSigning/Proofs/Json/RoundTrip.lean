import UrlSigning.Proofs.Entries
import UrlSigning.Proofs.Json.Scalar

/-!
# Reading documents again

A document that was written, on one line or with one item a line, is read as itself: in fact with
any layout that puts nothing but blanks around the items. It may hold numbers only if they are whole
and not too long, its arrays and objects must not be nested too deeply, and no object may repeat a
field, because all of that is lost in reading.
-/

namespace UrlSigning.Json

/-- The values that survive reading, with arrays and objects nested at most so deep. -/
inductive IsLegible : Nat → Json → Prop
  /-- Null, a truth value, or a number without digits. -/
  | word {depth : Nat} {name : String} {v : Json} (h : (name, v) ∈ names) : IsLegible depth v
  | int {depth : Nat} {n : Int} (h : (Nat.toDigits 10 n.natAbs).length ≤ Text.maxDigits) :
      IsLegible depth (.int n)
  | text {depth : Nat} (s : String) : IsLegible depth (.text s)
  | array {depth : Nat} {items : List Json} (h : ∀ v ∈ items, IsLegible depth v) :
      IsLegible (depth + 1) (.array items)
  | object {depth : Nat} {fields : List (String × Json)} (hkeys : (Entries.keys fields).Nodup)
      (h : ∀ e ∈ fields, IsLegible depth e.2) : IsLegible (depth + 1) (.object fields)

/-- Blanks, of which the reader skips any number. -/
def IsBlank (cs : List Char) : Prop := ∀ c ∈ cs, isSpace c = true

/-- The layout puts only blanks around items, next to the colons and commas. -/
structure Layout.IsSpaced (l : Layout) : Prop where
  lineBreak (level : Nat) : IsBlank (l.lineBreak level)
  colon : ∃ blanks, IsBlank blanks ∧ l.colon = ':' :: blanks
  comma : ∃ blanks, IsBlank blanks ∧ l.comma = ',' :: blanks

theorem isSpaced_compact : compact.IsSpaced where
  lineBreak _ := by
    rintro c ⟨⟩
  colon := ⟨[' '], by simp [IsBlank, isSpace], rfl⟩
  comma := ⟨[' '], by simp [IsBlank, isSpace], rfl⟩

theorem isSpaced_indented : indented.IsSpaced where
  lineBreak level := by
    intro c hc
    rcases List.mem_cons.mp hc with rfl | hc
    · rfl
    · rw [List.eq_of_mem_replicate hc]
      rfl
  colon := ⟨[' '], by simp [IsBlank, isSpace], rfl⟩
  comma := ⟨[], by simp [IsBlank], rfl⟩

/-! ## What stands before and behind a value -/

section

variable {blanks cs : List Char} {c : Char}

theorem skipSpace_append (h : IsBlank blanks) (cs : List Char) :
    skipSpace (blanks ++ cs) = skipSpace cs :=
  List.dropWhile_append_of_pos h

theorem skipSpace_cons (cs : List Char) (h : isSpace c = false) : skipSpace (c :: cs) = c :: cs :=
  List.dropWhile_cons_of_neg (by simp [h])

/-- The text begins like a value: neither with a blank nor with a bracket that closes. -/
def StartsValue (cs : List Char) : Prop :=
  ∃ c rest, cs = c :: rest ∧ isSpace c = false ∧ c ≠ ']' ∧ c ≠ '\uFEFF'

theorem StartsValue.append (h : StartsValue cs) (more : List Char) : StartsValue (cs ++ more) := by
  obtain ⟨c, rest, rfl, hc⟩ := h
  exact ⟨c, rest ++ more, rfl, hc⟩

theorem StartsValue.skipSpace_eq (h : StartsValue cs) : skipSpace cs = cs := by
  obtain ⟨c, rest, rfl, hc, -⟩ := h
  exact skipSpace_cons rest hc

theorem endsNumber_of_isSpace (h : isSpace c = true) (cs : List Char) : EndsNumber (c :: cs) := by
  simp only [isSpace, Bool.or_eq_true, beq_iff_eq] at h
  rintro _ ⟨⟩
  rcases h with ((rfl | rfl) | rfl) | rfl <;> decide

theorem EndsNumber.append (hcs : EndsNumber cs) (h : IsBlank blanks) :
    EndsNumber (blanks ++ cs) := by
  cases blanks with
  | nil => exact hcs
  | cons b blanks => exact endsNumber_of_isSpace (h b List.mem_cons_self) _

theorem endsNumber_cons (cs : List Char) (h : c = ',' ∨ c = ']' ∨ c = '}') :
    EndsNumber (c :: cs) := by
  rintro _ ⟨⟩
  rcases h with rfl | rfl | rfl <;> decide

end

/-! ## Items and fields -/

/-- The text of the value is read as the value, in front of anything that ends a number. -/
def ReadsBack (read : List Char → Except Misplaced (Parsed Json)) (l : Layout) (level : Nat)
    (v : Json) : Prop :=
  StartsValue (write l level v) ∧
    ∀ rest, EndsNumber rest → read (write l level v ++ rest) = .ok (v, rest)

section

variable {read : List Char → Except Misplaced (Parsed Json)} {l : Layout} {level fuel : Nat}
  {v : Json} {name : String} {closing cs more after rest : List Char}

theorem readItems_last (h : read cs = .ok (v, more)) (hmore : skipSpace more = ']' :: rest) :
    readItems read (fuel + 1) cs = .ok ([v], rest) := by
  rw [readItems, h]
  dsimp only [bind, Except.bind]
  rw [hmore]
  rfl

theorem readItems_more {vs : List Json} (h : read cs = .ok (v, more))
    (hmore : skipSpace more = ',' :: after)
    (hrest : readItems read fuel (skipSpace after) = .ok (vs, rest)) :
    readItems read (fuel + 1) cs = .ok (v :: vs, rest) := by
  rw [readItems, h]
  dsimp only [bind, Except.bind]
  rw [hmore]
  show (readItems read fuel (skipSpace after) >>= fun x => pure (v :: x.1, x.2)) = _
  rw [hrest]
  rfl

/-- Items after the first one stand behind a comma and blanks. -/
theorem exists_writeItems_cons (hl : l.IsSpaced) (level : Nat) :
    ∃ blanks, IsBlank blanks ∧ ∀ u us tail, writeItems l level (u :: us) ++ tail =
      ',' :: (blanks ++ (write l level u ++ (writeItems l level us ++ tail))) := by
  obtain ⟨blanks, hblanks, hcomma⟩ := hl.comma
  refine ⟨blanks ++ l.lineBreak level, List.forall_mem_append.mpr ⟨hblanks, hl.lineBreak level⟩, ?_⟩
  intro u us tail
  rw [writeItems, hcomma]
  simp only [List.append_assoc, List.cons_append]

theorem readItems_written (hl : l.IsSpaced) {vs : List Json}
    (hread : ∀ u ∈ v :: vs, ReadsBack read l level u) (hclosing : IsBlank closing)
    (hfuel : vs.length < fuel) (rest : List Char) :
    readItems read fuel
      (write l level v ++ (writeItems l level vs ++ (closing ++ ']' :: rest))) =
        .ok (v :: vs, rest) := by
  obtain ⟨blanks, hblanks, hcons⟩ := exists_writeItems_cons hl level
  obtain ⟨fuel, rfl⟩ := Nat.exists_eq_add_one.mpr (Nat.zero_lt_of_lt hfuel)
  induction vs generalizing v fuel with
  | nil =>
      have hends : EndsNumber (closing ++ ']' :: rest) :=
        (endsNumber_cons rest (.inr (.inl rfl))).append hclosing
      refine readItems_last ((hread v List.mem_cons_self).2 _ hends) ?_
      show skipSpace (closing ++ ']' :: rest) = _
      rw [skipSpace_append hclosing, skipSpace_cons rest rfl]
  | cons u us ih =>
      obtain ⟨fuel, rfl⟩ :=
        Nat.exists_eq_add_one.mpr (Nat.zero_lt_of_lt (Nat.lt_of_succ_lt_succ hfuel))
      have htail (w : Json) (hw : w ∈ u :: us) := hread w (List.mem_cons_of_mem v hw)
      rw [hcons]
      refine readItems_more ((hread v List.mem_cons_self).2 _ (endsNumber_cons _ (.inl rfl)))
        (skipSpace_cons _ rfl) ?_
      rw [skipSpace_append hblanks, ((htail u List.mem_cons_self).1.append _).skipSpace_eq]
      exact ih htail fuel (Nat.lt_of_succ_lt_succ hfuel)

/-- A field is read up to what follows its value. -/
theorem readFields_succ (hl : l.IsSpaced) (hv : ReadsBack read l level v)
    (hends : EndsNumber more) :
    readFields read (fuel + 1) (writeString name ++ (l.colon ++ (write l level v ++ more))) =
      match skipSpace more with
      | '}' :: rest => .ok ([(name, v)], rest)
      | ',' :: rest => do
        let (fields, rest) ← readFields read fuel (skipSpace rest)
        return ((name, v) :: fields, rest)
      | rest => stopAt .comma rest := by
  obtain ⟨blanks, hblanks, hcolon⟩ := hl.colon
  rw [writeString, hcolon]
  simp only [List.cons_append, List.append_assoc, List.nil_append]
  rw [readFields, readString_written]
  dsimp only [bind, Except.bind]
  rw [skipSpace_cons _ rfl]
  simp only
  rw [skipSpace_append hblanks, (hv.1.append more).skipSpace_eq, hv.2 more hends]
  dsimp only
  rw [String.ofList_toList]
  rfl

theorem readFields_last (hl : l.IsSpaced) (hv : ReadsBack read l level v) (hends : EndsNumber more)
    (hmore : skipSpace more = '}' :: rest) :
    readFields read (fuel + 1) (writeString name ++ (l.colon ++ (write l level v ++ more))) =
      .ok ([(name, v)], rest) := by
  rw [readFields_succ hl hv hends, hmore]
  rfl

theorem readFields_more (hl : l.IsSpaced) (hv : ReadsBack read l level v) (hends : EndsNumber more)
    {fields : List (String × Json)} (hmore : skipSpace more = ',' :: after)
    (hrest : readFields read fuel (skipSpace after) = .ok (fields, rest)) :
    readFields read (fuel + 1) (writeString name ++ (l.colon ++ (write l level v ++ more))) =
      .ok ((name, v) :: fields, rest) := by
  rw [readFields_succ hl hv hends, hmore]
  show (readFields read fuel (skipSpace after) >>= fun x => pure ((name, v) :: x.1, x.2)) = _
  rw [hrest]
  rfl

theorem exists_writeFields_cons (hl : l.IsSpaced) (level : Nat) :
    ∃ blanks, IsBlank blanks ∧ ∀ name v fields tail,
      writeFields l level ((name, v) :: fields) ++ tail =
        ',' :: (blanks ++ (writeString name ++ (l.colon ++
          (write l level v ++ (writeFields l level fields ++ tail))))) := by
  obtain ⟨blanks, hblanks, hcomma⟩ := hl.comma
  refine ⟨blanks ++ l.lineBreak level, List.forall_mem_append.mpr ⟨hblanks, hl.lineBreak level⟩, ?_⟩
  intro name v fields tail
  rw [writeFields, hcomma]
  simp only [List.append_assoc, List.cons_append]

theorem startsValue_writeString (s : String) : StartsValue (writeString s) :=
  ⟨'"', s.toList.flatMap writeChar ++ ['"'], rfl, by decide, by decide, by decide⟩

theorem readFields_written (hl : l.IsSpaced) {fields : List (String × Json)}
    (hread : ∀ e ∈ (name, v) :: fields, ReadsBack read l level e.2) (hclosing : IsBlank closing)
    (hfuel : fields.length < fuel) (rest : List Char) :
    readFields read fuel (writeString name ++ (l.colon ++
      (write l level v ++ (writeFields l level fields ++ (closing ++ '}' :: rest))))) =
        .ok ((name, v) :: fields, rest) := by
  obtain ⟨blanks, hblanks, hcons⟩ := exists_writeFields_cons hl level
  obtain ⟨fuel, rfl⟩ := Nat.exists_eq_add_one.mpr (Nat.zero_lt_of_lt hfuel)
  induction fields generalizing name v fuel with
  | nil =>
      have hends : EndsNumber (closing ++ '}' :: rest) :=
        (endsNumber_cons rest (.inr (.inr rfl))).append hclosing
      refine readFields_last hl (hread _ List.mem_cons_self) hends ?_
      show skipSpace (closing ++ '}' :: rest) = _
      rw [skipSpace_append hclosing, skipSpace_cons rest rfl]
  | cons e fields ih =>
      obtain ⟨fuel, rfl⟩ :=
        Nat.exists_eq_add_one.mpr (Nat.zero_lt_of_lt (Nat.lt_of_succ_lt_succ hfuel))
      have htail (f : String × Json) (hf : f ∈ e :: fields) :=
        hread f (List.mem_cons_of_mem (name, v) hf)
      rw [hcons]
      refine readFields_more hl (hread _ List.mem_cons_self) (endsNumber_cons _ (.inl rfl))
        (skipSpace_cons _ rfl) ?_
      rw [skipSpace_append hblanks, ((startsValue_writeString e.1).append _).skipSpace_eq]
      exact ih htail fuel (Nat.lt_of_succ_lt_succ hfuel)

end

/-! ## Values -/

section

variable {l : Layout} {depth level : Nat} {v : Json} {cs rest : List Char}

/-- What begins neither an array nor an object holds no other values. -/
theorem readValue_of_scalar (depth : Nat) (harray : cs.head? ≠ some '[')
    (hobject : cs.head? ≠ some '{') : readValue depth cs = readScalar cs := by
  unfold readValue
  split
  · exact absurd rfl harray
  · exact absurd rfl hobject
  · exact absurd rfl harray
  · exact absurd rfl hobject
  · rfl

/-- A text to which each member of a list adds something is as long as the list. -/
theorem length_le_of_adds {α : Type} {text : List α → List Char}
    (h : ∀ x xs, (text xs).length < (text (x :: xs)).length) (xs : List α) :
    xs.length ≤ (text xs).length := by
  induction xs with
  | nil => exact Nat.zero_le _
  | cons x xs ih => exact Nat.lt_of_le_of_lt ih (h x xs)

theorem length_le_writeItems (hl : l.IsSpaced) (level : Nat) (vs : List Json) :
    vs.length ≤ (writeItems l level vs).length := by
  obtain ⟨blanks, -, hcons⟩ := exists_writeItems_cons hl level
  refine length_le_of_adds (fun u us => ?_) vs
  have hlength := congrArg List.length (hcons u us [])
  simp only [List.append_nil, List.length_cons, List.length_append] at hlength
  omega

theorem length_le_writeFields (hl : l.IsSpaced) (level : Nat) (fields : List (String × Json)) :
    fields.length ≤ (writeFields l level fields).length := by
  obtain ⟨blanks, -, hcons⟩ := exists_writeFields_cons hl level
  refine length_le_of_adds (fun e fields => ?_) fields
  obtain ⟨name, v⟩ := e
  have hlength := congrArg List.length (hcons name v fields [])
  simp only [List.append_nil, List.length_cons, List.length_append] at hlength
  omega

/-- The character is no blank or bracket, so that it may begin a value that holds no others. -/
def StartsScalar (c : Char) : Prop :=
  isSpace c = false ∧ c ≠ ']' ∧ c ≠ '\uFEFF' ∧ c ≠ '[' ∧ c ≠ '{'

instance (c : Char) : Decidable (StartsScalar c) := by
  unfold StartsScalar
  infer_instance

theorem readsBack_scalar {c : Char} {cs : List Char} (hwrite : write l level v = c :: cs)
    (hc : StartsScalar c)
    (hread : ∀ rest, EndsNumber rest → readScalar (write l level v ++ rest) = .ok (v, rest)) :
    ReadsBack (readValue depth) l level v := by
  obtain ⟨hspace, hclose, hmark, harray, hobject⟩ := hc
  refine ⟨⟨c, cs, hwrite, hspace, hclose, hmark⟩, fun rest hrest => ?_⟩
  rw [readValue_of_scalar, hread rest hrest]
  · rw [hwrite]
    simpa using harray
  · rw [hwrite]
    simpa using hobject

theorem write_of_mem {name : String} (h : (name, v) ∈ names) : write l level v = name.toList := by
  simp only [names, List.mem_cons, List.not_mem_nil, or_false, Prod.mk.injEq] at h
  rcases h with ⟨rfl, rfl⟩ | ⟨rfl, rfl⟩ | ⟨rfl, rfl⟩ | ⟨rfl, rfl⟩ | ⟨rfl, rfl⟩ | ⟨rfl, rfl⟩ <;> rfl

theorem readsBack_word {name : String} (h : (name, v) ∈ names) :
    ReadsBack (readValue depth) l level v := by
  have hnames : ∀ n ∈ names, n.1.toList.head?.any (fun c => decide (StartsScalar c)) = true := by
    decide +kernel
  obtain ⟨c, hhead, hc⟩ := (Option.any_eq_true _ _).mp (hnames _ h)
  obtain ⟨cs, hcs⟩ := List.head?_eq_some_iff.mp hhead
  refine readsBack_scalar ((write_of_mem h).trans hcs) (of_decide_eq_true hc) fun rest _ => ?_
  rw [write_of_mem h]
  exact readScalar_of_mem h rest

theorem startsScalar_of_isDigit {c : Char} (h : c.isDigit = true) : StartsScalar c := by
  have hspace : isSpace c = false := by
    rw [Bool.eq_false_iff]
    intro hc
    simp only [isSpace, Bool.or_eq_true, beq_iff_eq] at hc
    rcases hc with ((rfl | rfl) | rfl) | rfl <;> cases h
  refine ⟨hspace, ?_, ?_, ?_, ?_⟩
  all_goals
    rintro rfl
    cases h

theorem readsBack_int {n : Int} (h : (Nat.toDigits 10 n.natAbs).length ≤ Text.maxDigits) :
    ReadsBack (readValue depth) l level (.int n) := by
  have hread (rest : List Char) (hrest : EndsNumber rest) :
      readScalar (write l level (.int n) ++ rest) = .ok (.int n, rest) :=
    readScalar_toString h hrest
  obtain ⟨d, ds, hd, htext | htext⟩ := Text.exists_digit_of_toString n
  · exact readsBack_scalar htext (startsScalar_of_isDigit hd) hread
  · exact readsBack_scalar htext (by decide) hread

/-- A number that is written with a point is read as the number nearest to the decimal. -/
theorem readsBack_real {x : Binary64} {n : Nat} {fraction : List Char}
    (hwrite : (Decimal.text numberNames x).toList = Nat.toDigits 10 n ++ '.' :: fraction)
    (hfraction : ∀ c ∈ fraction, c.isDigit = true) (hne : fraction ≠ [])
    (hx : Binary64.ofDecimal false (natOfDigits (Nat.toDigits 10 n ++ fraction))
      (-fraction.length) = x) :
    ReadsBack (readValue depth) l level (.real x) := by
  obtain ⟨d, ds, hds⟩ := List.exists_cons_of_ne_nil (Nat.toDigits_ne_nil (b := 10) (n := n))
  have hd : d.isDigit = true := Text.isDigit_of_mem (hds ▸ List.mem_cons_self)
  have htext : write l level (.real x) = Nat.toDigits 10 n ++ '.' :: fraction := hwrite
  have hhead : write l level (.real x) = d :: (ds ++ '.' :: fraction) := by
    rw [htext, hds, List.cons_append]
  refine readsBack_scalar hhead (startsScalar_of_isDigit hd) fun rest hrest => ?_
  rw [htext, List.append_assoc, List.cons_append, readScalar_fraction n hfraction hne hrest, hx]

theorem readValue_items {items : List Json} {more : List Char} (hskip : skipSpace more = cs)
    (hstart : StartsValue cs)
    (hread : readItems (readValue depth) (cs.length + 1) cs = .ok (items, rest)) :
    readValue (depth + 1) ('[' :: more) = .ok (.array items, rest) := by
  obtain ⟨c, left, rfl, -, hclose, -⟩ := hstart
  rw [readValue, hskip]
  split
  · next heq =>
      cases heq
      exact absurd rfl hclose
  · rw [hread]
    rfl

theorem readValue_fields {fields : List (String × Json)} {more : List Char}
    (hkeys : (Entries.keys fields).Nodup) (hskip : skipSpace more = cs)
    (hstart : cs.head? ≠ some '}')
    (hread : readFields (readValue depth) (cs.length + 1) cs = .ok (fields, rest)) :
    readValue (depth + 1) ('{' :: more) = .ok (.object fields, rest) := by
  rw [readValue, hskip]
  split
  · exact absurd rfl hstart
  · rw [hread]
    show Except.ok (Json.object (Entries.ofPairs fields), rest) = _
    rw [Entries.ofPairs_of_nodup hkeys]

/-- An array whose items are read as themselves is read as itself. -/
theorem readsBack_array (hl : l.IsSpaced) {items : List Json}
    (h : ∀ v ∈ items, ReadsBack (readValue depth) l (level + 1) v) :
    ReadsBack (readValue (depth + 1)) l level (.array items) := by
  cases items with
  | nil =>
      refine ⟨⟨'[', [']'], rfl, by decide, by decide, by decide⟩, fun rest _ => ?_⟩
      show readValue (depth + 1) ('[' :: ']' :: rest) = _
      rw [readValue, skipSpace_cons _ rfl]
      rfl
  | cons v vs =>
      rw [ReadsBack, write]
      refine ⟨⟨'[', _, rfl, by decide, by decide, by decide⟩, fun rest _ => ?_⟩
      simp only [List.append_assoc, List.cons_append, List.nil_append]
      have hstart := (h v List.mem_cons_self).1.append
        (writeItems l (level + 1) vs ++ (l.lineBreak level ++ ']' :: rest))
      refine readValue_items ?_ hstart
        (readItems_written hl h (hl.lineBreak level) ?_ rest)
      · rw [skipSpace_append (hl.lineBreak _), hstart.skipSpace_eq]
      · have hlength := length_le_writeItems hl (level + 1) vs
        simp only [List.length_append]
        omega

/-- An object whose values are read as themselves is read as itself. -/
theorem readsBack_object (hl : l.IsSpaced) {fields : List (String × Json)}
    (hkeys : (Entries.keys fields).Nodup)
    (h : ∀ e ∈ fields, ReadsBack (readValue depth) l (level + 1) e.2) :
    ReadsBack (readValue (depth + 1)) l level (.object fields) := by
  cases fields with
  | nil =>
      refine ⟨⟨'{', ['}'], rfl, by decide, by decide, by decide⟩, fun rest _ => ?_⟩
      show readValue (depth + 1) ('{' :: '}' :: rest) = _
      rw [readValue, skipSpace_cons _ rfl]
      rfl
  | cons e fields =>
      obtain ⟨name, v⟩ := e
      rw [ReadsBack, write]
      refine ⟨⟨'{', _, rfl, by decide, by decide, by decide⟩, fun rest _ => ?_⟩
      simp only [List.append_assoc, List.cons_append, List.nil_append]
      refine readValue_fields hkeys ?_ ?_
        (readFields_written hl h (hl.lineBreak level) ?_ rest)
      · rw [skipSpace_append (hl.lineBreak _)]
        exact ((startsValue_writeString name).append _).skipSpace_eq
      · rintro ⟨⟩
      · have hlength := length_le_writeFields hl (level + 1) fields
        simp only [List.length_append]
        omega

/-- A value is read as itself, with whatever follows that ends a number. -/
theorem readsBack_write (hl : l.IsSpaced) (hv : IsLegible depth v) (level : Nat) :
    ReadsBack (readValue depth) l level v := by
  induction hv generalizing level with
  | word h => exact readsBack_word h
  | int h => exact readsBack_int h
  | text s =>
      exact readsBack_scalar (c := '"') rfl (by decide) fun rest _ => readScalar_writeString s rest
  | array h ih => exact readsBack_array hl fun v hv => ih v hv (level + 1)
  | object hkeys h ih => exact readsBack_object hl hkeys fun e he => ih e he (level + 1)

/-! ## Documents -/

theorem readDocument_of_readsBack (h : ReadsBack (readValue maxDepth) l level v) :
    readDocument (write l level v) = .ok v := by
  obtain ⟨hstart, hread⟩ := h
  have hmark : (write l level v).head? ≠ some '\uFEFF' := by
    obtain ⟨c, cs, hcs, -, -, hc⟩ := hstart
    rw [hcs]
    simpa using hc
  have hvalue := hread [] (by rintro c ⟨⟩)
  rw [List.append_nil] at hvalue
  rw [readDocument, if_neg hmark, hstart.skipSpace_eq, hvalue]
  rfl

/-- A document that was written with such a layout is read as itself. -/
theorem readDocument_write (hl : l.IsSpaced) (hv : IsLegible maxDepth v) (level : Nat) :
    readDocument (write l level v) = .ok v :=
  readDocument_of_readsBack (readsBack_write hl hv level)

theorem read_line (hv : IsLegible maxDepth v) : read v.line = .ok v := by
  rw [read, line, String.toList_ofList, readDocument_write isSpaced_compact hv]
  rfl

theorem read_page (hv : IsLegible maxDepth v) : read v.page = .ok v := by
  rw [read, page, String.toList_ofList, readDocument_write isSpaced_indented hv]
  rfl

end

end UrlSigning.Json
