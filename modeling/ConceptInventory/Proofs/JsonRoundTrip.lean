import ConceptInventory.Proofs.QuotedText
import ConceptInventory.Proofs.WholeNumbers

/-!
# Values read back

A written value is read back as it was, in every style and at every level of
nesting: the blanks between its parts are skipped, and no part starts with a
blank or a closing bracket. This holds of values without floating-point numbers
and broken strings whose objects name no field twice.
-/
namespace ConceptInventory.Json

mutual

/-- The values that are read back as they are written. -/
def IsPlain : Json → Prop
  | .null => True
  | .bool _ => True
  | .int i => InRange i
  | .real _ => False
  | .str _ => True
  | .brokenStr _ => False
  | .arr items => ArePlain items
  | .obj fields => (fields.map Prod.fst).Nodup ∧ FieldsArePlain fields

def ArePlain : List Json → Prop
  | [] => True
  | j :: rest => j.IsPlain ∧ ArePlain rest

def FieldsArePlain : List (String × Json) → Prop
  | [] => True
  | (_, j) :: rest => j.IsPlain ∧ FieldsArePlain rest

end

/-! ## Objects -/

/-- A new name goes to the end. -/
theorem setField_new {fields : List (String × Json)} {name : String}
    (h : name ∉ fields.map Prod.fst) (j : Json) :
    setField fields name j = fields ++ [(name, j)] := by
  induction fields with
  | nil => rfl
  | cons f fields ih =>
    rw [List.map_cons, List.mem_cons, not_or] at h
    have hname : (f.1 == name) = false := beq_false_of_ne (Ne.symm h.1)
    rw [setField, hname, ih h.2]
    rfl

theorem foldl_setField {before fields : List (String × Json)}
    (h : ((before ++ fields).map Prod.fst).Nodup) :
    fields.foldl (fun o f => setField o f.1 f.2) before = before ++ fields := by
  induction fields generalizing before with
  | nil => rw [List.foldl_nil, List.append_nil]
  | cons f fields ih =>
    have hnew : f.1 ∉ before.map Prod.fst := by
      intro hmem
      rw [List.map_append, List.nodup_append] at h
      exact h.2.2 f.1 hmem f.1 (by simp) rfl
    rw [List.foldl_cons, setField_new hnew, ih (by simpa using h), List.append_assoc,
      List.singleton_append]

/-- Fields with different names are the fields of the object. -/
theorem ofFields_eq {fields : List (String × Json)} (h : (fields.map Prod.fst).Nodup) :
    ofFields fields = .obj fields := by
  have hfold := foldl_setField (by rwa [List.nil_append] : (([] ++ fields).map Prod.fst).Nodup)
  rw [ofFields, hfold, List.nil_append]

/-! ## Blanks -/

/-- A character that may start a value: no blank, no closing bracket and no mark of
byte order. -/
def opensValue (c : Char) : Bool :=
  !isSpace c && c != ']' && c != '\x7d' && c != Char.ofNat 0xFEFF

theorem opensValue_of_isDigit {d : Char} (hd : isDigit d = true) : opensValue d = true := by
  have hne (c : Char) (hc : isDigit c = false) : d ≠ c := ne_of_isDigit hd hc
  simp [opensValue, isSpace, hne ' ' rfl, hne '\t' rfl, hne '\n' rfl, hne '\r' rfl, hne ']' rfl,
    hne '\x7d' rfl, hne (Char.ofNat 0xFEFF) rfl]

/-- The text starts with such a character. -/
def Starts (s : List Char) : Prop := ∃ c rest, s = c :: rest ∧ opensValue c = true

theorem Starts.append {s : List Char} (h : Starts s) (t : List Char) : Starts (s ++ t) := by
  obtain ⟨c, rest, rfl, hc⟩ := h
  exact ⟨c, rest ++ t, rfl, hc⟩

def AllBlank (s : List Char) : Prop := ∀ c ∈ s, isSpace c = true

instance (s : List Char) : Decidable (AllBlank s) :=
  List.decidableBAll _ s

theorem skipSpace_append {blanks : List Char} (hb : AllBlank blanks) {c : Char}
    (hc : isSpace c = false) (s : List Char) : skipSpace (blanks ++ c :: s) = c :: s := by
  rw [skipSpace, List.dropWhile_append_of_pos hb, List.dropWhile_cons_of_neg (by simp [hc])]

theorem skipSpace_starts {blanks s : List Char} (hb : AllBlank blanks) (hs : Starts s) :
    skipSpace (blanks ++ s) = s := by
  obtain ⟨c, rest, rfl, hc⟩ := hs
  apply skipSpace_append hb
  simp only [opensValue, Bool.and_eq_true, Bool.not_eq_true'] at hc
  exact hc.1.1.1

theorem skipSpace_comma (s : List Char) : skipSpace (',' :: s) = ',' :: s := rfl

theorem skipSpace_allBlank {blanks : List Char} (hb : AllBlank blanks) : skipSpace blanks = [] :=
  List.dropWhile_eq_nil_iff.mpr hb

/-- A blank ends a number. -/
theorem endsNumber_append {blanks tail : List Char} (hb : AllBlank blanks)
    (ht : EndsNumber tail) : EndsNumber (blanks ++ tail) := by
  cases blanks with
  | nil => exact ht
  | cons b blanks =>
    apply endsNumber_cons
    have hspace := hb b List.mem_cons_self
    simp only [isSpace, Bool.or_eq_true, beq_iff_eq] at hspace
    rcases hspace with ((rfl | rfl) | rfl) | rfl <;> decide

/-! ## Values without parts -/

theorem find?_names {s : List Char} {d : Char} (hd : isDigit d = true) {ds : List Char}
    (hs : s = d :: ds ∨ s = '-' :: d :: ds) : (names.find? fun e => e.1.isPrefixOf s) = none := by
  have hword : ∀ w ∈ names.map Prod.fst, (w.head?.all fun c => !isDigit c) ∧
      (w.head? = some '-' → w.tail.head? = some 'I') ∧ w ≠ [] := by decide
  rw [List.find?_eq_none]
  intro e he hprefix
  obtain ⟨hfirst, hsecond, hne⟩ := hword e.1 (List.mem_map_of_mem he)
  obtain ⟨rest, hrest⟩ := List.isPrefixOf_iff_prefix.mp hprefix
  match hw : e.1 with
  | [] => exact hne hw
  | c :: w =>
    rw [hw] at hfirst hsecond hrest
    rcases hs with rfl | rfl
    · obtain rfl : c = d := (List.cons.inj hrest).1
      simp [hd] at hfirst
    · obtain ⟨rfl, htail⟩ := List.cons.inj hrest
      match w with
      | [] => simp at hsecond
      | c :: w =>
        obtain rfl : c = d := (List.cons.inj htail).1
        have hI : c = 'I' := by simpa using hsecond rfl
        rw [hI] at hd
        cases hd

theorem scalar_int {i : Int} (hi : InRange i) {tail : List Char} (h : EndsNumber tail) :
    scalar ((toString i).toList ++ tail) = .ok (.int i, tail) := by
  have hnames : (names.find? fun e => e.1.isPrefixOf ((toString i).toList ++ tail)) = none := by
    obtain ⟨d, ds, hds, hd⟩ := exists_toDigits i.natAbs
    have hchars : (toString i).toList ++ tail = d :: (ds ++ tail)
        ∨ (toString i).toList ++ tail = '-' :: d :: (ds ++ tail) := by
      rw [toList_toString, hds]
      cases decide (i < 0)
      · exact .inl rfl
      · exact .inr rfl
    exact find?_names hd hchars
  have hnumeral := numeral?_toDigits (decide (i < 0)) i.natAbs h
  rw [scalar, hnames]
  simp only [toList_toString, List.append_assoc, hnumeral, numeral_value hi]

theorem value_of_scalar {c : Char} (hquote : c ≠ '"') (hbracket : c ≠ '[') (hbrace : c ≠ '\x7b')
    (fuel : Nat) (s : List Char) : value (fuel + 1) (c :: s) = scalar (c :: s) := by
  rw [value]
  · intro rest hrest
    exact hquote (List.cons.inj hrest).1
  · intro rest hrest
    exact hbracket (List.cons.inj hrest).1
  · intro rest hrest
    exact hbrace (List.cons.inj hrest).1

theorem value_int {i : Int} (hi : InRange i) {tail : List Char} (h : EndsNumber tail)
    (fuel : Nat) : value (fuel + 1) ((toString i).toList ++ tail) = .ok (.int i, tail) := by
  obtain ⟨d, ds, hds, hd⟩ := exists_toDigits i.natAbs
  rw [← scalar_int hi h, toList_toString, hds]
  cases decide (i < 0) with
  | true => exact value_of_scalar (by decide) (by decide) (by decide) fuel _
  | false =>
    exact value_of_scalar (ne_of_isDigit hd rfl) (ne_of_isDigit hd rfl) (ne_of_isDigit hd rfl)
      fuel _

/-! ## Parts between brackets -/

theorem starts_write (st : Style) (level : Nat) {j : Json} (h : j.IsPlain) :
    Starts (write st level j) := by
  have hbracketed (opening closing : Char) (parts : List (List Char))
      (ho : opensValue opening = true) :
      Starts (st.bracketed level opening closing parts) := by
    cases parts with
    | nil => exact ⟨opening, [closing], rfl, ho⟩
    | cons p parts => exact ⟨opening, _, by simp [Style.bracketed]; rfl, ho⟩
  match j, h with
  | .null, _ => exact ⟨'n', ['u', 'l', 'l'], rfl, by decide⟩
  | .bool true, _ => exact ⟨'t', ['r', 'u', 'e'], rfl, by decide⟩
  | .bool false, _ => exact ⟨'f', ['a', 'l', 's', 'e'], rfl, by decide⟩
  | .int i, _ =>
    obtain ⟨d, ds, hds, hd⟩ := exists_toDigits i.natAbs
    rw [write, toList_toString, hds]
    cases decide (i < 0) with
    | true => exact ⟨'-', d :: ds, rfl, by decide⟩
    | false => exact ⟨d, ds, rfl, opensValue_of_isDigit hd⟩
  | .str s, _ => exact ⟨'"', _, rfl, by decide⟩
  | .arr items, _ => exact hbracketed '[' ']' _ (by decide)
  | .obj fields, _ => exact hbracketed '\x7b' '\x7d' _ (by decide)

theorem allBlank_lineBreak (st : Style) (level : Nat) : AllBlank (st.lineBreak level) := by
  intro c hc
  unfold Style.lineBreak at hc
  split at hc
  · cases hc
  · rcases List.mem_cons.mp hc with rfl | hc
    · rfl
    · rw [List.eq_of_mem_replicate hc]
      rfl

/-- Between two parts stands a comma, with blanks behind it. -/
theorem separator_eq (st : Style) (level : Nat) :
    ∃ blanks, st.separator level = ',' :: blanks ∧ AllBlank blanks := by
  unfold Style.separator
  split
  · exact ⟨[' '], rfl, by decide⟩
  · exact ⟨_, rfl, allBlank_lineBreak st level⟩

/-- Parts with separators between them. -/
def Style.joined (st : Style) (level : Nat) : List (List Char) → List Char
  | [] => []
  | p :: rest => p ++ rest.flatMap fun q => st.separator level ++ q

theorem joined_cons_cons (st : Style) (level : Nat) (p q : List Char) (rest : List (List Char)) :
    st.joined level (p :: q :: rest)
      = p ++ (st.separator level ++ st.joined level (q :: rest)) := by
  simp [Style.joined]

theorem bracketed_cons (st : Style) (level : Nat) (opening closing : Char) (p : List Char)
    (rest : List (List Char)) : st.bracketed level opening closing (p :: rest)
      = opening :: (st.lineBreak (level + 1) ++ (st.joined (level + 1) (p :: rest)
        ++ (st.lineBreak level ++ [closing]))) := by
  simp [Style.bracketed, Style.joined]

/-! ## Reading with fuel -/

theorem value_bracket {rest s : List Char} (h : skipSpace rest = s) (hs : Starts s) (fuel : Nat) :
    value (fuel + 1) ('[' :: rest) = (items fuel s).map fun (js, rest) => (.arr js, rest) := by
  obtain ⟨c, u, rfl, hc⟩ := hs
  rw [value, h]
  split
  · rename_i hclose
    rw [(List.cons.inj hclose).1] at hc
    cases hc
  · rfl

theorem value_brace {rest s : List Char} (h : skipSpace rest = s) (hs : Starts s) (fuel : Nat) :
    value (fuel + 1) ('\x7b' :: rest)
      = (fields fuel s).map fun (fs, rest) => (ofFields fs, rest) := by
  obtain ⟨c, u, rfl, hc⟩ := hs
  rw [value, h]
  split
  · rename_i hclose
    rw [(List.cons.inj hclose).1] at hc
    cases hc
  · rfl

/-- Written values, items and fields that are read back with so much fuel. -/
structure ReadsBack (st : Style) (fuel : Nat) : Prop where
  value {j : Json} {level : Nat} {tail : List Char} (hj : j.IsPlain)
    (hfuel : 2 * (write st level j).length ≤ fuel) (ht : EndsNumber tail) :
    value fuel (write st level j ++ tail) = .ok (j, tail)
  items {j : Json} {js : List Json} {level : Nat} {blanks tail : List Char}
    (hjs : ArePlain (j :: js))
    (hfuel : 2 * (st.joined level (writeItems st level (j :: js))).length + 1 ≤ fuel)
    (hb : AllBlank blanks) :
    items fuel (st.joined level (writeItems st level (j :: js)) ++ (blanks ++ ']' :: tail))
      = .ok (j :: js, tail)
  fields {name : String} {j : Json} {fs : List (String × Json)} {level : Nat}
    {blanks tail : List Char} (hfs : FieldsArePlain ((name, j) :: fs))
    (hfuel : 2 * (st.joined level (writeFields st level ((name, j) :: fs))).length + 1 ≤ fuel)
    (hb : AllBlank blanks) :
    fields fuel (st.joined level (writeFields st level ((name, j) :: fs))
      ++ (blanks ++ '\x7d' :: tail)) = .ok ((name, j) :: fs, tail)

theorem length_write_pos (st : Style) (level : Nat) {j : Json} (h : j.IsPlain) :
    0 < (write st level j).length := by
  obtain ⟨c, rest, hw, _⟩ := starts_write st level h
  rw [hw]
  exact Nat.succ_pos _

namespace ReadsBack

variable {st : Style} {fuel : Nat}

theorem value_succ (h : ReadsBack st fuel) {j : Json} {level : Nat} {tail : List Char}
    (hj : j.IsPlain) (hfuel : 2 * (write st level j).length ≤ fuel + 1) (ht : EndsNumber tail) :
    Json.value (fuel + 1) (write st level j ++ tail) = .ok (j, tail) := by
  have hblank := allBlank_lineBreak st (level + 1)
  match j, hj with
  | .null, _ => rfl
  | .bool true, _ => rfl
  | .bool false, _ => rfl
  | .int i, hi => exact value_int hi ht fuel
  | .str s, _ =>
    simp only [write, quotedChars, List.cons_append, List.append_assoc, List.nil_append]
    rw [Json.value, string_quoted st.asciiOnly s.toList]
    simp [Except.map, ofCodes_chars]
  | .arr [], _ => rfl
  | .arr (j :: js), hjs =>
    have hstarts : Starts (st.joined (level + 1) (writeItems st (level + 1) (j :: js))) :=
      (starts_write st (level + 1) hjs.1).append _
    rw [write, writeItems, bracketed_cons, ← writeItems] at hfuel ⊢
    simp only [List.length_cons, List.length_append] at hfuel
    simp only [List.cons_append, List.append_assoc, List.nil_append]
    rw [value_bracket (skipSpace_starts hblank (hstarts.append _)) (hstarts.append _),
      h.items hjs (by omega) (allBlank_lineBreak st level)]
    rfl
  | .obj [], _ => rfl
  | .obj ((name, j) :: fs), ⟨hnodup, hfs⟩ =>
    have hstarts : Starts (st.joined (level + 1) (writeFields st (level + 1) ((name, j) :: fs))) :=
      ⟨'"', _, rfl, by decide⟩
    rw [write, writeFields, bracketed_cons, ← writeFields] at hfuel ⊢
    simp only [List.length_cons, List.length_append] at hfuel
    simp only [List.cons_append, List.append_assoc, List.nil_append]
    rw [value_brace (skipSpace_starts hblank (hstarts.append _)) (hstarts.append _),
      h.fields hfs (by omega) (allBlank_lineBreak st level), ← ofFields_eq hnodup]
    rfl

theorem items_succ (h : ReadsBack st fuel) {j : Json} {js : List Json} {level : Nat}
    {blanks tail : List Char} (hjs : ArePlain (j :: js))
    (hfuel : 2 * (st.joined level (writeItems st level (j :: js))).length + 1 ≤ fuel + 1)
    (hb : AllBlank blanks) :
    Json.items (fuel + 1) (st.joined level (writeItems st level (j :: js))
      ++ (blanks ++ ']' :: tail)) = .ok (j :: js, tail) := by
  obtain ⟨hj, hjs⟩ := hjs
  cases js with
  | nil =>
    have hends := endsNumber_append hb (endsNumber_cons (c := ']') (by decide) tail)
    have hjoined : st.joined level (writeItems st level [j]) = write st level j :=
      List.append_nil _
    rw [hjoined] at hfuel ⊢
    rw [Json.items, h.value hj (by omega) hends]
    simp only [skipSpace_append hb (c := ']') rfl tail]
  | cons k js =>
    obtain ⟨gap, hgap, hblank⟩ := separator_eq st level
    have hpos := length_write_pos st level hj
    have hstarts : Starts (st.joined level (writeItems st level (k :: js))) :=
      (starts_write st level hjs.1).append _
    rw [writeItems, writeItems, joined_cons_cons, ← writeItems, hgap] at hfuel ⊢
    simp only [List.length_cons, List.length_append] at hfuel
    simp only [List.cons_append, List.append_assoc]
    rw [Json.items, h.value hj (by omega) (endsNumber_cons (by decide) _)]
    simp only [skipSpace_comma, skipSpace_starts hblank (hstarts.append _)]
    rw [h.items hjs (by omega) hb]
    rfl

theorem fields_succ (h : ReadsBack st fuel) {name : String} {j : Json}
    {fs : List (String × Json)} {level : Nat} {blanks tail : List Char}
    (hfs : FieldsArePlain ((name, j) :: fs))
    (hfuel : 2 * (st.joined level (writeFields st level ((name, j) :: fs))).length + 1 ≤ fuel + 1)
    (hb : AllBlank blanks) :
    Json.fields (fuel + 1) (st.joined level (writeFields st level ((name, j) :: fs))
      ++ (blanks ++ '\x7d' :: tail)) = .ok ((name, j) :: fs, tail) := by
  obtain ⟨hj, hfs⟩ := hfs
  have hname : textOfCodes (name.toList.map Char.toNat) = name := by
    rw [textOfCodes_chars, String.ofList_toList]
  have hvalue (rest : List Char) :
      skipSpace (' ' :: (write st level j ++ rest)) = write st level j ++ rest :=
    skipSpace_starts (by decide : AllBlank [' ']) ((starts_write st level hj).append rest)
  have hcolon (s : List Char) : skipSpace (':' :: s) = ':' :: s := rfl
  cases fs with
  | nil =>
    have hends := endsNumber_append hb (endsNumber_cons (c := '\x7d') (by decide) tail)
    have hjoined : st.joined level (writeFields st level [(name, j)])
        = quotedChars st.asciiOnly name.toList ++ [':', ' '] ++ write st level j :=
      List.append_nil _
    rw [hjoined, quotedChars] at hfuel ⊢
    simp only [List.length_cons, List.length_append] at hfuel
    simp only [List.cons_append, List.append_assoc, List.nil_append]
    rw [Json.fields, string_quoted]
    simp only [hcolon, hvalue]
    rw [h.value hj (by omega) hends]
    simp only [skipSpace_append hb (c := '\x7d') rfl tail, hname]
  | cons f fs =>
    obtain ⟨next, k⟩ := f
    obtain ⟨gap, hgap, hblank⟩ := separator_eq st level
    have hstarts : Starts (st.joined level (writeFields st level ((next, k) :: fs))) :=
      ⟨'"', _, rfl, by decide⟩
    rw [writeFields, writeFields, joined_cons_cons, ← writeFields, hgap, quotedChars] at hfuel ⊢
    simp only [List.length_cons, List.length_append] at hfuel
    simp only [List.cons_append, List.append_assoc, List.nil_append]
    rw [Json.fields, string_quoted]
    simp only [hcolon, hvalue]
    rw [h.value hj (by omega) (endsNumber_cons (by decide) _)]
    simp only [skipSpace_comma, skipSpace_starts hblank (hstarts.append _), hname]
    rw [h.fields hfs (by omega) hb]
    rfl

end ReadsBack

/-- With enough fuel everything written is read back, by induction on the fuel. -/
theorem readsBack (st : Style) (fuel : Nat) : ReadsBack st fuel := by
  induction fuel with
  | zero =>
    refine ⟨?_, ?_, ?_⟩
    · intro j level tail hj hfuel
      have hpos := length_write_pos st level hj
      omega
    · intro j js level blanks tail hjs hfuel
      omega
    · intro name j fs level blanks tail hfs hfuel
      omega
  | succ fuel ih => exact ⟨ih.value_succ, ih.items_succ, ih.fields_succ⟩

/-- A written value is a document, also with blanks behind it. -/
theorem document_write (st : Style) {j : Json} (hj : j.IsPlain) {blanks : List Char}
    (hb : AllBlank blanks) : document (write st 0 j ++ blanks) = .ok j := by
  have hstarts := (starts_write st 0 hj).append blanks
  have hskip : skipSpace (write st 0 j ++ blanks) = write st 0 j ++ blanks :=
    skipSpace_starts (by decide : AllBlank []) hstarts
  have hends : EndsNumber blanks := by
    rw [← List.append_nil blanks]
    exact endsNumber_append hb endsNumber_nil
  have hmark : ((write st 0 j ++ blanks).head? == some (Char.ofNat 0xFEFF)) = false := by
    obtain ⟨c, rest, hs, hc⟩ := hstarts
    simp only [opensValue, Bool.and_eq_true, bne_iff_ne] at hc
    simpa [hs] using hc.2
  rw [document, hmark, if_neg (by decide), hskip,
    (readsBack st _).value hj (by simp only [List.length_append]; omega) hends]
  simp only [skipSpace_allBlank hb]

theorem read_written (st : Style) {j : Json} (hj : j.IsPlain) : read (render st j) = .ok j := by
  have hdoc := document_write st hj (by decide : AllBlank [])
  rw [List.append_nil] at hdoc
  rw [read, render, String.toList_ofList, hdoc]

end ConceptInventory.Json
