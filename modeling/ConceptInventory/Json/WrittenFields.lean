import ConceptInventory.Json.Reader

/-!
# Fields as they are written

An object may be written with several fields of one name. Reading keeps one of
them, and which one is said here of the fields as they stand in the text: the last.
-/
namespace ConceptInventory.Json

/-- The value of the last field with a name. -/
def lastOf? (written : List (String × Json)) (name : String) : Option Json :=
  (written.reverse.find? fun f => f.1 == name).map Prod.snd

/-- The fields of the object a text holds, in the order they are written. -/
def writtenFields? (text : String) : Option (List (String × Json)) :=
  match skipSpace text.toList with
  | '\x7b' :: rest =>
    match skipSpace rest with
    | '\x7d' :: _ => some []
    | rest => (fields (2 * text.toList.length + 1) rest).toOption.map Prod.fst
  | _ => none

/-- The text is JSON, an object that is written with these fields. -/
def IsObject (text : String) (written : List (String × Json)) : Prop :=
  read text = .ok (ofFields written) ∧ writtenFields? text = some written

/-! ## The last field counts -/

theorem fieldOf?_cons (f : String × Json) (fields : List (String × Json)) (name : String) :
    fieldOf? (f :: fields) name = if f.1 == name then some f.2 else fieldOf? fields name := by
  cases h : f.1 == name <;> simp [fieldOf?, h]

theorem fieldOf?_setField (fields : List (String × Json)) (name : String) (value : Json)
    (sought : String) : fieldOf? (setField fields name value) sought
      = if name == sought then some value else fieldOf? fields sought := by
  induction fields with
  | nil => exact fieldOf?_cons (name, value) [] sought
  | cons f fields ih =>
    rw [setField]
    split
    · rename_i hf
      rw [fieldOf?_cons, fieldOf?_cons, eq_of_beq hf]
      split <;> rfl
    · rename_i hf
      rw [fieldOf?_cons, fieldOf?_cons, ih]
      by_cases h : f.1 = sought
      · have hne : name ≠ sought := fun hn => hf (by simp [h, hn])
        simp [h, hne]
      · simp [h]

theorem lastOf?_cons (f : String × Json) (written : List (String × Json)) (name : String) :
    lastOf? (f :: written) name
      = (lastOf? written name).or (if f.1 == name then some f.2 else none) := by
  by_cases h : f.1 = name <;>
    cases hw : written.reverse.find? (fun f => f.1 == name) <;>
      simp [lastOf?, List.find?_append, h, hw]

theorem fieldOf?_foldl (fields written : List (String × Json)) (name : String) :
    fieldOf? (written.foldl (fun o f => setField o f.1 f.2) fields) name
      = (lastOf? written name).or (fieldOf? fields name) := by
  induction written generalizing fields with
  | nil => rfl
  | cons f written ih =>
    rw [List.foldl_cons, ih, lastOf?_cons, fieldOf?_setField, Option.or_assoc]
    by_cases h : f.1 = name <;> simp [h]

/-- Of the fields of one name the object has the last. -/
theorem fieldOf?_ofFields {written fields : List (String × Json)}
    (h : ofFields written = .obj fields) (name : String) :
    fieldOf? fields name = lastOf? written name := by
  obtain rfl := Json.obj.inj h
  rw [fieldOf?_foldl]
  exact Option.or_none

/-! ## Objects come from fields -/

theorem ofCodes_ne_obj (codes : List Nat) (fields : List (String × Json)) :
    ofCodes codes ≠ .obj fields := by
  rw [ofCodes]
  split <;> nofun

theorem numeralValue_ne_obj (n : Numeral) (fields : List (String × Json)) :
    n.value ≠ .ok (.obj fields) := by
  rw [Numeral.value]
  split
  · split <;> nofun
  · nofun

theorem scalar_ne_obj {s rest : List Char} {fields : List (String × Json)} :
    scalar s ≠ .ok (.obj fields, rest) := by
  have hnames : ∀ e ∈ names, ∀ fields, e.2 ≠ .obj fields := by
    intro e he fields
    simp only [names, List.mem_cons, List.not_mem_nil, or_false] at he
    rcases he with rfl | rfl | rfl | rfl | rfl | rfl <;> nofun
  intro h
  rw [scalar] at h
  split at h
  · rename_i name j hname
    cases h
    exact hnames _ (List.mem_of_find?_eq_some hname) fields rfl
  · split at h
    · cases h
    · rename_i n _ _
      split at h
      · rename_i j hj
        cases h
        exact numeralValue_ne_obj n fields hj
      · cases h

theorem exists_of_map_eq_ok {ε α β : Type} {f : α → β} {x : Except ε α} {b : β}
    (h : x.map f = .ok b) : ∃ a, x = .ok a ∧ f a = b := by
  cases x with
  | error e => cases h
  | ok a => exact ⟨a, rfl, Except.ok.inj h⟩

/-- A value that is an object starts with a brace, and has no fields or is made of
those that follow. -/
theorem value_eq_obj {fuel : Nat} {s rest : List Char} {fs : List (String × Json)}
    (h : value (fuel + 1) s = .ok (.obj fs, rest)) :
    ∃ more, s = '\x7b' :: more
      ∧ ((∃ behind, skipSpace more = '\x7d' :: behind) ∧ fs = []
        ∨ (∀ behind, skipSpace more ≠ '\x7d' :: behind)
          ∧ ∃ written, fields fuel (skipSpace more) = .ok (written, rest)
            ∧ ofFields written = .obj fs) := by
  unfold value at h
  split at h
  · obtain ⟨r, _, hr⟩ := exists_of_map_eq_ok h
    exact absurd (congrArg Prod.fst hr) (ofCodes_ne_obj _ _)
  · split at h
    · cases h
    · obtain ⟨r, _, hr⟩ := exists_of_map_eq_ok h
      cases hr
  · rename_i more
    refine ⟨more, rfl, ?_⟩
    split at h
    · rename_i behind hclose
      cases h
      exact .inl ⟨⟨_, hclose⟩, rfl⟩
    · rename_i hopen
      obtain ⟨r, hfields, hr⟩ := exists_of_map_eq_ok h
      obtain ⟨hobj, rfl⟩ := Prod.mk.inj hr
      exact .inr ⟨hopen, r.1, hfields, hobj⟩
  · exact absurd h scalar_ne_obj

theorem value_of_read {text : String} {j : Json} (h : read text = .ok j) :
    ∃ rest, value (2 * text.toList.length + 2) (skipSpace text.toList) = .ok (j, rest) := by
  have hdoc : document text.toList = .ok j := by
    rw [read] at h
    split at h
    · rename_i hdoc
      cases h
      exact hdoc
    · cases h
    · cases h
  rw [document] at hdoc
  split at hdoc
  · cases hdoc
  · split at hdoc
    · cases hdoc
    · rename_i rest hvalue
      split at hdoc
      · cases hdoc
        exact ⟨rest, hvalue⟩
      · cases hdoc

/-- An object that is read is made of the fields it is written with. -/
theorem exists_written {text : String} {fs : List (String × Json)}
    (h : read text = .ok (.obj fs)) :
    ∃ written, IsObject text written ∧ ofFields written = .obj fs := by
  obtain ⟨rest, hvalue⟩ := value_of_read h
  obtain ⟨more, hopen, ⟨⟨behind, hclose⟩, rfl⟩ | ⟨hfields, written, hwritten, hobj⟩⟩ :=
    value_eq_obj hvalue
  · refine ⟨[], ⟨h, ?_⟩, rfl⟩
    simp only [writtenFields?, hopen, hclose]
  · refine ⟨written, ⟨h.trans (congrArg _ hobj.symm), ?_⟩, hobj⟩
    unfold writtenFields?
    rw [hopen]
    split
    · rename_i hmore
      cases hmore
      split
      · rename_i hclose
        exact absurd hclose (hfields _)
      · rw [hwritten]
        rfl
    · rename_i hno
      exact absurd rfl (hno more)

end ConceptInventory.Json
