import ConceptInventory.Console.Screen
import Mathlib.Data.List.TakeWhile

/-!
# What the console prints and what it refuses

Whatever is known of styles, a text without opening brackets is printed, also with a style
around it, and a text is refused if its first bracket opens a closing tag. Only the tags of a
text matter for that, so a character in front of the parts that are left changes nothing.
-/
namespace ConceptInventory.Markup

/-! ## Parts -/

section
variable {styles : Styles} {opened : List Tag} {parts : List Part}

/-- Every closing tag among the parts finds an open tag to close. -/
def Printed (styles : Styles) (opened : List Tag) (parts : List Part) : Prop :=
  ∃ t, textFrom styles opened parts = .ok t

theorem printed_nil : Printed styles opened [] := ⟨[], rfl⟩

theorem printed_written (text : List Char) :
    Printed styles opened (.written text :: parts) ↔ Printed styles opened parts := by
  rw [Printed, Printed, textFrom]
  cases textFrom styles opened parts <;> simp [Except.map]

theorem printed_kept (text : List Char) :
    Printed styles opened (.kept text :: parts) ↔ Printed styles opened parts := by
  rw [Printed, Printed, textFrom]
  cases textFrom styles opened parts <;> simp [Except.map]

theorem printed_cons (c : Char) :
    Printed styles opened (Part.cons c parts) ↔ Printed styles opened parts := by
  cases parts with
  | nil => exact printed_written [c]
  | cons part parts =>
    cases part with
    | written text => exact (printed_written (c :: text)).trans (printed_written text).symm
    | kept text => exact printed_written [c]
    | tag position text => exact printed_written [c]

theorem printed_tag {position : Nat} {text : List Char} {left : List Tag}
    (h : follow styles opened position text = .ok left) :
    Printed styles opened (.tag position text :: parts) ↔ Printed styles left parts := by
  rw [Printed, Printed, textFrom, h]

theorem not_printed_tag {position : Nat} {text : List Char} {e : Error}
    (h : follow styles opened position text = .error e) :
    ¬Printed styles opened (.tag position text :: parts) := by
  rintro ⟨t, ht⟩
  rw [textFrom, h] at ht
  cases ht

/-- The tag without a name closes the innermost one, if that has no parameters. -/
theorem follow_close (position : Nat) {t : Tag} (h : t.parameters = []) :
    follow styles (t :: opened) position ['/'] = .ok opened := by
  simp [follow, closed, Tag.ofText, Tag.complaint?, h, trimBlanks, trim]

theorem follow_of_none_open (position : Nat) (name : List Char) :
    ∃ e, follow styles [] position ('/' :: name) = .error e := by
  simp [follow, closed, Tag.ofText, close]

end

/-! ## The front of a text -/

section
variable {s body : List Char}

theorem tagBody_close (hopen : '[' ∉ body) (hclose : ']' ∉ body) (rest : List Char) :
    tagBody (body ++ ']' :: rest) = some (body, rest) := by
  induction body with
  | nil => rfl
  | cons c body ih =>
    have hc : c ≠ '[' ∧ c ≠ ']' :=
      ⟨fun hc => hopen (hc ▸ List.mem_cons_self), fun hc => hclose (hc ▸ List.mem_cons_self)⟩
    have hbody := ih (fun h => hopen (List.mem_cons_of_mem c h))
      (fun h => hclose (List.mem_cons_of_mem c h))
    rw [List.cons_append, tagBody.eq_4 _ _ hc.2 hc.1, hbody, Option.map_some]

theorem tag?_of_head (h : s.head? ≠ some '[') : tag? s = none := by
  unfold tag?
  split
  · exact absurd rfl h
  · rfl

theorem slashedTag?_slash (s : List Char) :
    slashedTag? ('\\' :: s) = (slashedTag? s).map fun (n, tag, rest) => (n + 1, tag, rest) := by
  simp only [slashedTag?, List.takeWhile_cons, beq_self_eq_true, if_true, List.length_cons,
    List.drop_succ_cons]
  cases tag? (s.drop (s.takeWhile (· == '\\')).length) <;> rfl

theorem slashedTag?_of_head (h : s.head? ≠ some '\\') :
    slashedTag? s = (tag? s).map fun (tag, rest) => (0, tag, rest) := by
  have hnone : s.takeWhile (· == '\\') = [] := by
    cases s with
    | nil => rfl
    | cons c s =>
      have hc : (c == '\\') = false := by simpa using h
      rw [List.takeWhile_cons, hc, if_neg Bool.false_ne_true]
  simp only [slashedTag?, hnone, List.length_nil, List.drop_zero]

theorem slashedTag?_cons_eq_none {c : Char} (hopen : c ≠ '[') (hslash : c ≠ '\\') (s : List Char) :
    slashedTag? (c :: s) = none := by
  rw [slashedTag?_of_head (by simpa using hslash), tag?_of_head (by simpa using hopen),
    Option.map_none]

theorem slashedTag?_tag {c : Char} (hc : startsTag c = true) (hopen : '[' ∉ body)
    (hclose : ']' ∉ body) (rest : List Char) :
    slashedTag? ('[' :: c :: (body ++ ']' :: rest)) = some (0, c :: body, rest) := by
  rw [slashedTag?_of_head (by simp), tag?, if_pos hc, tagBody_close hopen hclose]
  rfl

theorem slashedTag?_of_no_open (h : '[' ∉ s) : slashedTag? s = none := by
  induction s with
  | nil => rfl
  | cons c s ih =>
    by_cases hc : c = '\\'
    · rw [hc, slashedTag?_slash, ih fun hs => h (List.mem_cons_of_mem c hs), Option.map_none]
    · have hopen : c ≠ '[' := fun hc => h (hc ▸ List.mem_cons_self)
      exact slashedTag?_cons_eq_none hopen hc s

/-- A text without opening brackets and a closing tag behind it starts with no other tag. -/
theorem slashedTag?_close (h : '[' ∉ s) : slashedTag? (s ++ ['[', '/', ']']) = none
    ∨ ∃ k, slashedTag? (s ++ ['[', '/', ']']) = some (k, ['/'], []) := by
  induction s with
  | nil => exact .inr ⟨0, rfl⟩
  | cons c s ih =>
    have hs : '[' ∉ s := fun hc => h (List.mem_cons_of_mem c hc)
    by_cases hc : c = '\\'
    · rw [hc, List.cons_append, slashedTag?_slash]
      rcases ih hs with hnone | ⟨k, hsome⟩
      · exact .inl (by rw [hnone, Option.map_none])
      · exact .inr ⟨k + 1, by rw [hsome, Option.map_some]⟩
    · have hopen : c ≠ '[' := fun hc => h (hc ▸ List.mem_cons_self)
      exact .inl (slashedTag?_cons_eq_none hopen hc _)

theorem partsFrom_nil (n position : Nat) : partsFrom n position [] = [] := by
  cases n <;> rfl

/-- A character that is in no tag, and no backslash in front of a bracket. -/
theorem partsFrom_cons {c : Char} (h : slashedTag? (c :: s) = none)
    (hhead : c = '\\' → s.head? ≠ some '[') (n position : Nat) :
    partsFrom (n + 1) position (c :: s) = Part.cons c (partsFrom n (position + 1) s) := by
  rw [partsFrom, h]
  rintro rest rfl rfl
  exact hhead rfl rfl

theorem partsFrom_tag {c : Char} {k : Nat} {tag rest : List Char}
    (h : slashedTag? (c :: s) = some (k, tag, rest)) (n position : Nat) :
    partsFrom (n + 1) position (c :: s) = .kept (List.replicate (k / 2) '\\')
      :: (if k % 2 == 1 then .kept ('[' :: tag ++ [']']) else .tag (position + k) tag)
      :: partsFrom n (position + k + tag.length + 2) rest := by
  rw [partsFrom.eq_def]
  simp only [h]

end

/-! ## Whole texts -/

section
variable {styles : Styles} {opened : List Tag} {s : List Char}

theorem printed_of_no_open (h : '[' ∉ s) (n position : Nat) :
    Printed styles opened (partsFrom n position s) := by
  induction s generalizing n position with
  | nil =>
    rw [partsFrom_nil]
    exact printed_nil
  | cons c s ih =>
    have hs : '[' ∉ s := fun hc => h (List.mem_cons_of_mem c hc)
    cases n with
    | zero => exact printed_nil
    | succ n =>
      have hhead : s.head? ≠ some '[' := fun hc => hs (List.mem_of_head? hc)
      rw [partsFrom_cons (slashedTag?_of_no_open h) fun _ => hhead, printed_cons]
      exact ih hs n (position + 1)

/-- Backslashes at the end of the text may keep the closing tag as text. -/
theorem printed_close (h : '[' ∉ s) {t : Tag} (ht : t.parameters = []) (n position : Nat) :
    Printed styles (t :: opened) (partsFrom n position (s ++ ['[', '/', ']'])) := by
  have htag (n k position : Nat) {c : Char} {s : List Char}
      (hfront : slashedTag? (c :: s) = some (k, ['/'], [])) :
      Printed styles (t :: opened) (partsFrom (n + 1) position (c :: s)) := by
    rw [partsFrom_tag hfront, printed_kept, partsFrom_nil]
    split
    · exact (printed_kept _).mpr printed_nil
    · exact (printed_tag (follow_close _ ht)).mpr printed_nil
  induction s generalizing n position with
  | nil =>
    cases n with
    | zero => exact printed_nil
    | succ n => exact htag n 0 position rfl
  | cons c s ih =>
    have hs : '[' ∉ s := fun hc => h (List.mem_cons_of_mem c hc)
    cases n with
    | zero => exact printed_nil
    | succ n =>
      rcases slashedTag?_close h with hnone | ⟨k, hsome⟩
      · rw [List.cons_append] at hnone ⊢
        have hhead : c = '\\' → (s ++ ['[', '/', ']']).head? ≠ some '[' := by
          rintro rfl
          cases s with
          | nil => cases hnone
          | cons d s => simpa using fun hd : d = '[' => hs (hd ▸ List.mem_cons_self)
        rw [partsFrom_cons hnone hhead, printed_cons]
        exact ih hs n (position + 1)
      · exact htag n k position hsome

/-- A word in brackets opens a style, which the tag at the end closes. -/
theorem printed_style {c : Char} {body : List Char} (hletters : ∀ d ∈ c :: body, 'a' ≤ d ∧ d ≤ 'z')
    (h : '[' ∉ s) (n position : Nat) : Printed styles opened (partsFrom n position
      ('[' :: c :: (body ++ ']' :: (s ++ ['[', '/', ']'])))) := by
  have hother {d : Char} (hd : ¬('a' ≤ d ∧ d ≤ 'z')) : d ∉ c :: body := fun hmem =>
    hd (hletters d hmem)
  have hopen : '[' ∉ body := fun hmem => hother (by decide) (List.mem_cons_of_mem c hmem)
  have hclose : ']' ∉ body := fun hmem => hother (by decide) (List.mem_cons_of_mem c hmem)
  have hslash : c ≠ '/' := by
    rintro rfl
    exact hother (by decide) List.mem_cons_self
  have hstarts : startsTag c = true := by
    simp [startsTag, hletters c List.mem_cons_self]
  have hname : (c :: body).takeWhile (· != '=') = c :: body := by
    rw [List.takeWhile_eq_self_iff]
    intro d hd
    have hne : d ≠ '=' := by
      rintro rfl
      exact hother (by decide) hd
    simpa using hne
  cases n with
  | zero => exact printed_nil
  | succ n =>
    have hopened : follow styles opened (position + 0) (c :: body)
        = .ok (⟨(styles.normal (String.ofList (c :: body))).toList, []⟩ :: opened) := by
      simp [follow, Tag.ofText, hname, hslash]
    rw [partsFrom_tag (slashedTag?_tag hstarts hopen hclose _)]
    exact (printed_kept _).mpr ((printed_tag hopened).mpr (printed_close h rfl _ _))

/-- Nothing is open in front of the first bracket, so a closing tag there finds nothing to
close. -/
theorem not_printed_of_close {before name : List Char} (hbefore : ∀ c ∈ before, c ≠ '[' ∧ c ≠ '\\')
    (hopen : '[' ∉ name) (hclose : ']' ∉ name) (after : List Char) {n : Nat}
    (hn : before.length < n) (position : Nat) :
    ¬Printed styles [] (partsFrom n position (before ++ '[' :: '/' :: (name ++ ']' :: after))) := by
  induction before generalizing n position with
  | nil =>
    obtain ⟨m, rfl⟩ := Nat.exists_eq_add_one_of_ne_zero (Nat.ne_of_gt hn)
    obtain ⟨e, he⟩ : ∃ e, follow styles [] (position + 0) ('/' :: name) = .error e :=
      follow_of_none_open _ name
    have hfront := slashedTag?_tag (c := '/') (by decide) hopen hclose after
    rw [List.nil_append, partsFrom_tag hfront]
    exact fun h => not_printed_tag he ((printed_kept _).mp h)
  | cons c before ih =>
    obtain ⟨m, rfl⟩ := Nat.exists_eq_add_one_of_ne_zero (Nat.ne_of_gt (Nat.zero_lt_of_lt hn))
    obtain ⟨hc, hslash⟩ := hbefore c List.mem_cons_self
    rw [List.cons_append, partsFrom_cons (slashedTag?_cons_eq_none hc hslash _)
      fun h => absurd h hslash, printed_cons]
    rw [List.length_cons] at hn
    exact ih (fun d hd => hbefore d (List.mem_cons_of_mem c hd)) (by omega) (position + 1)

end

end ConceptInventory.Markup

namespace ConceptInventory.Console

variable (styles : Markup.Styles)

theorem print_eq_ok_iff (s : String) : (∃ t, print styles s = .ok t)
    ↔ Markup.Printed styles [] (Markup.partsFrom s.length 0 s.toList) := by
  rw [Markup.Printed, print, shown, Markup.plain]
  cases Markup.textFrom styles [] (Markup.partsFrom s.length 0 s.toList) <;> simp [Except.map]

theorem print_eq_error_iff (s : String) : (∃ complaint, print styles s = .error complaint)
    ↔ ¬Markup.Printed styles [] (Markup.partsFrom s.length 0 s.toList) := by
  rw [← print_eq_ok_iff]
  cases print styles s <;> simp

/-- The console can be relied on as a printer that reads tags, whatever the styles are. -/
theorem readsMarkup_printer : (printer styles).ReadsMarkup where
  plain s h := (print_eq_ok_iff styles s).mpr (Markup.printed_of_no_open h _ _)
  styled word s hword hletters h := by
    refine (print_eq_ok_iff styles _).mpr ?_
    have hlist : ("[" ++ word ++ "]" ++ s ++ "[/]").toList
        = '[' :: (word.toList ++ ']' :: (s.toList ++ ['[', '/', ']'])) := by
      simp
    obtain ⟨c, body, hbody⟩ := List.exists_cons_of_ne_nil (mt String.toList_eq_nil_iff.mp hword)
    rw [hlist, hbody]
    rw [hbody] at hletters
    exact Markup.printed_style hletters h _ _
  unopened before name after hopen hslash hname hclose := by
    refine (print_eq_error_iff styles _).mpr ?_
    have hlist : (before ++ "[/" ++ name ++ "]" ++ after).toList
        = before.toList ++ '[' :: '/' :: (name.toList ++ ']' :: after.toList) := by
      simp
    rw [hlist]
    refine Markup.not_printed_of_close ?_ hname hclose _ ?_ _
    · exact fun c hc => ⟨fun h => hopen (h ▸ hc), fun h => hslash (h ▸ hc)⟩
    · rw [← String.length_toList, hlist, List.length_append, List.length_cons]
      omega

end ConceptInventory.Console
