import ConceptInventory.Proofs.JsonRoundTrip
import ConceptInventory.Transcript.Validity
import ConceptInventory.Transcript.Written

/-!
# Transcript files read back

A transcript file is read as the entries it was written from, whatever ends the
lines and wherever blank lines stand. A line of an entry has no line break of
its own, since the breaks of its text are escaped. A carriage return can fuse
with the line feed of an empty line behind it, so the lines read may be fewer
than those written, but what is lost is blank.
-/
namespace ConceptInventory

open Json

/-! ## Values on one line -/

/-- No character ends a line. -/
def BreakFree (s : List Char) : Prop := ∀ c ∈ s, c ≠ '\n' ∧ c ≠ '\r'

instance (s : List Char) : Decidable (BreakFree s) :=
  List.decidableBAll _ s

theorem BreakFree.append {s t : List Char} (hs : BreakFree s) (ht : BreakFree t) :
    BreakFree (s ++ t) := by
  intro c hc
  rcases List.mem_append.mp hc with hc | hc
  · exact hs c hc
  · exact ht c hc

theorem BreakFree.flatMap {α : Type} {parts : List α} {f : α → List Char}
    (h : ∀ p ∈ parts, BreakFree (f p)) : BreakFree (parts.flatMap f) := by
  intro c hc
  obtain ⟨p, hp, hc⟩ := List.mem_flatMap.mp hc
  exact h p hp c hc

theorem breakFree_hexDigit : ∀ n < 16, BreakFree [hexDigit n] := by decide

theorem breakFree_unicodeEscape (n : Nat) : BreakFree (unicodeEscape n) := by
  have hdigit (k : Nat) : BreakFree [hexDigit (k % 16)] :=
    breakFree_hexDigit _ (Nat.mod_lt k (by decide))
  have hstart : BreakFree ['\\', 'u'] := by decide
  exact (((hstart.append (hdigit _)).append (hdigit _)).append (hdigit _)).append (hdigit _)

theorem breakFree_of_escaped {asciiOnly : Bool} {c : Char} {s : List Char}
    (h : Escaped asciiOnly c s) : BreakFree s := by
  cases h with
  | @letter d hd _ =>
    have hletter : d ≠ '\n' ∧ d ≠ '\r' := by
      constructor <;> rintro rfl <;> cases hd
    intro x hx
    rcases List.mem_cons.mp hx with rfl | hx
    · decide
    · rw [List.mem_singleton.mp hx]
      exact hletter
  | code => exact breakFree_unicodeEscape _
  | raw _ _ hcontrol =>
    intro x hx
    rw [List.mem_singleton.mp hx]
    constructor <;> rintro rfl <;> exact hcontrol (by decide)
  | pair => exact .flatMap fun n _ => breakFree_unicodeEscape n

theorem breakFree_quotedChars (asciiOnly : Bool) (s : List Char) :
    BreakFree (quotedChars asciiOnly s) := by
  have hquote : BreakFree ['"'] := by decide
  have hescape (c : Char) : BreakFree (escape asciiOnly c) :=
    breakFree_of_escaped (escaped_escape asciiOnly c)
  exact (hquote.append (.flatMap fun c _ => hescape c)).append hquote

theorem breakFree_bracketed {asciiOnly : Bool} (level : Nat) {opening closing : Char}
    (hbrackets : BreakFree [opening, closing]) {parts : List (List Char)}
    (hparts : ∀ p ∈ parts, BreakFree p) :
    BreakFree (Style.bracketed ⟨none, asciiOnly⟩ level opening closing parts) := by
  cases parts with
  | nil => exact hbrackets
  | cons p rest =>
    have hopening : BreakFree [opening] := fun c hc => hbrackets c (by simp_all)
    have hclosing : BreakFree [closing] := fun c hc => hbrackets c (by simp_all)
    have hseparator : BreakFree [',', ' '] := by decide
    rw [bracketed_cons, Style.lineBreak, Style.lineBreak, Style.joined]
    refine hopening.append (.append (hparts p List.mem_cons_self |>.append ?_) hclosing)
    exact .flatMap fun q hq => hseparator.append (hparts q (List.mem_cons_of_mem _ hq))

theorem breakFree_int (i : Int) : BreakFree (toString i).toList := by
  rw [toList_toString]
  have hsign : BreakFree (signChars (decide (i < 0))) := by
    cases decide (i < 0) <;> decide
  refine hsign.append fun c hc => ?_
  have hdigit := isDigit_of_mem_toDigits hc
  exact ⟨ne_of_isDigit hdigit rfl, ne_of_isDigit hdigit rfl⟩

mutual

/-- A value written on one line stays on one line. -/
theorem breakFree_write (asciiOnly : Bool) (level : Nat) :
    ∀ j : Json, j.IsPlain → BreakFree (write ⟨none, asciiOnly⟩ level j)
  | .null, _ => (by decide : BreakFree ['n', 'u', 'l', 'l'])
  | .bool true, _ => (by decide : BreakFree ['t', 'r', 'u', 'e'])
  | .bool false, _ => (by decide : BreakFree ['f', 'a', 'l', 's', 'e'])
  | .int i, _ => breakFree_int i
  | .str s, _ => breakFree_quotedChars asciiOnly s.toList
  | .arr items, h => breakFree_bracketed level (by decide) (breakFree_writeItems _ _ items h)
  | .obj fields, h => breakFree_bracketed level (by decide) (breakFree_writeFields _ _ fields h.2)

theorem breakFree_writeItems (asciiOnly : Bool) (level : Nat) :
    ∀ js : List Json, ArePlain js → ∀ p ∈ writeItems ⟨none, asciiOnly⟩ level js, BreakFree p
  | [], _ => by
    intro p hp
    cases hp
  | j :: js, h => by
    intro p hp
    rcases List.mem_cons.mp hp with rfl | hp
    · exact breakFree_write asciiOnly level j h.1
    · exact breakFree_writeItems asciiOnly level js h.2 p hp

theorem breakFree_writeFields (asciiOnly : Bool) (level : Nat) :
    ∀ fs : List (String × Json), FieldsArePlain fs →
      ∀ p ∈ writeFields ⟨none, asciiOnly⟩ level fs, BreakFree p
  | [], _ => by
    intro p hp
    cases hp
  | (name, j) :: fs, h => by
    intro p hp
    have hcolon : BreakFree [':', ' '] := by decide
    rcases List.mem_cons.mp hp with rfl | hp
    · exact ((breakFree_quotedChars asciiOnly name.toList).append hcolon).append
        (breakFree_write asciiOnly level j h.1)
    · exact breakFree_writeFields asciiOnly level fs h.2 p hp

end

/-! ## Lines -/

theorem linesOf_cons {c : Char} (hc : c ≠ '\n' ∧ c ≠ '\r') {s line : List Char}
    {lines : List (List Char)} (h : linesOf s = line :: lines) :
    linesOf (c :: s) = (c :: line) :: lines := by
  have hbreak : (c == '\n' || c == '\r') = false := by simp [hc]
  rw [linesOf, hbreak, h]
  · rfl
  · intro rest hrest
    exact absurd hrest (by simp [hc.2])

theorem linesOf_append {s : List Char} (hs : BreakFree s) {t line : List Char}
    {lines : List (List Char)} (h : linesOf t = line :: lines) :
    linesOf (s ++ t) = (s ++ line) :: lines := by
  induction s with
  | nil => exact h
  | cons c s ih =>
    exact linesOf_cons (hs c List.mem_cons_self) (ih fun d hd => hs d (List.mem_cons_of_mem c hd))

/-- A last line without an end is a line unless it is empty. -/
theorem linesOf_last {s : List Char} (hs : BreakFree s) (hne : s ≠ []) : linesOf s = [s] := by
  induction s with
  | nil => exact absurd rfl hne
  | cons c s ih =>
    have hc := hs c List.mem_cons_self
    cases s with
    | nil => simp [linesOf, hc]
    | cons d s =>
      have hrest : BreakFree (d :: s) := fun x hx => hs x (List.mem_cons_of_mem c hx)
      exact linesOf_cons hc (ih hrest (List.cons_ne_nil d s))

namespace Transcript

open LineEnd in
/-- An ended line is read with a line feed. What is read behind it are the lines
that stand there, less an empty one that fuses with the end. -/
theorem linesOf_ended {s : List Char} (hs : BreakFree s) (e : LineEnd) (rest : List Char) :
    ∃ lines, linesOf (s ++ e.chars ++ rest) = (s ++ ['\n']) :: lines
      ∧ (lines = linesOf rest ∨ linesOf rest = ['\n'] :: lines) := by
  have hbreak (lines : List (List Char))
      (h : linesOf (e.chars ++ rest) = ['\n'] :: lines) :
      linesOf (s ++ e.chars ++ rest) = (s ++ ['\n']) :: lines := by
    rw [List.append_assoc]
    exact linesOf_append hs h
  match e, rest with
  | .feed, rest => exact ⟨linesOf rest, hbreak _ (by simp [LineEnd.chars, linesOf]), .inl rfl⟩
  | .both, rest => exact ⟨linesOf rest, hbreak _ (by simp [LineEnd.chars, linesOf]), .inl rfl⟩
  | .carriage, [] => exact ⟨[], hbreak _ (by simp [LineEnd.chars, linesOf]), .inl rfl⟩
  | .carriage, c :: rest =>
    by_cases hc : c = '\n'
    · subst hc
      exact ⟨linesOf rest, hbreak _ (by simp [LineEnd.chars, linesOf]),
        .inr (by simp [linesOf])⟩
    · refine ⟨linesOf (c :: rest), hbreak _ ?_, .inl rfl⟩
      simp [LineEnd.chars, linesOf, hc]

/-! ## Lines that hold entries -/

/-- A blank line, or one of an entry whose offset is not too long to be read. -/
def WrittenLine.IsReadable (l : WrittenLine) : Prop :=
  l.IsProper ∧ ∀ e ∈ l.entries, e.offset < Nat.pow 10 4300

theorem isPlain_entry {e : Entry} (h : e.offset < Nat.pow 10 4300) : e.toJson.IsPlain := by
  simp [Entry.toJson, IsPlain, FieldsArePlain, inRange_of_lt h]

theorem breakFree_chars {l : WrittenLine} (h : l.IsReadable) : BreakFree l.chars := by
  cases l with
  | entry e asciiOnly =>
    have hshort := h.2 e (by simp [WrittenLine.entries])
    exact breakFree_write asciiOnly 0 _ (isPlain_entry hshort)
  | blank spaces =>
    intro c hc
    rcases h.1 c hc with rfl | rfl <;> decide

/-- A line that is read holds the entries it was written from, with or without
its line feed. -/
theorem holds_cons {l : WrittenLine} (h : l.IsReadable) {tail : List Char}
    (htail : AllBlank tail) (hbreaks : isAllBlank (String.ofList tail) = true)
    {lines : List String} {es : List Entry} (hlines : Holds lines es) :
    Holds (String.ofList (l.chars ++ tail) :: lines) (l.entries ++ es) := by
  cases l with
  | entry e asciiOnly =>
    have hplain := isPlain_entry (h.2 e (by simp [WrittenLine.entries]))
    have hdoc := document_write ⟨none, asciiOnly⟩ hplain htail
    have hread : Json.read (String.ofList ((WrittenLine.entry e asciiOnly).chars ++ tail))
        = .ok e.toJson := by
      rw [WrittenLine.chars, Json.read, String.toList_ofList, hdoc]
    refine .entry ?_ ⟨_, hread, rfl, rfl⟩ hlines
    simp [isAllBlank, WrittenLine.chars, Entry.toJson, write, bracketed_cons, writeFields, isBlank]
  | blank spaces =>
    refine .blank ?_ hlines
    rw [isAllBlank, String.toList_ofList, List.all_append, Bool.and_eq_true]
    constructor
    · rw [List.all_eq_true]
      intro c hc
      rcases h.1 c hc with rfl | rfl <;> rfl
    · simpa [isAllBlank] using hbreaks

theorem holds_of_fused {lines : List String} {es : List Entry}
    (h : Holds (String.ofList ['\n'] :: lines) es) : Holds lines es := by
  cases h with
  | blank _ h => exact h
  | entry hb _ _ =>
    have hblank : isAllBlank (String.ofList ['\n']) = true := by decide
    rw [hblank] at hb
    cases hb

/-- The lines of a file hold its entries. -/
theorem holds_fileText {ended : List (WrittenLine × LineEnd)} {last : WrittenLine}
    (hended : ∀ l ∈ ended, l.1.IsReadable) (hlast : last.IsReadable) :
    Holds ((linesOf (fileText ended last)).map String.ofList) (fileEntries ended last) := by
  induction ended with
  | nil =>
    have hchars : BreakFree last.chars := breakFree_chars hlast
    have hlines := holds_cons hlast (by decide : AllBlank []) (by decide) .nil
    rw [List.append_nil, List.append_nil] at hlines
    by_cases hempty : last.chars = []
    · cases last with
      | entry e asciiOnly => cases hempty
      | blank spaces =>
        obtain rfl : spaces = [] := hempty
        exact .nil
    · simpa [fileText, fileEntries, linesOf_last hchars hempty] using hlines
  | cons l ended ih =>
    have hl := hended l List.mem_cons_self
    have hrest := ih fun k hk => hended k (List.mem_cons_of_mem l hk)
    obtain ⟨lines, hlines, hfuse⟩ :=
      linesOf_ended (breakFree_chars hl) l.2 (fileText ended last)
    have hbehind : Holds (lines.map String.ofList) (fileEntries ended last) := by
      rcases hfuse with rfl | hfuse
      · exact hrest
      · rw [hfuse] at hrest
        exact holds_of_fused hrest
    have htext : fileText (l :: ended) last = l.1.chars ++ l.2.chars ++ fileText ended last := by
      simp [fileText]
    have hentries : fileEntries (l :: ended) last = l.1.entries ++ fileEntries ended last := by
      simp [fileEntries]
    rw [htext, hentries, hlines]
    exact holds_cons hl (by decide) (by decide) hbehind

/-! ## Files -/

theorem fromUTF8?_toUTF8 (s : String) : String.fromUTF8? s.toUTF8 = some s :=
  dif_pos s.isValidUTF8

theorem load_toUTF8 {s : List Char} {es : List Entry}
    (h : entries ((linesOf s).map String.ofList) = .ok es) :
    load (String.ofList s).toUTF8 = .ok es := by
  rw [load, fromUTF8?_toUTF8]
  simp only [ofText, String.toList_ofList, h]

/-- What a replay leaves in the channel it sends to. -/
theorem sendAll_eq (c : Channel) (items : List Item) :
    c.sendAll items = ⟨c.items ++ items, c.ended || items.any Item.isFinish⟩ := by
  induction items generalizing c with
  | nil => simp [Channel.sendAll]
  | cons i items ih =>
    have hstep : c.sendAll (i :: items) = (c.send i).sendAll items := rfl
    simp [hstep, ih, Channel.send, Bool.or_assoc]

/-- A file is read as the entries it was written from, and their replay sends each
once and then the end. -/
theorem load_fileText {ended : List (WrittenLine × LineEnd)} {last : WrittenLine}
    (hended : ∀ l ∈ ended, l.1.IsProper) (hlast : last.IsProper)
    (hordered : IsOrdered (fileEntries ended last)) :
    load (String.ofList (fileText ended last)).toUTF8 = .ok (fileEntries ended last)
      ∧ Channel.empty.sendAll (replay (fileEntries ended last))
        = ⟨(fileEntries ended last).map (fun e => .fragment e.text e.offset)
            ++ [.finish (((fileEntries ended last).getLast?.map Entry.offset).getD 0)], true⟩ := by
  obtain ⟨hsorted, hdigits⟩ := hordered
  constructor
  · apply load_toUTF8
    apply entriesFrom_of_holds (holds_fileText ?_ ?_)
    · exact List.pairwise_cons.mpr ⟨fun n _ => Nat.zero_le n, hsorted⟩
    · intro l hl
      refine ⟨hended l hl, fun e he => hdigits e ?_⟩
      exact List.mem_append_left _ (List.mem_flatMap.mpr ⟨l, hl, he⟩)
    · exact ⟨hlast, fun e he => hdigits e (List.mem_append_right _ he)⟩
  · rw [sendAll_eq, replay, lastOffset]
    simp [Channel.empty, Item.isFinish]

/-- Blank lines that fuse with the ends around them, a text with separators that end
no line, and one with breaks and half of an escape in it. -/
theorem load_fileText_mixed_ends :
    let ended := [(.blank [' ', '\t'], .carriage), (.blank [], .feed),
      (.entry ⟨3, "\u0085\u2028\u001c"⟩ false, .carriage), (.blank [], .both),
      (.entry ⟨3, "\n\r\\ud83d😀"⟩ true, .feed)]
    let last := WrittenLine.entry ⟨70, ""⟩ false
    let es := [⟨3, "\u0085\u2028\u001c"⟩, ⟨3, "\n\r\\ud83d😀"⟩, ⟨70, ""⟩]
    (∀ l ∈ ended, l.1.IsProper) ∧ last.IsProper ∧ IsOrdered es
      ∧ load (String.ofList (fileText ended last)).toUTF8 = .ok es
      ∧ Channel.empty.sendAll (replay es)
        = ⟨[.fragment "\u0085\u2028\u001c" 3, .fragment "\n\r\\ud83d😀" 3, .fragment "" 70,
            .finish 70], true⟩ := by
  intro ended last es
  have hended : ∀ l ∈ ended, l.1.IsProper := by
    simp [ended, WrittenLine.IsProper]
  have hlast : last.IsProper := trivial
  have hordered : IsOrdered es := by
    constructor
    · decide
    · have hlarge : 70 < Nat.pow 10 4300 := by decide +kernel
      intro e he
      refine Nat.lt_of_le_of_lt ?_ hlarge
      revert e he
      decide
  exact ⟨hended, hlast, hordered, load_fileText hended hlast hordered⟩

end Transcript

end ConceptInventory
