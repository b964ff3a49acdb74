import ConceptInventory.Proofs.FragmentOrder
import ConceptInventory.Proofs.Operands
import ConceptInventory.Proofs.ReadSets

/-!
# Streams and their operands

A sign between a stream and an operand is no shift. Only the token in front of a sign is
looked at, so in a chain of operands that spares the first sign. Each later one is recorded
as a shift, unless the operand in front of it is named like a stream itself.
-/
namespace ConceptInventory.CFamily

open Pattern

/-! ## Chains -/

/-- The two ways between a stream and its operands. -/
inductive Flow
  | output | input
deriving DecidableEq, Repr

namespace Flow

def sign : Flow → String
  | output => "<<"
  | input => ">>"

/-- What the sign is scanned as. -/
def operator : Flow → Kind
  | output => .leftOperator
  | input => .rightOperator

/-- What the sign is recorded as where it does not stand behind a stream. -/
def shift : Flow → Kind
  | output => .leftShift
  | input => .rightShift

def streams : Flow → List String
  | output => outputStreams
  | input => inputStreams

/-- What is put out is named or written down, what is read in is named. -/
def operandKinds : Flow → List Kind
  | output => CFamily.operandKinds
  | input => [.identifier]

/-- The text is a single token of a kind the flow works on. -/
def Takes (f : Flow) (e : String) : Prop :=
  ∃ k ∈ f.operandKinds, grammar.tokenize e = [⟨k, some e⟩]

instance (f : Flow) (e : String) : Decidable (f.Takes e) :=
  inferInstanceAs (Decidable (∃ k ∈ f.operandKinds, _))

/-- Operands with the sign in front of each, up to the end of the statement. -/
def tail (f : Flow) (operands : List String) : String :=
  String.join (operands.map fun e => " " ++ f.sign ++ " " ++ e) ++ ";"

def chain (f : Flow) (stream : String) (operands : List String) : String :=
  stream ++ f.tail operands

variable {f : Flow}

/-! ## The tokens of a chain -/

theorem tokensOf_sign (b : List Char) : grammar.tokensOf (f.sign.toList ++ ' ' :: b)
    = .bare f.operator :: grammar.tokensOf (' ' :: b) := by
  have htoken : grammar.wholeToken? f.sign.toList = some (.bare f.operator) := by
    cases f <;> decide +kernel
  have hstops : (grammar.rules.all fun q => "<>".toList.all fun c =>
      !q.pattern.starts c || q.pattern.avoids ' ') = true := by decide +kernel
  obtain ⟨c, hc, rest, hsign⟩ : ∃ c ∈ "<>".toList, ∃ rest, f.sign.toList = c :: rest := by
    cases f
    · exact ⟨'<', by decide, _, rfl⟩
    · exact ⟨'>', by decide, _, rfl⟩
  have hiso : grammar.Isolates ' ' f.sign.toList := by
    intro q hq m b hm hpre
    have havoids := List.all_eq_true.mp (List.all_eq_true.mp hstops q hq) c hc
    rw [hsign] at hpre ⊢
    exact staysIn_of_starts (by simpa [imp_iff_not_or] using havoids) rest b m hm hpre
  exact separable.tokensOf_append (by decide) htoken hiso b

theorem tokensOf_blank (s : List Char) : grammar.tokensOf (' ' :: s) = grammar.tokensOf s :=
  skips.tokensOf_append (u := [' ']) (List.forall_mem_singleton.mpr (by decide)) s

theorem toList_tail_nil (f : Flow) : (f.tail []).toList = [';'] := by simp [tail]

theorem toList_tail_cons (f : Flow) (e : String) (operands : List String) :
    (f.tail (e :: operands)).toList
      = ' ' :: (f.sign.toList ++ ' ' :: (e.toList ++ (f.tail operands).toList)) := by
  simp [tail]

theorem exists_stop (f : Flow) (operands : List String) :
    ∃ x ∈ stops, ∃ b, (f.tail operands).toList = x :: b := by
  cases operands with
  | nil => exact ⟨';', by decide, [], toList_tail_nil f⟩
  | cons e operands => exact ⟨' ', by decide, _, toList_tail_cons f e operands⟩

theorem Takes.exists_operand {e : String} (h : f.Takes e) : ∃ k, Operand k e := by
  obtain ⟨k, hk, halone⟩ := h
  have hkinds : ∀ k ∈ f.operandKinds, k ∈ CFamily.operandKinds := by cases f <;> decide
  exact ⟨k, hkinds k hk, halone⟩

theorem operand_of_mem_streams {stream : String} (h : stream ∈ f.streams) :
    Operand .identifier stream := by
  have hall : ∀ f : Flow, ∀ s ∈ f.streams, grammar.tokenize s = [⟨.identifier, some s⟩] := by
    rintro (_ | _) <;> decide +kernel
  exact ⟨by decide, hall f stream h⟩

/-- Each operand has a sign in front, and a semicolon ends the chain. -/
theorem tokensOf_tail {operands : List String} (h : ∀ e ∈ operands, f.Takes e) :
    grammar.tokensOf (f.tail operands).toList
      = operands.flatMap (fun e => .bare f.operator :: grammar.tokenize e)
        ++ [.bare .semicolon] := by
  induction operands with
  | nil =>
    have hend : grammar.tokensOf [';'] = [.bare .semicolon] := by decide +kernel
    rw [toList_tail_nil, hend]
    rfl
  | cons e operands ih =>
    obtain ⟨k, he⟩ := (h e List.mem_cons_self).exists_operand
    obtain ⟨x, hx, b, hb⟩ := f.exists_stop operands
    have hrest := ih fun e he => h e (List.mem_cons_of_mem _ he)
    rw [toList_tail_cons, tokensOf_blank, tokensOf_sign, tokensOf_blank, hb,
      he.tokensOf_append hx, ← hb, hrest, List.flatMap_cons, he.alone]
    rfl

theorem tokenize_chain {stream : String} (hstream : stream ∈ f.streams) {operands : List String}
    (h : ∀ e ∈ operands, f.Takes e) :
    grammar.tokenize (f.chain stream operands) = ⟨.identifier, some stream⟩
      :: (operands.flatMap (fun e => .bare f.operator :: grammar.tokenize e)
        ++ [.bare .semicolon]) := by
  obtain ⟨x, hx, b, hb⟩ := f.exists_stop operands
  rw [Grammar.tokenize_eq_tokensOf, chain, String.toList_append, hb,
    (operand_of_mem_streams hstream).tokensOf_append hx, ← hb, tokensOf_tail h]

/-! ## Recorded shifts -/

def ambiguity : Flow → Ambiguity
  | output => .leftAngles
  | input => .rightAngles

/-- A sign of the flow is among the tokens, and what stands in front of it is no stream. -/
def Shifts (f : Flow) (tokens : List (Token Kind)) : Prop :=
  ∃ i t, tokens[i]? = some t ∧ t.kind = f.operator
    ∧ isStream f.streams ((Window.onList tokens i).previous 1) = false

theorem eq_operator_of_byContext {k : Kind} (h : treatment k = .byContext f.ambiguity) :
    k = f.operator := by
  have hmem := mem_kinds_of_byContext h
  cases f <;> exact List.mem_singleton.mp hmem

/-- Only an ambiguous sign of the flow is resolved to its shift. -/
theorem of_resolve {a : Ambiguity} {w : Window Kind} {t : Token Kind} {outer : List String}
    (ha : treatment t.kind = .byContext a) (h : a.resolve w t = some (.bare f.shift, outer)) :
    a = f.ambiguity ∧ isStream f.streams (w.previous 1) = false := by
  cases a with
  | angle =>
    rw [Ambiguity.resolve] at h
    split at h <;> cases h
    cases f <;> cases ha
  | leftAngles | rightAngles =>
    rw [Ambiguity.resolve] at h
    split at h <;> cases f <;> cases h
    exact ⟨rfl, Bool.eq_false_iff.mpr (by assumption)⟩
  | asterisk | ampersand | increment | decrement =>
    rw [Ambiguity.resolve] at h
    split at h <;> cases f <;> cases h
  | openParen =>
    rw [Ambiguity.resolve] at h
    split at h
    · cases f <;> cases h
    · split at h
      · cases h
      · split at h <;> cases f <;> cases h
  | openBracket => cases f <;> cases h

theorem resolve_of_not_isStream {w : Window Kind}
    (h : isStream f.streams (w.previous 1) = false) (t : Token Kind) :
    f.ambiguity.resolve w t = some (.bare f.shift, Category.bitwise) := by
  cases f <;> exact if_neg (Bool.eq_false_iff.mp h)

theorem not_mem_tokenize (f : Flow) {text : String} {t : Token Kind}
    (ht : t ∈ grammar.tokenize text) : t.kind ≠ f.shift := by
  have hall : ∀ f : Flow, (grammar.rules.all fun r => r.kind != some f.shift) = true := by
    rintro (_ | _) <;> decide +kernel
  intro hkind
  rcases Grammar.cases_of_mem_tokenize ht with hno | ⟨r, m, rest, hmatches, hr, _⟩
  · rw [hkind] at hno
    cases f <;> cases hno
  · have hne := List.all_eq_true.mp (hall f) r hmatches.mem
    rw [hr, hkind, bne_self_eq_false] at hne
    cases hne

/-- A text shows a shift if and only if some sign in it does not stand behind a stream. -/
theorem shows_iff {l : Language} (hl : l.family = .cFamily) (text : String) :
    l.shows (Token.bare f.shift).literal text = true ↔ f.Shifts (grammar.tokenize text) := by
  have hoperator : treatment f.operator = .byContext f.ambiguity := by cases f <;> rfl
  have hsightings : l.sightings text = dialect.sightings text := by rw [Language.sightings, hl]
  rw [Language.shows, hsightings, Dialect.shows_iff]
  constructor
  · rintro ⟨i, t, ht, c, hc, hliteral⟩
    have hshift : c.token = .bare f.shift := Token.literal_injective namesDistinct hliteral
    have hcurrent := (Window.onList_current (grammar.tokenize text) i).trans ht
    rcases classify_cases hcurrent with ⟨outer, _, hfile⟩ | ⟨_, hnone⟩ | ⟨a, ha, hresolve⟩
    · cases hc.symm.trans hfile
      exact (f.not_mem_tokenize (List.mem_of_getElem? ht) (congrArg Token.kind hshift)).elim
    · cases hc.symm.trans hnone
    · obtain ⟨⟨t', outer⟩, hr, rfl⟩ := Option.map_eq_some_iff.mp (hresolve.symm.trans hc)
      obtain rfl : t' = .bare f.shift := hshift
      obtain ⟨rfl, hno⟩ := of_resolve ha hr
      exact ⟨i, t, ht, eq_operator_of_byContext ha, hno⟩
  · rintro ⟨i, t, ht, hkind, hno⟩
    have hclassify : classify (.onList (grammar.tokenize text) i)
        = some (.file (.bare f.shift) Category.bitwise) := by
      rw [classify, Window.onList_current, ht, Option.bind_some, hkind, hoperator]
      simp only [resolve_of_not_isStream hno, Option.map_some]
    exact ⟨i, t, ht, _, hclassify, rfl⟩

/-! ## Shifts in a chain -/

/-- A shift is among the tokens behind another one. -/
def ShiftsBehind (f : Flow) (t : Token Kind) (tokens : List (Token Kind)) : Prop :=
  ∃ (i : Nat) (u : Token Kind), tokens[i]? = some u ∧ u.kind = f.operator
    ∧ isStream f.streams (t :: tokens)[i]? = false

theorem shifts_cons {t : Token Kind} (ht : t.kind ≠ f.operator) (tokens : List (Token Kind)) :
    f.Shifts (t :: tokens) ↔ f.ShiftsBehind t tokens := by
  have hback (i : Nat) :
      (Window.onList (t :: tokens) (i + 1)).previous 1 = (t :: tokens)[i]? :=
    Window.onList_previous (t :: tokens) (k := 1) (Nat.le_add_left 1 i)
  constructor
  · rintro ⟨i, u, hu, hkind, hno⟩
    cases i with
    | zero => exact (ht (Option.some.inj hu ▸ hkind)).elim
    | succ i => exact ⟨i, u, hu, hkind, hback i ▸ hno⟩
  · rintro ⟨i, u, hu, hkind, hno⟩
    exact ⟨i + 1, u, hu, hkind, (hback i).symm ▸ hno⟩

theorem not_shiftsBehind_nil (t : Token Kind) : ¬f.ShiftsBehind t [] := by
  rintro ⟨i, u, hu, _⟩
  cases hu

theorem shiftsBehind_cons (t u : Token Kind) (tokens : List (Token Kind)) :
    f.ShiftsBehind t (u :: tokens)
      ↔ (u.kind = f.operator ∧ isStream f.streams (some t) = false)
        ∨ f.ShiftsBehind u tokens := by
  constructor
  · rintro ⟨i, v, hv, hkind, hno⟩
    cases i with
    | zero =>
      obtain rfl := Option.some.inj hv
      exact .inl ⟨hkind, hno⟩
    | succ i => exact .inr ⟨i, v, hv, hkind, hno⟩
  · rintro (⟨hkind, hno⟩ | ⟨i, v, hv, hkind, hno⟩)
    · exact ⟨0, u, rfl, hkind, hno⟩
    · exact ⟨i + 1, v, hv, hkind, hno⟩

/-- An operand is a stream if it is named like one, since the names of streams are words. -/
theorem isStream_operand {k : Kind} {e : String} (h : Operand k e) :
    isStream f.streams (some ⟨k, some e⟩) = false ↔ e ∉ f.streams := by
  by_cases he : e ∈ f.streams
  · have hk := (operand_of_mem_streams he).alone
    rw [h.alone] at hk
    obtain rfl : k = .identifier := congrArg Token.kind (List.cons.inj hk).1
    simp [isStream, he]
  · simp [isStream, he]

/-- In a chain each operand but the last has a sign behind it. The induction is on the
operands, with the one in front of them kept general. -/
theorem shiftsBehind_chain {k : Kind} {e : String} (he : Operand k e) {operands : List String}
    (h : ∀ e ∈ operands, f.Takes e) :
    f.ShiftsBehind ⟨k, some e⟩ (operands.flatMap (fun e => .bare f.operator :: grammar.tokenize e)
        ++ [.bare .semicolon])
      ↔ ∃ d ∈ (e :: operands).dropLast, d ∉ f.streams := by
  have hend : Kind.semicolon ≠ f.operator := by cases f <;> decide
  have hkinds : ∀ k ∈ CFamily.operandKinds, k ≠ f.operator := by cases f <;> decide
  induction operands generalizing k e with
  | nil => simp [shiftsBehind_cons, not_shiftsBehind_nil, Token.bare, hend]
  | cons d operands ih =>
    obtain ⟨k', hd⟩ := (h d List.mem_cons_self).exists_operand
    have hrest := ih hd fun e he => h e (List.mem_cons_of_mem _ he)
    rw [List.flatMap_cons, hd.alone, List.dropLast_cons_cons]
    simp only [List.cons_append, List.nil_append, shiftsBehind_cons, hrest, isStream_operand he]
    simp [Token.bare, hkinds k' hd.kind]

/-- In a chain only the sign behind the stream is spared. Each later one is recorded as a
shift, unless the operand in front of it is named like a stream. -/
theorem chain_records_shift_iff (f : Flow) (stream : String) (hstream : stream ∈ f.streams)
    (operands : List String) (h : ∀ e ∈ operands, f.Takes e)
    (x : Extractor) (hx : x.language.family = .cFamily) (offset : Int) :
    (x.read (f.chain stream operands) offset).inventory.has (Token.bare f.shift).literal = true
      ↔ x.inventory.has (Token.bare f.shift).literal = true
        ∨ ∃ e ∈ operands.dropLast, e ∉ f.streams := by
  have hidentifier : Kind.identifier ≠ f.operator := by cases f <;> decide
  have hshows : x.language.shows (Token.bare f.shift).literal (f.chain stream operands) = true
      ↔ ∃ e ∈ (stream :: operands).dropLast, e ∉ f.streams := by
    rw [shows_iff hx, tokenize_chain hstream h, shifts_cons hidentifier,
      shiftsBehind_chain (operand_of_mem_streams hstream) h]
  rw [Extractor.has_read, Bool.or_eq_true, hshows]
  cases operands with
  | nil => rfl
  | cons e operands => simp [List.dropLast_cons_cons, hstream]

/-- A string, a stream and a number are put out, and one name is read in. -/
theorem chain_records_shift_iff_of_three :
    "cerr" ∈ output.streams ∧ (∀ e ∈ ["\"a << b\"", "cout", "1.5f"], output.Takes e)
    ∧ "wcin" ∈ input.streams ∧ (∀ e ∈ ["line"], input.Takes e)
    ∧ (((Extractor.start "u" .cpp).read "cerr << \"a << b\" << cout << 1.5f;" 0).inventory.has
      "LeftShift" = true)
    ∧ ¬((Extractor.start "u" .java).read "wcin >> line;" 0).inventory.has "RightShift" = true := by
  have hcerr : "cerr" ∈ output.streams := by decide
  have houtput : ∀ e ∈ ["\"a << b\"", "cout", "1.5f"], output.Takes e := by decide +kernel
  have hwcin : "wcin" ∈ input.streams := by decide
  have hinput : ∀ e ∈ ["line"], input.Takes e := by decide +kernel
  refine ⟨hcerr, houtput, hwcin, hinput, ?_, ?_⟩
  · exact (chain_records_shift_iff output "cerr" hcerr _ houtput (.start "u" .cpp) rfl 0).mpr
      (.inr (by decide))
  · exact mt (chain_records_shift_iff input "wcin" hwcin _ hinput (.start "u" .java) rfl 0).mp
      (by decide)

/-- With two operands both flows are recorded as shifts. -/
theorem chain_of_two_records_shift :
    ("cout" ∈ output.streams ∧ (∀ e ∈ ["a", "b"], output.Takes e)
      ∧ output.chain "cout" ["a", "b"] = "cout << a << b;"
      ∧ ((Extractor.start "u" .cpp).read "cout << a << b;" 1).inventory.concepts.map Concept.token
        = ["LeftShift"])
    ∧ "cin" ∈ input.streams ∧ (∀ e ∈ ["a", "b"], input.Takes e)
      ∧ input.chain "cin" ["a", "b"] = "cin >> a >> b;"
      ∧ ((Extractor.start "u" .cpp).read "cin >> a >> b;" 1).inventory.concepts.map Concept.token
        = ["RightShift"] := by
  decide +kernel

end Flow

end ConceptInventory.CFamily
