import ConceptInventory.Proofs.CFamilyTexts
import ConceptInventory.Proofs.PythonTexts

/-!
# Tokens read back

Scanning undoes printing: tokens printed as texts of their own, with form feeds
between them, are scanned as those tokens, in both grammars.
-/
namespace ConceptInventory

theorem tokenize_printed :
    (∀ es : List (List Char × Token CFamily.Kind), (∀ e ∈ es, CFamily.Printed e.1 e.2) →
      CFamily.grammar.tokenize (String.ofList (separated '\x0c' (es.map Prod.fst)))
        = es.map Prod.snd)
    ∧ ∀ es : List (List Char × Token Python.Kind), (∀ e ∈ es, Python.Printed e.1 e.2) →
      Python.grammar.tokenize (String.ofList (separated '\x0c' (es.map Prod.fst)))
        = es.map Prod.snd := by
  constructor
  · intro es hes
    exact CFamily.separates.tokenize_separated fun e he => (hes e he).holds
  · intro es hes
    exact Python.separates.tokenize_separated fun e he => (hes e he).holds

/-- Texts that would run together or read otherwise without a separator: words of a
longer keyword, the slashes of a comment, a word in front of parentheses. -/
theorem tokenize_printed_close :
    let cTexts : List (List Char × Token CFamily.Kind) :=
      [("long".toList, .bare .kwLong), ("long \t int".toList, .bare .kwLongInt),
        ("\n".toList, .bare .lineBreak), ("\r\n".toList, .bare .lineBreak),
        ("/".toList, .bare .divide), ("/".toList, .bare .divide),
        ("nullptr_".toList, ⟨.identifier, some "nullptr_"⟩),
        (".5e-3f".toList, ⟨.number, some ".5e-3f"⟩),
        ("'\\'\x0c'".toList, ⟨.stringLiteral, some "'\\'\x0c'"⟩),
        ("#ifdef".toList, ⟨.directive, some "#ifdef"⟩), (['#'], ⟨.unrecognized, some "#"⟩)]
    let pyTexts : List (List Char × Token Python.Kind) :=
      [("is".toList, .bare .kwIs), ("not".toList, .bare .kwNot), ("is  not".toList, .bare .kwIsNot),
        ("3.14".toList, .bare .kwFloat), ("1.5j".toList, .bare .kwComplex),
        ("[1, 2]".toList, .bare .kwList),
        ("f".toList, ⟨.identifier, some "f"⟩), ("(x,)".toList, .bare .kwTuple),
        ("f(x)".toList, .bare .functionCall), ("\"\x0c\n\"".toList, .bare .kwStr),
        (['?'], ⟨.unrecognized, some "?"⟩)]
    (∀ e ∈ cTexts, CFamily.Printed e.1 e.2) ∧ (∀ e ∈ pyTexts, Python.Printed e.1 e.2)
      ∧ CFamily.grammar.tokenize (String.ofList (separated '\x0c' (cTexts.map Prod.fst)))
        = cTexts.map Prod.snd
      ∧ Python.grammar.tokenize (String.ofList (separated '\x0c' (pyTexts.map Prod.fst)))
        = pyTexts.map Prod.snd := by
  intro cTexts pyTexts
  have hc : ∀ e ∈ cTexts, CFamily.Printed e.1 e.2 := by
    simp only [cTexts, List.forall_mem_cons]
    exact ⟨.bare (by decide +kernel), .bare (by decide +kernel), .bare (by decide +kernel),
      .bare (by decide +kernel), .bare (by decide +kernel), .bare (by decide +kernel),
      .identifier (by decide) (by decide +kernel), .number (by decide +kernel),
      .stringLiteral (by decide +kernel), .directive (by decide +kernel),
      .unrecognized (by decide) (by decide) (by decide +kernel), by simp⟩
  have hpy : ∀ e ∈ pyTexts, Python.Printed e.1 e.2 := by
    simp only [pyTexts, List.forall_mem_cons]
    exact ⟨.bare (by decide +kernel), .bare (by decide +kernel), .bare (by decide +kernel),
      .bare (by decide +kernel), .bare (by decide +kernel), .bare (by decide +kernel),
      .identifier (by decide) (by decide +kernel), .bare (by decide +kernel),
      .bare (by decide +kernel), .bare (by decide +kernel),
      .unrecognized (by decide) (by decide) (by decide +kernel), by simp⟩
  exact ⟨hc, hpy, tokenize_printed.1 cTexts hc, tokenize_printed.2 pyTexts hpy⟩

end ConceptInventory
