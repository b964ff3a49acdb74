import ConceptInventory.Kinds.CFamily
import ConceptInventory.Kinds.Python
import ConceptInventory.Proofs.QuotedText
import Mathlib.Data.List.Nodup

/-!
# Literals tell tokens apart

A literal is the name of a kind and, for tokens with a text, the quoted text in
parentheses. No two kinds have the same name and no name has a parenthesis in
it, so what stands in front of the first parenthesis is the name, and what is
quoted behind it is read back as the text.
-/
namespace ConceptInventory

/-- Quoted texts are read back, so no two texts are quoted alike. -/
theorem Json.quote_injective : Function.Injective Json.quote := by
  intro s t h
  have hquoted : s.toList.flatMap (escape false) ++ ['"'] = t.toList.flatMap (escape false) ++ ['"'] :=
    (List.cons.inj (String.ofList_injective h)).2
  have hs := string_quoted false s.toList [] []
  rw [hquoted, string_quoted false t.toList [] []] at hs
  have hcodes : t.toList.map Char.toNat = s.toList.map Char.toNat :=
    congrArg Prod.fst (Except.ok.inj hs)
  have htext := congrArg textOfCodes hcodes
  rw [textOfCodes_chars, textOfCodes_chars, String.ofList_toList, String.ofList_toList] at htext
  exact htext.symm

namespace TokenKind

/-- Names tell kinds apart, and none has a parenthesis in it. -/
structure NamesDistinct (κ : Type) [TokenKind κ] : Prop where
  injective : Function.Injective (name : κ → String)
  no_parenthesis (k : κ) : '(' ∉ (name k).toList

theorem namesDistinct_of_all {κ : Type} [TokenKind κ] (hall : ∀ k : κ, k ∈ (all : List κ))
    (hnames : ((all : List κ).map name).Nodup)
    (hparenthesis : ∀ k ∈ (all : List κ), '(' ∉ (name k).toList) : NamesDistinct κ where
  injective j k h := List.inj_on_of_nodup_map hnames (hall j) (hall k) h
  no_parenthesis k := hparenthesis k (hall k)

end TokenKind

namespace Token

variable {κ : Type} [TokenKind κ]

/-- What stands in a literal behind the name. -/
def textPart : Option String → List Char
  | none => []
  | some s => '(' :: ((Json.quote s).toList ++ [')'])

theorem textPart_injective : Function.Injective textPart := by
  intro a b h
  cases a with
  | none =>
    cases b with
    | none => rfl
    | some t => cases h
  | some s =>
    cases b with
    | none => cases h
    | some t =>
      have hquote := List.append_cancel_right (List.cons.inj h).2
      rw [Json.quote_injective (String.toList_injective hquote)]

theorem toList_literal (t : Token κ) :
    t.literal.toList = (TokenKind.name t.kind).toList ++ textPart t.text := by
  rw [literal]
  cases t.text with
  | none => exact (List.append_nil _).symm
  | some s => simp [textPart]

theorem takeWhile_literal (h : TokenKind.NamesDistinct κ) (t : Token κ) :
    t.literal.toList.takeWhile (· != '(') = (TokenKind.name t.kind).toList := by
  have hname : ∀ c ∈ (TokenKind.name t.kind).toList, (c != '(') = true := by
    intro c hc
    exact bne_iff_ne.mpr fun he => h.no_parenthesis t.kind (he ▸ hc)
  rw [toList_literal, List.takeWhile_append_of_pos hname]
  cases t.text with
  | none => exact List.append_nil _
  | some s => exact List.append_nil _

/-- Tokens with the same literal are the same token. -/
theorem literal_injective (h : TokenKind.NamesDistinct κ) :
    Function.Injective (literal : Token κ → String) := by
  intro s t hl
  have hname : (TokenKind.name s.kind).toList = (TokenKind.name t.kind).toList := by
    rw [← takeWhile_literal h s, hl, takeWhile_literal h t]
  have hkind : s.kind = t.kind := h.injective (String.toList_injective hname)
  have htext : textPart s.text = textPart t.text := by
    have hchars := congrArg String.toList hl
    rw [toList_literal, toList_literal, hname] at hchars
    exact List.append_cancel_left hchars
  cases s
  cases t
  cases hkind
  cases textPart_injective htext
  rfl

end Token

namespace CFamily

theorem Kind.mem_all (k : Kind) : k ∈ all := by
  apply List.mem_of_getElem? (i := k.ctorIdx)
  cases k <;> rfl

theorem namesDistinct : TokenKind.NamesDistinct Kind :=
  TokenKind.namesDistinct_of_all Kind.mem_all (by decide +kernel) (by decide +kernel)

end CFamily

namespace Python

theorem Kind.mem_all (k : Kind) : k ∈ all := by
  apply List.mem_of_getElem? (i := k.ctorIdx)
  cases k <;> rfl

theorem namesDistinct : TokenKind.NamesDistinct Kind :=
  TokenKind.namesDistinct_of_all Kind.mem_all (by decide +kernel) (by decide +kernel)

end Python

end ConceptInventory
