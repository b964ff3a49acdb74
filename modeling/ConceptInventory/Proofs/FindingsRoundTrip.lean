import ConceptInventory.Findings.Export
import ConceptInventory.Findings.Import
import ConceptInventory.Inventory.History
import ConceptInventory.Proofs.JsonRoundTrip

/-!
# Findings read back

Exported findings are imported as they were, at every indentation. Each part is
read back from its own object; the fields are looked up by name, so their order
has no part in it. Of the concepts none is dropped, since an inventory holds no
token twice.
-/
namespace ConceptInventory

open Json

/-! ## What is written can be read -/

theorem isPlain_textOrNull (t : Option String) : (textOrNull t).IsPlain := by
  cases t <;> simp [textOrNull, IsPlain]

theorem isPlain_pathJson (names : List String) : (pathJson names).IsPlain := by
  induction names with
  | nil => simp [pathJson, IsPlain]
  | cons name below ih => simp [pathJson, IsPlain, FieldsArePlain, ih]

theorem isPlain_concept (c : Concept) : c.toJson.IsPlain := by
  simp [Concept.toJson, CategoryPath.toJson, IsPlain, FieldsArePlain, isPlain_pathJson]

theorem arePlain_concepts (cs : List Concept) : ArePlain (cs.map Concept.toJson) := by
  induction cs with
  | nil => simp [ArePlain]
  | cons c cs ih => exact ⟨isPlain_concept c, ih⟩

theorem isPlain_findings (f : Findings) : f.toJson.IsPlain := by
  simp [Findings.toJson, Video.toJson, Inventory.toJson, IsPlain, FieldsArePlain,
    isPlain_textOrNull, arePlain_concepts]

/-! ## Category paths -/

/-- A path is as deep as it has names. -/
theorem depth_pathJson (names : List String) : (pathJson names).depth = names.length + 1 := by
  induction names with
  | nil => rfl
  | cons name below ih =>
    simp only [pathJson, depth, depthOfFields, ih, List.length_cons]
    omega

theorem pathNames_pathJson {fuel : Nat} {names : List String} (h : names.length ≤ fuel) :
    pathNames fuel (pathJson names) = .ok names := by
  induction names generalizing fuel with
  | nil => cases fuel <;> rfl
  | cons name below ih =>
    cases fuel with
    | zero => cases h
    | succ fuel =>
      let j := obj [("name", str name), ("child", pathJson below)]
      have hname : j.requiredText "name" = .ok name := rfl
      have hchild : j.optionalField "child" = .ok (some (pathJson below)) := rfl
      have hbelow := ih (Nat.le_of_succ_le_succ h)
      rw [pathJson, pathNames, hname, hchild]
      · simp only [bind, Except.bind, Option.getD_some, hbelow]
        rfl
      · rintro ⟨⟩

theorem CategoryPath.ofJson_toJson (p : CategoryPath) : CategoryPath.ofJson p.toJson = .ok p := by
  have hnames : pathNames p.toJson.depth p.toJson = .ok p.names := by
    apply pathNames_pathJson
    rw [toJson, depth_pathJson]
    exact Nat.le_succ _
  rw [CategoryPath.ofJson, hnames]
  rfl

/-! ## Concepts, videos and languages -/

theorem Concept.ofJson_toJson (c : Concept) : Concept.ofJson c.toJson = .ok c := by
  have htoken : requiredText c.toJson "token" = .ok c.token := rfl
  have hvalue : optionalText c.toJson "value" = .ok c.value := rfl
  have hstamp : optionalText c.toJson "timeStamp" = .ok c.stamp := rfl
  have hpath : requiredField c.toJson "classification" = .ok c.path.toJson := rfl
  rw [Concept.ofJson, htoken, hvalue, hstamp, hpath]
  simp only [bind, Except.bind, CategoryPath.ofJson_toJson]
  rfl

theorem mapM_ofJson (cs : List Concept) :
    (cs.map Concept.toJson).mapM Concept.ofJson = .ok cs := by
  induction cs with
  | nil => rfl
  | cons c cs ih =>
    rw [List.map_cons, List.mapM_cons, Concept.ofJson_toJson, ih]
    rfl

theorem Video.ofJson_toJson (v : Video) : Video.ofJson v.toJson = .ok v := by
  obtain ⟨url, title⟩ := v
  cases title <;> rfl

theorem toLower_eq (s : String) : s.toLower = String.ofList (s.toList.map Char.toLower) :=
  String.map_eq_internal

/-- The exported names, as they are; case and blanks then only matter in four
literals. -/
theorem Language.exportName_eq (l : Language) : l.exportName
    = match l with | .c => "c" | .cpp => "cpp" | .java => "java" | .python => "python" := by
  rw [exportName, toLower_eq]
  cases l <;> rfl

theorem Language.ofName?_exportName (l : Language) : Language.ofName? l.exportName = some l := by
  simp only [ofName?, exportName_eq, trimBlanks, trim, toLower_eq]
  cases l <;> rfl

/-- A language is looked up by the name it is exported under; none of these is
void. -/
theorem Language.ofJson_exportName (l : Option Language) :
    Language.ofJson (textOrNull (l.map Language.exportName)) = .ok l := by
  cases l with
  | none => rfl
  | some l =>
    have hvoid : (str l.exportName).isVoid = false := by
      rw [Language.exportName_eq]
      cases l <;> rfl
    simp [Language.ofJson, textOrNull, hvoid, text?, Language.ofName?_exportName]

/-! ## Findings -/

theorem Findings.ofJson_toJson (f : Findings) : Findings.ofJson f.toJson = .ok f := by
  have hlanguage : optionalField f.toJson "language"
      = .ok (some (textOrNull (f.language.map Language.exportName))) := rfl
  have hvideo : requiredField f.toJson "video" = .ok f.video.toJson := rfl
  have hlisted : optionalField f.toJson "knowledgeComponents"
      = .ok (some f.inventory.toJson) := rfl
  have helements : elements f.inventory.toJson
      = .ok (f.inventory.concepts.map Concept.toJson) := rfl
  rw [Findings.ofJson, hlanguage, hvideo, hlisted]
  simp only [bind, Except.bind, Video.ofJson_toJson, Option.getD_some,
    Language.ofJson_exportName, helements, mapM_ofJson, Inventory.ofList_concepts]
  rfl

/-- Import undoes export. -/
theorem Findings.read_render (f : Findings) (indent : Option Nat) :
    Findings.read (f.render indent) = .ok f := by
  have hread : Json.read (f.render indent) = .ok f.toJson :=
    Json.read_written ⟨indent, false⟩ (isPlain_findings f)
  rw [Findings.read, hread]
  exact f.ofJson_toJson

end ConceptInventory
