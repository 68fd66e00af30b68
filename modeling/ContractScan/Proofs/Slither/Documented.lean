import ContractScan.Proofs.Slither.Readable

/-! # Reports as documented

Slither documents which entries its reports have and of what kind they are. Any of
them may be left out or null. All such reports are readable, and what is read for
the severity and the line can be said in advance.
-/

namespace ContractScan.Slither

open Shape

structure DocumentedPlace (place : List (Value × Value)) : Prop where
  file : OrNull IsString (valueAt place "filename_relative")
  lines : OrNull (IsListOf IsNatural) (valueAt place "lines")

def DocumentedParent (parent : List (Value × Value)) : Prop :=
  OrNull IsString (valueAt parent "name")

def DocumentedFields (specific : List (Value × Value)) : Prop :=
  OrNull (IsMapOf DocumentedParent) (valueAt specific "parent")

structure DocumentedElement (element : List (Value × Value)) : Prop where
  name : OrNull IsString (valueAt element "name")
  type : OrNull IsString (valueAt element "type")
  place : OrNull (IsMapOf DocumentedPlace) (valueAt element "source_mapping")
  specific : OrNull (IsMapOf DocumentedFields) (valueAt element "type_specific_fields")

def textKeys : List String :=
  ["check", "impact", "confidence", "description", "first_markdown_element"]

structure DocumentedDetector (detector : List (Value × Value)) : Prop where
  text : ∀ key ∈ textKeys, OrNull IsString (valueAt detector key)
  elements : OrNull (IsListOf (IsMapOf DocumentedElement)) (valueAt detector "elements")

/-- A report is a mapping. It has detectors itself or in an envelope. -/
def DocumentedReport (payload : Value) : Prop :=
  IsMapOf (fun entries => OrNull (IsListOf (IsMapOf DocumentedDetector))
    (valueAt (container entries) "detectors")) payload

section Elements

variable {detector element place : List (Value × Value)} {lines : Value}

theorem hasLine_of_naturals (h : OrNull (IsListOf IsNatural) lines) : HasLine lines := by
  obtain rfl | ⟨items, rfl, hitems⟩ := h
  · exact .none rfl
  · cases items with
    | nil => exact .none rfl
    | cons line rest =>
      have hline : OrNull IsNatural line := .inr (hitems line List.mem_cons_self)
      have hone : IsPositive (.int 1) := ⟨⟨1, by decide⟩, rfl⟩
      exact .list rest ((ifAny_iff IsPositive hone).mp ⟨_, positive_orElse hline⟩)

theorem DocumentedElement.exists_hasContract (h : DocumentedElement element) :
    ∃ specific parent, HasContract element specific parent := by
  obtain ⟨specific, hspecific, hfields⟩ := h.specific.exists_entries (.inl rfl)
  obtain ⟨parent, hparent, hname⟩ := OrNull.exists_entries hfields (.inl rfl)
  exact ⟨specific, parent, hspecific, hparent, hname.ifAny_isText, fun _ => h.name.ifAny_isText⟩

theorem DocumentedElement.exists_place (h : DocumentedElement element)
    (hlocated : isLocated (.map element) = true) :
    ∃ place, valueAt element "source_mapping" = .map place ∧ DocumentedPlace place :=
  h.place.ifAny hlocated

theorem DocumentedDetector.usable (hdetector : DocumentedDetector detector)
    (helement : DocumentedElement element) (hlocated : isLocated (.map element) = true) :
    Usable detector element := by
  obtain ⟨place, hplace, hdocumented⟩ := helement.exists_place hlocated
  refine
    { place := ⟨place, hplace, hdocumented.file.ifAny_isText, hasLine_of_naturals hdocumented.lines⟩
      contract := helement.exists_hasContract
      function := fun _ => helement.name.imp id IsString.isText
      impact := ?_
      description := (hdetector.text _ (by decide)).ifAny_isText
      snippet := (hdetector.text _ (by decide)).ifAny_isText }
  intro htruthy
  obtain ⟨s, hs⟩ := (hdetector.text "impact" (by decide)).ifAny htruthy
  rw [hs]
  rfl

end Elements

section Reports

variable {detector : List (Value × Value)} {payload : Value}

theorem parts_of_list {P : Value → Prop} {value : Value} (h : OrNull (IsListOf P) value) :
    ∃ parts, Parts value parts ∧ ∀ part ∈ parts, P part := by
  obtain rfl | ⟨items, rfl, hitems⟩ := h
  · exact ⟨[], .none rfl, by simp⟩
  · exact ⟨items, .list items, hitems⟩

theorem DocumentedDetector.readable (h : DocumentedDetector detector) :
    ReadableDetector detector := by
  obtain ⟨parts, hparts, hdocumented⟩ := parts_of_list h.elements
  refine ⟨parts, hparts, fun element hfind => ?_⟩
  obtain ⟨_, ⟨⟩, helement⟩ := hdocumented _ (List.mem_of_find?_eq_some hfind)
  exact h.usable helement (List.find?_some hfind)

theorem DocumentedReport.readable (h : DocumentedReport payload) : Readable payload := by
  obtain ⟨entries, rfl, hdetectors⟩ := h
  rintro _ ⟨⟩
  obtain ⟨parts, hparts, hdocumented⟩ := parts_of_list hdetectors
  refine ⟨parts, hparts, fun detector hdetector => ?_⟩
  obtain ⟨_, ⟨⟩, h⟩ := hdocumented _ hdetector
  exact h.readable

end Reports

def firstOf : Value → Value
  | .list (item :: _) => item
  | _ => .null

/-- A finding has the severity that goes with the impact of its detector, and the first line of its
place; the line is one where none is given. -/
def Describes (detector element : Value) (f : Finding) : Prop :=
  ∃ entries elementEntries place, detector = .map entries ∧ element = .map elementEntries ∧
    valueAt elementEntries "source_mapping" = .map place ∧
    f.severity.word = (impacts.lookup (textOf (valueAt entries "impact"))).getD defaultSeverity ∧
    f.lineNumber = max 1 (numberOf (firstOf (valueAt place "lines")))

section Findings

variable {detector element : List (Value × Value)} {f : Finding} {n : Nat}

theorem positive_firstLine {lines : Value} (h : OrNull (IsListOf IsNatural) lines) :
    ∃ line, firstLine lines = .ok line ∧
      ∃ hpos, Field.positive line = .ok ⟨max 1 (numberOf (firstOf lines)), hpos⟩ := by
  obtain rfl | ⟨items, rfl, hitems⟩ := h
  · exact ⟨_, rfl, _, rfl⟩
  · cases items with
    | nil => exact ⟨_, rfl, _, rfl⟩
    | cons line rest =>
      exact ⟨_, rfl, _, positive_orElse (.inr (hitems line List.mem_cons_self))⟩

theorem DocumentedDetector.describes (hdetector : DocumentedDetector detector)
    (helement : DocumentedElement element) (hlocated : isLocated (.map element) = true)
    (h : finding (.map detector) (.map element) n = .ok f) :
    Describes (.map detector) (.map element) f := by
  obtain ⟨place, hplace, hdocumented⟩ := helement.exists_place hlocated
  obtain ⟨specific, parent, hcontract⟩ := helement.exists_hasContract
  obtain ⟨line, hline, hpos, hpositive⟩ := positive_firstLine hdocumented.lines
  have hlabel := label_eq_ok impacts defaultSeverity (hdetector.text "impact" (by decide))
  simp only [finding, entry_map, ok_bind, hplace, orElse_map_eq_iff.mpr hcontract.hasFields,
    orElse_map_eq_iff.mpr hcontract.hasParent, hline, hlabel] at h
  obtain ⟨hseverity, hchecked⟩ := severity_line_of_finding h
  have hnumber := Subtype.mk.inj (Checked.ok.inj (hchecked.symm.trans hpositive))
  exact ⟨detector, element, place, rfl, rfl, hplace, hseverity, hnumber⟩

end Findings

end ContractScan.Slither
