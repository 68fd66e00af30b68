import ContractScan.Proofs.Analyzer.Shape
import ContractScan.Slither.Report

/-! # Readable reports

A report is read without a schema, and what is found in it is then checked as the
data of findings. This goes through for some shapes of reports and for no others.
-/

namespace ContractScan

namespace Slither

open Shape

inductive HasLine : Value → Prop where
  | none {lines : Value} (h : lines.truthy = false) : HasLine lines
  | list {line : Value} (rest : List Value) (h : IfAny IsPositive line) :
      HasLine (.list (line :: rest))
  | text {s : String} (h : IsPositive (.str (String.ofList (s.toList.take 1)))) : HasLine (.str s)

/-- The contract of an element has a text for a name: that of its parent, or else its own. -/
structure HasContract (element specific parent : List (Value × Value)) : Prop where
  hasFields : Entries (valueAt element "type_specific_fields") specific
  hasParent : Entries (valueAt specific "parent") parent
  name : IfAny IsText (valueAt parent "name")
  ownName : (valueAt parent "name").truthy = false → IfAny IsText (valueAt element "name")

/-- A detector and the element that gives its place have the data of a finding. -/
structure Usable (detector element : List (Value × Value)) : Prop where
  place : ∃ place, valueAt element "source_mapping" = .map place ∧
    IfAny IsText (valueAt place "filename_relative") ∧ HasLine (valueAt place "lines")
  contract : ∃ specific parent, HasContract element specific parent
  function : valueAt element "type" = .str "function" →
    valueAt element "name" = .null ∨ IsText (valueAt element "name")
  impact : IfAny (fun value => value.isKey = true) (valueAt detector "impact")
  description : IfAny IsText (valueAt detector "description")
  snippet : IfAny IsText (valueAt detector "first_markdown_element")

section Findings

variable {detector element : List (Value × Value)} {f : Finding} {n : Nat}

theorem exists_firstLine_iff {lines : Value} :
    (∃ line, firstLine lines = .ok line ∧ IsPositive line) ↔ HasLine lines := by
  have hone : IsPositive (.int 1) := ⟨⟨1, by decide⟩, rfl⟩
  unfold firstLine
  cases htruthy : lines.truthy with
  | false =>
    simp only [Bool.not_false, if_true, Except.ok.injEq, exists_eq_left', hone, true_iff]
    exact .none htruthy
  | true =>
    simp only [Bool.not_true, Bool.false_eq_true, if_false]
    constructor
    · rintro ⟨line, hline, hpositive⟩
      split at hline
      next first rest =>
        cases hline
        exact .list rest ((ifAny_iff _ hone).mp hpositive)
      next s =>
        cases hline
        exact .text hpositive
      next => cases hline
      next => cases hline
    · rintro (hfalse | ⟨rest, hpositive⟩ | hpositive)
      · rw [hfalse] at htruthy
        cases htruthy
      · exact ⟨_, rfl, (ifAny_iff _ hone).mpr hpositive⟩
      · exact ⟨_, rfl, hpositive⟩

theorem isContractName_iff {name own : Value} :
    (orElse name (orElse own (.str "Unknown")) = .null ∨
        IsText (orElse name (orElse own (.str "Unknown")))) ↔
      IfAny IsText name ∧ (name.truthy = false → IfAny IsText own) := by
  have hnull {value : Value} (h : value.truthy = true) : value ≠ .null := by
    rintro rfl
    cases h
  cases hname : name.truthy with
  | true => simp [orElse_of_truthy hname, hnull hname, IfAny, hname]
  | false =>
    rw [orElse_of_not_truthy hname]
    cases hown : own.truthy with
    | true => simp [orElse_of_truthy hown, hnull hown, IfAny, hname, hown]
    | false => simp [orElse_of_not_truthy hown, IfAny, hname, hown, isText_str]

theorem exists_finding_iff :
    (∃ f, finding (.map detector) (.map element) n = .ok f) ↔ Usable detector element := by
  simp only [finding, entry_map, ok_bind]
  constructor
  · rintro ⟨f, h⟩
    obtain ⟨_, hpath, h⟩ := bind_eq_ok_iff.mp h
    obtain ⟨_, hlines, h⟩ := bind_eq_ok_iff.mp h
    obtain ⟨line, hline, h⟩ := bind_eq_ok_iff.mp h
    obtain ⟨_, hparent, h⟩ := bind_eq_ok_iff.mp h
    obtain ⟨_, hname, h⟩ := bind_eq_ok_iff.mp h
    obtain ⟨severity, hlabel, h⟩ := bind_eq_ok_iff.mp h
    obtain ⟨place, hplace, rfl⟩ := entry_eq_ok_iff.mp hpath
    obtain rfl : valueAt place "lines" = _ := by simpa [hplace, entry_map] using hlines
    obtain ⟨specific, hspecific, rfl⟩ := entry_eq_ok_iff.mp hparent
    obtain ⟨parent, hparent, rfl⟩ := entry_eq_ok_iff.mp hname
    obtain ⟨-, -, hdescription, hpath, hpositive, hsnippet, hcontract, hfunction⟩ :=
      Shape.exists_finding_iff.mp ⟨f, h⟩
    obtain ⟨hname, hown⟩ := isContractName_iff.mp hcontract
    exact
      { place := ⟨place, hplace, (ifAny_iff _ (isText_str _)).mp hpath,
          exists_firstLine_iff.mp ⟨line, hline, hpositive⟩⟩
        contract := ⟨specific, parent, orElse_map_eq_iff.mp hspecific,
          orElse_map_eq_iff.mp hparent, hname, hown⟩
        function := fun htype => by rwa [htype] at hfunction
        impact := exists_label_iff.mp ⟨severity, hlabel⟩
        description := (ifAny_iff _ (isText_str _)).mp hdescription
        snippet := (ifAny_iff _ (isText_str _)).mp hsnippet }
  · rintro ⟨⟨place, hplace, hpath, hlines⟩, ⟨specific, parent, hcontract⟩, hfunction, himpact,
      hdescription, hsnippet⟩
    obtain ⟨line, hline, hpositive⟩ := exists_firstLine_iff.mpr hlines
    obtain ⟨severity, hlabel⟩ : ∃ severity, label impacts defaultSeverity _ = .ok severity :=
      exists_label_iff.mpr himpact
    simp only [hplace, orElse_map_eq_iff.mpr hcontract.hasFields,
      orElse_map_eq_iff.mpr hcontract.hasParent, entry_map, hline, hlabel, ok_bind]
    refine Shape.exists_finding_iff.mpr ⟨isText_str _, severity_of_label (by decide) hlabel,
      (ifAny_iff _ (isText_str _)).mpr hdescription, (ifAny_iff _ (isText_str _)).mpr hpath,
      hpositive, (ifAny_iff _ (isText_str _)).mpr hsnippet,
      isContractName_iff.mpr ⟨hcontract.name, hcontract.ownName⟩, ?_⟩
    split
    next htype => exact hfunction htype
    next => exact .inl rfl

end Findings

/-- The elements of a detector can be walked over, and the first that has a place is usable. -/
def ReadableDetector (detector : List (Value × Value)) : Prop :=
  ∃ parts, Parts (valueAt detector "elements") parts ∧
    ∀ element, parts.find? isLocated = some (.map element) → Usable detector element

def container (entries : List (Value × Value)) : List (Value × Value) :=
  match valueAt entries "results" with
  | .map results => results
  | _ => entries

/-- The detectors of a report can be walked over, and all that are mappings are readable. What is
no mapping at all holds no detectors. -/
def Readable (payload : Value) : Prop :=
  ∀ entries, payload = .map entries → ∃ parts,
    Parts (valueAt (container entries) "detectors") parts ∧
      ∀ detector, .map detector ∈ parts → ReadableDetector detector

section Reports

variable {n : Nat} {detector : List (Value × Value)}

theorem eq_map_of_isLocated {value : Value} (h : isLocated value = true) :
    ∃ element, value = .map element := by
  cases value with
  | map element => exact ⟨element, rfl⟩
  | _ => cases h

theorem firstLocated?_eq_ok_iff {located : Option Value} :
    firstLocated? (.map detector) = .ok located ↔
      ∃ parts, Parts (valueAt detector "elements") parts ∧ parts.find? isLocated = located := by
  simp only [firstLocated?, entry_map, ok_bind, bind_eq_ok_iff, pure_eq_ok_iff,
    elementsIfAny_eq_ok_iff]

theorem exists_findingsFrom_cons_iff {rest : List Value} {P : Prop}
    (hrest : ∀ n, (∃ found, findingsFrom n rest = .ok found) ↔ P) :
    (∃ found, findingsFrom n (.map detector :: rest) = .ok found) ↔
      ReadableDetector detector ∧ P := by
  simp only [findingsFrom, bind_eq_ok_iff, firstLocated?_eq_ok_iff]
  constructor
  · rintro ⟨found, located, ⟨parts, hparts, hfind⟩, h⟩
    cases located with
    | none =>
      refine ⟨⟨parts, hparts, ?_⟩, (hrest n).mp ⟨found, h⟩⟩
      simp [hfind]
    | some value =>
      obtain ⟨element, rfl⟩ := eq_map_of_isLocated (List.find?_some hfind)
      simp only [bind_eq_ok_iff] at h
      obtain ⟨f, hf, more, hmore, -⟩ := h
      refine ⟨⟨parts, hparts, ?_⟩, (hrest _).mp ⟨more, hmore⟩⟩
      intro element' hfind'
      cases hfind.symm.trans hfind'
      exact exists_finding_iff.mp ⟨f, hf⟩
  · rintro ⟨⟨parts, hparts, husable⟩, hP⟩
    cases hfind : parts.find? isLocated with
    | none =>
      obtain ⟨found, hfound⟩ := (hrest n).mpr hP
      exact ⟨found, none, ⟨parts, hparts, hfind⟩, hfound⟩
    | some value =>
      obtain ⟨element, rfl⟩ := eq_map_of_isLocated (List.find?_some hfind)
      obtain ⟨f, hf⟩ := (exists_finding_iff (n := n)).mpr (husable element hfind)
      obtain ⟨more, hmore⟩ := (hrest (n + 1)).mpr hP
      refine ⟨f :: more, some (.map element), ⟨parts, hparts, hfind⟩, ?_⟩
      simp only [hf, hmore, ok_bind]
      rfl

theorem exists_findingsFrom_iff {values : List Value}
    (hvalues : ∀ value ∈ values, isMapping value = true) :
    (∃ found, findingsFrom n values = .ok found) ↔
      ∀ detector, .map detector ∈ values → ReadableDetector detector := by
  induction values generalizing n with
  | nil => simp [findingsFrom]
  | cons value rest ih =>
    rw [List.forall_mem_cons] at hvalues
    obtain ⟨hvalue, hrest⟩ := hvalues
    cases value with
    | map detector =>
      rw [exists_findingsFrom_cons_iff fun n => ih hrest]
      simp [or_imp, forall_and]
    | _ => cases hvalue

theorem detectors_map_eq_ok_iff {entries : List (Value × Value)} {values : List Value} :
    detectors (.map entries) = .ok values ↔
      ∃ parts, Parts (valueAt (container entries) "detectors") parts ∧
        parts.filter isMapping = values := by
  have hcontainer : (if isMapping (valueAt entries "results") then valueAt entries "results"
      else .map entries) = .map (container entries) := by
    unfold container
    cases valueAt entries "results" <;> rfl
  have hmapping : (!isMapping (.map entries)) = false := rfl
  simp only [detectors, hmapping, Bool.false_eq_true, if_false, entry_map, ok_bind, hcontainer,
    bind_eq_ok_iff, pure_eq_ok_iff, elementsIfAny_eq_ok_iff]

/-- The findings of a report come out exactly when it is readable. -/
theorem exists_findings_iff {payload : Value} :
    (∃ found, findings payload = .ok found) ↔ Readable payload := by
  unfold findings Readable
  cases payload with
  | map entries =>
    simp only [bind_eq_ok_iff, detectors_map_eq_ok_iff, Value.map.injEq, forall_eq']
    constructor
    · rintro ⟨found, _, ⟨parts, hparts, rfl⟩, h⟩
      have hreadable := (exists_findingsFrom_iff (by simp)).mp ⟨found, h⟩
      refine ⟨parts, hparts, fun detector hdetector => hreadable detector ?_⟩
      exact List.mem_filter.mpr ⟨hdetector, rfl⟩
    · rintro ⟨parts, hparts, hreadable⟩
      obtain ⟨found, h⟩ : ∃ found, findingsFrom 1 (parts.filter isMapping) = .ok found := by
        refine (exists_findingsFrom_iff (by simp)).mpr fun detector hdetector => ?_
        exact hreadable detector (List.mem_filter.mp hdetector).1
      exact ⟨found, _, ⟨parts, hparts, rfl⟩, h⟩
  | _ => exact ⟨fun _ _ => nofun, fun _ => ⟨[], rfl⟩⟩

end Reports

end Slither

end ContractScan
