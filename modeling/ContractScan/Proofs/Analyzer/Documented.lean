import ContractScan.Proofs.Mythril.Issues
import ContractScan.Proofs.Slither.Located
import Mathlib.Data.List.Forall2

/-! # Documented reports have findings

Whatever a report of the documented shape leaves out, it has findings, and these
have the severity and the line that the report gives or that stand for what it
leaves out.
-/

namespace ContractScan

section Reports

variable {payload : Value} {detectors : List Value} {found : List Finding}

theorem Slither.DocumentedReport.documented (h : DocumentedReport payload)
    (hdetectors : Slither.detectors payload = .ok detectors) {detector : Value}
    (hdetector : detector ∈ detectors) : Shape.IsMapOf DocumentedDetector detector := by
  obtain ⟨entries, rfl, hlist⟩ := h
  obtain ⟨parts, hparts, rfl⟩ := detectors_map_eq_ok_iff.mp hdetectors
  obtain ⟨items, hitems, hdocumented⟩ := parts_of_list hlist
  rw [← Shape.elementsIfAny_eq_ok_iff] at hparts hitems
  cases hparts.symm.trans hitems
  exact hdocumented detector (List.mem_of_mem_filter hdetector)

/-- A detector of a report has a place by one of its own elements. -/
theorem Slither.mem_of_mem_located {entry : Value × Value} (h : entry ∈ located detectors) :
    entry.1 ∈ detectors ∧ place? entry.1 = some entry.2 := by
  obtain ⟨detector, hdetector, hplace⟩ := List.mem_filterMap.mp h
  obtain ⟨element, helement, rfl⟩ := Option.map_eq_some_iff.mp hplace
  exact ⟨hdetector, helement⟩

theorem Slither.DocumentedDetector.documented_of_place? {detector : List (Value × Value)}
    {element : Value} (h : DocumentedDetector detector)
    (hplace : place? (.map detector) = some element) :
    ∃ entries, element = .map entries ∧ DocumentedElement entries ∧
      isLocated (.map entries) = true := by
  obtain ⟨parts, hparts, hdocumented⟩ := parts_of_list h.elements
  rw [place?_of_firstLocated? (firstLocated?_eq_ok_iff.mpr ⟨parts, hparts, rfl⟩)] at hplace
  obtain ⟨entries, rfl, hentries⟩ := hdocumented element (List.mem_of_find?_eq_some hplace)
  exact ⟨entries, rfl, hentries, List.find?_some hplace⟩

theorem Slither.DocumentedReport.forall₂_describes (h : DocumentedReport payload)
    (hdetectors : Slither.detectors payload = .ok detectors)
    (hfound : findings payload = .ok found) :
    List.Forall₂ (fun entry f => Describes entry.1 entry.2 f) (located detectors) found := by
  have hfilter : detectors.filter Shape.isMapping = detectors := by
    rw [List.filter_eq_self]
    intro detector hdetector
    obtain ⟨entries, rfl, -⟩ := h.documented hdetectors hdetector
    rfl
  rw [findings, hdetectors, ok_bind, ← hfilter] at hfound
  have hplaces := forall₂_of_findingsFrom hfound
  rw [← List.zipIdx_map_fst 1 (located detectors), List.forall₂_map_left_iff]
  have hmem : ∀ entry ∈ (located detectors).zipIdx 1, entry.1 ∈ located detectors :=
    fun entry hentry => List.fst_mem_of_mem_zipIdx hentry
  refine ((List.forall₂_and_left _ _).mpr ⟨hmem, hplaces⟩).imp ?_
  rintro ⟨⟨detector, element⟩, n⟩ f ⟨hentry, hf⟩
  obtain ⟨hdetector, hplace⟩ := mem_of_mem_located hentry
  obtain ⟨entries, rfl, hdocumented⟩ := h.documented hdetectors hdetector
  obtain ⟨elementEntries, rfl, helement, hlocated⟩ := hdocumented.documented_of_place? hplace
  exact hdocumented.describes helement hlocated hf

end Reports

/-- Every report and every issue of the documented shape has findings, whatever it leaves out. They
have the severity and the line that it gives, with the defaults in their place, and their data
pass the check of findings. -/
theorem documented_reports_have_findings :
    (∀ payload, Slither.DocumentedReport payload → ∃ detectors found,
      Slither.detectors payload = .ok detectors ∧ Slither.findings payload = .ok found ∧
      List.Forall₂ (fun entry f => Slither.Describes entry.1 entry.2 f)
        (Slither.located detectors) found ∧
      ∀ f ∈ found, Finding.ofValue f.toValue = .ok f ∧ 1 ≤ f.lineNumber ∧
        f.severity.word ∈ ["critical", "high", "medium", "low", "info"]) ∧
    ∀ issue, Mythril.Documented issue → ∀ (ordinal : Int) (root : Path), ∃ f,
      Mythril.finding (.map issue) ordinal root = .ok f ∧ Mythril.Describes issue f ∧
      Finding.ofValue f.toValue = .ok f ∧ 1 ≤ f.lineNumber ∧
        f.severity.word ∈ ["critical", "high", "medium", "low", "info"] := by
  have hschema (f : Finding) : Finding.ofValue f.toValue = .ok f ∧ 1 ≤ f.lineNumber ∧
      f.severity.word ∈ ["critical", "high", "medium", "low", "info"] := by
    refine ⟨f.ofValue_toValue, f.lineNumber_pos, ?_⟩
    cases f.severity <;> decide
  constructor
  · intro payload h
    obtain ⟨found, hfound⟩ := Slither.exists_findings_iff.mpr h.readable
    obtain ⟨detectors, hdetectors, -⟩ := bind_eq_ok_iff.mp hfound
    exact ⟨detectors, found, hdetectors, hfound, h.forall₂_describes hdetectors hfound,
      fun f _ => hschema f⟩
  · intro issue h ordinal root
    obtain ⟨f, hf⟩ := h.exists_finding ordinal root
    exact ⟨f, hf, h.describes hf, hschema f⟩

def sparseIssue : List (Value × Value) :=
  [(.str "swc-id", .int 107), (.str "filename", .null), (.str "lineno", .int 0),
    (.str "severity", .str "High"), (.str "address", .list [.float .nan])]

theorem documented_sparseIssue : Mythril.Documented sparseIssue := by
  refine ⟨?_, .inr ⟨0, rfl⟩⟩
  simp only [Mythril.textKeys, List.forall_mem_cons]
  exact ⟨.inl rfl, .inl rfl, .inl rfl, .inr ⟨_, rfl⟩, .inl rfl, .inl rfl, .inl rfl, .inl rfl,
    by simp⟩

theorem documented_reports_have_findings_sample :
    Slither.DocumentedReport (Slither.plainReport Slither.sparse) ∧
    (∃ found, Slither.findings (Slither.plainReport Slither.sparse) = .ok found ∧
      found.map (·.lineNumber) = [7, 1] ∧ found.map (·.severity.word) = ["info", "info"]) ∧
    Mythril.Documented sparseIssue ∧
    ∃ f, Mythril.finding (.map sparseIssue) (-1) ⟨.relative, []⟩ = .ok f ∧ f.lineNumber = 1 ∧
      f.severity.word = "high" := by
  obtain ⟨hreports, hissues⟩ := documented_reports_have_findings
  obtain ⟨detectors, found, hdetectors, hfound, hdescribes, -⟩ :=
    hreports _ Slither.documented_sparse
  obtain ⟨f, hf, ⟨hseverity, hline⟩, -⟩ :=
    hissues sparseIssue documented_sparseIssue (-1) ⟨.relative, []⟩
  refine ⟨Slither.documented_sparse, ⟨found, hfound, ?_⟩, documented_sparseIssue, f, hf, hline,
    hseverity⟩
  cases (Slither.detectors_plainReport Slither.sparse).symm.trans hdetectors
  obtain _ | ⟨⟨_, _, _, ⟨⟩, ⟨⟩, hplace, hseverity, hline⟩, _ |
    ⟨⟨_, _, _, ⟨⟩, ⟨⟩, hplace', hseverity', hline'⟩, _ | _⟩⟩ := hdescribes
  cases hplace
  cases hplace'
  simp only [List.map_cons, List.map_nil, hline, hline', hseverity, hseverity']
  decide

end ContractScan
