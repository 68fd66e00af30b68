import ContractScan.Proofs.Finding.Numbering

/-! # Findings of issues

Every issue of the documented shape becomes a finding, and its number in the run
goes into its id only. So the findings of a list of issues are the same from any
number on, up to their ids.
-/

namespace ContractScan.Mythril

open Shape

def textKeys : List String :=
  ["title", "swcTitle", "filename", "severity", "description", "code", "contract", "function"]

/-- An issue as documented: what is there is a text, and the line is a number. Nothing is asked of
the ids, the address and the sequence. -/
structure Documented (issue : List (Value × Value)) : Prop where
  text : ∀ key ∈ textKeys, OrNull IsString (valueAt issue key)
  line : OrNull IsNatural (valueAt issue "lineno")

section Issue

variable {issue : List (Value × Value)} {root : Path}

theorem exists_filePath (root : Path) {value : Value} (h : OrNull IsString value) :
    ∃ path, filePath root value = .ok path := by
  obtain rfl | ⟨s, rfl⟩ := h
  · exact ⟨_, rfl⟩
  · unfold filePath
    split <;> exact ⟨_, rfl⟩

theorem Documented.exists_finding (h : Documented issue) (ordinal : Int) (root : Path) :
    ∃ f, finding (.map issue) ordinal root = .ok f := by
  have hany {key : String} (hkey : key ∈ textKeys) : IfAny IsText (valueAt issue key) :=
    OrNull.ifAny_isText (h.text key hkey)
  obtain ⟨path, hpath⟩ := exists_filePath root (h.text "filename" (by decide))
  have hlabel := label_eq_ok severities defaultSeverity (h.text "severity" (by decide))
  simp only [finding, issueId, entry_map, ok_bind, hpath, hlabel]
  have htext {key : String} (hkey : key ∈ textKeys) (other : String) :
      IsText (orElse (valueAt issue key) (.str other)) :=
    (ifAny_iff IsText (isText_str other)).mpr (hany hkey)
  have htitle : IsText (orElse (valueAt issue "title")
      (orElse (valueAt issue "swcTitle") (.str ""))) :=
    (ifAny_iff IsText (htext (by decide) "")).mpr (hany (by decide))
  refine Shape.exists_finding_iff.mpr ⟨?_, severity_of_label (by decide) hlabel,
    htext (by decide) _, isText_str path, ⟨_, positive_orElse h.line⟩, htext (by decide) _,
    .inr (htext (by decide) _), ?_⟩
  · split
    · exact isText_str _
    · exact (ifAny_iff IsText (isText_str _)).mpr fun _ => htitle
  · refine (ifAny_iff (fun value => value = .null ∨ IsText value) (.inl rfl)).mpr ?_
    exact fun htruthy => .inr (hany (by decide) htruthy)

/-- A finding has the severity that its issue is labelled with, and its line; the line is one where
none is given. -/
def Describes (issue : List (Value × Value)) (f : Finding) : Prop :=
  f.severity.word =
      (severities.lookup (textOf (valueAt issue "severity"))).getD defaultSeverity ∧
    f.lineNumber = max 1 (numberOf (valueAt issue "lineno"))

theorem Documented.describes {ordinal : Int} {f : Finding} (h : Documented issue)
    (hf : finding (.map issue) ordinal root = .ok f) : Describes issue f := by
  obtain ⟨path, hpath⟩ := exists_filePath root (h.text "filename" (by decide))
  have hlabel := label_eq_ok severities defaultSeverity (h.text "severity" (by decide))
  simp only [finding, issueId, entry_map, ok_bind, hpath, hlabel] at hf
  obtain ⟨hseverity, hchecked⟩ := severity_line_of_finding hf
  have hnumber := Subtype.mk.inj (Checked.ok.inj (hchecked.symm.trans (positive_orElse h.line)))
  exact ⟨hseverity, hnumber⟩

/-- The number goes into the id alone. -/
theorem finding_renumber {issue : Value} {m : Int} {f : Finding} (n : Int)
    (h : finding issue m root = .ok f) :
    finding issue n root = .ok { f with id := numberedId "MYTH" n } := by
  unfold finding at h ⊢
  repeat refine bind_eq_ok_imp h fun _ h => ?_
  exact finding_withId _ h

end Issue

def numberedFrom (first : Nat) (findings : List Finding) : List Finding :=
  findings.mapIdx fun k f => { f with id := ordinalId "MYTH" (first + k) }

section Numbers

variable {root : Path} {issues : List Value} {findings : List Finding} {m : Nat}

@[simp] theorem length_numberedFrom (n : Nat) (findings : List Finding) :
    (numberedFrom n findings).length = findings.length := by
  simp [numberedFrom]

theorem numberedFrom_cons (n : Nat) (f : Finding) (findings : List Finding) :
    numberedFrom n (f :: findings) =
      { f with id := ordinalId "MYTH" n } :: numberedFrom (n + 1) findings := by
  simp only [numberedFrom, List.mapIdx_cons, Nat.add_zero, Nat.add_right_comm n 1, Nat.add_assoc]

theorem numberedFrom_append (n : Nat) (findings more : List Finding) :
    numberedFrom n (findings ++ more) =
      numberedFrom n findings ++ numberedFrom (n + findings.length) more := by
  simp only [numberedFrom, List.mapIdx_append, Nat.add_assoc, Nat.add_comm findings.length]

theorem findingsFrom_renumber (n : Nat) (h : findingsFrom root m issues = .ok findings) :
    findingsFrom root n issues = .ok (numberedFrom n findings) := by
  induction issues generalizing m n findings with
  | nil =>
    cases h
    rfl
  | cons issue rest ih =>
    simp only [findingsFrom, bind_eq_ok_iff, pure_eq_ok_iff] at h ⊢
    obtain ⟨f, hf, more, hmore, rfl⟩ := h
    refine ⟨_, finding_renumber n hf, _, ih (m := m + 1) (n + 1) hmore, ?_⟩
    rw [numberedFrom_cons, numberedId_natCast]

theorem exists_findingsFrom (ordinal : Int)
    (h : ∀ issue ∈ issues, ∃ entries, issue = .map entries ∧ Documented entries) :
    ∃ findings, findingsFrom root ordinal issues = .ok findings := by
  induction issues generalizing ordinal with
  | nil => exact ⟨[], rfl⟩
  | cons issue rest ih =>
    rw [List.forall_mem_cons] at h
    obtain ⟨⟨entries, rfl, hissue⟩, hrest⟩ := h
    obtain ⟨f, hf⟩ := hissue.exists_finding ordinal root
    obtain ⟨more, hmore⟩ := ih (ordinal + 1) hrest
    refine ⟨f :: more, ?_⟩
    rw [findingsFrom, hf, ok_bind, hmore]
    rfl

end Numbers

end ContractScan.Mythril
