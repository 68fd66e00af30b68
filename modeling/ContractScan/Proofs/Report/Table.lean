import ContractScan.Proofs.Report.Records
import ContractScan.Proofs.Text.Order

/-! # The table of findings

The rows of a table are the rows of the findings, each as often as it was found,
from the most severe to the least, then by file and line. Findings that agree on
all three stay as they were. The records beside a table are those of the same
findings, in the order in which they were found.
-/

namespace ContractScan.Report

variable {a b c : Finding}

def tableKey (f : Finding) : Nat × String × Nat :=
  (f.severity.rank, f.filePath, f.lineNumber)

/-- The order of a table: by the rank of the severity, then by the codes of the file's path, then by
the line. -/
def NotAfter (a b : Finding) : Prop :=
  a.severity.rank < b.severity.rank ∨ a.severity.rank = b.severity.rank ∧
    (Text.CodeBefore a.filePath b.filePath ∨ a.filePath = b.filePath ∧
      a.lineNumber ≤ b.lineNumber)

/-- Findings put in the order of a table. Those that the order does not tell apart stay as they
were. -/
structure IsTableOrder (findings ordered : List Finding) : Prop where
  perm : ordered.Perm findings
  sorted : ordered.Pairwise NotAfter
  stable : ∀ key, ordered.filter (tableKey · = key) = findings.filter (tableKey · = key)

section Order

theorem inTableOrder_iff : inTableOrder a b = true ↔ NotAfter a b := by
  rw [inTableOrder, NotAfter]
  by_cases hrank : a.severity.rank = b.severity.rank
  · by_cases hpath : a.filePath = b.filePath
    · simp [hrank, hpath, Text.CodeBefore.irrefl]
    · simp [hrank, hpath, Text.codeBefore_iff_lt]
  · simp [hrank]

theorem NotAfter.trans (h : NotAfter a b) (h' : NotAfter b c) : NotAfter a c := by
  obtain hrank | ⟨hrank, hpath⟩ := h
  · obtain hrank' | ⟨hrank', -⟩ := h'
    · exact .inl (Nat.lt_trans hrank hrank')
    · exact .inl (hrank' ▸ hrank)
  · obtain hrank' | ⟨hrank', hpath'⟩ := h'
    · exact .inl (hrank ▸ hrank')
    · refine .inr ⟨hrank.trans hrank', ?_⟩
      obtain hpath | ⟨hpath, hline⟩ := hpath
      · obtain hpath' | ⟨hpath', -⟩ := hpath'
        · exact .inl (hpath.trans hpath')
        · exact .inl (hpath' ▸ hpath)
      · obtain hpath' | ⟨hpath', hline'⟩ := hpath'
        · exact .inl (hpath ▸ hpath')
        · exact .inr ⟨hpath.trans hpath', Nat.le_trans hline hline'⟩

theorem NotAfter.total (a b : Finding) : NotAfter a b ∨ NotAfter b a := by
  obtain hrank | hrank | hrank := Nat.lt_trichotomy a.severity.rank b.severity.rank
  · exact .inl (.inl hrank)
  · by_cases hpath : a.filePath = b.filePath
    · obtain hline | hline := Nat.le_total a.lineNumber b.lineNumber
      · exact .inl (.inr ⟨hrank, .inr ⟨hpath, hline⟩⟩)
      · exact .inr (.inr ⟨hrank.symm, .inr ⟨hpath.symm, hline⟩⟩)
    · obtain hbefore | hbefore := Text.CodeBefore.total hpath
      · exact .inl (.inr ⟨hrank, .inl hbefore⟩)
      · exact .inr (.inr ⟨hrank.symm, .inl hbefore⟩)
  · exact .inr (.inl hrank)

theorem notAfter_of_tableKey_eq (h : tableKey a = tableKey b) : NotAfter a b := by
  obtain ⟨hrank, hpath, hline⟩ : a.severity.rank = b.severity.rank ∧ a.filePath = b.filePath ∧
      a.lineNumber = b.lineNumber := by
    simpa [tableKey] using h
  exact .inr ⟨hrank, .inr ⟨hpath, Nat.le_of_eq hline⟩⟩

theorem inTableOrder_trans (a b c : Finding) (hab : inTableOrder a b = true)
    (hbc : inTableOrder b c = true) : inTableOrder a c = true := by
  rw [inTableOrder_iff] at hab hbc ⊢
  exact hab.trans hbc

theorem inTableOrder_total (a b : Finding) : (inTableOrder a b || inTableOrder b a) = true := by
  rw [Bool.or_eq_true, inTableOrder_iff, inTableOrder_iff]
  exact NotAfter.total a b

end Order

section Table

/-- Sorting keeps the findings with one key in their order, and there are as many of them after it
as before. -/
theorem filter_tableKey_mergeSort (findings : List Finding) (key : Nat × String × Nat) :
    (findings.mergeSort inTableOrder).filter (tableKey · = key) =
      findings.filter (tableKey · = key) := by
  have hlevel : (findings.filter (tableKey · = key)).Pairwise (inTableOrder · · = true) := by
    refine List.pairwise_of_forall_mem_list fun a ha b hb => ?_
    have hkeya : tableKey a = key := of_decide_eq_true (List.mem_filter.mp ha).2
    have hkeyb : tableKey b = key := of_decide_eq_true (List.mem_filter.mp hb).2
    exact inTableOrder_iff.mpr (notAfter_of_tableKey_eq (hkeya.trans hkeyb.symm))
  have hkept := (List.sublist_mergeSort inTableOrder_trans inTableOrder_total hlevel
    List.filter_sublist).filter (tableKey · = key)
  simp only [List.filter_filter, Bool.and_self] at hkept
  have hlength := ((List.mergeSort_perm findings inTableOrder).filter (tableKey · = key)).length_eq
  exact (hkept.eq_of_length hlength.symm).symm

theorem isTableOrder_mergeSort (findings : List Finding) :
    IsTableOrder findings (findings.mergeSort inTableOrder) where
  perm := List.mergeSort_perm findings inTableOrder
  sorted := by
    refine (List.pairwise_mergeSort inTableOrder_trans inTableOrder_total findings).imp ?_
    intro a b hab
    exact inTableOrder_iff.mp hab
  stable := filter_tableKey_mergeSort findings

end Table

section Publishing

variable {formats : List Format} {out scanRoot : Path} {findings : List Finding}
  {t t' : FileTree} {exported : Exported}

theorem exported_of_publish
    (h : (publish formats out scanRoot findings).run.run t = (.ok exported, t')) :
    exported.records = (if .json ∈ formats then some (jsonPath t out) else none) ∧
      exported.shown = if .table ∈ formats then [.table (table findings)] else [] := by
  unfold publish at h
  dsimp only at h
  by_cases hjson : .json ∈ formats
  · rw [if_pos (by simpa using hjson)] at h
    obtain ⟨_, _, hget, h₁⟩ := run_bind_eq_ok h
    cases hget
    obtain ⟨count, _, hwrite, h₂⟩ := run_bind_eq_ok h₁
    cases h₂
    simp [hjson]
  · rw [if_neg (by simpa using hjson)] at h
    cases h
    simp [hjson]

theorem exists_run_publish (hplace : .json ∈ formats →
      ∃ place, t.place (jsonPath t out) = .ok place ∧ t.node? place ≠ some .directory) :
    ∃ exported t', (publish formats out scanRoot findings).run.run t = (.ok exported, t') := by
  unfold publish
  dsimp only
  by_cases hjson : .json ∈ formats
  · obtain ⟨place, hplace, hfree⟩ := hplace hjson
    obtain ⟨t', hwrite⟩ : ∃ t', (writeJsonLines (jsonPath t out) scanRoot.text findings).run.run t =
        (.ok findings.length, t') := run_writeJsonLines_of_place hplace hfree
    rw [if_pos (by simpa using hjson), run_bind_of_ok (FileTree.run_get t), run_bind_of_ok hwrite]
    exact ⟨_, t', rfl⟩
  · rw [if_neg (by simpa using hjson)]
    exact ⟨_, t, rfl⟩

end Publishing

/-- A table has the rows of the findings in the order of a table. Records written beside it are
those of the same findings, as they were found. -/
theorem table_lists_findings (findings : List Finding) :
    ∃ ordered, IsTableOrder findings ordered ∧ (table findings).rows = ordered.map row ∧
      ∀ (formats : List Format) (out scanRoot : Path) (tree : FileTree), .table ∈ formats →
        ((.json ∈ formats → ∃ place, tree.place (jsonPath tree out) = .ok place ∧
            tree.node? place ≠ some .directory) →
          ∃ exported after,
            (publish formats out scanRoot findings).run.run tree = (.ok exported, after)) ∧
        ∀ exported after,
          (publish formats out scanRoot findings).run.run tree = (.ok exported, after) →
          exported.shown = [.table (table findings)] ∧
          (.json ∈ formats → ∃ path text, exported.records = some path ∧
            after.at? path = some (.file (.text text)) ∧
            Text.pieces '\n' text.toList =
              (findings.map fun f => Json.render (record scanRoot.text f)) ++ [[]]) := by
  refine ⟨_, isTableOrder_mergeSort findings, rfl, ?_⟩
  intro formats out scanRoot tree htable
  refine ⟨exists_run_publish, fun exported after hrun => ?_⟩
  obtain ⟨hrecords, hshown⟩ := exported_of_publish hrun
  refine ⟨by rw [hshown, if_pos htable], fun hjson => ?_⟩
  obtain ⟨-, place, hlocate, hnode⟩ := run_publish_eq_ok hrun hjson
  refine ⟨_, _, by rw [hrecords, if_pos hjson], ?_, pieces_jsonLines _ _⟩
  rw [FileTree.at?, hlocate]
  exact hnode

def unsortedFindings : List Finding :=
  [{ awkwardFinding with id := "1", severity := .low }, { awkwardFinding with id := "2" },
    { awkwardFinding with id := "3" }]

theorem table_lists_findings_sample :
    let tree : FileTree := { base := ⟨.absolute, ["work"]⟩ }
    let run := (publish [.json, .table] ⟨.relative, ["records.txt"]⟩ ⟨.relative, ["src"]⟩
      unsortedFindings).run.run tree
    ∃ ordered exported after path text, IsTableOrder unsortedFindings ordered ∧
      (ordered.filter (tableKey · = tableKey awkwardFinding)).map (·.id) = ["2", "3"] ∧
      (table unsortedFindings).rows = ordered.map row ∧ run = (.ok exported, after) ∧
      exported.shown = [.table (table unsortedFindings)] ∧ exported.records = some path ∧
      after.at? path = some (.file (.text text)) ∧
      Text.pieces '\n' text.toList =
        (unsortedFindings.map fun f => Json.render (record "src" f)) ++ [[]] := by
  intro tree run
  obtain ⟨ordered, hordered, hrows, hpublish⟩ := table_lists_findings unsortedFindings
  obtain ⟨hsucceeds, hpublished⟩ :=
    hpublish [.json, .table] ⟨.relative, ["records.txt"]⟩ ⟨.relative, ["src"]⟩ tree (by decide)
  have hpath : jsonPath tree ⟨.relative, ["records.txt"]⟩ = ⟨.relative, ["records.jsonl"]⟩ := by
    decide +kernel
  obtain ⟨exported, after, hrun⟩ := hsucceeds fun _ =>
    ⟨["records.jsonl"], by rw [hpath]; rfl, by decide⟩
  obtain ⟨hshown, hrecords⟩ := hpublished exported after hrun
  obtain ⟨path, text, hpath, hfile, hpieces⟩ := hrecords (by decide)
  refine ⟨ordered, exported, after, path, text, hordered, ?_, hrows, hrun, hshown, hpath, hfile,
    hpieces⟩
  rw [hordered.stable]
  decide +kernel

end ContractScan.Report
