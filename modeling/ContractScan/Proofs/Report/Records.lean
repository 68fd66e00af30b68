import ContractScan.Proofs.FileTree.Growth
import ContractScan.Proofs.Finding.Schema
import ContractScan.Proofs.Text.Pieces
import ContractScan.Report.Findings
import Mathlib.Data.List.Forall2

/-! # Records of findings

The records of findings stand one on each line of their file. Each line can be
read by itself and gives back its finding, whatever characters the finding holds.
-/

namespace ContractScan

namespace Report

variable {path : Path} {scanRoot : String} {findings : List Finding} {t t' : FileTree} {count : Nat}

/-- A line of JSON that holds a finding and the root of its scan. -/
def IsRecord (scanRoot : String) (f : Finding) (line : List Char) : Prop :=
  ∃ entries value, Json.read line = .ok (.map entries) ∧
    Value.lookup entries "scan_root" = some (.str scanRoot) ∧
    Value.lookup entries "finding" = some value ∧ Finding.ofValue value = .ok f

theorem isJson_record {digits : Nat} {f : Finding}
    (h : (Nat.toDigits 10 f.lineNumber).length ≤ digits) :
    Json.IsJson digits (record scanRoot f) := by
  refine .record (by simp) ?_
  simp only [List.forall_mem_cons]
  exact ⟨f.isJson_toValue h, .str _, by simp⟩

theorem isRecord_render {f : Finding}
    (h : (Nat.toDigits 10 f.lineNumber).length ≤ Json.digitLimit) :
    IsRecord scanRoot f (Json.render (record scanRoot f)) :=
  ⟨_, f.toValue, Json.read_render (isJson_record h), rfl, rfl, f.ofValue_toValue⟩

theorem toList_jsonLines (scanRoot : String) (findings : List Finding) :
    (jsonLines scanRoot findings).toList =
      (findings.map fun f => Json.render (record scanRoot f)).flatMap (· ++ ['\n']) := by
  simp [jsonLines, jsonLine, Json.print, String.toList_join, List.flatMap_map]

theorem pieces_jsonLines (scanRoot : String) (findings : List Finding) :
    Text.pieces '\n' (jsonLines scanRoot findings).toList =
      (findings.map fun f => Json.render (record scanRoot f)) ++ [[]] := by
  rw [toList_jsonLines]
  refine Text.pieces_flatMap fun line hline => ?_
  obtain ⟨f, -, rfl⟩ := List.mem_map.mp hline
  exact Json.newline_not_mem_render (isJson_record (Nat.le_refl _))

theorem run_writeJsonLines_eq_ok
    (h : (writeJsonLines path scanRoot findings).run.run t = (.ok count, t')) :
    count = findings.length ∧ FileTree.Grows t t' ∧ ∃ place, t'.locate path = .ok place ∧
      t'.node? place = some (.file (.text (jsonLines scanRoot findings))) := by
  unfold writeJsonLines at h
  obtain ⟨_, t₁, hparent, h⟩ := run_bind_eq_ok h
  obtain ⟨_, t₂, hwrite, h⟩ := run_bind_eq_ok h
  obtain ⟨place, hplace, hfree, rfl⟩ := FileTree.write_eq_ok (FileTree.run_edit_eq_ok hwrite)
  have hwritten : FileTree.Grows t₁ (t₁.put place (.file (.text (jsonLines scanRoot findings)))) :=
    .put_file hfree
  obtain ⟨hne, hlocate, -⟩ := FileTree.locate_put_place hplace hfree hwritten
  cases h
  exact ⟨rfl, (FileTree.Grows.ensureParent hparent).trans hwritten, place, hlocate,
    FileTree.node?_put_self hne⟩

theorem run_writeJsonLines_of_place {place : List String} (hplace : t.place path = .ok place)
    (hfree : t.node? place ≠ some .directory) :
    ∃ t', (writeJsonLines path scanRoot findings).run.run t = (.ok findings.length, t') := by
  rw [writeJsonLines, run_bind_of_ok (FileTree.run_ensureParent_of_place hplace hfree),
    run_bind_of_ok (FileTree.run_edit_of_ok (FileTree.write_of_place hplace hfree))]
  exact ⟨_, rfl⟩

theorem run_publish_eq_ok {formats : List Format} {out scanRoot : Path} {exported : Exported}
    (h : (publish formats out scanRoot findings).run.run t = (.ok exported, t'))
    (hjson : .json ∈ formats) :
    FileTree.Grows t t' ∧ ∃ place, t'.locate (jsonPath t out) = .ok place ∧
      t'.node? place = some (.file (.text (jsonLines scanRoot.text findings))) := by
  unfold publish at h
  dsimp only at h
  rw [if_pos (by simpa using hjson)] at h
  obtain ⟨_, _, hget, h₁⟩ := run_bind_eq_ok h
  cases hget
  obtain ⟨count, _, hwrite, h₂⟩ := run_bind_eq_ok h₁
  cases h₂
  exact (run_writeJsonLines_eq_ok hwrite).2

/-- Written records come back: one line for each finding, and from each line its finding. -/
theorem writeJsonLines_reads_back (path : Path) (scanRoot : String) (findings : List Finding)
    (hlines : ∀ f ∈ findings, (Nat.toDigits 10 f.lineNumber).length ≤ 4300) (tree : FileTree) :
    (∀ place, tree.place path = .ok place → tree.node? place ≠ some .directory →
      ∃ after, (writeJsonLines path scanRoot findings).run.run tree =
        (.ok findings.length, after)) ∧
    ∀ count after, (writeJsonLines path scanRoot findings).run.run tree = (.ok count, after) →
      count = findings.length ∧ ∃ text lines, after.at? path = some (.file (.text text)) ∧
        Text.pieces '\n' text.toList = lines ++ [[]] ∧
        List.Forall₂ (IsRecord scanRoot) findings lines := by
  refine ⟨fun place => run_writeJsonLines_of_place, fun count after hrun => ?_⟩
  obtain ⟨rfl, -, place, hlocate, hnode⟩ := run_writeJsonLines_eq_ok hrun
  refine ⟨rfl, _, _, by rw [FileTree.at?, hlocate]; exact hnode, pieces_jsonLines _ _, ?_⟩
  rw [List.forall₂_map_right_iff, List.forall₂_same]
  exact fun f hf => isRecord_render (hlines f hf)

/-- A finding with line ends, quotes, a null character and characters outside the basic plane. -/
def awkwardFinding : Finding where
  id := "ARC-001"
  title := "two\nlines \"quoted\" \\"
  severity := .high
  description := "\x00\r\t\u2028"
  filePath := "src/😀.sol"
  lineNumber := 1200
  codeSnippet := "\n"
  exploitability := ""
  remediation := "null"
  fixPrompt := "\x7f"
  functionName := some "null"
  detector := "d"
  tool := .patterns
  lineNumber_pos := by decide

theorem writeJsonLines_reads_back_awkward :
    let findings := [awkwardFinding, awkwardFinding]
    let tree : FileTree := { base := ⟨.absolute, ["work"]⟩ }
    let write (names : List String) := (writeJsonLines ⟨.relative, names⟩ "." findings).run.run tree
    (∃ after, write ["records.jsonl"] = (.ok 2, after)) ∧
      ∃ after text lines, write ["new", "records.jsonl"] = (.ok 2, after) ∧
        after.at? ⟨.relative, ["new", "records.jsonl"]⟩ = some (.file (.text text)) ∧
        Text.pieces '\n' text.toList = lines ++ [[]] ∧
        List.Forall₂ (IsRecord ".") findings lines := by
  intro findings tree write
  have hlines : ∀ f ∈ findings, (Nat.toDigits 10 f.lineNumber).length ≤ 4300 := by decide +kernel
  have hrun : write ["new", "records.jsonl"] = (.ok 2, (write ["new", "records.jsonl"]).2) := rfl
  obtain ⟨text, lines, hfile⟩ :=
    ((writeJsonLines_reads_back ⟨.relative, ["new", "records.jsonl"]⟩ "." findings hlines tree).2
      2 _ hrun).2
  exact ⟨(writeJsonLines_reads_back ⟨.relative, ["records.jsonl"]⟩ "." findings hlines tree).1
    ["records.jsonl"] rfl (by decide), _, text, lines, hrun, hfile⟩

end Report

end ContractScan
