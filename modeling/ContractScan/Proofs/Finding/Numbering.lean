import ContractScan.Mythril.Run
import ContractScan.Proofs.Analyzer.Invocation
import ContractScan.Proofs.Analyzer.Shape
import ContractScan.Proofs.Scan.Sites
import ContractScan.Slither.Run
import Mathlib.Data.List.Nodup

/-! # Numbered findings

Every scanner numbers its findings without a gap: the rules across files and
rules, Slither across the detectors that have a place, Mythril across the files
it is run on. The ids stay distinct however many there are.
-/

namespace ContractScan

/-- A word, a dash, and the digits of a number with zeros before them up to three places. -/
def ordinalId (word : String) (n : Nat) : String :=
  word ++ "-" ++ String.ofList ((Nat.toDigits 10 n).leftpad 3 '0')

/-- The ids of findings are numbered without a gap from a first ordinal on. -/
def Numbered (word : String) (first : Nat) (findings : List Finding) : Prop :=
  findings.map (·.id) = (List.range' first findings.length).map (ordinalId word)

section Ids

variable {word word' : String} {m n : Nat}

theorem numberedId_natCast (word : String) (n : Nat) : numberedId word n = ordinalId word n := by
  rw [numberedId, ordinalId, padded_natCast]

theorem ofDigitChars_leftpad (n : Nat) :
    Nat.ofDigitChars 10 ((Nat.toDigits 10 n).leftpad 3 '0') 0 = n := by
  rw [List.leftpad, Nat.ofDigitChars_append, Nat.ofDigitChars_replicate_zero, Nat.mul_zero,
    Nat.ofDigitChars_ten_toDigits]

theorem dash_not_mem_leftpad (n : Nat) : '-' ∉ (Nat.toDigits 10 n).leftpad 3 '0' := by
  rw [List.leftpad, List.mem_append, not_or]
  refine ⟨fun h => ?_, fun h => ?_⟩
  · exact absurd (List.eq_of_mem_replicate h) (by decide)
  · exact absurd (Json.isDigit_of_mem_toDigits h) (by decide)

/-- An id gives back its word and its number, past three places too. -/
theorem ordinalId_inj (hword : '-' ∉ word.toList) (h : ordinalId word m = ordinalId word' n) :
    word = word' ∧ m = n := by
  have hlist := congrArg String.toList h
  simp only [ordinalId, String.toList_append, String.toList_ofList, List.append_assoc] at hlist
  obtain ⟨hwords, -, hdigits⟩ :=
    (List.append_cons_inj_of_notMem hword (dash_not_mem_leftpad m)).mp hlist
  refine ⟨String.toList_inj.mp hwords, ?_⟩
  rw [← ofDigitChars_leftpad m, ← ofDigitChars_leftpad n]
  exact congrArg (Nat.ofDigitChars 10 · 0) hdigits

end Ids

namespace Numbered

variable {word word' : String} {first : Nat} {findings more : List Finding} {f : Finding}

theorem nil : Numbered word first [] := rfl

theorem append (h : Numbered word first findings)
    (hmore : Numbered word (first + findings.length) more) :
    Numbered word first (findings ++ more) := by
  unfold Numbered at *
  rw [List.map_append, h, hmore, List.length_append, ← List.map_append]
  simp

theorem singleton (h : f.id = numberedId word first) : Numbered word first [f] := by
  simp [Numbered, h, numberedId_natCast]

theorem cons (h : f.id = numberedId word first) (hmore : Numbered word (first + 1) more) :
    Numbered word first (f :: more) :=
  (singleton h).append hmore

theorem mem_ids (h : Numbered word first findings) {id : String}
    (hid : id ∈ findings.map (·.id)) : ∃ n, id = ordinalId word n := by
  rw [h] at hid
  obtain ⟨n, -, rfl⟩ := List.mem_map.mp hid
  exact ⟨n, rfl⟩

theorem nodup (h : Numbered word first findings) (hword : '-' ∉ word.toList) :
    (findings.map (·.id)).Nodup := by
  rw [h]
  exact List.Nodup.map (fun m n hids => (ordinalId_inj hword hids).2) List.nodup_range'

theorem disjoint (h : Numbered word first findings) {first' : Nat}
    (h' : Numbered word' first' more) (hword : '-' ∉ word.toList) (hne : word ≠ word') :
    List.Disjoint (findings.map (·.id)) (more.map (·.id)) := by
  intro id hid hid'
  obtain ⟨m, rfl⟩ := h.mem_ids hid
  obtain ⟨n, hids⟩ := h'.mem_ids hid'
  exact hne (ordinalId_inj hword hids).1

end Numbered

section Rules

variable {registry : Registry} {family : Family} {findings findings' : List Finding}

theorem addMatch_numbered {path : String} {index : Source.Index} {first : Nat} {rule : Rule}
    {m : Pattern.Found} (hfindings : Numbered family.idPrefix first findings)
    (h : addMatch family path index first rule findings m = .ok findings') :
    Numbered family.idPrefix first findings' := by
  simp only [addMatch, bind_eq_ok_iff, pure_eq_ok_iff] at h
  obtain ⟨f, hf, rfl⟩ := h
  refine hfindings.append (.singleton ?_)
  unfold buildFinding at hf
  split at hf
  · cases hf
  · cases hf
    rfl

theorem addRule_numbered {path : String} {index : Source.Index} {first : Nat} {rule : Rule}
    (hfindings : Numbered family.idPrefix first findings)
    (h : addRule registry family path index first findings rule = .ok findings') :
    Numbered family.idPrefix first findings' := by
  obtain ⟨ms, -, h⟩ := bind_eq_ok_iff.mp h
  exact foldlM_preserves (fun _ _ _ _ => addMatch_numbered) hfindings h

theorem addFile_numbered {rules : List Rule} {file : SourceFile}
    (hfindings : Numbered family.idPrefix 1 findings)
    (h : addFile registry rules family findings file = .ok findings') :
    Numbered family.idPrefix 1 findings' := by
  simp only [addFile, bind_eq_ok_iff, pure_eq_ok_iff] at h
  obtain ⟨more, hmore, rfl⟩ := h
  refine hfindings.append ?_
  rw [Nat.add_comm]
  exact foldlM_preserves (fun _ _ _ _ => addRule_numbered) .nil hmore

theorem scanArc_numbered {files : List SourceFile} {ruleSet : RuleSet}
    (h : (scanArc files ruleSet).value = .ok findings) : Numbered "ARC" 1 findings := by
  rw [scanArc, value_scan] at h
  change Numbered Family.arc.idPrefix 1 findings
  exact foldlM_preserves (fun _ _ _ _ => addFile_numbered) .nil h

end Rules

section Analyzers

variable {f : Finding} {findings : List Finding}

theorem Slither.id_of_finding {detector element : Value} {n : Nat}
    (h : finding detector element n = .ok f) : f.id = numberedId "SC" n := by
  unfold Slither.finding at h
  repeat obtain ⟨_, -, h⟩ := bind_eq_ok_iff.mp h
  exact Shape.id_of_finding h

theorem Slither.findingsFrom_numbered {n : Nat} {detectors : List Value}
    (h : findingsFrom n detectors = .ok findings) : Numbered "SC" n findings := by
  induction detectors generalizing n findings with
  | nil =>
    cases h
    exact .nil
  | cons detector rest ih =>
    rw [findingsFrom, bind_eq_ok_iff] at h
    obtain ⟨located, -, h⟩ := h
    cases located with
    | none => exact ih h
    | some element =>
      simp only [bind_eq_ok_iff, pure_eq_ok_iff] at h
      obtain ⟨f, hf, more, hmore, rfl⟩ := h
      exact .cons (id_of_finding hf) (ih hmore)

theorem Mythril.id_of_finding {issue : Value} {n : Nat} {root : Path}
    (h : finding issue n root = .ok f) : f.id = numberedId "MYTH" n := by
  unfold Mythril.finding at h
  repeat obtain ⟨_, -, h⟩ := bind_eq_ok_iff.mp h
  exact Shape.id_of_finding h

theorem Mythril.findingsFrom_numbered {root : Path} {n : Nat} {issues : List Value}
    (h : findingsFrom root n issues = .ok findings) : Numbered "MYTH" n findings := by
  induction issues generalizing n findings with
  | nil =>
    cases h
    exact .nil
  | cons issue rest ih =>
    simp only [findingsFrom, bind_eq_ok_iff, pure_eq_ok_iff] at h
    obtain ⟨f, hf, more, hmore, rfl⟩ := h
    exact .cons (id_of_finding hf) (ih hmore)

theorem Mythril.runFile_numbered {launch : Launcher} {settings : Settings} {base file : Path}
    {n : Nat} (h : (runFile launch settings base file n).outcome = .ok findings) :
    Numbered "MYTH" n findings := by
  obtain ⟨result, -, h⟩ := Traced.outcome_bind_eq_ok h
  cases result with
  | unavailable tool =>
    cases h
    exact .nil
  | failed tool message kind =>
    dsimp only at h
    split at h <;> cases h <;> exact .nil
  | report tool payload =>
    obtain ⟨issues, -, h⟩ := bind_eq_ok_iff.mp h
    exact findingsFrom_numbered h

/-- The numbers run on from file to file, whichever runs fail. -/
theorem Mythril.runFiles_numbered {launch : Launcher} {settings : Settings} {base : Path}
    {n : Nat} {files : List Path}
    (h : (runFiles launch settings base n files).outcome = .ok findings) :
    Numbered "MYTH" n findings := by
  induction files generalizing n findings with
  | nil =>
    cases h
    exact .nil
  | cons file rest ih =>
    obtain ⟨found, hfound, h⟩ := Traced.outcome_bind_eq_ok h
    obtain ⟨more, hmore, h⟩ := Traced.outcome_bind_eq_ok h
    cases h
    exact (runFile_numbered hfound).append (ih hmore)

theorem Mythril.run_numbered {tree : FileTree} {launch : Launcher} {target : Path}
    {settings : Settings} (h : (run tree launch target settings).outcome = .ok findings) :
    Numbered "MYTH" 1 findings := by
  obtain ⟨available, -, h⟩ := Traced.outcome_bind_eq_ok h
  dsimp only at h
  split at h
  · cases h
    exact .nil
  · split at h
    · cases h
    · split at h
      · cases h
        exact .nil
      · obtain ⟨_, -, h⟩ := Traced.outcome_bind_eq_ok h
        obtain ⟨found, hfound, h⟩ := Traced.outcome_bind_eq_ok h
        obtain ⟨_, -, h⟩ := Traced.outcome_bind_eq_ok h
        cases h
        exact runFiles_numbered hfound

theorem Slither.run_numbered {tree : FileTree} {launch : Launcher} {target : Path}
    {exclude : List String} (h : (run tree launch target exclude).outcome = .ok findings) :
    Numbered "SC" 1 findings := by
  obtain ⟨result, -, h⟩ := Traced.outcome_bind_eq_ok h
  cases result with
  | unavailable tool =>
    cases h
    exact .nil
  | failed tool message kind =>
    dsimp only at h
    split at h
    · cases h
      exact .nil
    · split at h <;> cases h <;> exact .nil
  | report tool payload =>
    obtain ⟨found, hfound, h⟩ := Traced.outcome_bind_eq_ok h
    obtain ⟨_, -, h⟩ := Traced.outcome_bind_eq_ok h
    cases h
    obtain ⟨detectors, -, hfound⟩ := bind_eq_ok_iff.mp hfound
    exact findingsFrom_numbered hfound

end Analyzers

end ContractScan
