import ContractScan.Finding.Basic
import ContractScan.Proofs.Json.RoundTrip
import ContractScan.Proofs.Schema.Checked

/-! # Findings and their data

The data of a finding pass the check of findings and give back the finding.
They can be written as JSON.
-/

namespace ContractScan

namespace Json.IsJson

variable {digits : Nat}

theorem map {entries : List (Value × Value)} (names : List String)
    (hkeys : entries.map (·.1) = names.map .str) (hnodup : names.Nodup)
    (h : ∀ entry ∈ entries, IsJson digits entry.2) : IsJson digits (.map entries) := by
  obtain ⟨fields, rfl, rfl⟩ : ∃ fields : List (String × Value),
      entries = fields.map (fun field => (.str field.1, field.2)) ∧ names = fields.map (·.1) := by
    clear h hnodup
    induction entries generalizing names with
    | nil => exact ⟨[], rfl, by simpa using hkeys.symm⟩
    | cons entry entries ih =>
      obtain ⟨key, value⟩ := entry
      obtain _ | ⟨name, names⟩ := names
      · cases hkeys
      · obtain ⟨rfl, hrest⟩ := List.cons.inj hkeys
        obtain ⟨fields, rfl, rfl⟩ := ih names hrest
        exact ⟨(name, value) :: fields, rfl, rfl⟩
  refine .record hnodup fun field hfield => ?_
  exact h (.str field.1, field.2) (List.mem_map.mpr ⟨field, hfield, rfl⟩)

theorem ofOption (s : Option String) : IsJson digits (.ofOption s) := by
  cases s with
  | none => exact .null
  | some s => exact .str s

end Json.IsJson

theorem Severity.ofValue_word (s : Severity) : Severity.ofValue (.str s.word) = .ok s := by
  cases s <;> rfl

theorem Severity.word_of_ofValue {word : String} {s : Severity}
    (h : Severity.ofValue (.str word) = .ok s) : s.word = word := by
  change ((ofWord? word).map Checked.ok).getD _ = .ok s at h
  cases hfind : ofWord? word with
  | none =>
    rw [hfind] at h
    cases h
  | some t =>
    rw [hfind] at h
    cases h
    rw [ofWord?] at hfind
    have hword := List.find?_some hfind
    exact beq_iff_eq.mp hword

theorem Tool.ofValue_word (t : Tool) : Tool.ofValue (.str t.word) = .ok t := by
  cases t <;> rfl

theorem Field.optionalText_ofOption (s : Option String) :
    Field.optionalText (.ofOption s) = .ok s := by
  cases s <;> rfl

namespace Finding

variable {entries : List (Value × Value)} {f : Finding}

theorem ofEntries_eq_ok_iff :
    ofEntries entries = .ok f ↔
      Field.required entries "id" Field.text = .ok f.id ∧
      Field.required entries "title" Field.text = .ok f.title ∧
      Field.required entries "severity" Severity.ofValue = .ok f.severity ∧
      Field.optional entries "threat_id" "" Field.text = .ok f.threatId ∧
      Field.required entries "description" Field.text = .ok f.description ∧
      Field.required entries "file_path" Field.text = .ok f.filePath ∧
      Field.required entries "line_number" Field.positive = .ok ⟨f.lineNumber, f.lineNumber_pos⟩ ∧
      Field.required entries "code_snippet" Field.text = .ok f.codeSnippet ∧
      Field.optional entries "cwe_id" none Field.optionalText = .ok f.cweId ∧
      Field.required entries "exploitability" Field.text = .ok f.exploitability ∧
      Field.required entries "remediation" Field.text = .ok f.remediation ∧
      Field.required entries "fix_prompt" Field.text = .ok f.fixPrompt ∧
      Field.optional entries "contract_name" none Field.optionalText = .ok f.contractName ∧
      Field.optional entries "function_name" none Field.optionalText = .ok f.functionName ∧
      Field.required entries "detector" Field.text = .ok f.detector ∧
      Field.required entries "tool" Tool.ofValue = .ok f.tool ∧
      Field.optional entries "arc_specific" false Field.truth = .ok f.arcSpecific ∧
      Field.optional entries "arc_rule" none Field.optionalText = .ok f.arcRule := by
  constructor
  · intro h
    dsimp only [ofEntries] at h
    obtain ⟨_, h17, _, hrule, rfl⟩ := Checked.seq_eq_ok_iff.mp h
    obtain ⟨_, h16, _, hspecific, rfl⟩ := Checked.seq_eq_ok_iff.mp h17
    obtain ⟨_, h15, _, htool, rfl⟩ := Checked.seq_eq_ok_iff.mp h16
    obtain ⟨_, h14, _, hdetector, rfl⟩ := Checked.seq_eq_ok_iff.mp h15
    obtain ⟨_, h13, _, hfunction, rfl⟩ := Checked.seq_eq_ok_iff.mp h14
    obtain ⟨_, h12, _, hcontract, rfl⟩ := Checked.seq_eq_ok_iff.mp h13
    obtain ⟨_, h11, _, hprompt, rfl⟩ := Checked.seq_eq_ok_iff.mp h12
    obtain ⟨_, h10, _, hremediation, rfl⟩ := Checked.seq_eq_ok_iff.mp h11
    obtain ⟨_, h9, _, hexploitability, rfl⟩ := Checked.seq_eq_ok_iff.mp h10
    obtain ⟨_, h8, _, hcwe, rfl⟩ := Checked.seq_eq_ok_iff.mp h9
    obtain ⟨_, h7, _, hsnippet, rfl⟩ := Checked.seq_eq_ok_iff.mp h8
    obtain ⟨_, h6, _, hline, rfl⟩ := Checked.seq_eq_ok_iff.mp h7
    obtain ⟨_, h5, _, hpath, rfl⟩ := Checked.seq_eq_ok_iff.mp h6
    obtain ⟨_, h4, _, hdescription, rfl⟩ := Checked.seq_eq_ok_iff.mp h5
    obtain ⟨_, h3, _, hthreat, rfl⟩ := Checked.seq_eq_ok_iff.mp h4
    obtain ⟨_, h2, _, hseverity, rfl⟩ := Checked.seq_eq_ok_iff.mp h3
    obtain ⟨_, h1, _, htitle, rfl⟩ := Checked.seq_eq_ok_iff.mp h2
    obtain ⟨_, hid, rfl⟩ := Checked.map_eq_ok_iff.mp h1
    exact ⟨hid, htitle, hseverity, hthreat, hdescription, hpath, hline, hsnippet, hcwe,
      hexploitability, hremediation, hprompt, hcontract, hfunction, hdetector, htool, hspecific,
      hrule⟩
  · rintro ⟨hid, htitle, hseverity, hthreat, hdescription, hpath, hline, hsnippet, hcwe,
      hexploitability, hremediation, hprompt, hcontract, hfunction, hdetector, htool, hspecific,
      hrule⟩
    dsimp only [ofEntries]
    rw [hid, htitle, hseverity, hthreat, hdescription, hpath, hline, hsnippet, hcwe,
      hexploitability, hremediation, hprompt, hcontract, hfunction, hdetector, htool, hspecific,
      hrule]
    rfl

theorem positive_natCast {n : Nat} (h : 0 < n) : Field.positive (.int n) = .ok ⟨n, h⟩ := by
  simp [Field.positive, Field.integer, Checked.andThen, h]

/-- The data of a finding are a finding's, and of this one. -/
theorem ofValue_toValue (f : Finding) : ofValue f.toValue = .ok f := by
  rw [ofValue, Field.record_eq_ok_iff]
  refine ⟨f.entries, rfl, ?_, rfl⟩
  rw [ofEntries_eq_ok_iff]
  refine ⟨rfl, rfl, ?_, rfl, rfl, rfl, ?_, rfl, ?_, rfl, rfl, rfl, ?_, ?_, rfl, ?_, rfl, ?_⟩
  · exact Field.required_eq_ok_iff.mpr ⟨_, rfl, Severity.ofValue_word _⟩
  · exact Field.required_eq_ok_iff.mpr ⟨_, rfl, positive_natCast _⟩
  · exact Field.optional_eq_ok_iff.mpr (.inr ⟨_, rfl, Field.optionalText_ofOption _⟩)
  · exact Field.optional_eq_ok_iff.mpr (.inr ⟨_, rfl, Field.optionalText_ofOption _⟩)
  · exact Field.optional_eq_ok_iff.mpr (.inr ⟨_, rfl, Field.optionalText_ofOption _⟩)
  · exact Field.required_eq_ok_iff.mpr ⟨_, rfl, Tool.ofValue_word _⟩
  · exact Field.optional_eq_ok_iff.mpr (.inr ⟨_, rfl, Field.optionalText_ofOption _⟩)

theorem isJson_toValue {digits : Nat} (f : Finding)
    (h : (Nat.toDigits 10 f.lineNumber).length ≤ digits) : Json.IsJson digits f.toValue := by
  refine .map fieldNames rfl (by decide) ?_
  simp only [entries, List.forall_mem_cons]
  exact ⟨.str _, .str _, .str _, .str _, .str _, .str _, .int h, .str _, .ofOption _, .str _,
    .str _, .str _, .ofOption _, .ofOption _, .str _, .str _, .bool _, .ofOption _, by simp⟩

end Finding

end ContractScan
