import ContractScan.Proofs.Finding.Schema
import ContractScan.Proofs.Rule.Requests
import ContractScan.Proofs.Scan.Selection

/-! # When a scan fails

Rules that come out of a document never stop a scan: their patterns can be read,
and their predicates stay known. All that can fail is a finding, and of a finding
only the tool, which the family brings in. It is checked with each match, so a
family of an unknown tool goes unnoticed as long as nothing matches.
-/

namespace ContractScan

open Pattern

/-- A rule set out of a document, with some of its rules selected any number of times. -/
inductive RuleSet.Obtained (registry : Registry) : RuleSet → Prop where
  | parsed {document : Value} {source : String} {ruleSet : RuleSet} :
      (ofDocument registry document source).value = .ok ruleSet → Obtained registry ruleSet
  | selected {ruleSet selected : RuleSet} {ids : List String} : Obtained registry ruleSet →
      ruleSet.select ids = .ok selected → Obtained registry selected

theorem RuleSet.Obtained.isSound {registry : Registry} {ruleSet : RuleSet}
    (h : Obtained registry ruleSet) : ∀ rule ∈ ruleSet.rules, rule.IsSound registry := by
  induction h with
  | parsed hparsed => exact isSound_of_ofDocument hparsed
  | selected _ hselect ih => exact fun rule hrule => ih rule (mem_of_mem_select hselect hrule)

theorem Rule.IsSound.afterAll {registry : Registry} {rule : Rule} (h : rule.IsSound registry)
    (requests : List Registry.Request) : rule.IsSound (registry.afterAll requests) where
  readable := h.readable
  known name hname := by
    obtain ⟨predicate, hbound⟩ := Option.isSome_iff_exists.mp (h.known name hname)
    exact Option.isSome_iff_exists.mpr
      ⟨predicate, Registry.get?_afterAll_of_bound hbound requests⟩

/-- A rule that applies matches in a file of the family. -/
def SomeMatch (registry : Registry) (files : List SourceFile) (rules : List Rule)
    (family : Family) : Prop :=
  ∃ file ∈ files, file.path.endsWith family.extension = true ∧ ∃ rule ∈ rules,
    rule.appliesTo registry file.content.toList = .ok true ∧
      ∃ node, rule.matcher = .ok node ∧ (search node file.content.toList).isSome = true

section Matches

variable {registry : Registry} {rule : Rule} {text : List Char}

theorem findAll_eq_nil_iff {p : Pattern} : findAll p text = [] ↔ search p text = none := by
  unfold findAll search
  simp only [searchAll]
  split
  next hnone => simp [hnone]
  next m hsome => simp [hsome]

theorem Rule.foundIn_ne_nil_iff :
    rule.foundIn registry text ≠ [] ↔ rule.appliesTo registry text = .ok true ∧
      ∃ node, rule.matcher = .ok node ∧ (search node text).isSome = true := by
  constructor
  · intro hne
    obtain ⟨m, ms, hms⟩ := List.exists_cons_of_ne_nil hne
    obtain ⟨happlies, node, hnode, hfound⟩ := getElem?_foundIn.mp
      (show (rule.foundIn registry text)[0]? = some m by rw [hms]; rfl)
    refine ⟨happlies, node, hnode, ?_⟩
    rw [Option.isSome_iff_ne_none, ne_eq, ← findAll_eq_nil_iff]
    intro hnil
    rw [hnil] at hfound
    cases hfound
  · rintro ⟨happlies, node, hnode, hsome⟩ hnil
    rw [Option.isSome_iff_ne_none, ne_eq, ← findAll_eq_nil_iff] at hsome
    obtain ⟨m, ms, hms⟩ := List.exists_cons_of_ne_nil hsome
    have hfound : (rule.foundIn registry text)[0]? = some m :=
      getElem?_foundIn.mpr ⟨happlies, node, hnode, by rw [hms]; rfl⟩
    rw [hnil] at hfound
    cases hfound

end Matches

section Data

theorem Tool.exists_ofWord {word : String} (h : word ∈ ["arcshield", "slither", "mythril"]) :
    ∃ tool, ofWord word = .ok tool := by
  simp only [List.mem_cons, List.not_mem_nil, or_false] at h
  rcases h with rfl | rfl | rfl
  · exact ⟨.patterns, by simp [ofWord, Tool.word]⟩
  · exact ⟨.slither, by simp [ofWord, Tool.word]⟩
  · exact ⟨.mythril, by simp [ofWord, Tool.word]⟩

theorem Tool.ofWord_unknown {word : String} (h : word ∉ ["arcshield", "slither", "mythril"]) :
    ofWord word = .issue (.notOneOf "'arcshield', 'slither' or 'mythril'") := by
  simp only [List.mem_cons, List.not_mem_nil, or_false, not_or] at h
  simp [ofWord, Tool.word, Ne.symm h.1, Ne.symm h.2.1, Ne.symm h.2.2]

def Family.findingData (family : Family) (rule : Rule) (path : String) (context : Source.Context)
    (matched id : String) : List (String × Value) :=
  [("id", .str id), ("title", .str rule.name), ("severity", .str rule.severity.word),
    ("description", .str rule.description), ("file_path", .str path),
    ("line_number", .int context.lineNumber),
    ("code_snippet", .str (String.ofList context.snippet)), ("cwe_id", .ofOption rule.cweId),
    ("exploitability", .str ("Pattern match: " ++ matched)),
    ("remediation", .str rule.recommendation),
    ("fix_prompt", .str (s!"Fix the {family.name}-specific vulnerability \"{rule.name}\" " ++
      s!"at line {context.lineNumber} in {path}")),
    ("contract_name", .str context.contractName), ("function_name", .ofOption context.functionName),
    ("detector", .str rule.id), ("tool", .str family.tool),
    ("arc_specific", .bool family.chainSpecific),
    ("arc_rule", .ofOption (if family.chainSpecific then some rule.id else none))]

/-- The check of a finding's data is that of the tool: nothing else can be wrong with them. -/
theorem ofValue_findingData (family : Family) (rule : Rule) (path : String)
    (context : Source.Context) (matched id : String) :
    Finding.ofValue (.record (family.findingData rule path context matched id)) =
      ((Tool.ofWord family.tool).under (.field "tool")).map fun tool =>
        family.finding tool rule path context matched id := by
  let entries := (family.findingData rule path context matched id).map
    fun field => (Value.str field.1, field.2)
  have hseverity : Field.required entries "severity" Severity.ofValue = .ok rule.severity :=
    Field.required_eq_ok_iff.mpr ⟨_, rfl, Severity.ofValue_word _⟩
  have hline : Field.required entries "line_number" Field.positive =
      .ok ⟨context.lineNumber, context.lineNumber_pos⟩ :=
    Field.required_eq_ok_iff.mpr ⟨_, rfl, Finding.positive_natCast _⟩
  have hcwe : Field.optional entries "cwe_id" none Field.optionalText = .ok rule.cweId :=
    Field.optional_eq_ok_iff.mpr (.inr ⟨_, rfl, Field.optionalText_ofOption _⟩)
  have hfunction : Field.optional entries "function_name" none Field.optionalText =
      .ok context.functionName :=
    Field.optional_eq_ok_iff.mpr (.inr ⟨_, rfl, Field.optionalText_ofOption _⟩)
  have hrule : Field.optional entries "arc_rule" none Field.optionalText =
      .ok (if family.chainSpecific then some rule.id else none) :=
    Field.optional_eq_ok_iff.mpr (.inr ⟨_, rfl, Field.optionalText_ofOption _⟩)
  have htool : Field.required entries "tool" Tool.ofValue =
      (Tool.ofWord family.tool).under (.field "tool") := rfl
  change (Finding.ofEntries entries).alongside (Field.strayKeys Finding.fieldNames entries) = _
  dsimp only [Finding.ofEntries]
  rw [hseverity, hline, hcwe, hfunction, hrule, htool]
  by_cases hknown : family.tool ∈ ["arcshield", "slither", "mythril"]
  · obtain ⟨tool, hok⟩ := Tool.exists_ofWord hknown
    rw [hok]
    rfl
  · rw [Tool.ofWord_unknown hknown]
    rfl

def ScanError.ofChecked : Checked Finding → Except ScanError Finding
  | .ok finding => .ok finding
  | .issues first rest => .error (.invalidFinding (first :: rest))

theorem buildFinding_eq (family : Family) (rule : Rule) (path : String) (context : Source.Context)
    (matched id : String) :
    buildFinding family rule path context matched id =
      ScanError.ofChecked
        (Finding.ofValue (.record (family.findingData rule path context matched id))) := by
  rw [ofValue_findingData, buildFinding]
  cases (Tool.ofWord family.tool).under (.field "tool") <;> rfl

end Data

section UnknownTool

def toolIssue : Issue :=
  ⟨[.field "tool"], .notOneOf "'arcshield', 'slither' or 'mythril'"⟩

/-- A run over items that either stop it or leave everything as it is. -/
theorem foldlM_eq_if_any {ε α β : Type} {f : β → α → Except ε β} {stops : α → Bool} {cause : ε}
    {items : List α} (h : ∀ item ∈ items, ∀ b,
      f b item = if stops item then .error cause else .ok b) (b : β) :
    items.foldlM f b = if items.any stops then .error cause else .ok b := by
  induction items with
  | nil => rfl
  | cons item rest ih =>
    obtain ⟨hitem, hrest⟩ := List.forall_mem_cons.mp h
    rw [List.foldlM_cons, hitem, List.any_cons]
    cases stops item with
    | true => rfl
    | false => exact ih hrest

variable {registry : Registry} {family : Family} {rules : List Rule}

theorem addMatch_eq_error (htool : family.tool ∉ ["arcshield", "slither", "mythril"])
    (path : String) (index : Source.Index) (firstOrdinal : Nat) (rule : Rule)
    (findings : List Finding) (m : Found) :
    addMatch family path index firstOrdinal rule findings m =
      .error (.invalidFinding [toolIssue]) := by
  rw [addMatch, buildFinding_eq, ofValue_findingData, Tool.ofWord_unknown htool]
  rfl

theorem addRule_of_unknownTool (htool : family.tool ∉ ["arcshield", "slither", "mythril"])
    {rule : Rule} (hrule : rule.IsSound registry) (path : String) (index : Source.Index)
    (firstOrdinal : Nat) (findings : List Finding) :
    addRule registry family path index firstOrdinal findings rule =
      if !(rule.foundIn registry index.text).isEmpty then .error (.invalidFinding [toolIssue])
      else .ok findings := by
  rw [addRule, Rule.matchesIn_eq_ok hrule, ok_bind]
  cases rule.foundIn registry index.text with
  | nil => rfl
  | cons m ms =>
    rw [List.foldlM_cons, addMatch_eq_error htool]
    rfl

def anyMatch (registry : Registry) (rules : List Rule) (file : SourceFile) : Bool :=
  rules.any fun rule => !(rule.foundIn registry file.content.toList).isEmpty

theorem addFile_of_unknownTool (htool : family.tool ∉ ["arcshield", "slither", "mythril"])
    (hrules : ∀ rule ∈ rules, rule.IsSound registry) (findings : List Finding)
    (file : SourceFile) :
    addFile registry rules family findings file =
      if anyMatch registry rules file then .error (.invalidFinding [toolIssue])
      else .ok findings := by
  have hscan : scanFile registry rules family file (findings.length + 1) =
      if anyMatch registry rules file then .error (.invalidFinding [toolIssue]) else .ok [] :=
    foldlM_eq_if_any (fun rule hrule findings =>
      addRule_of_unknownTool htool (hrules rule hrule) _ _ _ findings) []
  rw [addFile, hscan]
  split
  · rfl
  · simp [bind, Except.bind, pure, Except.pure]

theorem scan_of_unknownTool (htool : family.tool ∉ ["arcshield", "slither", "mythril"])
    {ruleSet : RuleSet} (hrules : ∀ rule ∈ ruleSet.rules, rule.IsSound registry)
    (files : List SourceFile) :
    (scan registry files ruleSet family).value =
      if (files.filter (·.path.endsWith family.extension)).any (anyMatch registry ruleSet.rules)
      then .error (.invalidFinding [toolIssue])
      else .ok [] := by
  rw [value_scan]
  exact foldlM_eq_if_any (fun file _ findings =>
    addFile_of_unknownTool htool hrules findings file) []

theorem any_anyMatch_iff {files : List SourceFile} :
    (files.filter (·.path.endsWith family.extension)).any (anyMatch registry rules) = true ↔
      SomeMatch registry files rules family := by
  simp only [SomeMatch, anyMatch, List.any_eq_true, List.mem_filter, Bool.not_eq_true',
    List.isEmpty_eq_false_iff, Rule.foundIn_ne_nil_iff, and_assoc]

end UnknownTool

/-- A scan with rules out of a document fails exactly when the tool of the family is unknown and
something matches, and then the tool is the issue. Whatever has been registered since the document
was read, it returns findings otherwise. -/
theorem scan_fails_iff {registry : Registry} {ruleSet : RuleSet}
    (hobtained : RuleSet.Obtained registry ruleSet) (requests : List Registry.Request)
    (files : List SourceFile) (family : Family) :
    ((∃ cause, (scan (registry.afterAll requests) files ruleSet family).value = .error cause) ↔
      family.tool ∉ ["arcshield", "slither", "mythril"] ∧
        SomeMatch (registry.afterAll requests) files ruleSet.rules family) ∧
    (∀ cause, (scan (registry.afterAll requests) files ruleSet family).value = .error cause →
      cause = .invalidFinding [toolIssue]) ∧
    (¬ (family.tool ∉ ["arcshield", "slither", "mythril"] ∧
        SomeMatch (registry.afterAll requests) files ruleSet.rules family) →
      ∃ findings, (scan (registry.afterAll requests) files ruleSet family).value =
        .ok findings) := by
  have hsound : ∀ rule ∈ ruleSet.rules, rule.IsSound (registry.afterAll requests) :=
    fun rule hrule => (hobtained.isSound rule hrule).afterAll requests
  by_cases htool : family.tool ∈ ["arcshield", "slither", "mythril"]
  · obtain ⟨tool, htool'⟩ := Tool.exists_ofWord htool
    rw [scan_eq_numbered htool' hsound]
    refine ⟨⟨?_, ?_⟩, ?_, ?_⟩
    · rintro ⟨cause, hcause⟩
      cases hcause
    · rintro ⟨hunknown, -⟩
      exact absurd htool hunknown
    · intro cause hcause
      cases hcause
    · exact fun _ => ⟨_, rfl⟩
  · rw [scan_of_unknownTool htool hsound]
    by_cases hmatch : SomeMatch (registry.afterAll requests) files ruleSet.rules family
    · rw [if_pos (any_anyMatch_iff.mpr hmatch)]
      refine ⟨⟨fun _ => ⟨htool, hmatch⟩, fun _ => ⟨_, rfl⟩⟩, ?_, ?_⟩
      · intro cause hcause
        exact (Except.error.inj hcause).symm
      · intro hnot
        exact absurd ⟨htool, hmatch⟩ hnot
    · rw [if_neg (mt any_anyMatch_iff.mp hmatch)]
      refine ⟨⟨?_, ?_⟩, ?_, ?_⟩
      · rintro ⟨cause, hcause⟩
        cases hcause
      · rintro ⟨-, hsome⟩
        exact absurd hsome hmatch
      · intro cause hcause
        cases hcause
      · exact fun _ => ⟨[], rfl⟩

def strangeFamily : Family :=
  { Family.arc with tool := "other" }

def rebinding : List Registry.Request :=
  [.register "hardcoded_six_decimals" fun _ => false]

theorem scan_fails_iff_origin :
    ∃ selected, originRules.select ["R2"] = .ok selected ∧
      RuleSet.Obtained .builtin selected ∧
      (∃ cause, (scan (Registry.builtin.afterAll rebinding) originFiles selected
        strangeFamily).value = .error cause) ∧
      ∃ findings, (scan (Registry.builtin.afterAll rebinding) (originFiles.drop 1) selected
        strangeFamily).value = .ok findings := by
  obtain ⟨selected, hselect, hrules⟩ : ∃ selected, originRules.select ["R2"] = .ok selected ∧
      selected.rules = originRules.rules.drop 1 :=
    ⟨_, RuleSet.select_eq_ok (by decide), by decide +kernel⟩
  have hobtained : RuleSet.Obtained .builtin selected :=
    .selected (.parsed ofDocument_originDocument) hselect
  refine ⟨selected, hselect, hobtained, ?_, ?_⟩
  · refine (scan_fails_iff hobtained rebinding originFiles strangeFamily).1.mpr ⟨by decide, ?_⟩
    rw [hrules, ← any_anyMatch_iff]
    decide +kernel
  · refine (scan_fails_iff hobtained rebinding (originFiles.drop 1) strangeFamily).2.2 ?_
    rw [hrules, ← any_anyMatch_iff]
    decide +kernel

end ContractScan
