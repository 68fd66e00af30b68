import ContractScan.Proofs.Pattern.Search
import ContractScan.Proofs.Scan.EmptyMatch
import ContractScan.Proofs.Source.Lines

/-! # The spans of a rule's findings

The findings of a rule in a file are built from spans of its content, one behind
another. Whatever the pattern asks for, the search goes on from the end of each
span in such a way that nothing is passed over and nothing is taken twice: a match
with characters never begins outside the spans.
-/

namespace ContractScan

open Pattern

namespace Pattern

/-- The pattern can match the text from one offset up to another. -/
def CanMatch (p : Pattern) (text : List Char) (first last : Nat) : Prop :=
  (p.run { cursor := (Cursor.start text).skip first } fun s =>
    if s.cursor.offset = last then some s else none).isSome = true

/-- Spans that a text is divided by: matches of the pattern, one behind another, and between them,
before the first and behind the last no match begins that has characters. -/
structure IsDivision (p : Pattern) (text : List Char) (spans : List (Nat × Nat)) : Prop where
  inside : ∀ span ∈ spans, span.1 ≤ span.2 ∧ span.2 ≤ text.length
  matched : ∀ span ∈ spans, CanMatch p text span.1 span.2
  apart : spans.Pairwise fun span span' => span.2 ≤ span'.1 ∧ span ≠ span'
  gaps : ∀ first last, (∀ span ∈ spans, first < span.1 ∨ span.2 ≤ first) → first < last →
    ¬ CanMatch p text first last

section Division

variable {p : Pattern} {text : List Char}

theorem canMatch_iff {first last : Nat} : CanMatch p text first last ↔
    ∃ s ∈ p.ways { cursor := (Cursor.start text).skip first }, s.cursor.offset = last := by
  rw [CanMatch, run_eq_findSome?_ways, List.findSome?_isSome_iff]
  refine exists_congr fun s => and_congr_right fun _ => ?_
  split <;> simp_all

def Found.span (m : Found) : Nat × Nat :=
  (m.first.offset, m.last.offset)

theorem chars_eq_span {m : Found} (hm : m ∈ findAll p text) :
    m.chars = (text.drop m.span.1).take (m.span.2 - m.span.1) := by
  obtain ⟨start, width, -, hfirst, hlast, hchars⟩ := exists_span_of_mem_findAll hm
  rw [hchars, Found.span, hfirst, hlast, Nat.add_sub_cancel_left]

theorem canMatch_span {m : Found} (hm : m ∈ findAll p text) :
    CanMatch p text m.span.1 m.span.2 := by
  have hfinds := findAll_finds p text
  obtain ⟨advance, hat⟩ := hfinds.exists_matchAt m hm
  obtain ⟨⟨n, -, -, hfirst⟩, -⟩ := hfinds.reaches m hm
  obtain ⟨s, hs, hfound, -⟩ := matchAt_eq_some hat
  have hstart : m.first.offset = n := by simp [hfirst, Cursor.start]
  rw [canMatch_iff]
  refine ⟨s, ?_, by rw [hfound]; rfl⟩
  rwa [Found.span, hstart, ← hfirst]

theorem isDivision_findAll (p : Pattern) (text : List Char) :
    IsDivision p text ((findAll p text).map Found.span) where
  inside := by
    rw [List.forall_mem_map]
    intro m hm
    obtain ⟨start, width, hbound, hfirst, hlast, -⟩ := exists_span_of_mem_findAll hm
    rw [Found.span, hfirst, hlast]
    exact ⟨Nat.le_add_right _ _, hbound⟩
  matched := by
    rw [List.forall_mem_map]
    exact fun m => canMatch_span
  apart := List.pairwise_map.mpr (findAll_finds p text).pairwise_apart
  gaps := by
    intro first last hgap hlt hmatch
    obtain ⟨s, hs, rfl⟩ := canMatch_iff.mp hmatch
    have hnone := (findAll_finds p text).matchAt_eq_none_outside first fun m hm => by
      simpa [Found.span, Cursor.start] using hgap m.span (List.mem_map_of_mem hm)
    -- outside the spans the walk can at most have refused a second empty match
    have hstays := (matchAt_eq_none_iff_ways.mp hnone s hs).2
    simp only [Cursor.skip_offset, Cursor.start] at hstays
    omega

end Division

end Pattern

/-- What a finding of a rule tells of a span of a file: the text there and the line where it
begins. -/
structure Rule.TellsSpan (rule : Rule) (file : SourceFile) (span : Nat × Nat) (finding : Finding) :
    Prop where
  detector : finding.detector = rule.id
  filePath : finding.filePath = file.path
  exploitability : finding.exploitability = "Pattern match: " ++
    String.ofList ((file.content.toList.drop span.1).take (span.2 - span.1))
  lineNumber : finding.lineNumber = (file.content.toList.take span.1).count '\n' + 1

/-- The findings of a rule in a file, from spans that divide its content where the rule applies. -/
structure Rule.IsReport (registry : Registry) (rule : Rule) (file : SourceFile)
    (findings : List Finding) : Prop where
  applied : rule.appliesTo registry file.content.toList = .ok true → ∃ node spans,
    rule.matcher = .ok node ∧ IsDivision node file.content.toList spans ∧
      spans.Forall₂ (rule.TellsSpan file) findings
  passed : rule.appliesTo registry file.content.toList ≠ .ok true → findings = []
  lines : (findings.map (·.lineNumber)).Pairwise (· ≤ ·)

section Reports

variable {registry : Registry} (family : Family) (tool : Tool) (file : SourceFile × Nat)

theorem tellsSpan_numbered (rule : Rule × Nat) {ms : List Found}
    (hms : ∀ m ∈ ms, m.chars = (file.1.content.toList.drop m.span.1).take (m.span.2 - m.span.1))
    (ordinal k : Nat) :
    (ms.map Found.span).Forall₂ (rule.1.TellsSpan file.1)
      (numbered family tool ordinal (sitesOfMatches file rule k ms)) := by
  induction ms generalizing ordinal k with
  | nil => exact .nil
  | cons m rest ih =>
    obtain ⟨hm, hrest⟩ := List.forall_mem_cons.mp hms
    refine .cons ?_ (ih hrest (ordinal + 1) (k + 1))
    refine ⟨rfl, rfl, ?_, Source.lineNumber_natCast _ _⟩
    rw [← hm]
    rfl

theorem lineNumbers_pairwise {p : Pattern} {rule : Rule} {source : SourceFile}
    {spans : List (Nat × Nat)} {findings : List Finding}
    (hspans : IsDivision p source.content.toList spans)
    (hfindings : spans.Forall₂ (rule.TellsSpan source) findings) :
    (findings.map (·.lineNumber)).Pairwise (· ≤ ·) := by
  have hlines : findings.map (·.lineNumber) =
      spans.map fun span => (source.content.toList.take span.1).count '\n' + 1 := by
    rw [← List.forall₂_eq_eq_eq, List.forall₂_map_left_iff, List.forall₂_map_right_iff]
    exact hfindings.flip.imp fun _ _ htells => htells.lineNumber
  rw [hlines, List.pairwise_map]
  refine hspans.apart.imp_of_mem fun hspan _ hapart => ?_
  have hle := Nat.le_trans (hspans.inside _ hspan).1 hapart.1
  exact Nat.succ_le_succ (List.Sublist.count_le _ (List.take_prefix_take_left hle).sublist)

theorem isReport_numbered {rule : Rule} (hsound : rule.IsSound registry) (ordinal j : Nat) :
    rule.IsReport registry file.1 (numbered family tool ordinal
      (sitesOfMatches file (rule, j) 0 (rule.foundIn registry file.1.content.toList))) := by
  obtain ⟨node, hnode, -⟩ := hsound.readable
  obtain ⟨accepted, happlies⟩ := Rule.appliesTo_eq_ok hsound file.1.content.toList
  cases accepted with
  | false =>
    have hnone : rule.foundIn registry file.1.content.toList = [] := by
      simp [Rule.foundIn, Rule.matchesIn, happlies, Except.toOption]
    rw [hnone]
    exact ⟨by simp [happlies], fun _ => rfl, .nil⟩
  | true =>
    have hall : rule.foundIn registry file.1.content.toList =
        findAll node file.1.content.toList := by
      simp [Rule.foundIn, Rule.matchesIn, happlies, hnode, Except.toOption]
    have hdivision := isDivision_findAll node file.1.content.toList
    have htells := tellsSpan_numbered family tool file (rule, j)
      (fun _ => chars_eq_span (p := node)) ordinal 0
    rw [hall]
    exact ⟨fun _ => ⟨node, _, hnode, hdivision, htells⟩, fun hnot => absurd happlies hnot,
      lineNumbers_pairwise hdivision htells⟩

theorem exists_reports {rules : List Rule} (hrules : ∀ rule ∈ rules, rule.IsSound registry)
    (ordinal j : Nat) :
    ∃ reports, numbered family tool ordinal (sitesOfRules registry file (rules.zipIdx j)) =
        reports.flatten ∧
      rules.Forall₂ (fun rule findings => rule.IsReport registry file.1 findings) reports := by
  induction rules generalizing ordinal j with
  | nil => exact ⟨[], rfl, .nil⟩
  | cons rule rest ih =>
    obtain ⟨hrule, hrest⟩ := List.forall_mem_cons.mp hrules
    rw [List.zipIdx_cons, sitesOfRules, List.flatMap_cons, numbered_append]
    obtain ⟨reports, hreports, hall⟩ := ih hrest
      (ordinal + (sitesOfMatches file (rule, j) 0
        (rule.foundIn registry file.1.content.toList)).length) (j + 1)
    refine ⟨_ :: reports, ?_, .cons (isReport_numbered family tool file hrule ordinal j) hall⟩
    rw [List.flatten_cons, ← hreports]
    rfl

end Reports

/-- With rules that were accepted a file is scanned to its end. Each rule has its findings, and they
are built from spans that divide the content. -/
theorem scanFile_divides {registry : Registry} {rules : List Rule}
    (hrules : ∀ rule ∈ rules, ∃ value, Rule.ofValue registry value = .ok (.ok rule))
    {family : Family} {tool : Tool} (htool : Tool.ofWord family.tool = .ok tool)
    (file : SourceFile) (firstOrdinal : Nat) :
    ∃ reports, scanFile registry rules family file firstOrdinal = .ok reports.flatten ∧
      rules.Forall₂ (fun rule findings => rule.IsReport registry file findings) reports := by
  have hsound : ∀ rule ∈ rules, rule.IsSound registry := by
    intro rule hrule
    obtain ⟨value, haccepted⟩ := hrules rule hrule
    obtain ⟨entries, -, hdeclared⟩ := Rule.ofValue_iff_declared.mp haccepted
    exact hdeclared.isSound
  obtain ⟨reports, hreports, hall⟩ := exists_reports family tool (file, 0) hsound firstOrdinal 0
  refine ⟨reports, ?_, hall⟩
  rw [scanFile_eq_ok htool (file, 0) hsound firstOrdinal, hreports]

/-- At every letter there is an empty match first, and behind it the letter. -/
theorem scanFile_divides_letters :
    let rule := ruleWith "(?=a)|a"
    Rule.ofValue .builtin (documentWith "(?=a)|a") = .ok (.ok rule) ∧
      Tool.ofWord Family.arc.tool = .ok .patterns ∧
      ∃ findings, scanFile .builtin [rule] .arc ⟨"a.sol", "ba\na"⟩ 1 = .ok findings ∧
        rule.IsReport .builtin ⟨"a.sol", "ba\na"⟩ findings ∧
        findings.map (fun finding => (finding.lineNumber, finding.exploitability)) =
          [(1, "Pattern match: "), (1, "Pattern match: a"), (2, "Pattern match: "),
            (2, "Pattern match: a")] := by
  intro rule
  have htool : Tool.ofWord Family.arc.tool = .ok .patterns := by
    simp [Tool.ofWord, Family.arc, Tool.word]
  have hchecked : rule.matcher.toOption.map (matchesWhole · []) = some false := by decide +kernel
  obtain ⟨node, hnode, hempty⟩ := Option.map_eq_some_iff.mp hchecked
  have haccepted : Rule.ofValue .builtin (documentWith "(?=a)|a") = .ok (.ok rule) := by
    rw [ofValue_documentWith (by decide), Rule.checkPattern_eq_ok_iff]
    exact ⟨rfl, node, toOption_eq_some_iff.mp hnode, hempty⟩
  obtain ⟨reports, hscan, hreports⟩ := scanFile_divides
    (List.forall_mem_singleton.mpr ⟨_, haccepted⟩) htool ⟨"a.sol", "ba\na"⟩ 1
  obtain ⟨findings, rest, hreport, hrest, rfl⟩ := List.forall₂_cons_left_iff.mp hreports
  obtain rfl := List.forall₂_nil_left_iff.mp hrest
  rw [List.flatten_singleton] at hscan
  have htold : (scanFile .builtin [rule] .arc ⟨"a.sol", "ba\na"⟩ 1).toOption.map
      (·.map fun finding => (finding.lineNumber, finding.exploitability)) =
      some [(1, "Pattern match: "), (1, "Pattern match: a"), (2, "Pattern match: "),
        (2, "Pattern match: a")] := by
    decide +kernel
  rw [hscan] at htold
  exact ⟨haccepted, htool, findings, hscan, hreport, Option.some.inj htold⟩

end ContractScan
