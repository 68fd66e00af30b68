import ContractScan.Proofs.Rule.Arc
import ContractScan.Proofs.Scan.Selection
import ContractScan.Proofs.Source.Lines

/-! # Occurrences that a scan reports

The search for the matches of a rule goes on behind each of them, and could pass
over a text that begins inside a match. The texts that three of the Arc rules look
for never do, so a scan has a finding for every one of them, on its line.
-/

namespace ContractScan

open Pattern

/-- The offsets at which one of the texts stands, from left to right. -/
structure IsOccurrences (Wording : List Char → Prop) (text : List Char) (offsets : List Nat) :
    Prop where
  increasing : offsets.Pairwise (· < ·)
  mem_iff : ∀ i, i ∈ offsets ↔ ∃ w, Wording w ∧ w <+: text.drop i

/-- In the texts that the gate accepts the rule matches wherever one of the texts stands and
nowhere else. A scan has one finding for each of these places, in their order, with the file and
the line. -/
structure Rule.ReportsEvery (rule : Rule) (gate : Predicate) (Wording : List Char → Prop) :
    Prop where
  matched : ∀ text, gate text = true → ∃ found, rule.matchesIn .builtin text = .ok found ∧
    IsOccurrences Wording text (found.map (·.first.offset))
  reported : ∀ files : List SourceFile, ∃ (findings : List Finding)
    (offsets : List Char → List Nat), (scanArc files).value = .ok findings ∧
    (∀ text, gate text = true → IsOccurrences Wording text (offsets text)) ∧
    (findings.filter fun finding => finding.detector == rule.id).map
        (fun finding => (finding.filePath, finding.lineNumber)) =
      (files.filter (·.path.endsWith ".sol")).flatMap fun file =>
        if gate file.content.toList then (offsets file.content.toList).map fun i =>
          (file.path, (file.content.toList.take i).count '\n' + 1)
        else []

theorem map_filter_numbered {registry : Registry} {rules : List Rule} {family : Family}
    {tool : Tool} (files : List SourceFile) (wanted : String → Bool) :
    ((numbered family tool 1 (sitesFrom registry rules family 0 files)).filter fun finding =>
        wanted finding.detector).map (fun finding => (finding.filePath, finding.lineNumber)) =
      (files.filter (·.path.endsWith family.extension)).flatMap fun file =>
        (rules.filter (wanted ·.id)).flatMap fun rule =>
          (rule.foundIn registry file.content.toList).map fun m =>
            (file.path, (file.content.toList.take m.first.offset).count '\n' + 1) := by
  let place (spot : SourceFile × Rule × Found) : String × Nat :=
    (spot.1.path, (spot.1.content.toList.take spot.2.2.first.offset).count '\n' + 1)
  have hplace : (fun site : Site × Nat => ((site.1.finding family tool site.2).filePath,
      (site.1.finding family tool site.2).lineNumber)) = place ∘ Site.spot ∘ (·.1) := by
    funext site
    exact Prod.ext rfl (Source.lineNumber_natCast ..)
  rw [filter_detector_numbered, List.map_map]
  change List.map (fun site : Site × Nat => ((site.1.finding family tool site.2).filePath,
    (site.1.finding family tool site.2).lineNumber)) _ = _
  rw [hplace, ← List.map_map, ← List.map_map, map_fst_filter_zipIdx,
    ← map_spot_sitesFrom_filter registry rules family files (wanted ·.id), map_spot_sitesFrom,
    List.map_flatMap]
  simp only [spotsIn, List.map_flatMap, List.map_map]
  rfl

section Reporting

variable {rule : Rule} {gate : Predicate} {Wording : List Char → Prop} {p : Pattern} {x : Char}

theorem Rule.foundIn_of_gate (hmatcher : rule.matcher = .ok p)
    (happlies : ∀ text, rule.appliesTo .builtin text = .ok (gate text)) (text : List Char) :
    rule.foundIn .builtin text = if gate text then findAll p text else [] := by
  rw [foundIn, matchesIn, happlies]
  cases gate text with
  | false => rfl
  | true =>
    rw [hmatcher]
    rfl

theorem isOccurrences_findAll (hregular : p.Regular) (hstart : p.StartsWithOnly x)
    (hwording : ∀ text, p.Begins text ↔ ∃ w, Wording w ∧ w <+: text) (text : List Char) :
    IsOccurrences Wording text ((findAll p text).map (·.first.offset)) := by
  obtain ⟨hincreasing, hmem⟩ := findAll_offsets hregular hstart text
  exact ⟨hincreasing, fun i => (hmem i).trans (hwording _)⟩

theorem Rule.reportsEvery (hmatcher : rule.matcher = .ok p)
    (hrule : RuleSet.arc.rules.filter (·.id == rule.id) = [rule])
    (happlies : ∀ text, rule.appliesTo .builtin text = .ok (gate text))
    (hregular : p.Regular) (hstart : p.StartsWithOnly x)
    (hwording : ∀ text, p.Begins text ↔ ∃ w, Wording w ∧ w <+: text) :
    rule.ReportsEvery gate Wording where
  matched text haccepted := by
    refine ⟨findAll p text, ?_, isOccurrences_findAll hregular hstart hwording text⟩
    rw [matchesIn, happlies, haccepted, hmatcher]
  reported files := by
    have htool : Tool.ofWord Family.arc.tool = .ok .patterns := by
      simp [Tool.ofWord, Family.arc, Tool.word]
    refine ⟨_, fun text => (findAll p text).map (·.first.offset),
      scan_eq_numbered htool RuleSet.isSound_arc files,
      fun text _ => isOccurrences_findAll hregular hstart hwording text, ?_⟩
    rw [map_filter_numbered files (· == rule.id), hrule]
    congr 1
    funext file
    rw [List.flatMap_singleton, foundIn_of_gate hmatcher happlies, List.map_map]
    split <;> rfl

end Reporting

/-- No occurrence is lost to the rules for randomness, for strict comparisons of the timestamp and,
where six decimals are spelled out, for calls of `decimals`. -/
theorem arc_rules_report_every_occurrence :
    Rule.arc001.ReportsEvery (fun _ => true) Rule.IsRandomness ∧
      Rule.arc003.ReportsEvery (fun _ => true) Rule.IsStrictComparison ∧
      Rule.arc007.ReportsEvery Registry.hardcodedSixDecimals Rule.IsDecimalsCall := by
  refine ⟨?_, ?_, ?_⟩
  · exact Rule.reportsEvery Rule.matcher_arc001 (by decide) (fun _ => rfl)
      Rule.regular_randomness Rule.startsWithOnly_randomness fun _ => Rule.begins_randomness
  · exact Rule.reportsEvery Rule.matcher_arc003 (by decide) (fun _ => rfl)
      Rule.regular_strictComparison Rule.startsWithOnly_strictComparison
      fun _ => Rule.begins_strictComparison
  · exact Rule.reportsEvery Rule.matcher_arc007 (by decide) (fun _ => rfl)
      Rule.regular_decimalsCall Rule.startsWithOnly_decimalsCall fun _ => Rule.begins_decimalsCall

end ContractScan
