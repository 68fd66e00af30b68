import ContractScan.Proofs.Rule.Select
import ContractScan.Proofs.Scan.Sites

/-! # Scanning with some of the rules

No rule has a part in the findings of another. A scan with the rules of some ids
reports what a scan with all rules reports of them, with other ordinals.
-/

namespace ContractScan

open Pattern

/-- What a finding tells of a site: the file, the rule and the match, not their positions. -/
def Site.spot (site : Site) : SourceFile × Rule × Found :=
  (site.file, site.rule, site.found)

section Spots

variable {family : Family} {tool : Tool}

theorem numbered_congr {ordinal : Nat} {sites sites' : List Site}
    (h : sites.map Site.spot = sites'.map Site.spot) :
    numbered family tool ordinal sites = numbered family tool ordinal sites' := by
  apply List.ext_getElem?
  intro k
  have hk := congrArg (·[k]?) h
  simp only [List.getElem?_map] at hk
  rw [getElem?_numbered, getElem?_numbered]
  cases hsite : sites[k]? with
  | none =>
    rw [hsite, Option.map_none, eq_comm, Option.map_eq_none_iff] at hk
    rw [hk]
  | some site =>
    rw [hsite, Option.map_some, eq_comm, Option.map_eq_some_iff] at hk
    obtain ⟨site', hsite', hspot⟩ := hk
    obtain ⟨hfile, hrule, hfound⟩ : site'.file = site.file ∧ site'.rule = site.rule ∧
        site'.found = site.found := by
      simpa [Site.spot] using hspot
    simp only [hsite', Option.map_some, Site.finding, Site.context, hfile, hrule, hfound]

theorem map_fst_filter_zipIdx (ordinal : Nat) (sites : List Site) (wanted : String → Bool) :
    ((sites.zipIdx ordinal).filter fun site => wanted site.1.rule.id).map (·.1) =
      sites.filter fun site => wanted site.rule.id := by
  have hfst := congrArg (List.filter fun site => wanted site.rule.id)
    (List.zipIdx_map_fst ordinal sites)
  rwa [List.filter_map] at hfst

theorem filter_detector_numbered (ordinal : Nat) (sites : List Site) (wanted : String → Bool) :
    (numbered family tool ordinal sites).filter (fun finding => wanted finding.detector) =
      ((sites.zipIdx ordinal).filter fun site => wanted site.1.rule.id).map
        fun site => site.1.finding family tool site.2 := by
  rw [numbered, List.filter_map]
  rfl

/-- Numbering what is left of findings anew is numbering what is left of their sites. -/
theorem renumbered_filter_numbered (ordinal : Nat) (sites : List Site) (wanted : String → Bool) :
    renumbered family 0
        ((numbered family tool ordinal sites).filter fun finding => wanted finding.detector) =
      numbered family tool 1 (sites.filter fun site => wanted site.rule.id) := by
  rw [filter_detector_numbered, ← map_fst_filter_zipIdx ordinal]
  apply List.ext_getElem?
  intro k
  rw [renumbered, List.getElem?_mapIdx, List.getElem?_map, getElem?_numbered, List.getElem?_map,
    Option.map_map, Option.map_map, Nat.add_comm 1]
  rfl

def spotsIn (registry : Registry) (file : SourceFile) (rules : List Rule) :
    List (SourceFile × Rule × Found) :=
  rules.flatMap fun rule =>
    (rule.foundIn registry file.content.toList).map fun found => (file, rule, found)

theorem map_spot_sitesOfRules (registry : Registry) (file : SourceFile × Nat) (rules : List Rule)
    (j : Nat) :
    (sitesOfRules registry file (rules.zipIdx j)).map Site.spot =
      spotsIn registry file.1 rules := by
  induction rules generalizing j with
  | nil => rfl
  | cons rule rest ih =>
    have hrule (found : List Found) : (sitesOfMatches file (rule, j) 0 found).map Site.spot =
        found.map fun m => (file.1, rule, m) := by
      have hfst := congrArg (List.map fun m => (file.1, rule, m)) (List.zipIdx_map_fst 0 found)
      rw [List.map_map] at hfst
      rw [sitesOfMatches, List.map_map]
      exact hfst
    rw [List.zipIdx_cons, sitesOfRules, List.flatMap_cons, List.map_append, hrule]
    exact congrArg _ (ih (j + 1))

theorem map_spot_sitesFrom (registry : Registry) (rules : List Rule) (family : Family) (i : Nat)
    (files : List SourceFile) :
    (sitesFrom registry rules family i files).map Site.spot =
      (files.filter (·.path.endsWith family.extension)).flatMap fun file =>
        spotsIn registry file rules := by
  induction files generalizing i with
  | nil => rfl
  | cons file rest ih =>
    rw [sitesFrom, List.zipIdx_cons, List.filter_cons, List.filter_cons]
    by_cases hext : file.path.endsWith family.extension = true
    · rw [if_pos hext, if_pos hext, List.flatMap_cons, List.flatMap_cons, List.map_append,
        map_spot_sitesOfRules]
      exact congrArg _ (ih (i + 1))
    · rw [if_neg hext, if_neg hext]
      exact ih (i + 1)

theorem spotsIn_filter (registry : Registry) (file : SourceFile) (rules : List Rule)
    (wanted : Rule → Bool) :
    spotsIn registry file (rules.filter wanted) =
      (spotsIn registry file rules).filter fun spot => wanted spot.2.1 := by
  unfold spotsIn
  induction rules with
  | nil => rfl
  | cons rule rest ih =>
    rw [List.flatMap_cons, List.filter_append, ← ih, List.filter_map]
    by_cases hwanted : wanted rule = true
    · have hall (found : List Found) : found.filter ((fun spot => wanted spot.2.1) ∘
          fun m => (file, rule, m)) = found :=
        List.filter_eq_self.mpr fun _ _ => hwanted
      rw [List.filter_cons_of_pos hwanted, List.flatMap_cons, hall]
    · have hnone (found : List Found) : found.filter ((fun spot => wanted spot.2.1) ∘
          fun m => (file, rule, m)) = [] :=
        List.filter_eq_nil_iff.mpr fun _ _ => hwanted
      rw [List.filter_cons_of_neg hwanted, hnone]
      rfl

theorem map_spot_sitesFrom_filter (registry : Registry) (rules : List Rule) (family : Family)
    (files : List SourceFile) (wanted : Rule → Bool) :
    (sitesFrom registry (rules.filter wanted) family 0 files).map Site.spot =
      ((sitesFrom registry rules family 0 files).filter fun site => wanted site.rule).map
        Site.spot := by
  have hsites : ((sitesFrom registry rules family 0 files).filter fun site =>
      wanted site.rule).map Site.spot =
      ((sitesFrom registry rules family 0 files).map Site.spot).filter fun spot =>
        wanted spot.2.1 := by
    rw [List.filter_map]
    rfl
  rw [hsites, map_spot_sitesFrom, map_spot_sitesFrom, List.filter_flatMap]
  simp only [spotsIn_filter]

end Spots

/-- A scan with the rules of some ids reports the findings of these rules in a scan with all, in
the same order and numbered anew. -/
theorem scan_select {registry : Registry} {document : Value} {source : String}
    {ruleSet : RuleSet} (hrules : (RuleSet.ofDocument registry document source).value = .ok ruleSet)
    {family : Family} {tool : Tool} (htool : Tool.ofWord family.tool = .ok tool)
    {ids : List String} (hids : ∀ id ∈ ids, id ∈ ruleSet.ids) (files : List SourceFile) :
    ∃ selected findings, ruleSet.select ids = .ok selected ∧
      (scan registry files ruleSet family).value = .ok findings ∧
      (scan registry files selected family).value =
        .ok (renumbered family 0 (findings.filter fun finding => finding.detector ∈ ids)) := by
  have hsound := RuleSet.isSound_of_ofDocument hrules
  refine ⟨_, _, RuleSet.select_eq_ok hids, scan_eq_numbered htool hsound files, ?_⟩
  rw [scan_eq_numbered htool fun rule hrule => hsound rule (List.mem_filter.mp hrule).1,
    renumbered_filter_numbered 1 _ fun id => decide (id ∈ ids)]
  congr 1
  apply numbered_congr
  rw [map_spot_sitesFrom_filter]
  simp only [List.contains_eq_mem]

theorem scan_select_origin :
    (RuleSet.ofDocument .builtin originDocument "rules.yaml").value = .ok originRules ∧
      Tool.ofWord Family.arc.tool = .ok .patterns ∧ (∀ id ∈ ["R2", "R2"], id ∈ originRules.ids) ∧
      ∃ selected findings, originRules.select ["R2", "R2"] = .ok selected ∧
        (scan .builtin originFiles originRules .arc).value = .ok findings ∧
        findings.map (fun finding => (finding.id, finding.detector)) =
          [("ARC-001", "R1"), ("ARC-002", "R2"), ("ARC-003", "R2"), ("ARC-004", "R1")] ∧
        (scan .builtin originFiles selected .arc).value =
          .ok (renumbered .arc 0 (findings.filter fun f => f.detector ∈ ["R2", "R2"])) ∧
        (renumbered .arc 0 (findings.filter fun f => f.detector ∈ ["R2", "R2"])).map
          (fun finding => (finding.id, finding.detector)) =
            [("ARC-001", "R2"), ("ARC-002", "R2")] := by
  have htool : Tool.ofWord Family.arc.tool = .ok .patterns := by
    simp [Tool.ofWord, Family.arc, Tool.word]
  have hids : ∀ id ∈ ["R2", "R2"], id ∈ originRules.ids := by decide
  obtain ⟨selected, findings, hselect, hall, hselected⟩ :=
    scan_select ofDocument_originDocument htool hids originFiles
  have hkept : ((scan .builtin originFiles originRules .arc).value.toOption.map fun findings =>
      (findings.map (fun finding => (finding.id, finding.detector)),
        (renumbered .arc 0 (findings.filter fun f => f.detector ∈ ["R2", "R2"])).map
          fun finding => (finding.id, finding.detector))) =
      some ([("ARC-001", "R1"), ("ARC-002", "R2"), ("ARC-003", "R2"), ("ARC-004", "R1")],
        [("ARC-001", "R2"), ("ARC-002", "R2")]) := by
    decide +kernel
  rw [hall] at hkept
  obtain ⟨hfindings, hrenumbered⟩ := Prod.mk.inj (Option.some.inj hkept)
  exact ⟨ofDocument_originDocument, htool, hids, selected, findings, hselect, hall, hfindings,
    hselected, hrenumbered⟩

end ContractScan
