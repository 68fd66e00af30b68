import ContractScan.Proofs.Rule.Sound
import ContractScan.Scan.Basic

/-! # What a scan reports

A scan makes one finding of every match of a rule in a file. The ordinals are
carried from file to file and from rule to rule; in the end the findings count
from one in the order of the files, the rules and the matches.
-/

namespace ContractScan

open Pattern

/-- A match of a rule in a file, with the positions of the three. -/
structure Site where
  filePosition : Nat
  rulePosition : Nat
  matchPosition : Nat
  file : SourceFile
  rule : Rule
  found : Found

namespace Site

/-- The order of the files, then of the rules, then of the matches. -/
def Precedes (a b : Site) : Prop :=
  a.filePosition < b.filePosition ∨ a.filePosition = b.filePosition ∧
    (a.rulePosition < b.rulePosition ∨ a.rulePosition = b.rulePosition ∧
      a.matchPosition < b.matchPosition)

/-- The file is one of the family's, the rule applies to its content and matches there. -/
structure Occurs (registry : Registry) (files : List SourceFile) (rules : List Rule)
    (family : Family) (site : Site) : Prop where
  file : files[site.filePosition]? = some site.file
  extension : site.file.path.endsWith family.extension = true
  rule : rules[site.rulePosition]? = some site.rule
  applies : site.rule.appliesTo registry site.file.content.toList = .ok true
  found : ∃ node, site.rule.matcher = .ok node ∧
    (findAll node site.file.content.toList)[site.matchPosition]? = some site.found

def context (site : Site) : Source.Context :=
  Source.contextAt site.file.content.toList site.found.first.offset

/-- What the finding with an ordinal tells of a site. -/
structure Reports (family : Family) (ordinal : Nat) (site : Site) (finding : Finding) : Prop where
  id : finding.id =
    family.idPrefix ++ "-" ++ String.ofList ((Nat.toDigits 10 ordinal).leftpad 3 '0')
  filePath : finding.filePath = site.file.path
  detector : finding.detector = site.rule.id
  exploitability : finding.exploitability = "Pattern match: " ++ site.found.text
  lineNumber : finding.lineNumber = site.context.lineNumber
  codeSnippet : finding.codeSnippet = String.ofList site.context.snippet
  contractName : finding.contractName = some site.context.contractName
  functionName : finding.functionName = site.context.functionName

/-- Findings report sites: these are all that occur, each once and in order, and the findings
count from one along them. -/
structure Listed (registry : Registry) (files : List SourceFile) (rules : List Rule)
    (family : Family) (sites : List Site) (findings : List Finding) : Prop where
  ordered : sites.Pairwise Precedes
  complete : ∀ site, site ∈ sites ↔ site.Occurs registry files rules family
  length : findings.length = sites.length
  reports : ∀ (k : Nat) (site : Site) (finding : Finding), sites[k]? = some site →
    findings[k]? = some finding → site.Reports family (k + 1) finding

def finding (family : Family) (tool : Tool) (site : Site) (ordinal : Nat) : Finding :=
  family.finding tool site.rule site.file.path site.context site.found.text
    (family.findingId ordinal)

end Site

section Ordinals

theorem toList_pushn (s : String) (c : Char) (n : Nat) :
    (s.pushn c n).toList = s.toList ++ List.replicate n c := by
  rw [String.pushn_eq_repeat_push]
  induction n with
  | zero => simp [Nat.repeat]
  | succ n ih => rw [Nat.repeat, String.toList_push, ih, List.replicate_succ', List.append_assoc]

theorem padded_natCast (n : Nat) :
    padded n = String.ofList ((Nat.toDigits 10 n).leftpad 3 '0') := by
  have hn : ¬ (n : Int) < 0 := by omega
  have hdigits : (toString n).toList = Nat.toDigits 10 n := String.toList_ofList
  apply String.toList_inj.mp
  simp only [padded, hn, if_false, Int.natAbs_natCast, String.toList_append, toList_pushn,
    hdigits, String.toList_ofList, List.leftpad, ← String.length_toList]
  rfl

theorem Site.finding_reports (family : Family) (tool : Tool) (site : Site) (ordinal : Nat) :
    site.Reports family ordinal (site.finding family tool ordinal) where
  id := by
    change family.idPrefix ++ "-" ++ padded ordinal = _
    rw [padded_natCast]
  filePath := rfl
  detector := rfl
  exploitability := rfl
  lineNumber := rfl
  codeSnippet := rfl
  contractName := rfl
  functionName := rfl

def numbered (family : Family) (tool : Tool) (ordinal : Nat) (sites : List Site) : List Finding :=
  (sites.zipIdx ordinal).map fun (site, n) => site.finding family tool n

variable {family : Family} {tool : Tool}

@[simp] theorem length_numbered (ordinal : Nat) (sites : List Site) :
    (numbered family tool ordinal sites).length = sites.length := by
  simp [numbered]

theorem numbered_append (ordinal : Nat) (sites sites' : List Site) :
    numbered family tool ordinal (sites ++ sites') =
      numbered family tool ordinal sites ++
        numbered family tool (ordinal + sites.length) sites' := by
  simp [numbered, List.zipIdx_append]

theorem getElem?_numbered (ordinal k : Nat) (sites : List Site) :
    (numbered family tool ordinal sites)[k]? =
      sites[k]?.map fun site => site.finding family tool (ordinal + k) := by
  simp [numbered, Function.comp_def]

def renumbered (family : Family) (increase : Nat) (findings : List Finding) : List Finding :=
  findings.mapIdx fun k finding => { finding with id := family.findingId (k + 1 + increase) }

theorem renumbered_numbered (increase : Nat) (sites : List Site) :
    renumbered family increase (numbered family tool 1 sites) =
      numbered family tool (1 + increase) sites := by
  apply List.ext_getElem?
  intro k
  have hk : 1 + increase + k = k + 1 + increase := by omega
  simp only [renumbered, List.getElem?_mapIdx, getElem?_numbered, hk]
  cases sites[k]? with
  | none => rfl
  | some site => simp only [Option.map_some, Site.finding, Family.finding]

theorem append_numbered (findings : List Finding) (ordinal : Nat) (sites sites' : List Site) :
    findings ++ numbered family tool (ordinal + findings.length) sites ++
        numbered family tool
          (ordinal + (findings ++ numbered family tool (ordinal + findings.length) sites).length)
          sites' =
      findings ++ numbered family tool (ordinal + findings.length) (sites ++ sites') := by
  rw [numbered_append, List.append_assoc, List.length_append, length_numbered, Nat.add_assoc]

end Ordinals

section Rules

variable {registry : Registry} {rule : Rule} {text : List Char}

def Rule.foundIn (registry : Registry) (rule : Rule) (text : List Char) : List Found :=
  (rule.matchesIn registry text).toOption.getD []

theorem Rule.matchesIn_eq_ok (h : rule.IsSound registry) (text : List Char) :
    rule.matchesIn registry text = .ok (rule.foundIn registry text) := by
  obtain ⟨node, hnode, _⟩ := h.readable
  obtain ⟨accepted, haccepted⟩ := appliesTo_eq_ok h text
  cases accepted <;> simp [foundIn, matchesIn, haccepted, hnode, Except.toOption]

theorem Rule.getElem?_foundIn {k : Nat} {m : Found} :
    (rule.foundIn registry text)[k]? = some m ↔ rule.appliesTo registry text = .ok true ∧
      ∃ node, rule.matcher = .ok node ∧ (findAll node text)[k]? = some m := by
  unfold foundIn matchesIn
  split
  · simp_all [Except.toOption]
  · simp_all [Except.toOption]
  · split <;> simp_all [Except.toOption]

theorem Rule.mem_foundIn {m : Found} {node : Pattern} (hnode : rule.matcher = .ok node)
    (hm : m ∈ rule.foundIn registry text) : m ∈ findAll node text := by
  obtain ⟨k, hk⟩ := List.mem_iff_getElem?.mp hm
  obtain ⟨-, node', hnode', hfound⟩ := getElem?_foundIn.mp hk
  obtain rfl := Except.ok.inj (hnode.symm.trans hnode')
  exact List.mem_of_getElem? hfound

end Rules

section Listing

def sitesOfMatches (file : SourceFile × Nat) (rule : Rule × Nat) (k : Nat) (ms : List Found) :
    List Site :=
  (ms.zipIdx k).map fun (m, k) => ⟨file.2, rule.2, k, file.1, rule.1, m⟩

def sitesOfRules (registry : Registry) (file : SourceFile × Nat) (rules : List (Rule × Nat)) :
    List Site :=
  rules.flatMap fun rule =>
    sitesOfMatches file rule 0 (rule.1.foundIn registry file.1.content.toList)

/-- The sites in files of a family, from the file at position `i` on. -/
def sitesFrom (registry : Registry) (rules : List Rule) (family : Family) (i : Nat)
    (files : List SourceFile) : List Site :=
  ((files.zipIdx i).filter fun file => file.1.path.endsWith family.extension).flatMap fun file =>
    sitesOfRules registry file rules.zipIdx

theorem zipIdx_pairwise {α : Type} (items : List α) (n : Nat) :
    (items.zipIdx n).Pairwise fun a b => a.2 < b.2 := by
  induction items generalizing n with
  | nil => exact .nil
  | cons item rest ih => exact .cons (fun _ h => List.le_snd_of_mem_zipIdx h) (ih (n + 1))

variable {registry : Registry} {file : SourceFile × Nat} {site : Site}

theorem mem_sitesOfMatches {rule : Rule × Nat} {ms : List Found} :
    site ∈ sitesOfMatches file rule 0 ms ↔
      (site.file, site.filePosition) = file ∧ (site.rule, site.rulePosition) = rule ∧
        ms[site.matchPosition]? = some site.found := by
  simp only [sitesOfMatches, List.mem_map, List.mem_zipIdx_iff_getElem?]
  constructor
  · rintro ⟨⟨m, k⟩, hm, rfl⟩
    exact ⟨rfl, rfl, hm⟩
  · rintro ⟨rfl, rfl, hm⟩
    exact ⟨(site.found, site.matchPosition), hm, rfl⟩

theorem mem_sitesOfRules {rules : List Rule} :
    site ∈ sitesOfRules registry file rules.zipIdx ↔
      (site.file, site.filePosition) = file ∧ rules[site.rulePosition]? = some site.rule ∧
        (site.rule.foundIn registry file.1.content.toList)[site.matchPosition]? =
          some site.found := by
  simp only [sitesOfRules, List.mem_flatMap, List.mem_zipIdx_iff_getElem?, mem_sitesOfMatches]
  constructor
  · rintro ⟨_, hrule, hfile, rfl, hm⟩
    exact ⟨hfile, hrule, hm⟩
  · rintro ⟨hfile, hrule, hm⟩
    exact ⟨(site.rule, site.rulePosition), hrule, hfile, rfl, hm⟩

/-- Every site that occurs is listed, and no other. -/
theorem mem_sitesFrom_iff {rules : List Rule} {family : Family} {files : List SourceFile} :
    site ∈ sitesFrom registry rules family 0 files ↔ site.Occurs registry files rules family := by
  simp only [sitesFrom, List.mem_flatMap, List.mem_filter, List.mem_zipIdx_iff_getElem?,
    mem_sitesOfRules]
  constructor
  · rintro ⟨_, ⟨hfile, hextension⟩, rfl, hrule, hm⟩
    obtain ⟨happlies, hfound⟩ := Rule.getElem?_foundIn.mp hm
    exact ⟨hfile, hextension, hrule, happlies, hfound⟩
  · intro h
    exact ⟨(site.file, site.filePosition), ⟨h.file, h.extension⟩, rfl, h.rule,
      Rule.getElem?_foundIn.mpr ⟨h.applies, h.found⟩⟩

theorem sitesOfMatches_pairwise (file : SourceFile × Nat) (rule : Rule × Nat) (ms : List Found) :
    (sitesOfMatches file rule 0 ms).Pairwise Site.Precedes := by
  rw [sitesOfMatches, List.pairwise_map]
  exact (zipIdx_pairwise ms 0).imp fun hlt => .inr ⟨rfl, .inr ⟨rfl, hlt⟩⟩

theorem sitesOfRules_pairwise (registry : Registry) (file : SourceFile × Nat)
    (rules : List Rule) : (sitesOfRules registry file rules.zipIdx).Pairwise Site.Precedes := by
  rw [sitesOfRules, List.pairwise_flatMap]
  refine ⟨fun rule _ => sitesOfMatches_pairwise file rule _, ?_⟩
  refine (zipIdx_pairwise rules 0).imp ?_
  intro rule rule' hlt a ha b hb
  obtain ⟨hfile, rfl, _⟩ := mem_sitesOfMatches.mp ha
  obtain ⟨hfile', rfl, _⟩ := mem_sitesOfMatches.mp hb
  exact .inr ⟨(Prod.mk.inj (hfile.trans hfile'.symm)).2, .inl hlt⟩

theorem sitesFrom_pairwise (registry : Registry) (rules : List Rule) (family : Family) (i : Nat)
    (files : List SourceFile) :
    (sitesFrom registry rules family i files).Pairwise Site.Precedes := by
  rw [sitesFrom, List.pairwise_flatMap]
  refine ⟨fun file _ => sitesOfRules_pairwise registry file rules, ?_⟩
  refine ((zipIdx_pairwise files i).filter _).imp ?_
  intro file file' hlt a ha b hb
  obtain ⟨rfl, _⟩ := mem_sitesOfRules.mp ha
  obtain ⟨rfl, _⟩ := mem_sitesOfRules.mp hb
  exact .inl hlt

end Listing

section Runs

variable {registry : Registry} {family : Family} {tool : Tool}

theorem addMatch_eq_ok (htool : Tool.ofWord family.tool = .ok tool) (file : SourceFile × Nat)
    (rule : Rule × Nat) (firstOrdinal k : Nat) (findings : List Finding) (m : Found) :
    addMatch family file.1.path (Source.index file.1.content.toList) firstOrdinal rule.1 findings
        m =
      .ok (findings ++ numbered family tool (firstOrdinal + findings.length)
        (sitesOfMatches file rule k [m])) := by
  simp only [addMatch, buildFinding, htool, Checked.under]
  rfl

theorem foldlM_addMatch (htool : Tool.ofWord family.tool = .ok tool) (file : SourceFile × Nat)
    (rule : Rule × Nat) (firstOrdinal k : Nat) (findings : List Finding) (ms : List Found) :
    ms.foldlM (addMatch family file.1.path (Source.index file.1.content.toList) firstOrdinal rule.1)
        findings =
      .ok (findings ++ numbered family tool (firstOrdinal + findings.length)
        (sitesOfMatches file rule k ms)) := by
  induction ms generalizing findings k with
  | nil => simp [sitesOfMatches, numbered, pure, Except.pure]
  | cons m rest ih =>
    have hsplit : sitesOfMatches file rule k (m :: rest) =
        sitesOfMatches file rule k [m] ++ sitesOfMatches file rule (k + 1) rest := by
      simp [sitesOfMatches]
    rw [List.foldlM_cons, addMatch_eq_ok htool file rule firstOrdinal k, hsplit, ← append_numbered]
    exact ih (k + 1) _

theorem foldlM_addRule (htool : Tool.ofWord family.tool = .ok tool) (file : SourceFile × Nat)
    {rules : List Rule} (hrules : ∀ rule ∈ rules, rule.IsSound registry) (firstOrdinal j : Nat)
    (findings : List Finding) :
    rules.foldlM (addRule registry family file.1.path (Source.index file.1.content.toList)
        firstOrdinal) findings =
      .ok (findings ++ numbered family tool (firstOrdinal + findings.length)
        (sitesOfRules registry file (rules.zipIdx j))) := by
  induction rules generalizing findings j with
  | nil => simp [sitesOfRules, numbered, pure, Except.pure]
  | cons rule rest ih =>
    have hadd : addRule registry family file.1.path (Source.index file.1.content.toList)
        firstOrdinal findings rule =
        .ok (findings ++ numbered family tool (firstOrdinal + findings.length)
          (sitesOfMatches file (rule, j) 0 (rule.foundIn registry file.1.content.toList))) := by
      rw [addRule, show (Source.index file.1.content.toList).text = file.1.content.toList from rfl,
        Rule.matchesIn_eq_ok (hrules rule List.mem_cons_self)]
      exact foldlM_addMatch htool file (rule, j) firstOrdinal 0 findings _
    rw [List.foldlM_cons, hadd, List.zipIdx_cons, sitesOfRules, List.flatMap_cons,
      ← append_numbered]
    exact ih (fun rule hmem => hrules rule (List.mem_cons_of_mem _ hmem)) (j + 1) _

theorem scanFile_eq_ok (htool : Tool.ofWord family.tool = .ok tool) (file : SourceFile × Nat)
    {rules : List Rule} (hrules : ∀ rule ∈ rules, rule.IsSound registry) (firstOrdinal : Nat) :
    scanFile registry rules family file.1 firstOrdinal =
      .ok (numbered family tool firstOrdinal (sitesOfRules registry file rules.zipIdx)) :=
  foldlM_addRule htool file hrules firstOrdinal 0 []

/-- The files add their findings one after another. The position of the first file is free, since
findings do not tell it. -/
theorem foldlM_addFile (htool : Tool.ofWord family.tool = .ok tool) {rules : List Rule}
    (hrules : ∀ rule ∈ rules, rule.IsSound registry) (i : Nat) (files : List SourceFile)
    (findings : List Finding) :
    (files.filter (·.path.endsWith family.extension)).foldlM (addFile registry rules family)
        findings =
      .ok (findings ++ numbered family tool (1 + findings.length)
        (sitesFrom registry rules family i files)) := by
  induction files generalizing findings i with
  | nil => simp [sitesFrom, numbered, pure, Except.pure]
  | cons file rest ih =>
    by_cases hext : file.path.endsWith family.extension = true
    · have hadd : addFile registry rules family findings file =
          .ok (findings ++ numbered family tool (1 + findings.length)
            (sitesOfRules registry (file, i) rules.zipIdx)) := by
        rw [addFile, Nat.add_comm findings.length, scanFile_eq_ok htool (file, i) hrules]
        rfl
      have hsites : sitesFrom registry rules family i (file :: rest) =
          sitesOfRules registry (file, i) rules.zipIdx ++
            sitesFrom registry rules family (i + 1) rest := by
        simp [sitesFrom, List.zipIdx_cons, hext]
      rw [List.filter_cons, if_pos hext, List.foldlM_cons, hadd, hsites, ← append_numbered]
      exact ih (i + 1) _
    · have hsites : sitesFrom registry rules family i (file :: rest) =
          sitesFrom registry rules family (i + 1) rest := by
        simp [sitesFrom, List.zipIdx_cons, hext]
      rw [List.filter_cons, if_neg hext, hsites]
      exact ih (i + 1) findings

theorem value_scan (registry : Registry) (files : List SourceFile) (ruleSet : RuleSet)
    (family : Family) :
    (scan registry files ruleSet family).value =
      (files.filter (·.path.endsWith family.extension)).foldlM
        (addFile registry ruleSet.rules family) [] := by
  unfold scan
  dsimp only
  split
  next hempty =>
    rw [List.isEmpty_iff.mp hempty]
    rfl
  · split
    next hfold => exact hfold.symm
    next hfold => exact hfold.symm

theorem scan_eq_numbered (htool : Tool.ofWord family.tool = .ok tool) {ruleSet : RuleSet}
    (hrules : ∀ rule ∈ ruleSet.rules, rule.IsSound registry) (files : List SourceFile) :
    (scan registry files ruleSet family).value =
      .ok (numbered family tool 1 (sitesFrom registry ruleSet.rules family 0 files)) := by
  rw [value_scan]
  exact foldlM_addFile htool hrules 0 files []

theorem scan_append_eq_numbered (htool : Tool.ofWord family.tool = .ok tool) {ruleSet : RuleSet}
    (hrules : ∀ rule ∈ ruleSet.rules, rule.IsSound registry) (files more : List SourceFile) :
    (scan registry (files ++ more) ruleSet family).value =
      .ok (numbered family tool 1 (sitesFrom registry ruleSet.rules family 0 files) ++
        numbered family tool
          (1 + (numbered family tool 1 (sitesFrom registry ruleSet.rules family 0 files)).length)
          (sitesFrom registry ruleSet.rules family 0 more)) := by
  rw [value_scan, List.filter_append, List.foldlM_append, foldlM_addFile htool hrules 0 files]
  exact foldlM_addFile htool hrules 0 more _

end Runs

theorem listed_numbered (registry : Registry) (files : List SourceFile) (rules : List Rule)
    (family : Family) (tool : Tool) :
    Site.Listed registry files rules family (sitesFrom registry rules family 0 files)
      (numbered family tool 1 (sitesFrom registry rules family 0 files)) where
  ordered := sitesFrom_pairwise ..
  complete := fun _ => mem_sitesFrom_iff
  length := length_numbered ..
  reports := by
    intro k site finding hsite hfinding
    rw [getElem?_numbered, hsite, Option.map_some, Nat.add_comm 1] at hfinding
    rw [← Option.some.inj hfinding]
    exact site.finding_reports family tool (k + 1)

/-- A scan with the rules of a document reports every site once, in order and numbered from one.
Scanning more files after some adds their findings, numbered on. -/
theorem scan_reports_sites {registry : Registry} {document : Value} {source : String}
    {ruleSet : RuleSet} (hrules : (RuleSet.ofDocument registry document source).value = .ok ruleSet)
    {family : Family} {tool : Tool} (htool : Tool.ofWord family.tool = .ok tool)
    (files : List SourceFile) :
    ∃ findings, (scan registry files ruleSet family).value = .ok findings ∧
      (∃ sites, Site.Listed registry files ruleSet.rules family sites findings) ∧
      ∀ more, ∃ moreFindings, (scan registry more ruleSet family).value = .ok moreFindings ∧
        (scan registry (files ++ more) ruleSet family).value =
          .ok (findings ++ renumbered family findings.length moreFindings) := by
  have hsound := RuleSet.isSound_of_ofDocument hrules
  refine ⟨_, scan_eq_numbered htool hsound files, ⟨_, listed_numbered ..⟩, ?_⟩
  intro more
  refine ⟨_, scan_eq_numbered htool hsound more, ?_⟩
  rw [scan_append_eq_numbered htool hsound, renumbered_numbered]

def originDocument : Value :=
  .record [("name", .str "origin"), ("rules", .list [
    .record [("id", .str "R1"), ("name", .str "origin"), ("severity", .str "high"),
      ("pattern", .str "tx\\.origin"), ("description", .str "d"), ("recommendation", .str "r")],
    .record [("id", .str "R2"), ("name", .str "scale"), ("severity", .str "low"),
      ("pattern", .str "1e\\d"), ("description", .str "d"), ("recommendation", .str "r"),
      ("predicate", .str "hardcoded_six_decimals")]])]

def originRules : RuleSet where
  name := "origin"
  rules := [
    { id := "R1", name := "origin", severity := .high, pattern := "tx\\.origin",
      description := "d", recommendation := "r" },
    { id := "R2", name := "scale", severity := .low, pattern := "1e\\d", description := "d",
      recommendation := "r", predicate := some "hardcoded_six_decimals" }]

/-- A file where both rules match, one of another family, and one that the predicate of the second
rule keeps out. -/
def originFiles : List SourceFile :=
  [⟨"a.sol", "1e6 tx.origin 1e7"⟩, ⟨"b.txt", "tx.origin"⟩, ⟨"c.sol", "tx.origin 1e8"⟩]

theorem ofDocument_originDocument :
    (RuleSet.ofDocument .builtin originDocument "rules.yaml").value = .ok originRules := by
  have h : (RuleSet.ofDocument .builtin originDocument "rules.yaml").value.toOption =
      some originRules := by decide +kernel
  exact toOption_eq_some_iff.mp h

theorem scan_reports_origin_sites :
    (RuleSet.ofDocument .builtin originDocument "rules.yaml").value = .ok originRules ∧
      Tool.ofWord Family.arc.tool = .ok .patterns ∧
      ∃ findings, (scan .builtin originFiles originRules .arc).value = .ok findings ∧
        findings.map (fun finding => (finding.id, finding.detector)) =
          [("ARC-001", "R1"), ("ARC-002", "R2"), ("ARC-003", "R2"), ("ARC-004", "R1")] ∧
        (∃ sites, Site.Listed .builtin originFiles originRules.rules .arc sites findings) ∧
        ∃ moreFindings, (scan .builtin originFiles originRules .arc).value = .ok moreFindings ∧
          (scan .builtin (originFiles ++ originFiles) originRules .arc).value =
            .ok (findings ++ renumbered .arc findings.length moreFindings) := by
  have htool : Tool.ofWord Family.arc.tool = .ok .patterns := by
    simp [Tool.ofWord, Family.arc, Tool.word]
  obtain ⟨findings, hscan, hlisted, hmore⟩ :=
    scan_reports_sites ofDocument_originDocument htool originFiles
  have hids : ((scan .builtin originFiles originRules .arc).value.toOption.map fun findings =>
      findings.map fun finding => (finding.id, finding.detector)) =
      some [("ARC-001", "R1"), ("ARC-002", "R2"), ("ARC-003", "R2"), ("ARC-004", "R1")] := by
    decide +kernel
  rw [hscan] at hids
  exact ⟨ofDocument_originDocument, htool, findings, hscan, Option.some.inj hids, hlisted,
    hmore originFiles⟩

end ContractScan
