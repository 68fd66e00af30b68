import ContractScan.Command.Run
import ContractScan.Proofs.Command.Endings
import ContractScan.Proofs.Command.Stages
import ContractScan.Yaml.Reader

/-! # Completed scans

A completed scan has found what the rules and the analyzers find on the tree in
which its log was opened. It has published that, and its exit code tells whether
anything of it is blocking.
-/

namespace ContractScan

open FileTree (SameBut Grows)

namespace ScanOptions

def opened (options : ScanOptions) (tree : FileTree) : FileTree :=
  ((Trace.start options.debugLog).run.run tree).2

def logPlace? (options : ScanOptions) (tree : FileTree) : Option (List String) :=
  options.debugLog.bind fun log => ((options.opened tree).locate log).toOption

/-- The tree once a scan has told what it is going to do. -/
def announced (options : ScanOptions) (env : Environment) (plan : ScanPlan) (tree : FileTree) :
    FileTree :=
  match ((Trace.start options.debugLog).run.run tree).1 with
  | .ok trace => ((announce env options plan).run.run { tree := options.opened tree, trace }).2.tree
  | .error _ => options.opened tree

/-- The log of a scan is none of the files that rules are applied to. -/
def LogApart (options : ScanOptions) (tree : FileTree) : Prop :=
  ∀ path ∈ (options.opened tree).sourcePaths options.path options.exclude,
    ∀ place ∈ options.logPlace? tree, ((options.opened tree).locate path).toOption ≠ some place

instance (options : ScanOptions) (tree : FileTree) : Decidable (options.LogApart tree) :=
  inferInstanceAs (Decidable (∀ path ∈ _, ∀ place ∈ options.logPlace? tree, _ ≠ some place))

/-- Both scans apply the same rules to the same files, and have the same log. -/
structure SameSources (options options' : ScanOptions) : Prop where
  path : options'.path = options.path
  exclude : options'.exclude = options.exclude
  rules : options'.rules = options.rules
  rulesFile : options'.rulesFile = options.rulesFile
  debugLog : options'.debugLog = options.debugLog

theorem SameSources.opened {options options' : ScanOptions} (h : options.SameSources options')
    (tree : FileTree) : options'.opened tree = options.opened tree := by
  simp only [ScanOptions.opened, h.debugLog]

theorem LogApart.of_sameSources {options options' : ScanOptions} {tree : FileTree}
    (hapart : options.LogApart tree) (h : options.SameSources options') :
    options'.LogApart tree := by
  simp only [LogApart, logPlace?, h.opened, h.debugLog, h.path, h.exclude] at hapart ⊢
  exact hapart

def calls (options : ScanOptions) (env : Environment) (tree : FileTree) : List Invocation :=
  let opened := options.opened tree
  (if options.slither then (Slither.run opened env.launch options.path options.exclude).calls
    else []) ++
  if options.mythril then (Mythril.run opened env.launch options.path).calls else []

end ScanOptions

/-- What a scan finds: the rules in the sources as they are once the scan is announced, each
analyzer on the tree in which the log was opened. -/
structure Gathered (env : Environment) (options : ScanOptions) (tree : FileTree)
    (found : ScanFindings) : Prop where
  arc : ∃ plan : ScanPlan, Report.formats options.formats = .ok plan.formats ∧
    (chooseRules env.read (options.opened tree) options.rulesFile (ScanPlan.rules options)).value =
      .ok plan.ruleSet ∧
    (scanArc ((options.announced env plan tree).collectSources options.path
      options.exclude).value plan.ruleSet).value = .ok found.arc
  slither : if options.slither then
      (Slither.run (options.opened tree) env.launch options.path options.exclude).outcome =
        .ok found.slither
    else found.slither = []
  mythril : if options.mythril then
      (Mythril.run (options.opened tree) env.launch options.path).outcome = .ok found.mythril
    else found.mythril = []

def Blocks (failOnHigh : Bool) (f : Finding) : Prop :=
  failOnHigh = false ∨ f.severity = .critical ∨ f.severity = .high

instance (failOnHigh : Bool) (f : Finding) : Decidable (Blocks failOnHigh f) :=
  inferInstanceAs (Decidable (_ ∨ _ ∨ _))

section Runs

variable {env : Environment} {options : ScanOptions} {tree : FileTree} {found : ScanFindings}
  {p p' : Progress}

/-- The log is opened where the later stages find it. -/
theorem stage_of_start {trace : Trace} {opened : FileTree}
    (h : (Trace.start options.debugLog).run.run tree = (.ok trace, opened)) :
    Stage (options.opened tree) (options.logPlace? tree) [] { tree := opened, trace } ∧
      options.opened tree = opened := by
  have hopened : options.opened tree = opened := congrArg Prod.snd h
  obtain ⟨hplace, hholds⟩ := Trace.run_start_eq_ok h
  have hlog : trace.place? = options.logPlace? tree := by
    rw [hplace, ScanOptions.logPlace?, hopened]
  refine ⟨⟨hlog, ?_, ?_, rfl⟩, hopened⟩
  · rw [hopened]
    exact .refl _ _
  · rw [← hlog]
    exact hholds

theorem ScanOptions.announced_eq {trace : Trace} {opened : FileTree}
    (h : (Trace.start options.debugLog).run.run tree = (.ok trace, opened)) (env : Environment)
    (plan : ScanPlan) : options.announced env plan tree =
      ((announce env options plan).run.run { tree := opened, trace }).2.tree := by
  rw [ScanOptions.announced, ScanOptions.opened, h]

theorem run_findAndPublish_eq_ok
    (h : (findAndPublish env options).run.run { tree } = (.ok found, p')) :
    Gathered env options tree found ∧ ∃ (plan : ScanPlan) (p : Progress),
      Report.formats options.formats = .ok plan.formats ∧
      Stage (options.opened tree) (options.logPlace? tree) (options.calls env tree) p ∧
      (publish env options plan found).run.run p = (.ok (), p') := by
  obtain ⟨trace, p₁, hopen, h₁⟩ := run_bind_eq_ok h
  obtain ⟨opened, hstart, rfl⟩ := Action.run_edit_eq_ok hopen
  obtain ⟨hstage₁, hopened⟩ := stage_of_start hstart
  obtain ⟨_, _, hmodify, h₂⟩ := run_bind_eq_ok h₁
  cases hmodify
  obtain ⟨plan, p₂, hmake, h₃⟩ := run_bind_eq_ok h₂
  obtain ⟨hformats, hrules, htree₂, htrace₂, hcalls₂⟩ := ScanPlan.run_make_eq_ok hmake
  obtain ⟨_, p₃, hannounce, h₄⟩ := run_bind_eq_ok h₃
  obtain ⟨gathered, p₄, hgather, h₅⟩ := run_bind_eq_ok h₄
  obtain ⟨_, p₅, hpublish, h₆⟩ := run_bind_eq_ok h₅
  cases h₆
  have hstage₃ := (hstage₁.of_eq htree₂ htrace₂ hcalls₂).announce hannounce
  obtain ⟨harc, hslither, hmythril, hstage₄⟩ := hstage₃.gather hgather
  have hscanned : options.announced env plan tree = p₃.tree := by
    rw [ScanOptions.announced_eq hstart, ← congrArg (·.2.tree) hannounce]
    change _ = ((announce env options plan).run.run { tree := p₂.tree, trace := p₂.trace }).2.tree
    rw [htree₂, htrace₂]
  refine ⟨⟨⟨plan, hformats, ?_, ?_⟩, hslither, hmythril⟩, plan, p₄, hformats, hstage₄, hpublish⟩
  · rw [hopened]
    exact hrules
  · rw [hscanned]
    exact harc

theorem ScanOptions.sameBut_announced (env : Environment) (options : ScanOptions) (plan : ScanPlan)
    (tree : FileTree) :
    SameBut (options.logPlace? tree) (options.opened tree) (options.announced env plan tree) := by
  rcases hstart : (Trace.start options.debugLog).run.run tree with ⟨e | trace, opened⟩
  · rw [ScanOptions.announced, hstart]
    exact .refl _ _
  · have hrun : (announce env options plan).run.run { tree := opened, trace } =
        (.ok (), ((announce env options plan).run.run { tree := opened, trace }).2) := rfl
    rw [ScanOptions.announced_eq hstart]
    exact ((stage_of_start hstart).1.announce hrun).sameBut

/-- As long as the log is none of the sources, the rules find what is in them from the start. -/
theorem Gathered.arc_of_logApart (h : Gathered env options tree found)
    (hapart : options.LogApart tree) :
    ∃ ruleSet, (chooseRules env.read (options.opened tree) options.rulesFile
        (ScanPlan.rules options)).value = .ok ruleSet ∧
      (scanArc ((options.opened tree).collectSources options.path options.exclude).value
        ruleSet).value = .ok found.arc := by
  obtain ⟨plan, -, hrules, harc⟩ := h.arc
  have hsources := (options.sameBut_announced env plan tree).collectSources
    fun path hpath place hplace hlog => hapart path hpath place hlog (by rw [hplace]; rfl)
  rw [hsources] at harc
  exact ⟨plan.ruleSet, hrules, harc⟩

theorem Gathered.arc_eq {options' : ScanOptions} {found' : ScanFindings}
    (hfound : Gathered env options tree found) (hfound' : Gathered env options' tree found')
    (h : options.SameSources options') (hapart : options.LogApart tree) :
    found'.arc = found.arc := by
  obtain ⟨ruleSet, hrules, harc⟩ := hfound.arc_of_logApart hapart
  obtain ⟨ruleSet', hrules', harc'⟩ := hfound'.arc_of_logApart (hapart.of_sameSources h)
  rw [h.opened, h.rulesFile, ScanPlan.rules, h.rules] at hrules'
  obtain rfl : ruleSet = ruleSet' := Except.ok.inj (hrules.symm.trans hrules')
  rw [h.opened, h.path, h.exclude] at harc'
  exact Except.ok.inj (harc'.symm.trans harc)

theorem Severity.rank_le_high_iff (s : Severity) :
    s.rank ≤ Severity.high.rank ↔ s = .critical ∨ s = .high := by
  cases s <;> decide

theorem length_blocking_eq_zero_iff {failOnHigh : Bool} {findings : List Finding} :
    (Report.blocking failOnHigh findings).length = 0 ↔ ¬ ∃ f ∈ findings, Blocks failOnHigh f := by
  cases failOnHigh with
  | false => simp [Report.blocking, Blocks, List.eq_nil_iff_forall_not_mem]
  | true => simp [Report.blocking, Blocks, Severity.rank_le_high_iff]

theorem code_eq_one_iff {P : Prop} [Decidable P] {code : Nat} (h : code = if P then 1 else 0) :
    code = 1 ↔ P := by
  rw [h]
  split <;> simp_all

theorem run_conclude (env : Environment) (options : ScanOptions) (found : ScanFindings)
    (p : Progress) :
    ∃ p', (conclude env options found).run.run p =
      (.error (.exit (if ∃ f ∈ found.all, Blocks options.failOnHigh f then 1 else 0)), p') ∧
        OnlyLogs p p' := by
  have hcode : (if (Report.blocking options.failOnHigh found.all).length == 0 then 0 else 1) =
      if ∃ f ∈ found.all, Blocks options.failOnHigh f then 1 else 0 := by
    simp only [beq_iff_eq, length_blocking_eq_zero_iff, ite_not]
  rw [← hcode]
  refine ⟨_, rfl, ?_⟩
  exact (OnlyLogs.record rfl).trans ((OnlyLogs.say rfl).trans (.record rfl))

end Runs

namespace Session

variable {session : Session} {env : Environment} {options : ScanOptions} {code : Nat}

/-- A scan completes if it is not refused and nothing stops it; its code is then one or zero. -/
def Completes (session : Session) (env : Environment) (options : ScanOptions) (code : Nat) : Prop :=
  code ≤ 1 ∧ (session.perform env (.scan options)).1.ending = .exit code

instance : Decidable (session.Completes env options code) :=
  inferInstanceAs (Decidable (_ ∧ _))

theorem perform_scan {ending : Ending} {p : Progress}
    (h : (scanCommand env options).run.run { tree := session.tree } = (.error ending, p)) :
    (session.perform env (.scan options)).1.ending = ending ∧
      (session.perform env (.scan options)).1.calls = p.calls ∧
      (session.perform env (.scan options)).2.tree = p.tree := by
  simp [perform, action, h]

theorem perform_of_findAndPublish {found : ScanFindings} {p : Progress}
    (h : (findAndPublish env options).run.run { tree := session.tree } = (.ok found, p)) :
    (session.perform env (.scan options)).1.ending =
        .exit (if ∃ f ∈ found.all, Blocks options.failOnHigh f then 1 else 0) ∧
      ∃ p', OnlyLogs p p' ∧ (session.perform env (.scan options)).1.calls = p'.calls ∧
        (session.perform env (.scan options)).2.tree = p'.tree := by
  obtain ⟨p', hconclude, hlogs⟩ := run_conclude env options found p
  have hrun : (scanCommand env options).run.run { tree := session.tree } =
      (conclude env options found).run.run p := by
    rw [scanCommand_eq, run_bind_of_ok h]
  obtain ⟨hending, hcalls, htree⟩ := perform_scan (hrun.trans hconclude)
  exact ⟨hending, p', hlogs, hcalls, htree⟩

theorem Completes.findAndPublish (h : session.Completes env options code) :
    ∃ found p, (findAndPublish env options).run.run { tree := session.tree } = (.ok found, p) := by
  rcases hrun : (ContractScan.findAndPublish env options).run.run { tree := session.tree } with
    ⟨ending | found, p⟩
  · have hstop : (scanCommand env options).run.run { tree := session.tree } =
        (.error ending, p) := by
      rw [scanCommand_eq, run_bind, hrun]
    have hending := h.2.symm.trans (perform_scan hstop).1
    rw [← hending] at hrun
    have := neverCompletes_findAndPublish env options _ _ _ hrun
    exact absurd h.1 (by omega)
  · exact ⟨found, p, rfl⟩

/-- A completed scan has gathered its findings, and they decide its code. -/
theorem Completes.gathered (h : session.Completes env options code) :
    ∃ found, Gathered env options session.tree found ∧
      code = (if ∃ f ∈ found.all, Blocks options.failOnHigh f then 1 else 0) := by
  obtain ⟨found, p, hrun⟩ := h.findAndPublish
  obtain ⟨hgathered, -⟩ := run_findAndPublish_eq_ok hrun
  have hending := h.2.symm.trans (perform_of_findAndPublish hrun).1
  exact ⟨found, hgathered, Ending.exit.inj hending⟩

theorem Completes.calls (h : session.Completes env options code) :
    (session.perform env (.scan options)).1.calls = options.calls env session.tree := by
  obtain ⟨found, p, hrun⟩ := h.findAndPublish
  obtain ⟨-, plan, p₁, -, hstage, hpublish⟩ := run_findAndPublish_eq_ok hrun
  obtain ⟨exported, t, -, hlogs⟩ := run_publish_eq_ok hpublish
  obtain ⟨-, p', hlogs', hcalls, -⟩ := perform_of_findAndPublish hrun
  rw [hcalls, hlogs'.calls, hlogs.calls]
  exact hstage.calls

end Session

section Samples

def sampleSession : Session where
  tree :=
    { base := ⟨.absolute, ["work"]⟩
      nodes := [(["draw.sol"], .file (.text "block.prevrandao")),
        (["idle.sol"], .file (.text ""))] }

def sampleEnvironment : Environment where
  launch call :=
    if call.arguments.head? == some Slither.program then
      .exited 0 (some ("\x7b\"detectors\": [\x7b\"elements\": [" ++
        "\x7b\"source_mapping\": \x7b\"lines\": [1]\x7d\x7d]\x7d]\x7d")) none
    else .exited 0 (some "\x7b\"issues\": [\x7b\x7d]\x7d") none
  time := ""
  read := Yaml.read
  report _ := ""

def sampleScan : ScanOptions where
  path := ⟨.relative, ["draw.sol"]⟩
  exclude := []
  rules := some "ARC001"
  slither := false
  formats := ["json"]
  out := ⟨.relative, ["out"]⟩
  debugLog := some ⟨.relative, ["trace.jsonl"]⟩

theorem sampleScan_completes :
    sampleSession.Completes sampleEnvironment sampleScan 1 ∧
      sampleSession.Completes sampleEnvironment
        { sampleScan with slither := true, mythril := true } 1 ∧
      sampleScan.LogApart sampleSession.tree := by
  decide +kernel

/-- One rule, which looks for a scan without Slither or with a table. -/
def selfSession : Session where
  tree :=
    { base := ⟨.absolute, ["work"]⟩
      nodes := [(["rules.yaml"], .file (.text ("rules: [\x7bid: R, name: n, severity: high, " ++
        "pattern: 'r\": f|table', description: d, recommendation: r\x7d]")))] }

def selfScan : ScanOptions where
  path := ⟨.relative, ["self.sol"]⟩
  exclude := []
  rulesFile := some ⟨.relative, ["rules.yaml"]⟩
  slither := false
  formats := ["json"]
  out := ⟨.relative, ["out"]⟩
  debugLog := some ⟨.relative, ["self.sol"]⟩

def silentEnvironment : Environment where
  launch _ := .notLaunched "not found"
  time := ""
  read := Yaml.read
  report _ := ""

theorem selfScan_completes : selfSession.Completes silentEnvironment selfScan 1 := by
  decide +kernel

theorem selfScan_completes_slither :
    selfSession.Completes silentEnvironment { selfScan with slither := true } 0 := by
  decide +kernel

end Samples

end ContractScan
