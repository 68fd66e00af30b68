import ContractScan.Proofs.Command.Completed
import ContractScan.Proofs.Rule.Loading

/-! # Commands on broken rule files

A command that cannot load its rule file stops there. It exits with a code of its
own if the file is refused, and with an error if something escapes from loading.
-/

namespace ContractScan

/-- How a command ends that cannot load its rules. -/
def RuleSetError.ending : RuleSetError → Ending
  | .config _ => .exit 2
  | cause => .error (.ruleSet cause)

/-- A command comes so far as to load the rules of a file, from the tree as it is then: to list
rules nothing else is needed, for a scan the log, the target and the formats come first. -/
inductive Session.Consults (session : Session) (path : Path) : Command → FileTree → Prop where
  | rules (tools : Bool) :
      Consults session path (.rules { rulesFile := some path, tools }) session.tree
  | scan {options : ScanOptions} {trace : Trace} {opened : FileTree}
      {formats : List Report.Format} (hfile : options.rulesFile = some path)
      (hlog : (Trace.start options.debugLog).run.run session.tree = (.ok trace, opened))
      (htarget : opened.pathExists options.path = true)
      (hformats : Report.formats options.formats = .ok formats) :
      Consults session path (.scan options) opened

section Runs

variable {env : Environment} {options : ScanOptions} {path : Path} {tree : FileTree}
  {cause : RuleSetError}

theorem chooseRules_of_error {read : DocumentReader}
    (h : (RuleSet.load read .builtin tree path).value = .error cause) (ids : List String) :
    (chooseRules read tree (some path) ids).value = .error cause := by
  simp only [chooseRules, h]
  rfl

theorem Action.run_edit_of_ok {α : Type} {change : FileTree.Edit α} {a : α} {t : FileTree}
    {p : Progress} (h : change.run.run p.tree = (.ok a, t)) :
    (Action.edit change).run.run p = (.ok a, { p with tree := t }) := by
  have hget : (get : Action Progress).run.run p = (.ok p, p) := rfl
  rw [Action.edit, run_bind_of_ok hget, h]
  rfl

theorem Action.run_tree (p : Progress) : Action.tree.run.run p = (.ok p.tree, p) := rfl

theorem Action.run_logged {α : Type} (result : Logged α) (p : Progress) :
    (Action.logged result).run.run p =
      (.ok result.value, { p with logs := p.logs ++ result.logs }) := rfl

theorem Action.run_orFail_ok {ε α : Type} (cause : ε → CommandError) (a : α) (p : Progress) :
    (Action.orFail cause (.ok a)).run.run p = (.ok a, p) := rfl

theorem ScanPlan.run_make_of_error {p : Progress} {formats : List Report.Format}
    (hfile : options.rulesFile = some path) (htarget : p.tree.pathExists options.path = true)
    (hformats : Report.formats options.formats = .ok formats)
    (hload : (RuleSet.load env.read .builtin p.tree path).value = .error cause) :
    ∃ p', (ScanPlan.make env options).run.run p = (.error cause.ending, p') := by
  have hchoose := chooseRules_of_error hload (ScanPlan.rules options)
  rw [ScanPlan.make, run_bind_of_ok (Action.run_tree p)]
  simp only [htarget, Bool.not_true, Bool.false_eq_true, if_false, hformats, hfile]
  rw [run_bind_of_ok (Action.run_orFail_ok _ formats p), run_bind_of_ok (Action.run_logged _ p),
    hchoose]
  cases cause <;> exact ⟨_, rfl⟩

theorem run_scanCommand_of_make_error {trace : Trace} {opened : FileTree} {ending : Ending}
    {p' : Progress}
    (hstart : (Trace.start options.debugLog).run.run tree = (.ok trace, opened))
    (hmake : (ScanPlan.make env options).run.run { tree := opened, trace } =
      (.error ending, p')) :
    (scanCommand env options).run.run { tree } = (.error ending, p') := by
  have htrace : (modify fun p => { p with trace } : Action Unit).run.run { tree := opened } =
      (.ok (), { tree := opened, trace }) := rfl
  rw [scanCommand, run_bind_of_ok (Action.run_edit_of_ok hstart), run_bind_of_ok htrace,
    run_bind_of_error hmake]

theorem run_scanCommand_of_error (env : Environment) {trace : Trace} {opened : FileTree}
    {formats : List Report.Format} (hfile : options.rulesFile = some path)
    (hlog : (Trace.start options.debugLog).run.run tree = (.ok trace, opened))
    (htarget : opened.pathExists options.path = true)
    (hformats : Report.formats options.formats = .ok formats)
    (hload : (RuleSet.load env.read .builtin opened path).value = .error cause) :
    ∃ p', (scanCommand env options).run.run { tree } = (.error cause.ending, p') := by
  obtain ⟨p', hmake⟩ : ∃ p', (ScanPlan.make env options).run.run { tree := opened, trace } =
      (.error cause.ending, p') :=
    ScanPlan.run_make_of_error hfile htarget hformats hload
  exact ⟨p', run_scanCommand_of_make_error hlog hmake⟩

theorem run_rulesCommand_of_error {p : Progress} (tools : Bool)
    (hload : (RuleSet.load env.read .builtin p.tree path).value = .error cause) :
    ∃ p', (rulesCommand env { rulesFile := some path, tools }).run.run p =
      (.error cause.ending, p') := by
  have hchoose := chooseRules_of_error hload []
  rw [rulesCommand, run_bind_of_ok (Action.run_tree p), run_bind_of_ok (Action.run_logged _ p),
    hchoose]
  cases cause <;> exact ⟨_, rfl⟩

/-- Whichever command asks for the rules, their error decides how it ends. -/
theorem Session.Consults.ending_of_error {session : Session} {command : Command}
    (h : session.Consults path command tree) (env : Environment)
    (hload : (RuleSet.load env.read .builtin tree path).value = .error cause) :
    (session.perform env command).1.ending = cause.ending := by
  cases h with
  | rules tools =>
    obtain ⟨p', hrun⟩ := run_rulesCommand_of_error (p := { tree := session.tree }) tools hload
    simp only [Session.perform, Session.action, hrun]
  | scan hfile hlog htarget hformats =>
    obtain ⟨p', hrun⟩ := run_scanCommand_of_error env hfile hlog htarget hformats hload
    exact (Session.perform_scan hrun).1

end Runs

/-- However documents are read, loading a rule file gives a rule set or refuses the file, unless
one of four things escapes. Commands exit with code two on a broken file, and with code one where
something escapes. -/
theorem broken_rule_files (env : Environment) (registry : Registry) (tree : FileTree)
    (path : Path) :
    (((∃ ruleSet, (RuleSet.load env.read registry tree path).value = .ok ruleSet) ∨
      ∃ refusal, (RuleSet.load env.read registry tree path).value = .error (.config refusal)) ↔
        ∀ cause, ¬ RuleSet.Escapes env.read registry tree path cause) ∧
    ∀ (session : Session) (command : Command), session.Consults path command tree →
      (∀ ruleSet, (RuleSet.load env.read .builtin tree path).value ≠ .ok ruleSet) →
      ((∀ cause, ¬ RuleSet.Escapes env.read .builtin tree path cause) →
        (session.perform env command).1.ending = .exit 2) ∧
      ∀ cause, RuleSet.Escapes env.read .builtin tree path cause →
        (session.perform env command).1.ending = .error (.ruleSet cause) ∧
          (session.perform env command).1.ending.code = 1 := by
  refine ⟨RuleSet.returns_or_refused_iff, ?_⟩
  intro session command hconsults hbroken
  refine ⟨fun hnone => ?_, fun cause hescapes => ?_⟩
  · rcases RuleSet.returns_or_refused_iff.mpr hnone with ⟨ruleSet, hload⟩ | ⟨refusal, hload⟩
    · exact absurd hload (hbroken ruleSet)
    · exact hconsults.ending_of_error env hload
  · have hload := (RuleSet.load_eq_error_iff_escapes hescapes.ne_config).mpr hescapes
    have hending := hconsults.ending_of_error env hload
    cases hescapes <;> exact ⟨hending, by rw [hending]; rfl⟩

def brokenSession : Session where
  tree :=
    { base := ⟨.absolute, ["work"]⟩
      nodes := [(["bare.yaml"], .file (.text "rules")),
        (["octets.yaml"], .file (.octets [0xff])),
        (["date.yaml"], .file (.text "2024-13-01")),
        (["count.yaml"], .file (.text ("rules: [\x7bid: R, name: n, severity: high, " ++
          "pattern: 'a\x7b4294967295\x7d', description: d, recommendation: r\x7d]")))] }

def listRules (name : String) : Command :=
  .rules { rulesFile := some ⟨.relative, [name]⟩ }

def scanWithRules (name : String) : ScanOptions where
  path := ⟨.relative, [name]⟩
  rulesFile := some ⟨.relative, [name]⟩

theorem exists_config_of_ending {value : Except RuleSetError RuleSet}
    (h : (value.map fun _ => ()).mapError RuleSetError.ending = .error (.exit 2)) :
    ∃ refusal, value = .error (.config refusal) := by
  cases value with
  | ok ruleSet => cases h
  | error cause =>
    cases cause with
    | config refusal => exact ⟨refusal, rfl⟩
    | _ => cases h

theorem refused_bare : ∃ refusal,
    (RuleSet.load silentEnvironment.read .builtin brokenSession.tree
      ⟨.relative, ["bare.yaml"]⟩).value = .error (.config refusal) :=
  exists_config_of_ending (by decide +kernel)

theorem undecodable_octets :
    (RuleSet.load silentEnvironment.read .builtin brokenSession.tree
      ⟨.relative, ["octets.yaml"]⟩).value = .error .undecodable := by
  decide +kernel

theorem broken_rule_files_sample :
    (brokenSession.perform silentEnvironment (.scan (scanWithRules "bare.yaml"))).1.ending =
        .exit 2 ∧
      (brokenSession.perform silentEnvironment (listRules "octets.yaml")).1.ending =
        .error (.ruleSet .undecodable) := by
  have hbare : brokenSession.Consults ⟨.relative, ["bare.yaml"]⟩
      (.scan (scanWithRules "bare.yaml")) brokenSession.tree :=
    .scan rfl rfl (by decide +kernel) rfl
  have hoctets : brokenSession.Consults ⟨.relative, ["octets.yaml"]⟩ (listRules "octets.yaml")
      brokenSession.tree := .rules false
  obtain ⟨refusal, hrefused⟩ := refused_bare
  constructor
  · refine ((broken_rule_files silentEnvironment .builtin _ _).2 _ _ hbare ?_).1 ?_
    · rw [hrefused]
      exact fun _ => nofun
    · exact RuleSet.returns_or_refused_iff.mp (.inr ⟨refusal, hrefused⟩)
  · have hends := (broken_rule_files silentEnvironment .builtin _ _).2 _ _ hoctets
    refine ((hends ?_).2 .undecodable ?_).1
    · rw [undecodable_octets]
      exact fun _ => nofun
    · exact (RuleSet.load_eq_error_iff_escapes (by simp)).mp undecodable_octets

/-- What escapes from three of the files ends a command with the code of blocking findings. -/
theorem rule_files_escape :
    let load name := (RuleSet.load Yaml.read .builtin brokenSession.tree ⟨.relative, [name]⟩).value
    let code name := (brokenSession.perform silentEnvironment (listRules name)).1.ending.code
    (load "octets.yaml" = .error .undecodable ∧ code "octets.yaml" = 1) ∧
      (load "date.yaml" = .error (.unreadableValue .outOfRange) ∧ code "date.yaml" = 1) ∧
      load "count.yaml" = .error .overflow ∧ code "count.yaml" = 1 := by
  decide +kernel

end ContractScan
