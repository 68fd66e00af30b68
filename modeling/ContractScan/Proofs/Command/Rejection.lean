import ContractScan.Proofs.Command.Journal
import ContractScan.Proofs.Command.Refusal

/-! # Scans that are refused

A scan looks at its target, then at its formats, then at its rules, and the first
that it cannot take ends it. By then its log is open, so these are looked for in the
tree with the log. No analyzer is called and no file but the log is changed.
-/

namespace ContractScan

open FileTree (SameFiles SameDirectories SameBut)

inductive Rejection where
  | target (path : Path)
  | format (value : String)
  | rules (cause : ConfigError)

namespace Rejection

def ending : Rejection → Ending
  | .target path => .error (.badParameter s!"Scan target not found: {path.text}")
  | .format value => .error (.badParameter (Report.UnsupportedFormat.message ⟨value⟩))
  | .rules _ => .exit 2

def console (env : Environment) : Rejection → List ConsoleItem
  | .rules cause => [.print (configNotice (env.message cause))]
  | _ => []

/-- What goes into the log: the fault of the rules, and nothing otherwise. -/
def records (env : Environment) : Rejection → List Value
  | .rules cause =>
    [env.recordOf "error" [("stage", .str "rules"), ("message", .str (env.message cause))]]
  | _ => []

/-- What is logged elsewhere: what the rules say while they are loaded. -/
def logs (env : Environment) (options : ScanOptions) (tree : FileTree) : Rejection → List LogRecord
  | .rules _ => (chooseRules env.read tree options.rulesFile (ScanPlan.rules options)).logs
  | _ => []

theorem code_ending (rejection : Rejection) : rejection.ending.code = 2 := by
  cases rejection <;> rfl

end Rejection

/-- A name of a format, in any letter case. -/
def IsFormat (value : String) : Prop :=
  String.ofList (Text.lowerText value.toList) ∈ ["json", "table"]

instance (value : String) : Decidable (IsFormat value) :=
  inferInstanceAs (Decidable (_ ∈ _))

/-- What a scan is refused for on a tree: the first of its target, its formats and its rules, these
in a file or among the ids asked for. -/
inductive ScanOptions.Rejected (options : ScanOptions) (read : DocumentReader) (tree : FileTree) :
    Rejection → Prop where
  | target (h : tree.pathExists options.path = false) :
      Rejected options read tree (.target options.path)
  | format {before later : List String} {value : String}
      (htarget : tree.pathExists options.path = true)
      (hformats : options.formats = before ++ value :: later)
      (hbefore : ∀ other ∈ before, IsFormat other) (h : ¬ IsFormat value) :
      Rejected options read tree (.format value)
  | ruleFile {path : Path} {cause : ConfigError}
      (htarget : tree.pathExists options.path = true)
      (hformats : ∀ value ∈ options.formats, IsFormat value)
      (hfile : options.rulesFile = some path)
      (h : (RuleSet.load read .builtin tree path).value = .error (.config cause)) :
      Rejected options read tree (.rules cause)
  | ruleIds {ruleSet : RuleSet} {cause : ConfigError}
      (htarget : tree.pathExists options.path = true)
      (hformats : ∀ value ∈ options.formats, IsFormat value)
      (hrules : (chooseRules read tree options.rulesFile []).value = .ok ruleSet)
      (hids : ScanPlan.rules options ≠ [])
      (h : ruleSet.select (ScanPlan.rules options) = .error cause) :
      Rejected options read tree (.rules cause)

section Formats

open Report (Format)

variable {values before : List String} {value : String}

theorem Report.Format.ofWord?_eq_none_iff {word : String} :
    Format.ofWord? word = none ↔ word ∉ ["json", "table"] := by
  simp [Format.ofWord?, Format.word, @eq_comm _ word]

def Report.Format.ofValue (value : String) : Except UnsupportedFormat Format :=
  (Format.ofWord? (String.ofList (Text.lowerText value.toList))).elim (.error ⟨value⟩) .ok

theorem Report.formats_eq (values : List String) : Report.formats values =
    if values.isEmpty then .ok [.table]
    else (values.mapM Format.ofValue).map List.eraseDups := by
  unfold Report.formats
  split
  · rfl
  · refine Eq.trans (congrArg (fun take => List.mapM take values >>= fun named =>
      pure named.eraseDups) (funext fun value => ?_ : _ = Format.ofValue)) ?_
    · unfold Format.ofValue
      cases Format.ofWord? (String.ofList (Text.lowerText value.toList)) <;> rfl
    · cases values.mapM Format.ofValue <;> rfl

theorem Report.Format.exists_ofValue (h : IsFormat value) :
    ∃ format, Format.ofValue value = .ok format := by
  unfold Format.ofValue
  cases hword : Format.ofWord? (String.ofList (Text.lowerText value.toList)) with
  | none => exact absurd h (ofWord?_eq_none_iff.mp hword)
  | some format => exact ⟨format, rfl⟩

theorem Report.Format.ofValue_eq_error (h : ¬ IsFormat value) :
    Format.ofValue value = .error ⟨value⟩ := by
  rw [Format.ofValue, ofWord?_eq_none_iff.mpr h]
  rfl

theorem Report.exists_formats (h : ∀ value ∈ values, IsFormat value) :
    ∃ formats, Report.formats values = .ok formats := by
  rw [Report.formats_eq]
  split
  · exact ⟨_, rfl⟩
  · obtain ⟨named, hnamed⟩ := exists_mapM fun value hvalue => Format.exists_ofValue (h value hvalue)
    rw [hnamed]
    exact ⟨_, rfl⟩

theorem Report.formats_eq_error (later : List String)
    (hbefore : ∀ other ∈ before, IsFormat other) (h : ¬ IsFormat value) :
    Report.formats (before ++ value :: later) = .error ⟨value⟩ := by
  have hmapM := mapM_of_first_error later
    (fun other hother => Format.exists_ofValue (hbefore other hother)) (Format.ofValue_eq_error h)
  rw [Report.formats_eq, hmapM, if_neg (by simp)]
  rfl

end Formats

section Runs

variable {env : Environment} {options : ScanOptions} {rejection : Rejection} {p : Progress}

theorem chooseRules_of_select {read : DocumentReader} {tree : FileTree} {file : Option Path}
    {ids : List String} {ruleSet : RuleSet} {cause : ConfigError}
    (hrules : (chooseRules read tree file []).value = .ok ruleSet) (hids : ids ≠ [])
    (h : ruleSet.select ids = .error cause) :
    (chooseRules read tree file ids).value = .error (.config cause) := by
  have hids' : ids.isEmpty = false := by simpa using hids
  have hselect : (ruleSet.select ids).mapError RuleSetError.config = .error (.config cause) := by
    rw [h]
    rfl
  cases file with
  | none =>
    cases hrules
    simp only [chooseRules, hids', Bool.false_eq_true, if_false]
    exact hselect
  | some path =>
    simp only [chooseRules, hids', Bool.false_eq_true, if_false] at hrules ⊢
    cases hload : (RuleSet.load read .builtin tree path).value with
    | error cause' =>
      rw [hload] at hrules
      cases hrules
    | ok loaded =>
      rw [hload] at hrules
      cases hrules
      exact hselect

structure Rejection.Leaves (rejection : Rejection) (env : Environment) (options : ScanOptions)
    (p p' : Progress) : Prop where
  console : p'.console = p.console ++ rejection.console env
  logs : p'.logs = p.logs ++ rejection.logs env options p.tree
  stage : ∀ opened log calls, Stage opened log calls p → Stage opened log calls p'
  journal : ∀ log place records, Journal log place records p →
    Journal log place (records ++ rejection.records env) p'

theorem Rejection.Leaves.refl (hconsole : rejection.console env = [])
    (hlogs : rejection.logs env options p.tree = []) (hrecords : rejection.records env = []) :
    rejection.Leaves env options p p where
  console := by simp [hconsole]
  logs := by simp [hlogs]
  stage opened log calls h := h
  journal log place records h := by simpa [hrecords] using h

theorem ScanPlan.run_make_of_config {formats : List Report.Format} {cause : ConfigError}
    (htarget : p.tree.pathExists options.path = true)
    (hformats : Report.formats options.formats = .ok formats)
    (h : (chooseRules env.read p.tree options.rulesFile (ScanPlan.rules options)).value =
      .error (.config cause)) :
    ∃ p', (ScanPlan.make env options).run.run p = (.error (.exit 2), p') ∧
      (Rejection.rules cause).Leaves env options p p' := by
  let logs := (chooseRules env.read p.tree options.rulesFile (ScanPlan.rules options)).logs
  let notice := configNotice (env.message cause)
  let shown : Progress :=
    { p with console := p.console ++ [.print notice], logs := p.logs ++ logs }
  let record := Action.record env "error"
    [("stage", .str "rules"), ("message", .str (env.message cause))]
  have hrecord : record.run.run shown = (.ok (), (record.run.run shown).2) := rfl
  refine ⟨(record.run.run shown).2, ?_, rfl, rfl, ?_, ?_⟩
  · rw [ScanPlan.make, run_bind_of_ok (Action.run_tree p)]
    simp only [htarget, Bool.not_true, Bool.false_eq_true, if_false, hformats]
    rw [run_bind_of_ok (Action.run_orFail_ok _ formats p),
      run_bind_of_ok (Action.run_logged _ p), h]
    rfl
  · intro opened log calls hstage
    have hshown : Stage opened log calls shown := hstage.of_eq rfl rfl rfl
    exact hshown.record hrecord
  · intro log place records hjournal
    have hshown : Journal log place records shown := hjournal.of_eq rfl rfl
    exact hshown.record (.fault _) hrecord

theorem ScanPlan.run_make_of_rejected (env : Environment)
    (h : options.Rejected env.read p.tree rejection) :
    ∃ p', (ScanPlan.make env options).run.run p = (.error rejection.ending, p') ∧
      rejection.Leaves env options p p' := by
  cases h with
  | target h =>
    refine ⟨p, ?_, .refl rfl rfl rfl⟩
    rw [ScanPlan.make, run_bind_of_ok (Action.run_tree p)]
    simp only [h, Bool.not_false, if_true]
    rfl
  | @format before later value htarget hformats hbefore h =>
    refine ⟨p, ?_, .refl rfl rfl rfl⟩
    rw [ScanPlan.make, run_bind_of_ok (Action.run_tree p)]
    simp only [htarget, Bool.not_true, Bool.false_eq_true, if_false, hformats,
      Report.formats_eq_error later hbefore h]
    rfl
  | ruleFile htarget hformats hfile h =>
    obtain ⟨formats, hformats⟩ := Report.exists_formats hformats
    refine ScanPlan.run_make_of_config htarget hformats ?_
    rw [hfile]
    exact chooseRules_of_error h _
  | ruleIds htarget hformats hrules hids h =>
    obtain ⟨formats, hformats⟩ := Report.exists_formats hformats
    exact ScanPlan.run_make_of_config htarget hformats (chooseRules_of_select hrules hids h)

end Runs

theorem Action.run_edit_of_error {α : Type} {change : FileTree.Edit α} {e : FileError}
    {t : FileTree} {p : Progress} (h : change.run.run p.tree = (.error e, t)) :
    (Action.edit change).run.run p = (.error (.error (.file e)), { p with tree := t }) := by
  have hget : (get : Action Progress).run.run p = (.ok p, p) := rfl
  rw [Action.edit, run_bind_of_ok hget, h]
  rfl

section Performs

variable {session : Session} {env : Environment} {options : ScanOptions} {rejection : Rejection}

theorem Session.perform_scan_eq {ending : Ending} {p : Progress}
    (h : (scanCommand env options).run.run { tree := session.tree } = (.error ending, p)) :
    session.perform env (.scan options) =
      ({ ending, console := p.console, calls := p.calls
         logs := p.logs.filter fun record =>
           (session.levelFor (.scan options)).rank ≤ record.level.rank },
        { tree := p.tree, level := session.levelFor (.scan options) }) := by
  simp [perform, action, h]

theorem run_scanCommand_of_start_error {e : FileError} {t : FileTree} (env : Environment)
    (h : (Trace.start options.debugLog).run.run session.tree = (.error e, t)) :
    (scanCommand env options).run.run { tree := session.tree } =
      (.error (.error (.file e)), { tree := t }) := by
  rw [scanCommand, run_bind_of_error (Action.run_edit_of_error h)]

theorem Session.perform_of_start_error {e : FileError} (env : Environment)
    (h : ((Trace.start options.debugLog).run.run session.tree).1 = .error e) :
    (session.perform env (.scan options)).1 =
        { ending := .error (.file e), console := [], logs := [], calls := [] } ∧
      FileTree.Widens options.AboveLog session.tree
        (session.perform env (.scan options)).2.tree := by
  have hstart : (Trace.start options.debugLog).run.run session.tree =
      (.error e, options.opened session.tree) := Prod.ext h rfl
  rw [Session.perform_scan_eq (run_scanCommand_of_start_error env hstart)]
  exact ⟨rfl, widens_of_start_error hstart⟩

theorem run_scanCommand_of_rejected {trace : Trace} {opened : FileTree} (env : Environment)
    (hstart : (Trace.start options.debugLog).run.run session.tree = (.ok trace, opened))
    (h : options.Rejected env.read opened rejection) :
    ∃ p', (scanCommand env options).run.run { tree := session.tree } =
        (.error rejection.ending, p') ∧
      rejection.Leaves env options { tree := opened, trace } p' := by
  obtain ⟨p', hmake, hleaves⟩ :=
    ScanPlan.run_make_of_rejected env (p := { tree := opened, trace }) h
  exact ⟨p', run_scanCommand_of_make_error hstart hmake, hleaves⟩

theorem Rejection.read_records (rejection : Rejection) (env : Environment) :
    ∀ record ∈ rejection.records env, Json.read (Json.render record) = .ok record := by
  cases rejection with
  | target path => simp [records]
  | format value => simp [records]
  | rules cause =>
    rw [records, List.forall_mem_singleton, (Recordable.fault (env.message cause)).recordOf_eq]
    refine Json.read_render (.record (by simp) ?_)
    simp only [List.forall_mem_cons]
    exact ⟨.str _, .str _, .str _, .str _, by simp⟩

end Performs

/-- A scan whose log cannot be opened ends with that error. Otherwise the first of its target, its
formats and its rules that it cannot take ends it, as they are in the tree with the log. Either
way no analyzer is called, every file but the log is as it was, and only directories above the log
are new; the log is empty, or holds the one record of an error in the rules. -/
theorem rejected_scan_changes_log_only (session : Session) (env : Environment)
    (options : ScanOptions) :
    let start := (Trace.start options.debugLog).run.run session.tree
    let opened := options.opened session.tree
    let result := (session.perform env (.scan options)).1
    let after := (session.perform env (.scan options)).2.tree
    (∀ e, start.1 = .error e →
      result = { ending := .error (.file e), console := [], logs := [], calls := [] } ∧
        SameFiles none session.tree after ∧
        SameDirectories options.AboveLog session.tree after) ∧
    ∀ trace rejection, start.1 = .ok trace → options.Rejected env.read opened rejection →
      result.ending = rejection.ending ∧ result.ending.code = 2 ∧
      result.console = rejection.console env ∧ result.calls = [] ∧
      result.logs = (rejection.logs env options opened).filter (fun record =>
        (session.levelFor (.scan options)).rank ≤ record.level.rank) ∧
      SameFiles (options.logPlace? session.tree) session.tree after ∧
      SameDirectories options.AboveLog session.tree after ∧
      (∀ log ∈ options.debugLog,
        after.at? log = some (.file (.text (journal (rejection.records env))))) ∧
      ∀ record ∈ rejection.records env, Json.read (Json.render record) = .ok record := by
  intro start opened result after
  constructor
  · intro e he
    obtain ⟨hresult, hwidens⟩ := Session.perform_of_start_error env he
    exact ⟨hresult, hwidens.sameFiles, hwidens.sameDirectories⟩
  intro trace rejection htrace hrejected
  have hstart : (Trace.start options.debugLog).run.run session.tree = (.ok trace, opened) :=
    Prod.ext htrace rfl
  obtain ⟨p', hrun, hleaves⟩ := run_scanCommand_of_rejected env hstart hrejected
  have hperform := Session.perform_scan_eq hrun
  have hstage := (stage_of_start hstart).1
  have hplace : trace.place? = options.logPlace? session.tree := hstage.place?
  have hstage' := hleaves.stage _ _ _ hstage
  obtain ⟨hfiles, hdirectories⟩ := changes_of_start hstart
  rw [hplace] at hfiles
  have hresult := congrArg (·.1) hperform
  have hafter : after = p'.tree := congrArg (·.2.tree) hperform
  change result = _ at hresult
  rw [hresult, hafter]
  dsimp only
  rw [hleaves.console, hleaves.logs]
  refine ⟨rfl, rejection.code_ending, rfl, hstage'.calls, rfl,
    hfiles.trans hstage'.sameBut.sameFiles,
    hdirectories.trans hstage'.sameBut.sameDirectories hstage'.sameBut.grows, ?_,
    rejection.read_records env⟩
  intro log hlog
  rw [Option.mem_def.mp hlog] at hstart
  obtain ⟨place, hjournal, -⟩ := journal_of_start hstart
  exact (hleaves.journal log place [] hjournal).at?

def nestedLog : Path :=
  ⟨.relative, ["logs", "trace.jsonl"]⟩

def loggedScan (name : String) : ScanOptions :=
  { scanWithRules "bare.yaml" with path := ⟨.relative, [name]⟩, debugLog := some nestedLog }

theorem rejected_scan_changes_log_only_sample :
    (∃ cause, (brokenSession.perform silentEnvironment
        (.scan (loggedScan "bare.yaml"))).1.ending = .exit 2 ∧
      (brokenSession.perform silentEnvironment
        (.scan (loggedScan "bare.yaml"))).2.tree.at? nestedLog =
        some (.file (.text (journal ((Rejection.rules cause).records silentEnvironment))))) ∧
    (brokenSession.perform silentEnvironment
        (.scan (loggedScan "missing.sol"))).1.ending.code = 2 ∧
      (brokenSession.perform silentEnvironment
        (.scan (loggedScan "missing.sol"))).2.tree.at? nestedLog = some (.file (.text "")) := by
  constructor
  · obtain ⟨cause, hcause⟩ : ∃ cause,
        (RuleSet.load Yaml.read .builtin ((loggedScan "bare.yaml").opened brokenSession.tree)
          ⟨.relative, ["bare.yaml"]⟩).value = .error (.config cause) :=
      exists_config_of_ending (by decide +kernel)
    have hrejected : (loggedScan "bare.yaml").Rejected Yaml.read
        ((loggedScan "bare.yaml").opened brokenSession.tree) (.rules cause) :=
      .ruleFile (by decide +kernel) (by decide +kernel) rfl hcause
    obtain ⟨hending, -, -, -, -, -, -, hlog, -⟩ := (rejected_scan_changes_log_only brokenSession
      silentEnvironment (loggedScan "bare.yaml")).2 _ _ rfl hrejected
    exact ⟨cause, hending, hlog nestedLog rfl⟩
  · have hrejected : (loggedScan "missing.sol").Rejected Yaml.read
        ((loggedScan "missing.sol").opened brokenSession.tree)
        (.target (loggedScan "missing.sol").path) :=
      .target (by decide +kernel)
    obtain ⟨-, hcode, -, -, -, -, -, hlog, -⟩ := (rejected_scan_changes_log_only brokenSession
      silentEnvironment (loggedScan "missing.sol")).2 _ _ rfl hrejected
    exact ⟨hcode, hlog nestedLog rfl⟩

/-- A target that is missing at first: the log cannot be opened, or opening it makes the target. -/
theorem missing_target_is_not_refused :
    let tree : FileTree := { base := ⟨.absolute, ["work"]⟩, nodes := [(["logs"], .directory)] }
    let options : ScanOptions :=
      { path := ⟨.relative, ["missing.sol"]⟩, debugLog := some ⟨.relative, ["logs"]⟩ }
    (tree.pathExists options.path = false ∧
      (Session.perform { tree } silentEnvironment (.scan options)).1.ending =
        .error (.file .isDirectory)) ∧
    selfSession.tree.pathExists selfScan.path = false ∧
      selfSession.Completes silentEnvironment selfScan 1 := by
  refine ⟨?_, ?_, selfScan_completes⟩ <;> decide +kernel

end ContractScan
