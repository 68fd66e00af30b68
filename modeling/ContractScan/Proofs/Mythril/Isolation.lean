import ContractScan.Proofs.FileTree.Order
import ContractScan.Proofs.Mythril.Issues

/-! # Files are analyzed apart from each other

Mythril is called once for each file, in the order of the paths, whatever the other
calls lead to. A file whose call fails takes nothing from the findings of the others
but the numbers. Only an integer that is too long to be read ends the run.
-/

namespace ContractScan.Mythril

open Shape

/-- A call leaves no report, whatever its status is. -/
inductive Fails : Outcome → Prop where
  | notLaunched (reason : String) : Fails (.notLaunched reason)
  | timedOut : Fails .timedOut
  | silent {output : Option String} (status : Int) (errors : Option String)
      (h : Text.trim (output.getD "").toList = []) : Fails (.exited status output errors)
  | malformed {output : Option String} (status : Int) (errors : Option String)
      (h : Json.read (output.getD "").toList = .error .malformed) :
      Fails (.exited status output errors)
  | noMapping {output : Option String} {payload : Value} (status : Int) (errors : Option String)
      (h : Json.read (output.getD "").toList = .ok payload) (hno : isMapping payload = false) :
      Fails (.exited status output errors)

/-- A call writes a report of the documented shape with these issues, whatever its status is. -/
def Reports (outcome : Outcome) (reported : List Value) : Prop :=
  ∃ status output errors report, outcome = .exited status output errors ∧
    Json.read (output.getD "").toList = .ok (.map report) ∧
    (valueAt report "issues" = .null ∧ reported = [] ∨
      valueAt report "issues" = .list reported) ∧
    ∀ issue ∈ reported, ∃ entries, issue = .map entries ∧ Documented entries

def Yields (outcome : Outcome) (reported : List Value) : Prop :=
  Fails outcome ∧ reported = [] ∨ Reports outcome reported

def foundIn (base : Path) (n : Nat) : AnalyzerResult → Except AnalyzerError (List Finding)
  | .report _ payload => issues payload >>= findingsFrom base n
  | _ => .ok []

theorem issues_eq_ok {report : List (Value × Value)} {reported : List Value}
    (h : valueAt report "issues" = .null ∧ reported = [] ∨
      valueAt report "issues" = .list reported) :
    issues (.map report) = .ok reported := by
  change entry (.map report) "issues" >>= elementsIfAny = _
  rw [entry_map, ok_bind, elementsIfAny_eq_ok_iff]
  obtain ⟨hnull, rfl⟩ | hlist := h
  · rw [hnull]
    exact .none rfl
  · rw [hlist]
    exact .list reported

section File

variable {launch : Launcher} {settings : Settings} {base file : Path} {reported : List Value}
  {own : List Finding}

theorem outcome_runFile (n : Nat) : (runFile launch settings base file n).outcome =
    interpret "mythril" (invocation settings base file).limit true
      (launch (invocation settings base file)) >>= foundIn base n := by
  rw [runFile, Traced.outcome_bind]
  congr
  funext result
  cases result with
  | unavailable tool => rfl
  | failed tool message kind =>
    dsimp only
    split <;> rfl
  | report tool payload => rfl

theorem calls_runFile (n : Nat) :
    (runFile launch settings base file n).calls = [invocation settings base file] := by
  unfold runFile
  cases hresult : (runAnalyzer launch "mythril" (invocation settings base file) true).outcome with
  | error e =>
    rw [Traced.calls_bind_of_error hresult]
    rfl
  | ok result =>
    rw [Traced.calls_bind_of_ok hresult]
    cases result with
    | unavailable tool => rfl
    | failed tool message kind =>
      dsimp only
      split <;> rfl
    | report tool payload => rfl

theorem outcome_runFile_of_fails (n : Nat) (h : Fails (launch (invocation settings base file))) :
    (runFile launch settings base file n).outcome = .ok [] := by
  rw [outcome_runFile]
  generalize (invocation settings base file).limit = limit
  generalize launch (invocation settings base file) = outcome at h
  have hmalformed {output : Option String} (status : Int) (errors : Option String)
      (hread : Json.read (output.getD "").toList = .error .malformed) :
      interpret "mythril" limit true (.exited status output errors) >>= foundIn base n =
        .ok [] := by
    obtain ⟨message, kind, hresult⟩ | ⟨-, hresult⟩ :=
      interpret_of_malformed "mythril" limit true status errors hread
    · rw [hresult]
      rfl
    · rw [hresult]
      rfl
  cases h with
  | notLaunched reason => rfl
  | timedOut => rfl
  | silent status errors hblank => exact hmalformed status errors (Json.read_of_blank hblank)
  | malformed status errors hread => exact hmalformed status errors hread
  | @noMapping output payload status errors hread hno =>
    rw [interpret_of_ne_malformed _ _ _ _ _ (by simp [hread]), hread]
    change issues payload >>= findingsFrom base n = .ok []
    rw [issues, hno]
    rfl

theorem outcome_runFile_of_reports (n : Nat)
    (h : Reports (launch (invocation settings base file)) reported)
    (hown : findingsFrom base 1 reported = .ok own) :
    (runFile launch settings base file n).outcome = .ok (numberedFrom n own) := by
  obtain ⟨status, output, errors, report, hcall, hread, hissues, -⟩ := h
  rw [outcome_runFile, hcall, interpret_of_ne_malformed _ _ _ _ _ (by simp [hread]), hread]
  change issues (.map report) >>= findingsFrom base n = _
  rw [issues_eq_ok hissues, ok_bind]
  exact findingsFrom_renumber n hown

/-- The findings that a file comes to by itself, numbered from one. -/
def Finds (launch : Launcher) (settings : Settings) (base file : Path) (own : List Finding) :
    Prop :=
  ∃ reported, Yields (launch (invocation settings base file)) reported ∧
    findingsFrom base 1 reported = .ok own

theorem Finds.outcome_runFile (n : Nat) (h : Finds launch settings base file own) :
    (runFile launch settings base file n).outcome = .ok (numberedFrom n own) := by
  obtain ⟨reported, ⟨hfails, rfl⟩ | hreports, hown⟩ := h
  · cases hown
    exact outcome_runFile_of_fails n hfails
  · exact outcome_runFile_of_reports n hreports hown

theorem Finds.of_fails (h : Fails (launch (invocation settings base file))) :
    Finds launch settings base file [] :=
  ⟨[], .inl ⟨h, rfl⟩, rfl⟩

theorem outcome_runFile_of_writesTooLong (n : Nat)
    (h : WritesTooLong (launch (invocation settings base file))) :
    (runFile launch settings base file n).outcome = .error .integerTooLong := by
  obtain ⟨status, output, errors, hcall, hread⟩ := h
  rw [outcome_runFile, hcall, interpret_of_ne_malformed _ _ _ _ _ (by simp [hread]), hread]
  rfl

theorem Yields.exists_findings {outcome : Outcome} (h : Yields outcome reported) (base : Path)
    (n : Int) : ∃ own, findingsFrom base n reported = .ok own := by
  obtain ⟨-, rfl⟩ | ⟨_, _, _, _, -, -, -, hdocumented⟩ := h
  · exact ⟨[], rfl⟩
  · exact exists_findingsFrom n hdocumented

end File

section Files

variable {launch : Launcher} {settings : Settings} {base file : Path}
  {before : List Path} {n : Nat}

theorem runFiles_cons_of_ok {found : List Finding} (files : List Path)
    (h : (runFile launch settings base file n).outcome = .ok found) :
    (runFiles launch settings base n (file :: files)).outcome =
        (runFiles launch settings base (n + found.length) files).outcome.map (found ++ ·) ∧
      (runFiles launch settings base n (file :: files)).calls =
        invocation settings base file ::
          (runFiles launch settings base (n + found.length) files).calls := by
  rw [runFiles]
  constructor
  · rw [Traced.outcome_bind, h, ok_bind, Traced.outcome_bind]
    cases (runFiles launch settings base (n + found.length) files).outcome <;> rfl
  · rw [Traced.calls_bind_of_ok h, calls_runFile, Traced.calls_bind_pure]
    rfl

theorem runFiles_cons_of_error {e : AnalyzerError} (files : List Path)
    (h : (runFile launch settings base file n).outcome = .error e) :
    (runFiles launch settings base n (file :: files)).outcome = .error e ∧
      (runFiles launch settings base n (file :: files)).calls =
        [invocation settings base file] := by
  rw [runFiles]
  constructor
  · rw [Traced.outcome_bind, h]
    rfl
  · rw [Traced.calls_bind_of_error h, calls_runFile]

/-- All files with findings of their own are called for, and their findings come in order. -/
theorem runFiles_of_finds {files : List (Path × List Finding)}
    (h : ∀ entry ∈ files, Finds launch settings base entry.1 entry.2) (n : Nat) :
    (runFiles launch settings base n (files.map (·.1))).outcome =
        .ok (numberedFrom n (files.flatMap (·.2))) ∧
      (runFiles launch settings base n (files.map (·.1))).calls =
        files.map fun entry => invocation settings base entry.1 := by
  induction files generalizing n with
  | nil => exact ⟨rfl, rfl⟩
  | cons entry rest ih =>
    rw [List.forall_mem_cons] at h
    obtain ⟨hrest, hcalls⟩ := ih h.2 (n + entry.2.length)
    obtain ⟨houtcome, hall⟩ := runFiles_cons_of_ok (rest.map (·.1)) (h.1.outcome_runFile n)
    rw [length_numberedFrom] at houtcome hall
    rw [List.map_cons, houtcome, hall, hrest, hcalls, List.flatMap_cons, numberedFrom_append]
    exact ⟨rfl, rfl⟩

theorem runFiles_of_writesTooLong (later : List Path)
    (hbefore : ∀ file ∈ before, ∃ reported,
      Yields (launch (invocation settings base file)) reported)
    (h : WritesTooLong (launch (invocation settings base file))) (n : Nat) :
    (runFiles launch settings base n (before ++ file :: later)).outcome =
        .error .integerTooLong ∧
      (runFiles launch settings base n (before ++ file :: later)).calls =
        (before ++ [file]).map (invocation settings base) := by
  induction before generalizing n with
  | nil => exact runFiles_cons_of_error later (outcome_runFile_of_writesTooLong n h)
  | cons first rest ih =>
    rw [List.forall_mem_cons] at hbefore
    obtain ⟨⟨reported, hfirst⟩, hrest⟩ := hbefore
    obtain ⟨own, hown⟩ := hfirst.exists_findings base 1
    have hfinds : Finds launch settings base first own := ⟨reported, hfirst, hown⟩
    obtain ⟨houtcome, hcalls⟩ :=
      runFiles_cons_of_ok (rest ++ file :: later) (hfinds.outcome_runFile n)
    obtain ⟨herror, hmore⟩ := ih hrest (n + (numberedFrom n own).length)
    rw [List.cons_append, houtcome, hcalls, herror, hmore]
    exact ⟨rfl, rfl⟩

end Files

def contracts (tree : FileTree) (target : Path) : List Path :=
  tree.contractFiles (target.resolve tree.base)

/-- The directory that Mythril is called in. -/
def workplace (tree : FileTree) (target : Path) : Path :=
  let root := target.resolve tree.base
  if tree.isDirectory root then root else root.parent

section Run

variable {tree : FileTree} {launch : Launcher} {target : Path} {settings : Settings}

theorem run_of_installed (tree : FileTree) (settings : Settings)
    (hthere : Installed launch program "version") (hpath : target.hasZero = false) :
    let files := runFiles launch settings (workplace tree target) 1 (contracts tree target)
    (run tree launch target settings).outcome = files.outcome ∧
      (run tree launch target settings).calls = versionCall program "version" :: files.calls := by
  intro files
  let foundMessage (found : List Finding) := s!"[Mythril] Found {found.length} issue(s)"
  obtain ⟨output, errors, hcall⟩ := hthere
  rw [run, probe_of_exited hcall]
  cases hfiles : tree.contractFiles (target.resolve tree.base) with
  | nil =>
    simp only [files, contracts, hfiles, hpath]
    exact ⟨rfl, rfl⟩
  | cons file rest =>
    rw [← Traced.outcome_bind_log files foundMessage, ← Traced.calls_bind_log files foundMessage]
    simp only [files, foundMessage, contracts, hfiles, hpath]
    exact ⟨rfl, rfl⟩

variable {own : Path → List Finding} {before later : List Path} {file : Path}

theorem run_of_entries (tree : FileTree) (settings : Settings)
    (entries : List (Path × List Finding))
    (hthere : Installed launch program "version") (hpath : target.hasZero = false)
    (hfiles : contracts tree target = entries.map (·.1))
    (h : ∀ entry ∈ entries, Finds launch settings (workplace tree target) entry.1 entry.2) :
    (run tree launch target settings).outcome =
        .ok (numberedFrom 1 (entries.flatMap (·.2))) ∧
      (run tree launch target settings).calls =
        versionCall program "version" ::
          entries.map fun entry => invocation settings (workplace tree target) entry.1 := by
  obtain ⟨houtcome, hcalls⟩ := run_of_installed tree settings hthere hpath
  obtain ⟨hfound, hmade⟩ := runFiles_of_finds h 1
  rw [houtcome, hcalls, hfiles, hfound, hmade]
  exact ⟨rfl, rfl⟩

theorem run_of_finds (hthere : Installed launch program "version") (hpath : target.hasZero = false)
    (h : ∀ file ∈ contracts tree target,
      Finds launch settings (workplace tree target) file (own file)) :
    (run tree launch target settings).outcome =
        .ok (numberedFrom 1 ((contracts tree target).flatMap own)) ∧
      (run tree launch target settings).calls =
        versionCall program "version" ::
          (contracts tree target).map (invocation settings (workplace tree target)) := by
  obtain ⟨houtcome, hcalls⟩ := run_of_entries tree settings
    ((contracts tree target).map fun file => (file, own file))
    hthere hpath (by simp [Function.comp_def]) (by simpa using h)
  rw [houtcome, hcalls, List.flatMap_map, List.map_map]
  exact ⟨rfl, rfl⟩

theorem run_of_fails (hthere : Installed launch program "version") (hpath : target.hasZero = false)
    (hfiles : contracts tree target = before ++ file :: later)
    (hothers : ∀ other ∈ before ++ later,
      Finds launch settings (workplace tree target) other (own other))
    (h : Fails (launch (invocation settings (workplace tree target) file))) :
    (run tree launch target settings).outcome =
        .ok (numberedFrom 1 ((before ++ later).flatMap own)) ∧
      (run tree launch target settings).calls =
        versionCall program "version" ::
          (before ++ file :: later).map (invocation settings (workplace tree target)) := by
  rw [List.forall_mem_append] at hothers
  obtain ⟨houtcome, hcalls⟩ := run_of_entries tree settings
    (before.map (fun file => (file, own file)) ++
      (file, []) :: later.map fun file => (file, own file))
    hthere hpath (by simp [hfiles, Function.comp_def]) (by
      rw [List.forall_mem_append, List.forall_mem_cons]
      exact ⟨by simpa using hothers.1, .of_fails h, by simpa using hothers.2⟩)
  rw [houtcome, hcalls]
  simp [List.flatMap_map, Function.comp_def]

theorem run_of_writesTooLong (before : List Path) (hthere : Installed launch program "version")
    (hpath : target.hasZero = false)
    (hfiles : contracts tree target = before ++ file :: later)
    (hbefore : ∀ file ∈ before, ∃ reported,
      Yields (launch (invocation settings (workplace tree target) file)) reported)
    (h : WritesTooLong (launch (invocation settings (workplace tree target) file))) :
    (run tree launch target settings).outcome = .error .integerTooLong ∧
      (run tree launch target settings).calls =
        versionCall program "version" ::
          (before ++ [file]).map (invocation settings (workplace tree target)) := by
  obtain ⟨houtcome, hcalls⟩ := run_of_installed tree settings hthere hpath
  obtain ⟨herror, hmade⟩ := runFiles_of_writesTooLong later hbefore h 1
  rw [houtcome, hcalls, hfiles, herror, hmade]
  exact ⟨rfl, rfl⟩

theorem nodup_calls (h : tree.Sound) (settings : Settings) (base target : Path) :
    ((contracts tree target).map (invocation settings base)).Nodup := by
  rw [List.Nodup, List.pairwise_map]
  refine (List.pairwise_map.mp (h.nodup_text_contractFiles (target.resolve tree.base))).imp ?_
  intro a b hne hcall
  have harguments := congrArg (fun call : Invocation => call.arguments[2]?) hcall
  exact hne (Option.some.inj harguments)

end Run

/-- With Mythril there, one call is made for each file of the target, in the order of the paths, and
the findings are those of the files one by one, numbered through. A call that fails for one file
leaves the calls and the findings of the others as they are, up to the numbers. The one thing
that ends a run before its last file is output with an integer that is too long. -/
theorem run_isolates_files (tree : FileTree) (launch : Launcher) (target : Path)
    (settings : Settings) (hthere : Installed launch program "version")
    (hpath : target.hasZero = false) :
    let files := contracts tree target
    let base := workplace tree target
    let call := invocation settings base
    let result := run tree launch target settings
    files.Pairwise (fun a b => Path.le a.names b.names = true) ∧
    (tree.Sound → files.Pairwise Path.Precedes ∧ (files.map call).Nodup) ∧
    (∀ file ∈ files, file.text ∈ (call file).arguments ∧
      (call file).limit = some (.whole (settings.timeout + 60))) ∧
    (∀ reported : Path → List Value,
      (∀ file ∈ files, Yields (launch (call file)) (reported file)) →
      ∃ own : Path → List Finding,
        (∀ file ∈ files, findingsFrom base 1 (reported file) = .ok (own file)) ∧
        result.calls = versionCall program "version" :: files.map call ∧
        result.outcome = .ok (numberedFrom 1 (files.flatMap own)) ∧
        ∀ before file later launch', files = before ++ file :: later →
          launch' (versionCall program "version") = launch (versionCall program "version") →
          (∀ other ∈ before ++ later, launch' (call other) = launch (call other)) →
          Fails (launch' (call file)) →
          (run tree launch' target settings).calls = result.calls ∧
          (run tree launch' target settings).outcome =
            .ok (numberedFrom 1 ((before ++ later).flatMap own))) ∧
    ∀ before file later, files = before ++ file :: later →
      (∀ other ∈ before, ∃ reported, Yields (launch (call other)) reported) →
      WritesTooLong (launch (call file)) →
      result.outcome = .error .integerTooLong ∧
        result.calls = versionCall program "version" :: (before ++ [file]).map call := by
  intro files base call result
  refine ⟨tree.contractFiles_pairwise_le _,
    fun hsound => ⟨hsound.contractFiles_pairwise _, nodup_calls hsound settings base target⟩,
    fun file _ => ⟨by simp [call, invocation], rfl⟩, ?_, ?_⟩
  · intro reported hyields
    let own (file : Path) : List Finding :=
      (findingsFrom base 1 (reported file)).toOption.getD []
    have hown (file : Path) (hfile : file ∈ files) :
        findingsFrom base 1 (reported file) = .ok (own file) := by
      obtain ⟨found, hfound⟩ := (hyields file hfile).exists_findings base 1
      simp only [own, hfound]
      rfl
    have hfinds (file : Path) (hfile : file ∈ files) : Finds launch settings base file (own file) :=
      ⟨reported file, hyields file hfile, hown file hfile⟩
    obtain ⟨houtcome, hcalls⟩ := run_of_finds hthere hpath hfinds
    refine ⟨own, hown, hcalls, houtcome, ?_⟩
    intro before file later launch' hfiles hprobe hothers hfails
    have hthere' : Installed launch' program "version" := by rwa [Installed, hprobe]
    have hfinds' (other : Path) (hother : other ∈ before ++ later) :
        Finds launch' settings base other (own other) := by
      have hmem : other ∈ files := by
        rw [hfiles]
        simp only [List.mem_append, List.mem_cons] at hother ⊢
        tauto
      obtain ⟨issues, hissues, hfound⟩ := hfinds other hmem
      exact ⟨issues, (hothers other hother).symm ▸ hissues, hfound⟩
    obtain ⟨houtcome', hcalls'⟩ := run_of_fails hthere' hpath hfiles hfinds' hfails
    refine ⟨?_, houtcome'⟩
    rw [hcalls', ← hfiles]
    exact hcalls.symm
  · intro before file later hfiles hbefore hlong
    exact run_of_writesTooLong before hthere hpath hfiles hbefore hlong

def sampleTree : FileTree where
  base := ⟨.absolute, ["work"]⟩
  nodes := [(["c.sol"], .file (.text "")), (["a.sol"], .file (.text "")),
    (["b.sol"], .file (.text ""))]

def samplePath (name : String) : Path :=
  ⟨.absolute, ["work", name]⟩

def sampleOutput : String :=
  "\x7b\"issues\": [\x7b\"lineno\": 0\x7d]\x7d"

def sampleReport : Outcome :=
  .exited 1 (some sampleOutput) none

/-- All files are reported about, except one whose call ends in some other way. -/
def sampleLaunch (file : String) (outcome : Outcome) : Launcher := fun call =>
  match call.directory with
  | none => .exited 0 none none
  | some _ => if call.arguments[2]? == some file then outcome else sampleReport

theorem text_samplePath (name : String) : (samplePath name).text = "/work/" ++ name := by
  simp [samplePath, Path.text, PathRoot.text, ← String.append_assoc]

theorem sampleLaunch_call (text : String) (outcome : Outcome) (base file : Path) :
    sampleLaunch text outcome (invocation {} base file) =
      if file.text == text then outcome else sampleReport := rfl

theorem filesBelow_sampleTree : sampleTree.filesBelow [] = [["a.sol"], ["b.sol"], ["c.sol"]] := by
  have hca : Path.le ["c.sol"] ["a.sol"] = false := by decide +kernel
  have hcb : Path.le ["c.sol"] ["b.sol"] = false := by decide +kernel
  have hab : Path.le ["a.sol"] ["b.sol"] = true := by decide +kernel
  have hsorted : List.mergeSort [["c.sol"], ["a.sol"], ["b.sol"]] Path.le =
      [["a.sol"], ["b.sol"], ["c.sol"]] := by
    simp [List.mergeSort, hca, hcb, hab]
  exact hsorted

theorem contracts_sampleTree :
    contracts sampleTree ⟨.relative, []⟩ =
      [samplePath "a.sol", samplePath "b.sol", samplePath "c.sol"] := by
  have hlocate : sampleTree.locate ⟨.absolute, ["work"]⟩ = .ok [] := by decide +kernel
  have hbelow : sampleTree.solidityBelow ⟨.absolute, ["work"]⟩ =
      [["a.sol"], ["b.sol"], ["c.sol"]] := by
    rw [FileTree.solidityBelow, hlocate]
    dsimp only
    rw [filesBelow_sampleTree]
    decide +kernel
  change sampleTree.contractFiles ⟨.absolute, ["work"]⟩ = _
  rw [FileTree.contractFiles, hbelow]
  decide +kernel

theorem workplace_sampleTree : workplace sampleTree ⟨.relative, []⟩ = ⟨.absolute, ["work"]⟩ := by
  decide

def sampleIssue : List (Value × Value) :=
  [(.str "lineno", .int 0)]

theorem reports_sampleReport : Reports sampleReport [.map sampleIssue] := by
  have hread : Json.read sampleOutput.toList =
      .ok (.map [(.str "issues", .list [.map sampleIssue])]) := by
    have hrender : sampleOutput.toList =
        Json.render (.record [("issues", .list [.record [("lineno", .int 0)]])]) := by
      decide +kernel
    rw [hrender]
    refine Json.read_render (.record (by simp) ?_)
    rw [List.forall_mem_singleton]
    refine .list ?_
    rw [List.forall_mem_singleton]
    refine .record (by simp) ?_
    rw [List.forall_mem_singleton]
    exact .int (by decide)
  refine ⟨1, _, none, [(.str "issues", .list [.map sampleIssue])], rfl, hread, .inr rfl, ?_⟩
  rw [List.forall_mem_singleton]
  refine ⟨sampleIssue, rfl, ?_, .inr ⟨0, rfl⟩⟩
  simp only [textKeys, List.forall_mem_cons]
  exact ⟨.inl rfl, .inl rfl, .inl rfl, .inl rfl, .inl rfl, .inl rfl, .inl rfl, .inl rfl,
    by simp⟩

theorem run_isolates_files_sample :
    let target : Path := ⟨.relative, []⟩
    let call := invocation {} ⟨.absolute, ["work"]⟩
    let calls := versionCall program "version" ::
      [call (samplePath "a.sol"), call (samplePath "b.sol"), call (samplePath "c.sol")]
    Installed (sampleLaunch "" sampleReport) program "version" ∧ target.hasZero = false ∧
    (run sampleTree (sampleLaunch "" sampleReport) target).calls = calls ∧
    (run sampleTree (sampleLaunch "/work/b.sol" .timedOut) target).calls = calls ∧
    ∃ f : Finding,
      (run sampleTree (sampleLaunch "" sampleReport) target).outcome =
        .ok (numberedFrom 1 [f, f, f]) ∧
      (run sampleTree (sampleLaunch "/work/b.sol" .timedOut) target).outcome =
        .ok (numberedFrom 1 [f, f]) := by
  intro target call calls
  have hthere : Installed (sampleLaunch "" sampleReport) program "version" := ⟨none, none, rfl⟩
  have hpath : target.hasZero = false := rfl
  obtain ⟨-, -, -, hyields, -⟩ :=
    run_isolates_files sampleTree (sampleLaunch "" sampleReport) target {} hthere hpath
  rw [contracts_sampleTree, workplace_sampleTree] at hyields
  have hreports : Yields sampleReport [.map sampleIssue] := .inr reports_sampleReport
  obtain ⟨own, hown, hcalls, houtcome, hfails⟩ := hyields (fun _ => [.map sampleIssue])
    (by simpa [sampleLaunch_call] using hreports)
  have ha : (samplePath "a.sol").text = "/work/a.sol" := text_samplePath "a.sol"
  have hb : (samplePath "b.sol").text = "/work/b.sol" := text_samplePath "b.sol"
  have hc : (samplePath "c.sol").text = "/work/c.sol" := text_samplePath "c.sol"
  obtain ⟨hcalls', houtcome'⟩ := hfails [samplePath "a.sol"] (samplePath "b.sol")
    [samplePath "c.sol"] (sampleLaunch "/work/b.sol" .timedOut) rfl rfl
    (by simp [sampleLaunch_call, ha, hc]) (by simpa [sampleLaunch_call, hb] using Fails.timedOut)
  obtain ⟨f, -, _, ⟨⟩, hlist⟩ : ∃ f, _ := by
    simpa only [findingsFrom, bind_eq_ok_iff, pure_eq_ok_iff] using
      hown (samplePath "a.sol") (by simp)
  have hsame (file : Path)
      (hfile : file ∈ [samplePath "a.sol", samplePath "b.sol", samplePath "c.sol"]) :
      own file = [f] := by
    rw [hlist]
    exact Except.ok.inj ((hown file hfile).symm.trans (hown (samplePath "a.sol") (by simp)))
  refine ⟨hthere, hpath, hcalls, hcalls'.trans hcalls, f, ?_, ?_⟩
  · rw [houtcome]
    simp [hsame]
  · rw [houtcome']
    simp [hsame]

def tooManyDigits : List Char :=
  List.replicate 4301 '1'

theorem read_tooManyDigits : Json.read tooManyDigits = .error .integerTooLong := by
  have hread : (Json.read tooManyDigits).map (fun _ => ()) = .error .integerTooLong := by
    decide +kernel
  cases hresult : Json.read tooManyDigits with
  | ok value =>
    rw [hresult] at hread
    cases hread
  | error e =>
    rw [hresult] at hread
    exact congrArg Except.error (Except.error.inj hread)

/-- The output for the first file is one integer, and the other files are not called for. -/
theorem long_integer_ends_run :
    let call := invocation {} ⟨.absolute, ["work"]⟩
    let launch := sampleLaunch "/work/a.sol" (.exited 0 (some (String.ofList tooManyDigits)) none)
    let result := run sampleTree launch ⟨.relative, []⟩
    result.outcome = .error .integerTooLong ∧
      result.calls = [versionCall program "version", call (samplePath "a.sol")] := by
  intro call launch result
  have ha : (samplePath "a.sol").text = "/work/a.sol" := text_samplePath "a.sol"
  have hlong : WritesTooLong
      (launch (invocation {} (workplace sampleTree ⟨.relative, []⟩) (samplePath "a.sol"))) := by
    rw [workplace_sampleTree]
    refine ⟨0, some (String.ofList tooManyDigits), none, ?_, ?_⟩
    · simp [launch, sampleLaunch_call, ha]
    · rw [Option.getD_some, String.toList_ofList]
      exact read_tooManyDigits
  have hends := run_of_writesTooLong [] ⟨none, none, rfl⟩ rfl contracts_sampleTree (by simp) hlong
  rwa [workplace_sampleTree] at hends

end ContractScan.Mythril
