import ContractScan.Proofs.Finding.Numbering
import ContractScan.Proofs.Slither.Readable

/-! # How runs of Slither end

A tool that is not there or fails, and output that is no report, leave no
findings. A run has no result at all if the probe hangs, if the target cannot be
asked for, if the output has an integer of too many digits, or if the report is
not readable.
-/

namespace ContractScan

namespace Slither

def Writes (launch : Launcher) (call : Invocation) (text : String) : Prop :=
  ∃ status output errors, launch call = .exited status output errors ∧ output.getD "" = text

def SaysFailed (payload : Value) : Prop :=
  ∃ entries, payload = .map entries ∧ Value.lookup entries "success" = some (.bool false)

/-- The output of a call is a report that does not say it failed. -/
def Reports (launch : Launcher) (call : Invocation) (payload : Value) : Prop :=
  ∃ text, Writes launch call text ∧ Json.read text.toList = .ok payload ∧ ¬ SaysFailed payload

def foundIn : AnalyzerResult → Except AnalyzerError (List Finding)
  | .report _ payload => findings payload
  | _ => .ok []

section Results

variable {launch : Launcher} {call : Invocation} {payload : Value}

theorem checkSuccess_of_saysFailed (tool : String) (h : SaysFailed payload) :
    ∃ message, checkSuccess (.report tool payload) = .failed tool message .execution := by
  obtain ⟨entries, rfl, hsuccess⟩ := h
  simp only [checkSuccess, hsuccess]
  exact ⟨_, rfl⟩

theorem checkSuccess_of_not_saysFailed (tool : String) (h : ¬ SaysFailed payload) :
    checkSuccess (.report tool payload) = .report tool payload := by
  unfold checkSuccess
  split
  next entries heq =>
    cases heq
    split
    next hsuccess => exact absurd ⟨entries, rfl, hsuccess⟩ h
    next => rfl
  next => rfl

def foundBy (launch : Launcher) (call : Invocation) : Except AnalyzerError (List Finding) := do
  foundIn (checkSuccess (← interpret program call.limit false (launch call)))

theorem foundBy_of_reports (h : Reports launch call payload) :
    foundBy launch call = findings payload := by
  obtain ⟨_, ⟨status, output, errors, hcall, rfl⟩, hread, hsound⟩ := h
  rw [foundBy, hcall, interpret_of_ne_malformed _ _ _ _ _ (by simp [hread]), hread]
  change foundIn (checkSuccess (.report program payload)) = _
  rw [checkSuccess_of_not_saysFailed program hsound]
  rfl

theorem foundBy_of_writesTooLong (h : WritesTooLong (launch call)) :
    foundBy launch call = .error .integerTooLong := by
  obtain ⟨status, output, errors, hcall, hread⟩ := h
  rw [foundBy, hcall, interpret_of_ne_malformed _ _ _ _ _ (by simp [hread]), hread]
  rfl

/-- All that is no report leaves no findings. -/
theorem foundBy_of_not_reports (hreports : ∀ payload, ¬ Reports launch call payload)
    (hlong : ¬ WritesTooLong (launch call)) : foundBy launch call = .ok [] := by
  unfold foundBy
  cases hcall : launch call with
  | timedOut => rfl
  | notLaunched reason => rfl
  | exited status output errors =>
    have hwrites : Writes launch call (output.getD "") := ⟨status, output, errors, hcall, rfl⟩
    cases hread : Json.read (output.getD "").toList with
    | error e =>
      cases e with
      | malformed =>
        obtain ⟨message, kind, hresult⟩ | ⟨⟨⟩, -⟩ :=
          interpret_of_malformed program call.limit false status errors hread
        rw [hresult]
        rfl
      | integerTooLong => exact absurd ⟨status, output, errors, hcall, hread⟩ hlong
    | ok payload =>
      have hfailed : SaysFailed payload := by
        by_contra hsound
        exact hreports payload ⟨_, hwrites, hread, hsound⟩
      obtain ⟨message, hresult⟩ := checkSuccess_of_saysFailed program hfailed
      rw [interpret_of_ne_malformed _ _ _ _ _ (by simp [hread]), hread]
      change foundIn (checkSuccess (.report program payload)) = _
      rw [hresult]
      rfl

theorem exists_foundBy_iff :
    (∃ found, foundBy launch call = .ok found) ↔
      ¬ WritesTooLong (launch call) ∧
        ∀ payload, Reports launch call payload → Readable payload := by
  constructor
  · rintro ⟨found, h⟩
    refine ⟨fun hlong => ?_, fun payload hpayload => ?_⟩
    · rw [foundBy_of_writesTooLong hlong] at h
      cases h
    · rw [foundBy_of_reports hpayload] at h
      exact exists_findings_iff.mp ⟨found, h⟩
  · rintro ⟨hlong, hreadable⟩
    by_cases hreports : ∃ payload, Reports launch call payload
    · obtain ⟨payload, hpayload⟩ := hreports
      rw [foundBy_of_reports hpayload]
      exact exists_findings_iff.mpr (hreadable payload hpayload)
    · exact ⟨[], foundBy_of_not_reports (not_exists.mp hreports) hlong⟩

theorem foundBy_eq_ok {found : List Finding} (h : foundBy launch call = .ok found) :
    (∃ payload, Reports launch call payload ∧ findings payload = .ok found) ∨
      (∀ payload, ¬ Reports launch call payload) ∧ found = [] := by
  by_cases hreports : ∃ payload, Reports launch call payload
  · obtain ⟨payload, hpayload⟩ := hreports
    rw [foundBy_of_reports hpayload] at h
    exact .inl ⟨payload, hpayload, h⟩
  · have hlong := (exists_foundBy_iff.mp ⟨found, h⟩).1
    rw [foundBy_of_not_reports (not_exists.mp hreports) hlong] at h
    cases h
    exact .inr ⟨not_exists.mp hreports, rfl⟩

end Results

section Runs

variable {tree : FileTree} {launch : Launcher} {target : Path} {exclude : List String}

theorem outcome_run : (run tree launch target exclude).outcome =
    (analyze tree launch target exclude).outcome >>= foundIn := by
  rw [run, Traced.outcome_bind]
  congr
  funext result
  cases result with
  | unavailable tool => rfl
  | failed tool message kind =>
    dsimp only
    split
    · rfl
    · split <;> rfl
  | report tool payload =>
    rw [Traced.outcome_bind]
    change findings payload >>= _ = findings payload
    cases findings payload <;> rfl

theorem outcome_probe (launch : Launcher) :
    (probe launch [program, "--version"]).outcome =
      match launch (versionCall program "--version") with
      | .exited status _ _ => .ok (status == 0)
      | .timedOut => .error .probeTimedOut
      | .notLaunched _ => .ok false := by
  unfold probe versionCall
  dsimp only
  cases launch { arguments := [program, "--version"] } <;> rfl

theorem outcome_run_of_timedOut (h : launch (versionCall program "--version") = .timedOut) :
    (run tree launch target exclude).outcome = .error .probeTimedOut := by
  rw [outcome_run, analyze, Traced.outcome_bind, outcome_probe, h]
  rfl

theorem outcome_run_of_not_installed (htime : launch (versionCall program "--version") ≠ .timedOut)
    (h : ¬ Installed launch program "--version") :
    (run tree launch target exclude).outcome = .ok [] := by
  have hprobe : (probe launch [program, "--version"]).outcome = .ok false := by
    rw [outcome_probe]
    split
    next status output errors hcall =>
      have hstatus : status ≠ 0 := by
        rintro rfl
        exact h ⟨output, errors, hcall⟩
      simpa using hstatus
    next hcall => exact absurd hcall htime
    next => rfl
  rw [outcome_run, analyze, Traced.outcome_bind, hprobe]
  rfl

theorem outcome_run_of_installed (h : Installed launch program "--version") :
    (run tree launch target exclude).outcome =
      if target.hasZero then .error .impossiblePath
      else foundBy launch (invocation tree target exclude) := by
  obtain ⟨output, errors, hcall⟩ := h
  rw [outcome_run, analyze, Traced.outcome_bind, outcome_probe, hcall]
  cases target.hasZero with
  | true => rfl
  | false =>
    change (runAnalyzer launch program (invocation tree target exclude) false >>=
      fun result => pure (checkSuccess result)).outcome >>= foundIn = _
    rw [Traced.outcome_bind, bind_assoc]
    rfl

end Runs

/-- A run has a result exactly when the probe does not hang and, with Slither there, the target can
be asked for, no integer is too long and the report, if there is one, is readable. The result
is what is found in the report; without a report it is empty. -/
theorem run_returns_iff_readable (tree : FileTree) (launch : Launcher) (target : Path)
    (exclude : List String) :
    let call := invocation tree target exclude
    ((∃ found, (run tree launch target exclude).outcome = .ok found) ↔
      launch (versionCall program "--version") ≠ .timedOut ∧
        (Installed launch program "--version" → target.hasZero = false ∧
          ¬ WritesTooLong (launch call) ∧
          ∀ payload, Reports launch call payload → Readable payload)) ∧
    ∀ found, (run tree launch target exclude).outcome = .ok found →
      (∃ payload, Installed launch program "--version" ∧ Reports launch call payload ∧
        findings payload = .ok found) ∨
      (∀ payload, ¬ (Installed launch program "--version" ∧ Reports launch call payload)) ∧
        found = [] := by
  intro call
  by_cases htime : launch (versionCall program "--version") = .timedOut
  · simp [outcome_run_of_timedOut htime, htime]
  by_cases hinstalled : Installed launch program "--version"
  · rw [outcome_run_of_installed hinstalled]
    cases target.hasZero with
    | true => simp [hinstalled]
    | false =>
      simp only [Bool.false_eq_true, if_false, hinstalled, htime, ne_eq, not_false_eq_true,
        true_and, forall_const]
      exact ⟨exists_foundBy_iff, fun _ => foundBy_eq_ok⟩
  · rw [outcome_run_of_not_installed htime hinstalled]
    simp [hinstalled, htime]

def writing (output : String) : Launcher :=
  fun _ => .exited 0 (some output) none

/-- A number for the detectors, a number for a place, and a mapping for lines. -/
theorem unreadable_reports_fail :
    let tree : FileTree := { base := ⟨.absolute, ["work"]⟩, nodes := [] }
    let outcome output := (run tree (writing output) ⟨.relative, ["a.sol"]⟩ []).outcome
    outcome "\x7b\"detectors\": 5\x7d" = .error .wrongKind ∧
      outcome ("\x7b\"detectors\": [\x7b\"elements\": [\x7b\"source_mapping\": 1" ++
        "\x7d]\x7d]\x7d") = .error .notMapping ∧
      outcome ("\x7b\"detectors\": [\x7b\"elements\": [\x7b\"source_mapping\": " ++
        "\x7b\"lines\": \x7b\"1\": 1\x7d\x7d\x7d]\x7d]\x7d") = .error .noSuchEntry := by
  decide +kernel

end Slither

end ContractScan
