import ContractScan.Proofs.Command.Completed

/-! # The verdict of a scan

A scan fails exactly when it finds something blocking. How and where findings are
published has no part in it, and another analyzer only adds to what is found, as
long as the log of the scan is not one of the files that are scanned.
-/

namespace ContractScan

/-- The other scan reads the same sources, and asks for the same analyzers or for more. -/
structure ScanOptions.Widens (options options' : ScanOptions) : Prop
    extends options.SameSources options' where
  slither : options.slither = true → options'.slither = true
  mythril : options.mythril = true → options'.mythril = true

section Widens

variable {env : Environment} {options options' : ScanOptions} {tree : FileTree}
  {found found' : ScanFindings}

theorem subset_of_wanted {wanted wanted' : Bool} {outcome : Except AnalyzerError (List Finding)}
    {findings findings' : List Finding}
    (h : if wanted then outcome = .ok findings else findings = [])
    (h' : if wanted' then outcome = .ok findings' else findings' = [])
    (hwanted : wanted = true → wanted' = true) : findings ⊆ findings' := by
  cases wanted with
  | false => simp_all
  | true =>
    obtain rfl := hwanted rfl
    obtain rfl : findings = findings' := Except.ok.inj (h.symm.trans h')
    exact List.Subset.refl _

theorem Gathered.subset (hfound : Gathered env options tree found)
    (hfound' : Gathered env options' tree found') (h : options.Widens options')
    (hapart : options.LogApart tree) : found.all ⊆ found'.all := by
  have hslither := hfound'.slither
  have hmythril := hfound'.mythril
  rw [h.opened, h.path, h.exclude] at hslither
  rw [h.opened, h.path] at hmythril
  have hmore := subset_of_wanted hfound.slither hslither h.slither
  have hmore' := subset_of_wanted hfound.mythril hmythril h.mythril
  intro f hf
  have harc := hfound.arc_eq hfound' h.toSameSources hapart
  simp only [ScanFindings.all, List.mem_append, harc] at hf ⊢
  rcases hf with (hf | hf) | hf
  · exact .inl (.inl hf)
  · exact .inl (.inr (hmore hf))
  · exact .inr (hmore' hf)

end Widens

namespace Session.Completes

variable {session : Session} {env : Environment} {options options' : ScanOptions}
  {code code' : Nat}

theorem code_eq_one (h : session.Completes env options code)
    (h' : session.Completes env options' code') (hwidens : options.Widens options')
    (hhigh : options'.failOnHigh = options.failOnHigh) (hapart : options.LogApart session.tree)
    (hone : code = 1) : code' = 1 := by
  obtain ⟨found, hfound, hcode⟩ := h.gathered
  obtain ⟨found', hfound', hcode'⟩ := h'.gathered
  obtain ⟨f, hf, hblocks⟩ := (code_eq_one_iff hcode).mp hone
  refine (code_eq_one_iff hcode').mpr ⟨f, hfound.subset hfound' hwidens hapart hf, ?_⟩
  rw [hhigh]
  exact hblocks

theorem exit_failOnHigh (h : session.Completes env options 0) (hhigh : options.failOnHigh = false) :
    (session.perform env (.scan { options with failOnHigh := true })).1.ending = .exit 0 := by
  obtain ⟨found, p, hrun⟩ := h.findAndPublish
  have hcode := Ending.exit.inj (h.2.symm.trans (perform_of_findAndPublish hrun).1)
  have hnone : ¬ ∃ f ∈ found.all, Blocks true f := by
    rintro ⟨f, hf, -⟩
    cases (code_eq_one_iff hcode).mpr ⟨f, hf, .inl hhigh⟩
  have hrun' : (ContractScan.findAndPublish env { options with failOnHigh := true }).run.run
      { tree := session.tree } = (.ok found, p) := hrun
  rw [(perform_of_findAndPublish hrun').1, if_neg hnone]

end Session.Completes

/-- The exit code tells whether there is a blocking finding. Formats and places of reports have no
influence on it, more analyzers never lower it, and letting only high severities count never raises
it. -/
theorem scan_exit_code (session : Session) (env : Environment) (options : ScanOptions) (code : Nat)
    (h : session.Completes env options code) :
    (∃ found, Gathered env options session.tree found ∧
      code = if ∃ f ∈ found.all, Blocks options.failOnHigh f then 1 else 0) ∧
    (∀ formats out code', session.Completes env { options with formats, out } code' →
      (session.perform env (.scan { options with formats, out })).1.calls =
          (session.perform env (.scan options)).1.calls ∧
        (options.LogApart session.tree → code' = code)) ∧
    (∀ slither mythril code', (options.slither = true → slither = true) →
      (options.mythril = true → mythril = true) →
      session.Completes env { options with slither, mythril } code' →
      options.LogApart session.tree → code = 1 → code' = 1) ∧
    (options.failOnHigh = false → code = 0 →
      (session.perform env (.scan { options with failOnHigh := true })).1.ending = .exit 0) := by
  refine ⟨h.gathered, ?_, ?_, ?_⟩
  · intro formats out code' h'
    refine ⟨h'.calls.trans h.calls.symm, fun hapart => ?_⟩
    have hsame : code = 1 ↔ code' = 1 :=
      ⟨h.code_eq_one h' ⟨⟨rfl, rfl, rfl, rfl, rfl⟩, id, id⟩ rfl hapart,
        h'.code_eq_one h ⟨⟨rfl, rfl, rfl, rfl, rfl⟩, id, id⟩ rfl hapart⟩
    have hle := h.1
    have hle' := h'.1
    omega
  · intro slither mythril code' hslither hmythril h' hapart
    exact h.code_eq_one h' ⟨⟨rfl, rfl, rfl, rfl, rfl⟩, hslither, hmythril⟩ rfl hapart
  · rintro hhigh rfl
    exact h.exit_failOnHigh hhigh

theorem scan_exit_code_sample :
    let idle := { sampleScan with path := ⟨.relative, ["idle.sol"]⟩ }
    let table := { sampleScan with formats := ["table"], out := ⟨.relative, ["other"]⟩ }
    let both := { sampleScan with slither := true, mythril := true }
    (∃ found, Gathered sampleEnvironment sampleScan sampleSession.tree found ∧
      1 = if ∃ f ∈ found.all, Blocks false f then 1 else 0) ∧
    (∃ code, sampleSession.Completes sampleEnvironment table code ∧ code = 1 ∧
      (sampleSession.perform sampleEnvironment (.scan table)).1.calls =
        (sampleSession.perform sampleEnvironment (.scan sampleScan)).1.calls) ∧
    (∃ code, sampleSession.Completes sampleEnvironment both code ∧ code = 1) ∧
    (sampleSession.perform sampleEnvironment (.scan { idle with failOnHigh := true })).1.ending =
      .exit 0 := by
  intro idle table both
  obtain ⟨hsample, hboth, hapart⟩ := sampleScan_completes
  have htable : sampleSession.Completes sampleEnvironment table 1 := by decide +kernel
  have hidle : sampleSession.Completes sampleEnvironment idle 0 := by decide +kernel
  obtain ⟨hfound, hformat, hanalyzer, -⟩ :=
    scan_exit_code sampleSession sampleEnvironment sampleScan 1 hsample
  obtain ⟨hcalls, hcode⟩ := hformat _ _ 1 htable
  have hcode' := hanalyzer true true 1 (fun _ => rfl) (fun _ => rfl) hboth hapart rfl
  have hstrict := (scan_exit_code sampleSession sampleEnvironment idle 0 hidle).2.2.2 rfl rfl
  exact ⟨hfound, ⟨1, htable, hcode hapart, hcalls⟩, ⟨1, hboth, hcode'⟩, hstrict⟩

/-- A scan of its own log may end otherwise with another analyzer or in another format. -/
theorem exit_code_of_selfScan :
    selfSession.Completes silentEnvironment selfScan 1 ∧
      selfSession.Completes silentEnvironment { selfScan with slither := true } 0 ∧
      selfSession.Completes silentEnvironment
        { selfScan with slither := true, formats := ["table"] } 1 :=
  ⟨selfScan_completes, selfScan_completes_slither, by decide +kernel⟩

end ContractScan
