import ContractScan.Proofs.Command.Completed
import ContractScan.Proofs.Finding.Numbering

/-! # The records of a scan

The records are those of the rules' findings, then Slither's, then Mythril's,
each group numbered without a gap under its own word. They stand in their file
when the scan is over, unless the scan's log is that file.
-/

namespace ContractScan

section Ids

variable {env : Environment} {options : ScanOptions} {tree : FileTree} {found : ScanFindings}

theorem Gathered.numbered (h : Gathered env options tree found) :
    Numbered "ARC" 1 found.arc ∧ Numbered "SC" 1 found.slither ∧
      Numbered "MYTH" 1 found.mythril := by
  obtain ⟨plan, -, -, harc⟩ := h.arc
  refine ⟨scanArc_numbered harc, ?_, ?_⟩
  · have hslither := h.slither
    split at hslither
    · exact Slither.run_numbered hslither
    · rw [hslither]
      exact .nil
  · have hmythril := h.mythril
    split at hmythril
    · exact Mythril.run_numbered hmythril
    · rw [hmythril]
      exact .nil

theorem Gathered.nodup_ids (h : Gathered env options tree found) :
    (found.all.map (·.id)).Nodup := by
  obtain ⟨harc, hslither, hmythril⟩ := h.numbered
  have harcSlither := harc.disjoint hslither (by decide) (by decide)
  have harcMythril := harc.disjoint hmythril (by decide) (by decide)
  have hslitherMythril := hslither.disjoint hmythril (by decide) (by decide)
  rw [ScanFindings.all, List.map_append, List.map_append]
  refine List.Nodup.append (List.Nodup.append ?_ ?_ harcSlither) ?_ ?_
  · exact harc.nodup (by decide)
  · exact hslither.nodup (by decide)
  · exact hmythril.nodup (by decide)
  · exact List.disjoint_append_left.mpr ⟨harcMythril, hslitherMythril⟩

end Ids

theorem ScanOptions.locate_of_logPlace? {options : ScanOptions} {tree after : FileTree}
    {place : List String} (h : options.logPlace? tree = some place)
    (hgrows : FileTree.Grows (options.opened tree) after) :
    ∃ log ∈ options.debugLog, after.locate log = .ok place := by
  obtain ⟨log, hlog, hplace⟩ := Option.bind_eq_some_iff.mp h
  exact ⟨log, hlog, hgrows.locate (toOption_eq_some_iff.mp hplace)⟩

/-- The records are in their file at the end, as long as the log is not written to it. -/
theorem records_of_findAndPublish {session : Session} {env : Environment} {options : ScanOptions}
    {found : ScanFindings} {p : Progress} {formats : List Report.Format}
    (hrun : (findAndPublish env options).run.run { tree := session.tree } = (.ok found, p))
    (hformats : Report.formats options.formats = .ok formats) (hjson : .json ∈ formats)
    (hapart : ∀ log ∈ options.debugLog,
      (session.perform env (.scan options)).2.tree.locate log ≠
        (session.perform env (.scan options)).2.tree.locate
          (Report.jsonPath (options.opened session.tree) options.out)) :
    (session.perform env (.scan options)).2.tree.at?
        (Report.jsonPath (options.opened session.tree) options.out) =
      some (.file (.text (Report.jsonLines options.path.text found.all))) := by
  obtain ⟨-, plan, p₁, hplan, hstage, hpublish⟩ := run_findAndPublish_eq_ok hrun
  obtain ⟨exported, t, hreport, hlogs₁⟩ := run_publish_eq_ok hpublish
  obtain ⟨-, p', hlogs₂, -, htree⟩ := Session.perform_of_findAndPublish hrun
  have hlogs := hlogs₁.trans hlogs₂
  obtain rfl : plan.formats = formats := Except.ok.inj (hplan.symm.trans hformats)
  obtain ⟨hgrows, place, hlocate, hnode⟩ := Report.run_publish_eq_ok hreport hjson
  rw [hstage.sameBut.jsonPath] at hlocate
  have hafter : FileTree.Grows t p'.tree := by
    refine hlogs.grows fun log hlog => ?_
    rw [hstage.place?] at hlog
    exact hgrows.kind? log false (hstage.holdsFile log hlog).kind?
  have hplace : p'.tree.locate (Report.jsonPath (options.opened session.tree) options.out) =
      .ok place := hafter.locate hlocate
  have hlog : p₁.trace.place? ≠ some place := by
    rw [hstage.place?]
    intro hlog
    obtain ⟨log, hmem, hsame⟩ := ScanOptions.locate_of_logPlace? hlog
      (hstage.sameBut.grows.trans (hgrows.trans hafter))
    refine hapart log hmem ?_
    rw [htree, hsame, hplace]
  rw [htree, FileTree.at?, hplace]
  exact (hlogs.node? place hlog).trans hnode

/-- The findings of a completed scan are numbered group by group, and its records are theirs. -/
theorem scan_records_numbered (session : Session) (env : Environment) (options : ScanOptions)
    (code : Nat) (h : session.Completes env options code) :
    ∃ found, Gathered env options session.tree found ∧
      Numbered "ARC" 1 found.arc ∧ Numbered "SC" 1 found.slither ∧
      Numbered "MYTH" 1 found.mythril ∧ (found.all.map (·.id)).Nodup ∧
      (∀ formats, Report.formats options.formats = .ok formats → .json ∈ formats →
        let after := (session.perform env (.scan options)).2.tree
        let records := Report.jsonPath (options.opened session.tree) options.out
        (∀ log ∈ options.debugLog, after.locate log ≠ after.locate records) →
        ∃ text, after.at? records = some (.file (.text text)) ∧
          Text.pieces '\n' text.toList =
            (found.all.map fun f => Json.render (Report.record options.path.text f)) ++ [[]]) ∧
      ∀ slither mythril found', options.LogApart session.tree →
        Gathered env { options with slither, mythril } session.tree found' →
          found'.arc = found.arc := by
  obtain ⟨found, p, hrun⟩ := h.findAndPublish
  obtain ⟨hgathered, -⟩ := run_findAndPublish_eq_ok hrun
  obtain ⟨harc, hslither, hmythril⟩ := hgathered.numbered
  refine ⟨found, hgathered, harc, hslither, hmythril, hgathered.nodup_ids, ?_, ?_⟩
  · intro formats hformats hjson after records hapart
    exact ⟨_, records_of_findAndPublish hrun hformats hjson hapart, Report.pieces_jsonLines _ _⟩
  · intro slither mythril found' hapart hgathered'
    exact hgathered.arc_eq hgathered' ⟨rfl, rfl, rfl, rfl, rfl⟩ hapart

theorem scan_records_numbered_sample :
    let both := { sampleScan with slither := true, mythril := true }
    let after := (sampleSession.perform sampleEnvironment (.scan both)).2.tree
    ∃ found found' text, Gathered sampleEnvironment both sampleSession.tree found ∧
      Gathered sampleEnvironment sampleScan sampleSession.tree found' ∧
      found'.arc = found.arc ∧ Numbered "ARC" 1 found.arc ∧ Numbered "SC" 1 found.slither ∧
      Numbered "MYTH" 1 found.mythril ∧ (found.all.map (·.id)).Nodup ∧
      after.at? ⟨.relative, ["out", "arcshield.jsonl"]⟩ = some (.file (.text text)) ∧
      Text.pieces '\n' text.toList =
        (found.all.map fun f => Json.render (Report.record "draw.sol" f)) ++ [[]] := by
  intro both after
  obtain ⟨hsample, hboth, hapart⟩ := sampleScan_completes
  obtain ⟨found', hfound', -⟩ := hsample.gathered
  obtain ⟨found, hfound, harc, hslither, hmythril, hids, hrecords, hsame⟩ :=
    scan_records_numbered sampleSession sampleEnvironment both 1 hboth
  have hpath : Report.jsonPath (both.opened sampleSession.tree) both.out =
      ⟨.relative, ["out", "arcshield.jsonl"]⟩ := by decide +kernel
  have hlog : ∀ log ∈ both.debugLog, after.locate log ≠
      after.locate (Report.jsonPath (both.opened sampleSession.tree) both.out) := by
    decide +kernel
  obtain ⟨text, hfile, hpieces⟩ := hrecords [.json] (by decide +kernel) (by decide) hlog
  rw [hpath] at hfile
  exact ⟨found, found', text, hfound, hfound', hsame false false found' hapart hfound', harc,
    hslither, hmythril, hids, hfile, hpieces⟩

/-- A scan of its own log finds something else with another analyzer. -/
theorem arc_findings_of_selfScan :
    ∃ found found', Gathered silentEnvironment selfScan selfSession.tree found ∧
      Gathered silentEnvironment { selfScan with slither := true } selfSession.tree found' ∧
      found'.arc ≠ found.arc := by
  obtain ⟨found, hfound, hcode⟩ := selfScan_completes.gathered
  obtain ⟨found', hfound', hcode'⟩ := selfScan_completes_slither.gathered
  refine ⟨found, found', hfound, hfound', fun hsame => ?_⟩
  have hslither : found.slither = [] := hfound.slither
  have hmythril : found.mythril = [] := hfound.mythril
  obtain ⟨f, hf, hblocks⟩ := (code_eq_one_iff hcode).mp rfl
  rw [ScanFindings.all, hslither, hmythril, List.append_nil, List.append_nil, ← hsame] at hf
  have hzero := (code_eq_one_iff hcode').mpr
    ⟨f, by simp [ScanFindings.all, hf], hblocks⟩
  cases hzero

end ContractScan
