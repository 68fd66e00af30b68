import ContractScan.Proofs.Command.EventSteps
import ContractScan.Proofs.Command.Rejection

/-! # The events of a scan

The log of a scan holds the events of its stages in their order, as far as the scan
came, or else the one event of a refused configuration. All of them are there
exactly when the scan completes. The last ones then tell its exit code, and the
counts of the others add up to what was found.
-/

namespace ContractScan

open FileTree (SameFiles Grows)

def ScanOptions.events (options : ScanOptions) : List String :=
  options.findingEvents ++ ["exports", "blocking_summary", "exit"]

section Publishing

variable {env : Environment} {options : ScanOptions} {plan : ScanPlan} {found : ScanFindings}
  {log : Path} {place : List String} {records : List Value} {p p' : Progress}

theorem Report.sameFiles_writeJsonLines {path : Path} {scanRoot : String} {findings : List Finding}
    {t t' : FileTree} {result : Except FileError Nat}
    (h : (Report.writeJsonLines path scanRoot findings).run.run t = (result, t')) :
    Grows t t' ∧ (SameFiles none t t' ∨ ∃ count place, result = .ok count ∧
      t'.locate path = .ok place ∧ SameFiles (some place) t t') := by
  have heq : Report.writeJsonLines path scanRoot findings =
      (FileTree.ensureParent path >>= fun _ =>
        FileTree.edit (·.write path (jsonLines scanRoot findings))) >>=
          fun _ => pure findings.length := by
    simp [writeJsonLines]
  rw [heq] at h
  cases result with
  | ok count =>
    obtain ⟨_, t₁, hwrite, hpure⟩ := run_bind_eq_ok h
    cases hpure
    obtain ⟨hgrows, -, place, -, hlocate, -, -, hsame⟩ := FileTree.run_write_eq_ok hwrite
    exact ⟨hgrows, .inr ⟨_, place, rfl, hlocate, hsame⟩⟩
  | error e =>
    obtain hwrite | ⟨_, _, -, hpure⟩ := run_bind_eq_error h
    · have hwidens := FileTree.run_write_eq_error hwrite
      exact ⟨hwidens.grows, .inl hwidens.sameFiles⟩
    · cases hpure

theorem Report.sameFiles_publish {formats : List Report.Format} {out scanRoot : Path}
    {findings : List Finding} {t t' : FileTree} {result : Except FileError Exported}
    (h : (Report.publish formats out scanRoot findings).run.run t = (result, t')) :
    Grows t t' ∧ (SameFiles none t t' ∨ ∃ exported place, result = .ok exported ∧
      .json ∈ formats ∧ t'.locate (jsonPath t out) = .ok place ∧ SameFiles (some place) t t') := by
  unfold Report.publish at h
  dsimp only at h
  by_cases hjson : .json ∈ formats
  · rw [if_pos (by simpa using hjson), run_bind_of_ok (FileTree.run_get t)] at h
    rcases hwrite : (writeJsonLines (jsonPath t out) scanRoot.text findings).run.run t with
      ⟨e | count, t₁⟩
    · rw [run_bind_of_error hwrite] at h
      cases h
      obtain ⟨hgrows, hsame | ⟨_, _, ⟨⟩, -⟩⟩ := sameFiles_writeJsonLines hwrite
      exact ⟨hgrows, .inl hsame⟩
    · rw [run_bind_of_ok hwrite] at h
      cases h
      obtain ⟨hgrows, hsame | ⟨_, place, -, hlocate, hsame⟩⟩ := sameFiles_writeJsonLines hwrite
      · exact ⟨hgrows, .inl hsame⟩
      · exact ⟨hgrows, .inr ⟨_, place, rfl, hjson, hlocate, hsame⟩⟩
  · rw [if_neg (by simpa using hjson)] at h
    cases h
    exact ⟨.refl _, .inl (.refl _ _)⟩

def announceExports (env : Environment) (exported : Report.Exported) : Action Unit := do
  exported.shown.forM Action.say
  let paths := exported.records.toList.map fun path => ("json", Value.str path.text)
  Action.record env "exports" [("paths", .record paths)]

theorem publish_eq (env : Environment) (options : ScanOptions) (plan : ScanPlan)
    (found : ScanFindings) :
    publish env options plan found =
      Action.say (.log (s!"Scan complete: {found.all.length} issues (arc={found.arc.length}, "
        ++ s!"slither={found.slither.length}, mythril={found.mythril.length})")) >>= fun _ =>
      Action.edit (Report.publish plan.formats options.out options.path found.all) >>=
        announceExports env := rfl

theorem logs_announceExports (env : Environment) (exported : Report.Exported) :
    Logs (announceExports env exported) ["exports"] fun _ more => counts more = [] := by
  have hentries : Recordable [("paths", .record (exported.records.toList.map fun path =>
      ("json", Value.str path.text)))] := by
    refine ⟨by simp, ?_⟩
    rw [List.forall_mem_singleton]
    refine Json.newline_not_mem_render_record ?_
    simp [Json.render, Json.newline_not_mem_renderText]
  refine (silent_sayAll _).bind_logs fun _ => (logs_record hentries).imp ?_
  rintro _ _ rfl
  rfl

theorem onlyLogs_announceExports {exported : Report.Exported} {u : Unit}
    (h : (announceExports env exported).run.run p = (.ok u, p')) : OnlyLogs p p' := by
  obtain ⟨_, p₁, hshown, hrecord⟩ := run_bind_eq_ok h
  exact (OnlyLogs.sayAll hshown).trans (.record hrecord)

theorem Action.run_edit_eq_error {α : Type} {change : FileTree.Edit α} {ending : Ending}
    (h : (Action.edit change).run.run p = (.error ending, p')) :
    ∃ e t, change.run.run p.tree = (.error e, t) ∧ p' = { p with tree := t } := by
  rcases hchange : change.run.run p.tree with ⟨e | a, t⟩
  · rw [Action.run_edit_of_error hchange] at h
    cases h
    exact ⟨e, t, rfl, rfl⟩
  · rw [Action.run_edit_of_ok hchange] at h
    cases h

namespace Journal

theorem make_error {ending : Ending} (h : Journal log place records p)
    (hrun : (ScanPlan.make env options).run.run p = (.error ending, p')) :
    ∃ more, Journal log place (records ++ more) p' ∧
      (more.map eventOf = [] ∨ more.map eventOf = ["error"]) := by
  have hnone : Journal log place (records ++ []) p := by rwa [List.append_nil]
  rw [ScanPlan.make, run_bind_of_ok (Action.run_tree p)] at hrun
  dsimp only at hrun
  split at hrun
  · cases hrun
    exact ⟨[], hnone, .inl rfl⟩
  rcases hformats : Report.formats options.formats with e | formats
  · rw [hformats] at hrun
    cases hrun
    exact ⟨[], hnone, .inl rfl⟩
  rw [hformats, run_bind_of_ok (Action.run_orFail_ok _ formats p),
    run_bind_of_ok (Action.run_logged _ p)] at hrun
  split at hrun
  · cases hrun
  next cause _ =>
    obtain hsay | ⟨_, p₁, hsay, h₁⟩ := run_bind_eq_error hrun
    · cases hsay
    obtain ⟨htree, htrace, -⟩ := Action.run_say_eq_ok hsay
    obtain hrecord | ⟨_, p₂, hrecord, hstop⟩ := run_bind_eq_error h₁
    · cases hrecord
    cases hstop
    have hshown : Journal log place records p₁ := h.of_eq htree htrace
    refine ⟨_, hshown.record (.fault (env.message cause)) hrecord, .inr ?_⟩
    rw [List.map_singleton, (Recordable.fault (env.message cause)).eventOf_recordOf]
  · cases hrun
    exact ⟨[], hnone.of_eq rfl rfl, .inl rfl⟩

/-- The records of the findings go to another file than the log, so the log only grows. -/
theorem publish {u : Unit} {later : Progress} (h : Journal log place records p)
    (hrun : (publish env options plan found).run.run p = (.ok u, p')) (hlogs : OnlyLogs p' later)
    (hapart : .json ∈ plan.formats → later.tree.locate log ≠
      later.tree.locate (Report.jsonPath p.tree options.out)) :
    ∃ more, Journal log place (records ++ more) p' ∧ more.map eventOf = ["exports"] ∧
      counts more = [] := by
  rw [publish_eq] at hrun
  obtain ⟨_, p₁, hsay, h₁⟩ := run_bind_eq_ok hrun
  obtain ⟨htree, htrace, -⟩ := Action.run_say_eq_ok hsay
  have hshown : Journal log place records p₁ := h.of_eq htree htrace
  obtain ⟨exported, _, hedit, h₂⟩ := run_bind_eq_ok h₁
  obtain ⟨t, hpublish, rfl⟩ := Action.run_edit_eq_ok hedit
  have hwritten : Journal log place records { p₁ with tree := t } := by
    obtain ⟨hgrows, hsame | ⟨_, written, -, hjson, hlocate, hsame⟩⟩ :=
      Report.sameFiles_publish hpublish
    · exact hshown.of_sameFiles hgrows hsame (by simp) rfl
    · refine hshown.of_sameFiles hgrows hsame ?_ rfl
      rintro ⟨⟩
      -- both paths would go on leading to the place where the records are now
      have hlater : Grows t later.tree :=
        ((onlyLogs_announceExports h₂).trans hlogs).grows fun names hnames =>
          hgrows.kind? names false (hshown.kind? names hnames)
      rw [htree] at hlocate
      refine hapart hjson ?_
      rw [hlater.locate (hgrows.locate hshown.locate), hlater.locate hlocate]
  obtain ⟨more, hjournal, -, hdone⟩ := logs_announceExports env exported hwritten h₂
  exact ⟨more, hjournal, hdone u rfl⟩

theorem publish_error {ending : Ending} (h : Journal log place records p)
    (hrun : (ContractScan.publish env options plan found).run.run p = (.error ending, p')) :
    Journal log place records p' := by
  rw [publish_eq] at hrun
  obtain hsay | ⟨_, p₁, hsay, h₁⟩ := run_bind_eq_error hrun
  · cases hsay
  obtain ⟨htree, htrace, -⟩ := Action.run_say_eq_ok hsay
  have hshown : Journal log place records p₁ := h.of_eq htree htrace
  obtain hedit | ⟨exported, p₂, -, h₂⟩ := run_bind_eq_error h₁
  · obtain ⟨e, t, hpublish, rfl⟩ := Action.run_edit_eq_error hedit
    obtain ⟨hgrows, hsame | ⟨_, _, ⟨⟩, -⟩⟩ := Report.sameFiles_publish hpublish
    exact hshown.of_sameFiles hgrows hsame (by simp) rfl
  · obtain ⟨p₃, hall, -⟩ := run_sayAll exported.shown p₂
    rw [announceExports, run_bind_of_ok hall] at h₂
    cases h₂

theorem conclude {code : Nat} (h : Journal log place records p)
    (hrun : (conclude env options found).run.run p = (.error (.exit code), p')) :
    Journal log place (records ++ [
      env.recordOf "blocking_summary" [
        ("blocking", .int (Report.blocking options.failOnHigh found.all).length),
        ("fail_on_high", .bool options.failOnHigh)],
      env.recordOf "exit" [("code", .int code),
        ("blocking", .int (Report.blocking options.failOnHigh found.all).length)]]) p' := by
  have hsummary (n : Nat) :
      Recordable [("blocking", .int n), ("fail_on_high", .bool options.failOnHigh)] := by
    refine ⟨by simp, ?_⟩
    simp only [List.forall_mem_cons]
    exact ⟨Json.newline_not_mem_renderInt _, newline_not_mem_bool _, by simp⟩
  have hexit (m n : Nat) : Recordable [("code", .int m), ("blocking", .int n)] := by
    refine ⟨by simp, ?_⟩
    simp only [List.forall_mem_cons]
    exact ⟨Json.newline_not_mem_renderInt _, Json.newline_not_mem_renderInt _, by simp⟩
  obtain hfail | ⟨_, p₁, hrecord₁, h₁⟩ := run_bind_eq_error hrun
  · cases hfail
  obtain hfail | ⟨_, p₂, hsay, h₂⟩ := run_bind_eq_error h₁
  · cases hfail
  obtain ⟨htree, htrace, -⟩ := Action.run_say_eq_ok hsay
  obtain hfail | ⟨_, p₃, hrecord₂, hstop⟩ := run_bind_eq_error h₂
  · cases hfail
  cases hstop
  have hjournal :=
    ((h.record (hsummary _) hrecord₁).of_eq htree htrace).record (hexit _ _) hrecord₂
  rwa [List.append_assoc] at hjournal

end Journal

end Publishing

section Scans

variable {env : Environment} {options : ScanOptions} {log : Path} {tree : FileTree}
  {p later : Progress}

/-- What is in the log of a scan that stops before it comes to its end. -/
theorem journal_of_stopped {trace : Trace} {opened : FileTree} {ending : Ending}
    (hstart : (Trace.start (some log)).run.run tree = (.ok trace, opened))
    (hlog : options.debugLog = some log)
    (hrun : (findAndPublish env options).run.run { tree } = (.error ending, p)) :
    ∃ place records, Journal log place records p ∧
      (records.map eventOf = ["error"] ∨ records.map eventOf <+: options.findingEvents) := by
  obtain ⟨place, hjournal, -⟩ := journal_of_start hstart
  have htrace : (modify fun p => { p with trace } : Action Unit).run.run { tree := opened } =
      (.ok (), { tree := opened, trace }) := rfl
  rw [findAndPublish, hlog, run_bind_of_ok (Action.run_edit_of_ok hstart),
    run_bind_of_ok htrace] at hrun
  obtain hmake | ⟨plan, p₁, hmake, h₁⟩ := run_bind_eq_error hrun
  · obtain ⟨more, hmore, hnone | herror⟩ := hjournal.make_error hmake
    · exact ⟨place, more, hmore, .inr (by rw [hnone]; exact List.nil_prefix)⟩
    · exact ⟨place, more, hmore, .inl herror⟩
  obtain ⟨-, -, htree₁, htrace₁, -⟩ := ScanPlan.run_make_eq_ok hmake
  have hjournal₁ : Journal log place [] p₁ := hjournal.of_eq htree₁ htrace₁
  rw [← bind_assoc] at h₁
  obtain hstop | ⟨found, p₂, hfound, h₂⟩ := run_bind_eq_error h₁
  · obtain ⟨more, hmore, hprefix, -⟩ := logs_find env options plan hjournal₁ hstop
    exact ⟨place, more, hmore, .inr hprefix⟩
  · obtain ⟨more, hmore, hprefix, -⟩ := logs_find env options plan hjournal₁ hfound
    obtain hpublish | ⟨_, _, -, hpure⟩ := run_bind_eq_error h₂
    · exact ⟨place, more, hmore.publish_error hpublish, .inr hprefix⟩
    · cases hpure

theorem journal_of_findAndPublish {found : ScanFindings} (hlog : options.debugLog = some log)
    (hrun : (findAndPublish env options).run.run { tree } = (.ok found, p))
    (hlogs : OnlyLogs p later)
    (hapart : ∀ formats, Report.formats options.formats = .ok formats → .json ∈ formats →
      later.tree.locate log ≠
        later.tree.locate (Report.jsonPath (options.opened tree) options.out)) :
    ∃ place records, Journal log place records p ∧
      records.map eventOf = options.findingEvents ++ ["exports"] ∧
      counts records = found.counts options := by
  obtain ⟨trace, _, hopen, h₁⟩ := run_bind_eq_ok hrun
  obtain ⟨opened, hstart, rfl⟩ := Action.run_edit_eq_ok hopen
  obtain ⟨hstage, hopened⟩ := stage_of_start hstart
  rw [hlog] at hstart
  obtain ⟨place, hjournal, -⟩ := journal_of_start hstart
  obtain ⟨_, _, hmodify, h₂⟩ := run_bind_eq_ok h₁
  cases hmodify
  obtain ⟨plan, p₁, hmake, h₃⟩ := run_bind_eq_ok h₂
  obtain ⟨hformats, -, htree₁, htrace₁, hcalls₁⟩ := ScanPlan.run_make_eq_ok hmake
  have hjournal₁ : Journal log place [] p₁ := hjournal.of_eq htree₁ htrace₁
  rw [← bind_assoc] at h₃
  obtain ⟨_, p₂, hfind, h₄⟩ := run_bind_eq_ok h₃
  obtain ⟨_, _, hpublish, hpure⟩ := run_bind_eq_ok h₄
  cases hpure
  obtain ⟨more, hjournal₂, -, hdone⟩ := logs_find env options plan hjournal₁ hfind
  obtain ⟨hevents, hcounts⟩ := hdone found rfl
  obtain ⟨_, p₃, hannounce, hgather⟩ := run_bind_eq_ok hfind
  have hstage₃ := (hstage.of_eq htree₁ htrace₁ hcalls₁).announce hannounce
  obtain ⟨-, -, -, hstage₂⟩ := hstage₃.gather hgather
  have hpath : Report.jsonPath p₂.tree options.out =
      Report.jsonPath (options.opened tree) options.out := hstage₂.sameBut.jsonPath _
  obtain ⟨more', hjournal', hevents', hcounts'⟩ := hjournal₂.publish hpublish hlogs
    (by rw [hpath]; exact hapart plan.formats hformats)
  refine ⟨place, _, hjournal', ?_, ?_⟩
  · rw [List.nil_append, List.map_append, hevents, hevents']
  · rw [List.nil_append, counts_append, hcounts, hcounts', List.append_nil]

theorem Report.blocking_eq_filter (failOnHigh : Bool) (findings : List Finding) :
    Report.blocking failOnHigh findings = findings.filter (Blocks failOnHigh ·) := by
  cases failOnHigh with
  | false => simp [Report.blocking, Blocks]
  | true => simp [Report.blocking, Blocks, Severity.rank_le_high_iff]

theorem total_of_wanted {wanted : Bool} {outcome : Except AnalyzerError (List Finding)}
    {findings : List Finding} (h : if wanted then outcome = .ok findings else findings = []) :
    total (if wanted then [(findings.length : Int)] else []) = findings.length := by
  cases wanted with
  | false =>
    rw [if_neg Bool.false_ne_true] at h
    rw [h]
    rfl
  | true => exact Int.add_zero _

theorem Gathered.total_counts {found : ScanFindings} (h : Gathered env options tree found) :
    total (found.counts options) = found.all.length := by
  have harc : total [(found.arc.length : Int)] = found.arc.length := Int.add_zero _
  rw [ScanFindings.counts, total_append, total_append, harc, total_of_wanted h.slither,
    total_of_wanted h.mythril, ScanFindings.all, List.length_append, List.length_append]
  omega

theorem ScanOptions.ne_events {options : ScanOptions} {names : List String}
    (h : names = ["error"] ∨ names <+: options.findingEvents) : names ≠ options.events := by
  rintro rfl
  rcases h with herror | hprefix
  · simp [events, findingEvents] at herror
  · have hlength := hprefix.length_le
    rw [events, List.length_append, List.length_cons] at hlength
    omega

theorem ScanOptions.not_last_of_mem_findingEvents (options : ScanOptions) :
    ∀ event ∈ options.findingEvents ++ ["exports"],
      ¬ (event = "exit" ∨ event = "blocking_summary") := by
  unfold findingEvents
  generalize options.slither = slither
  generalize options.mythril = mythril
  revert slither mythril
  decide

theorem journal_of_completes {session : Session} {code : Nat} (hlog : options.debugLog = some log)
    (hapart : ∀ formats, Report.formats options.formats = .ok formats → .json ∈ formats →
      (session.perform env (.scan options)).2.tree.locate log ≠
        (session.perform env (.scan options)).2.tree.locate
          (Report.jsonPath (options.opened session.tree) options.out))
    (h : session.Completes env options code) :
    ∃ place records p found, Journal log place records p ∧
      (session.perform env (.scan options)).2.tree = p.tree ∧
      records.map eventOf = options.events ∧ Gathered env options session.tree found ∧
      counts records = found.counts options ∧
      ∀ record ∈ records,
        (eventOf record = "exit" → entry? record "code" = some (.int code)) ∧
        (eventOf record = "exit" ∨ eventOf record = "blocking_summary" →
          entry? record "blocking" =
            some (.int (found.all.filter (Blocks options.failOnHigh ·)).length)) := by
  obtain ⟨found, p, hrun⟩ := h.findAndPublish
  obtain ⟨hgathered, -⟩ := run_findAndPublish_eq_ok hrun
  obtain ⟨p', hconclude, hlogs⟩ := run_conclude env options found p
  have hscan : (scanCommand env options).run.run { tree := session.tree } =
      (conclude env options found).run.run p := by
    rw [scanCommand_eq, run_bind_of_ok hrun]
  obtain ⟨hending, -, htree⟩ := Session.perform_scan (hscan.trans hconclude)
  rw [← Ending.exit.inj (h.2.symm.trans hending)] at hconclude
  rw [htree] at hapart
  obtain ⟨place, records, hjournal, hevents, hcounts⟩ :=
    journal_of_findAndPublish hlog hrun hlogs hapart
  refine ⟨place, _, p', found, hjournal.conclude hconclude, htree, ?_, hgathered, ?_, ?_⟩
  · rw [List.map_append, hevents, List.append_assoc]
    rfl
  · rw [counts_append, hcounts]
    exact List.append_nil _
  · rw [← Report.blocking_eq_filter]
    intro record hrecord
    rcases List.mem_append.mp hrecord with hfirst | hlast
    · have hnot := options.not_last_of_mem_findingEvents (eventOf record)
        (hevents ▸ List.mem_map_of_mem hfirst)
      exact ⟨fun hexit => absurd (.inl hexit) hnot, fun hevent => absurd hevent hnot⟩
    · rw [List.mem_pair] at hlast
      rcases hlast with rfl | rfl
      · refine ⟨fun hexit => ?_, fun _ => rfl⟩
        change "blocking_summary" = "exit" at hexit
        exact absurd hexit (by decide)
      · exact ⟨fun _ => rfl, fun _ => rfl⟩

theorem journal_of_not_completes {session : Session} {trace : Trace} {opened : FileTree}
    (hlog : options.debugLog = some log)
    (hstart : (Trace.start (some log)).run.run session.tree = (.ok trace, opened))
    (h : ¬ ∃ code, session.Completes env options code) :
    ∃ place records p, Journal log place records p ∧
      (session.perform env (.scan options)).2.tree = p.tree ∧
      (records.map eventOf = ["error"] ∨ records.map eventOf <+: options.findingEvents) := by
  rcases hrun : (findAndPublish env options).run.run { tree := session.tree } with
    ⟨ending | found, p⟩
  · have hscan : (scanCommand env options).run.run { tree := session.tree } =
        (.error ending, p) := by
      rw [scanCommand_eq, run_bind_of_error hrun]
    obtain ⟨place, records, hjournal, hevents⟩ := journal_of_stopped hstart hlog hrun
    exact ⟨place, records, p, hjournal, (Session.perform_scan hscan).2.2, hevents⟩
  · have hending := (Session.perform_of_findAndPublish hrun).1
    exact absurd ⟨_, by split <;> decide, hending⟩ h

end Scans

/-- A log that can be opened and is not the file of the records holds the events of a scan as far
as the scan came, one record a line, or the one event of a refused configuration. It holds all of
them exactly when the scan completes. The last two then tell the number of blocking findings and
the exit code, and the counts of the others add up to the number of findings. -/
theorem scan_log_events (session : Session) (env : Environment) (options : ScanOptions)
    (log : Path) (hlog : options.debugLog = some log)
    (hapart : ∀ formats, Report.formats options.formats = .ok formats → .json ∈ formats →
      (session.perform env (.scan options)).2.tree.locate log ≠
        (session.perform env (.scan options)).2.tree.locate
          (Report.jsonPath (options.opened session.tree) options.out)) :
    let start := (Trace.start options.debugLog).run.run session.tree
    let after := (session.perform env (.scan options)).2.tree
    (∀ e, start.1 = .error e →
      (session.perform env (.scan options)).1.ending = .error (.file e) ∧
        SameFiles none session.tree after) ∧
    ∀ trace, start.1 = .ok trace → ∃ text records, after.at? log = some (.file (.text text)) ∧
      Text.pieces '\n' text.toList = records.map Json.render ++ [[]] ∧
      (records.map eventOf = ["error"] ∨ records.map eventOf <+: options.events) ∧
      (records.map eventOf = options.events ↔ ∃ code, session.Completes env options code) ∧
      ∀ code, session.Completes env options code →
        ∃ found, Gathered env options session.tree found ∧
          counts records = found.counts options ∧ total (counts records) = found.all.length ∧
          ∀ record ∈ records,
            (eventOf record = "exit" → entry? record "code" = some (.int code)) ∧
            (eventOf record = "exit" ∨ eventOf record = "blocking_summary" →
              entry? record "blocking" =
                some (.int (found.all.filter (Blocks options.failOnHigh ·)).length)) := by
  intro start after
  constructor
  · intro e he
    obtain ⟨hresult, hwidens⟩ := Session.perform_of_start_error env he
    exact ⟨congrArg (·.ending) hresult, hwidens.sameFiles⟩
  · intro trace htrace
    by_cases hcompletes : ∃ code, session.Completes env options code
    · obtain ⟨code, hcode⟩ := hcompletes
      obtain ⟨place, records, p, found, hjournal, hafter, hevents, hgathered, hcounts, hlast⟩ :=
        journal_of_completes hlog hapart hcode
      change after = p.tree at hafter
      have hprefix : records.map eventOf <+: options.events :=
        ⟨[], by rw [hevents, List.append_nil]⟩
      refine ⟨_, records, by rw [hafter]; exact hjournal.at?, hjournal.pieces, .inr hprefix,
        ⟨fun _ => ⟨code, hcode⟩, fun _ => hevents⟩, ?_⟩
      intro code' hcode'
      obtain rfl : code = code' := Ending.exit.inj (hcode.2.symm.trans hcode'.2)
      exact ⟨found, hgathered, hcounts, by rw [hcounts, hgathered.total_counts], hlast⟩
    · have hstart : (Trace.start (some log)).run.run session.tree =
          (.ok trace, options.opened session.tree) := by
        rw [← hlog]
        exact Prod.ext htrace rfl
      obtain ⟨place, records, p, hjournal, hafter, hevents⟩ :=
        journal_of_not_completes hlog hstart hcompletes
      change after = p.tree at hafter
      refine ⟨_, records, by rw [hafter]; exact hjournal.at?, hjournal.pieces, ?_, ?_, ?_⟩
      · exact hevents.imp_right fun hprefix => hprefix.trans (List.prefix_append _ _)
      · exact iff_of_false (ScanOptions.ne_events hevents) hcompletes
      · exact fun code hcode => absurd ⟨code, hcode⟩ hcompletes

theorem scan_log_events_sample :
    ∃ text records found,
      (sampleSession.perform sampleEnvironment
        (.scan { sampleScan with slither := true, mythril := true })).2.tree.at?
          ⟨.relative, ["trace.jsonl"]⟩ = some (.file (.text text)) ∧
      Text.pieces '\n' text.toList = records.map Json.render ++ [[]] ∧
      records.map eventOf = ["start", "arc_findings", "slither_findings", "mythril_findings",
        "exports", "blocking_summary", "exit"] ∧
      Gathered sampleEnvironment { sampleScan with slither := true, mythril := true }
        sampleSession.tree found ∧
      total (counts records) = found.all.length ∧
      ∀ record ∈ records, eventOf record = "exit" → entry? record "code" = some (.int 1) := by
  obtain ⟨-, hboth, -⟩ := sampleScan_completes
  obtain ⟨text, records, hfile, hlines, -, hevents, hlast⟩ :=
    (scan_log_events sampleSession sampleEnvironment
      { sampleScan with slither := true, mythril := true } ⟨.relative, ["trace.jsonl"]⟩ rfl
      (fun _ _ _ => by decide +kernel)).2 _ rfl
  obtain ⟨found, hfound, -, hsum, hrecords⟩ := hlast 1 hboth
  exact ⟨text, records, found, hfile, hlines, hevents.mpr ⟨1, hboth⟩, hfound, hsum,
    fun record hrecord => (hrecords record hrecord).1⟩

end ContractScan
