import ContractScan.Command.Scan
import ContractScan.Proofs.FileTree.SameBut
import ContractScan.Proofs.Report.Records

/-! # The stages of a scan

Up to the point where findings are published, a scan changes nothing but its
log, so that every stage sees the tree that the log was opened in. After that it
writes to nothing but its log again.
-/

namespace ContractScan

open FileTree (SameBut HoldsFile Grows)

section Trace

variable {trace : Trace} {t t' : FileTree}

def Trace.place? (trace : Trace) : Option (List String) :=
  trace.file.map (·.place)

theorem Trace.place?_write (trace : Trace) (t : FileTree) (value : Value) :
    (trace.write t value).2.place? = trace.place? := by
  unfold Trace.write
  rcases hfile : trace.file with _ | file
  · rfl
  · simp [Trace.place?, hfile, FileTree.writeNext]

theorem Trace.tree_write (trace : Trace) (t : FileTree) (value : Value) :
    (trace.write t value).1 = t ∨ ∃ place content, trace.place? = some place ∧
      (trace.write t value).1 = t.put place (.file content) := by
  unfold Trace.write
  rcases hfile : trace.file with _ | file
  · exact .inl rfl
  · exact .inr ⟨file.place, _, by simp [Trace.place?, hfile], rfl⟩

theorem Trace.run_start_eq_ok {path : Option Path}
    (h : (Trace.start path).run.run t = (.ok trace, t')) :
    trace.place? = path.bind (fun p => (t'.locate p).toOption) ∧
      ∀ place ∈ trace.place?, t'.HoldsFile place := by
  unfold Trace.start at h
  cases path with
  | none =>
    cases h
    exact ⟨rfl, by simp [Trace.place?]⟩
  | some path =>
    obtain ⟨file, _, hopen, h⟩ := run_bind_eq_ok h
    cases h
    obtain ⟨hne, hlocate, t₁, -, -, rfl⟩ := FileTree.run_openNew_eq_ok hopen
    refine ⟨by simp [Trace.place?, hlocate, Except.toOption], fun place hplace => ?_⟩
    obtain rfl : file.place = place := by simpa [Trace.place?] using hplace
    exact .put hne _

end Trace

section Reruns

variable {t t' : FileTree} {log : Option (List String)}

theorem FileTree.SameBut.slither_run (h : SameBut log t t') (launch : Launcher) (target : Path)
    (exclude : List String) :
    Slither.run t' launch target exclude = Slither.run t launch target exclude := by
  simp only [Slither.run, Slither.analyze, Slither.invocation, h.base, h.isDirectory]

theorem FileTree.SameBut.mythril_run (h : SameBut log t t') (launch : Launcher) (target : Path) :
    Mythril.run t' launch target = Mythril.run t launch target := by
  simp only [Mythril.run, h.base, h.isDirectory, h.contractFiles]

theorem FileTree.SameBut.jsonPath (h : SameBut log t t') (out : Path) :
    Report.jsonPath t' out = Report.jsonPath t out := by
  simp only [Report.jsonPath, h.isDirectory, h.pathExists]

end Reruns

theorem Trace.write_sameBut {trace : Trace} {t : FileTree}
    (h : ∀ place ∈ trace.place?, t.HoldsFile place) (value : Value) :
    SameBut trace.place? t (trace.write t value).1 ∧
      ∀ place ∈ trace.place?, (trace.write t value).1.HoldsFile place := by
  rcases trace.tree_write t value with heq | ⟨place, content, hplace, heq⟩
  · rw [heq]
    exact ⟨.refl _ t, h⟩
  · have hfile : t.HoldsFile place := h place hplace
    rw [heq, hplace]
    refine ⟨hfile.sameBut_put content, ?_⟩
    rintro _ ⟨⟩
    exact .put hfile.ne_nil content

/-- Nothing but the log differs from the tree that it was opened in. -/
structure Stage (opened : FileTree) (log : Option (List String)) (calls : List Invocation)
    (p : Progress) : Prop where
  place? : p.trace.place? = log
  sameBut : SameBut log opened p.tree
  holdsFile : ∀ place ∈ log, p.tree.HoldsFile place
  calls : p.calls = calls

section Stages

variable {opened : FileTree} {log : Option (List String)} {calls : List Invocation}
  {p p' : Progress} {env : Environment} {options : ScanOptions} {found : List Finding} {u : Unit}

theorem Stage.of_eq (h : Stage opened log calls p) (htree : p'.tree = p.tree)
    (htrace : p'.trace = p.trace) (hcalls : p'.calls = p.calls) : Stage opened log calls p' where
  place? := by rw [htrace, h.place?]
  sameBut := by rw [htree]; exact h.sameBut
  holdsFile := by rw [htree]; exact h.holdsFile
  calls := hcalls.trans h.calls

theorem Action.run_say_eq_ok {item : ConsoleItem}
    (h : (Action.say item).run.run p = (.ok u, p')) :
    p'.tree = p.tree ∧ p'.trace = p.trace ∧ p'.calls = p.calls := by
  cases h
  exact ⟨rfl, rfl, rfl⟩

theorem Action.run_logged_eq_ok {α : Type} {result : Logged α} {a : α}
    (h : (Action.logged result).run.run p = (.ok a, p')) :
    a = result.value ∧ p'.tree = p.tree ∧ p'.trace = p.trace ∧ p'.calls = p.calls := by
  cases h
  exact ⟨rfl, rfl, rfl, rfl⟩

theorem Action.run_tree_eq_ok {t : FileTree} (h : Action.tree.run.run p = (.ok t, p')) :
    t = p.tree ∧ p' = p := by
  cases h
  exact ⟨rfl, rfl⟩

theorem Action.run_orFail_eq_ok {ε α : Type} {cause : ε → CommandError} {x : Except ε α} {a : α}
    (h : (Action.orFail cause x).run.run p = (.ok a, p')) : x = .ok a ∧ p' = p := by
  cases x with
  | error e => cases h
  | ok b =>
    cases h
    exact ⟨rfl, rfl⟩

theorem Action.run_traced_eq_ok {α : Type} {result : Traced α} {a : α}
    (h : (Action.traced result).run.run p = (.ok a, p')) :
    result.outcome = .ok a ∧ p'.tree = p.tree ∧ p'.trace = p.trace ∧
      p'.calls = p.calls ++ result.calls := by
  obtain ⟨_, _, hmodify, h⟩ := run_bind_eq_ok h
  cases hmodify
  obtain ⟨houtcome, rfl⟩ := Action.run_orFail_eq_ok h
  exact ⟨houtcome, rfl, rfl, rfl⟩

theorem Action.run_edit_eq_ok {α : Type} {change : FileTree.Edit α} {a : α}
    (h : (Action.edit change).run.run p = (.ok a, p')) :
    ∃ t, change.run.run p.tree = (.ok a, t) ∧ p' = { p with tree := t } := by
  obtain ⟨_, _, hget, h⟩ := run_bind_eq_ok h
  cases hget
  obtain ⟨_, _, hset, h⟩ := run_bind_eq_ok h
  cases hset
  obtain ⟨hresult, rfl⟩ := Action.run_orFail_eq_ok h
  exact ⟨_, Prod.ext hresult rfl, rfl⟩

theorem Stage.record (h : Stage opened log calls p) {event : String}
    {entries : List (String × Value)}
    (hrun : (Action.record env event entries).run.run p = (.ok u, p')) :
    Stage opened log calls p' := by
  cases hrun
  obtain ⟨hplace, hsame, hholds, hcalls⟩ := h
  subst hplace
  have hwrite := Trace.write_sameBut hholds
    (Trace.record env.time (.str event) (entries.map fun entry => (.str entry.1, entry.2)))
  exact ⟨Trace.place?_write .., hsame.trans hwrite.1, hwrite.2, hcalls⟩

theorem ScanPlan.run_make_eq_ok {plan : ScanPlan}
    (h : (ScanPlan.make env options).run.run p = (.ok plan, p')) :
    Report.formats options.formats = .ok plan.formats ∧
      (chooseRules env.read p.tree options.rulesFile (ScanPlan.rules options)).value =
        .ok plan.ruleSet ∧
      p'.tree = p.tree ∧ p'.trace = p.trace ∧ p'.calls = p.calls := by
  obtain ⟨t, _, htree, rest⟩ := run_bind_eq_ok h
  obtain ⟨rfl, rfl⟩ := Action.run_tree_eq_ok htree
  dsimp only at rest
  split at rest
  · obtain ⟨_, _, hfail, -⟩ := run_bind_eq_ok rest
    cases hfail
  · obtain ⟨formats, _, hparse, rest'⟩ := run_bind_eq_ok rest
    obtain ⟨hformats, rfl⟩ := Action.run_orFail_eq_ok hparse
    obtain ⟨rules, p₂, hrules, rest''⟩ := run_bind_eq_ok rest'
    obtain ⟨hvalue, hsame⟩ := Action.run_logged_eq_ok hrules
    split at rest''
    · cases rest''
      exact ⟨hformats, hvalue.symm, hsame⟩
    · obtain ⟨_, _, -, hsay⟩ := run_bind_eq_ok rest''
      obtain ⟨_, _, -, hstop⟩ := run_bind_eq_ok hsay
      cases hstop
    · cases rest''

theorem Stage.announce (h : Stage opened log calls p) {plan : ScanPlan}
    (hrun : (announce env options plan).run.run p = (.ok u, p')) : Stage opened log calls p' := by
  obtain ⟨_, p₁, hsay, hrun⟩ := run_bind_eq_ok hrun
  obtain ⟨htree, htrace, hcalls⟩ := Action.run_say_eq_ok hsay
  exact (h.of_eq htree htrace hcalls).record hrun

theorem Stage.arcFindings (h : Stage opened log calls p) {ruleSet : RuleSet}
    (hrun : (arcFindings env options ruleSet).run.run p = (.ok found, p')) :
    (scanArc (p.tree.collectSources options.path options.exclude).value ruleSet).value =
      .ok found ∧ Stage opened log calls p' := by
  obtain ⟨t, _, htree, hrun₁⟩ := run_bind_eq_ok hrun
  obtain ⟨rfl, rfl⟩ := Action.run_tree_eq_ok htree
  obtain ⟨sources, p₁, hsources, hrun₂⟩ := run_bind_eq_ok hrun₁
  obtain ⟨rfl, htree₁, htrace₁, hcalls₁⟩ := Action.run_logged_eq_ok hsources
  obtain ⟨outcome, p₂, hscan, hrun₃⟩ := run_bind_eq_ok hrun₂
  obtain ⟨rfl, htree₂, htrace₂, hcalls₂⟩ := Action.run_logged_eq_ok hscan
  obtain ⟨findings, _, hok, hrun₄⟩ := run_bind_eq_ok hrun₃
  obtain ⟨hvalue, rfl⟩ := Action.run_orFail_eq_ok hok
  obtain ⟨_, p₃, hrecord, hrun₅⟩ := run_bind_eq_ok hrun₄
  cases hrun₅
  have hstage := (h.of_eq htree₁ htrace₁ hcalls₁).of_eq htree₂ htrace₂ hcalls₂
  exact ⟨hvalue, hstage.record hrecord⟩

/-- An analyzer that does not look into the log reports what it reports on the opened tree. -/
theorem Stage.analyzerFindings (h : Stage opened log calls p) {wanted : Bool} {event : String}
    {run : FileTree → Traced (List Finding)}
    (hsame : ∀ t, SameBut log opened t → run t = run opened)
    (hrun : (analyzerFindings env wanted event run).run.run p = (.ok found, p')) :
    (if wanted then (run opened).outcome = .ok found else found = []) ∧
      Stage opened log (calls ++ if wanted then (run opened).calls else []) p' := by
  unfold ContractScan.analyzerFindings at hrun
  cases wanted with
  | false =>
    cases hrun
    exact ⟨rfl, by simpa using h⟩
  | true =>
    obtain ⟨t, _, htree, hrun₁⟩ := run_bind_eq_ok hrun
    obtain ⟨rfl, rfl⟩ := Action.run_tree_eq_ok htree
    obtain ⟨findings, p₁, htraced, hrun₂⟩ := run_bind_eq_ok hrun₁
    obtain ⟨houtcome, htree₁, htrace₁, hcalls₁⟩ := Action.run_traced_eq_ok htraced
    obtain ⟨_, p₂, hrecord, hrun₃⟩ := run_bind_eq_ok hrun₂
    cases hrun₃
    rw [hsame _ h.sameBut] at houtcome hcalls₁
    have hstage : Stage opened log (calls ++ (run opened).calls) p₁ :=
      ⟨by rw [htrace₁, h.place?], by rw [htree₁]; exact h.sameBut,
        by rw [htree₁]; exact h.holdsFile, by rw [hcalls₁, h.calls]⟩
    exact ⟨houtcome, hstage.record hrecord⟩

theorem Stage.gather (h : Stage opened log [] p) {ruleSet : RuleSet} {found : ScanFindings}
    (hrun : (gather env options ruleSet).run.run p = (.ok found, p')) :
    let slither := Slither.run opened env.launch options.path options.exclude
    let mythril := Mythril.run opened env.launch options.path
    (scanArc (p.tree.collectSources options.path options.exclude).value ruleSet).value =
      .ok found.arc ∧
    (if options.slither then slither.outcome = .ok found.slither else found.slither = []) ∧
    (if options.mythril then mythril.outcome = .ok found.mythril else found.mythril = []) ∧
    Stage opened log ((if options.slither then slither.calls else []) ++
      if options.mythril then mythril.calls else []) p' := by
  obtain ⟨arc, p₁, harc, hrun₁⟩ := run_bind_eq_ok hrun
  obtain ⟨slither, p₂, hslither, hrun₂⟩ := run_bind_eq_ok hrun₁
  obtain ⟨mythril, p₃, hmythril, hrun₃⟩ := run_bind_eq_ok hrun₂
  cases hrun₃
  obtain ⟨hfound₁, hstage₁⟩ := h.arcFindings harc
  obtain ⟨hfound₂, hstage₂⟩ := hstage₁.analyzerFindings (fun t ht => ht.slither_run ..) hslither
  obtain ⟨hfound₃, hstage₃⟩ := hstage₂.analyzerFindings (fun t ht => ht.mythril_run ..) hmythril
  exact ⟨hfound₁, hfound₂, hfound₃, hstage₃⟩

end Stages

/-- All that was done on the way to the later state is writing to the log, wherever it is. -/
structure OnlyLogs (p p' : Progress) : Prop where
  place? : p'.trace.place? = p.trace.place?
  grows : (∀ place ∈ p.trace.place?, p.tree.kind? place = some false) → Grows p.tree p'.tree
  node? : ∀ names, p.trace.place? ≠ some names → p'.tree.node? names = p.tree.node? names
  calls : p'.calls = p.calls

namespace OnlyLogs

variable {p p' p'' : Progress} {env : Environment}

theorem of_eq (htree : p'.tree = p.tree) (htrace : p'.trace = p.trace)
    (hcalls : p'.calls = p.calls) : OnlyLogs p p' where
  place? := by rw [htrace]
  grows _ := by rw [htree]; exact .refl _
  node? names _ := by rw [htree]
  calls := hcalls

theorem trans (h : OnlyLogs p p') (h' : OnlyLogs p' p'') : OnlyLogs p p'' where
  place? := h'.place?.trans h.place?
  grows hfile := (h.grows hfile).trans <| h'.grows fun place hplace =>
    (h.grows hfile).kind? place false (hfile place (h.place? ▸ hplace))
  node? names hne := (h'.node? names (h.place? ▸ hne)).trans (h.node? names hne)
  calls := h'.calls.trans h.calls

theorem record {event : String} {entries : List (String × Value)} {u : Unit}
    (h : (Action.record env event entries).run.run p = (.ok u, p')) : OnlyLogs p p' := by
  cases h
  refine ⟨Trace.place?_write .., fun hfile => ?_, fun names hne => ?_, rfl⟩ <;> dsimp only
  all_goals
    rcases p.trace.tree_write p.tree (Trace.record env.time (.str event)
      (entries.map fun entry => (.str entry.1, entry.2))) with heq | ⟨place, content, hplace, heq⟩
    all_goals rw [heq]
  · exact .refl _
  · refine .put_file fun hdir => ?_
    have hkind := hfile place hplace
    rw [FileTree.kind?_eq_true_iff.mpr hdir] at hkind
    cases hkind
  · exact FileTree.node?_put_of_ne fun hnames => hne (hnames ▸ hplace)

theorem say {item : ConsoleItem} {u : Unit} (h : (Action.say item).run.run p = (.ok u, p')) :
    OnlyLogs p p' := by
  cases h
  exact .of_eq rfl rfl rfl

theorem sayAll {items : List ConsoleItem} {u : PUnit}
    (h : (items.forM Action.say).run.run p = (.ok u, p')) : OnlyLogs p p' := by
  induction items generalizing p with
  | nil =>
    cases h
    exact .of_eq rfl rfl rfl
  | cons item items ih =>
    obtain ⟨_, p₁, hsay, hrest⟩ := run_bind_eq_ok h
    exact (say hsay).trans (ih hrest)

end OnlyLogs

/-- Publishing changes the tree as the reports do, and writes to the log after that. -/
theorem run_publish_eq_ok {env : Environment} {options : ScanOptions} {plan : ScanPlan}
    {found : ScanFindings} {p p' : Progress} {u : Unit}
    (h : (publish env options plan found).run.run p = (.ok u, p')) :
    ∃ exported t, (Report.publish plan.formats options.out options.path found.all).run.run p.tree =
      (.ok exported, t) ∧ OnlyLogs { p with tree := t } p' := by
  obtain ⟨_, p₁, hsay, h₁⟩ := run_bind_eq_ok h
  cases hsay
  obtain ⟨exported, p₂, hedit, h₂⟩ := run_bind_eq_ok h₁
  obtain ⟨t, hpublish, rfl⟩ := Action.run_edit_eq_ok hedit
  obtain ⟨_, p₃, hshown, h₃⟩ := run_bind_eq_ok h₂
  have hlogs := (OnlyLogs.sayAll hshown).trans (.record h₃)
  exact ⟨exported, t, hpublish, hlogs.place?, hlogs.grows, hlogs.node?, hlogs.calls⟩

end ContractScan
