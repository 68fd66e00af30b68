import ContractScan.Proofs.Command.Journal

/-! # The events of the stages

A stage that comes to its end has all its events in the log, and one that stops
before that has the first of them. Stages one after another have their events one
after another.
-/

namespace ContractScan

def entry? (record : Value) (key : String) : Option Value :=
  match record with
  | .map entries => Value.lookup entries key
  | _ => none

def eventOf (record : Value) : String :=
  match entry? record "event" with
  | some (.str event) => event
  | _ => ""

def counts (records : List Value) : List Int :=
  records.filterMap fun record =>
    match entry? record "count" with
    | some (.int count) => some count
    | _ => none

def total (counts : List Int) : Int :=
  counts.foldr (· + ·) 0

theorem total_append (counts more : List Int) :
    total (counts ++ more) = total counts + total more := by
  induction counts with
  | nil => exact (Int.zero_add _).symm
  | cons count counts ih =>
    change count + total (counts ++ more) = count + total counts + total more
    rw [ih, Int.add_assoc]

theorem counts_append (records more : List Value) :
    counts (records ++ more) = counts records ++ counts more :=
  List.filterMap_append

theorem Recordable.eventOf_recordOf {entries : List (String × Value)} (h : Recordable entries)
    (env : Environment) (event : String) : eventOf (env.recordOf event entries) = event := by
  rw [h.recordOf_eq]
  rfl

def ScanOptions.findingEvents (options : ScanOptions) : List String :=
  ["start"] ++ (["arc_findings"] ++ ((if options.slither then ["slither_findings"] else []) ++
    if options.mythril then ["mythril_findings"] else []))

/-- How much is found by the rules and by each of the analyzers that are asked for. -/
def ScanFindings.counts (found : ScanFindings) (options : ScanOptions) : List Int :=
  [(found.arc.length : Int)] ++ ((if options.slither then [(found.slither.length : Int)] else []) ++
    if options.mythril then [(found.mythril.length : Int)] else [])

section Steps

variable {α β : Type} {x : Action α} {f : α → Action β} {events events' : List String}
  {P : α → List Value → Prop} {Q : β → List Value → Prop}

/-- However the step ends, it changes no file and writes nothing to the log. -/
def Silent (x : Action α) : Prop :=
  ∀ p result p', x.run.run p = (result, p') → p'.tree = p.tree ∧ p'.trace = p.trace

/-- A step with these events: if it ends well, all of them are in the log and its result goes with
their records; if it stops before that, the first of them are. -/
def Logs (x : Action α) (events : List String) (P : α → List Value → Prop) : Prop :=
  ∀ ⦃log place records p result p'⦄, Journal log place records p → x.run.run p = (result, p') →
    ∃ more, Journal log place (records ++ more) p' ∧ more.map eventOf <+: events ∧
      ∀ a, result = .ok a → more.map eventOf = events ∧ P a more

theorem Logs.bind {R : α → β → List Value → Prop} (hx : Logs x events P)
    (hf : ∀ a, Logs (f a) events' (R a))
    (hQ : ∀ a b more more', P a more → R a b more' → Q b (more ++ more')) :
    Logs (x >>= f) (events ++ events') Q := by
  intro log place records p result p' hjournal hrun
  rcases hfirst : x.run.run p with ⟨ending | a, p₁⟩
  · obtain ⟨more, hjournal₁, hprefix, -⟩ := hx hjournal hfirst
    rw [run_bind_of_error hfirst] at hrun
    cases hrun
    exact ⟨more, hjournal₁, hprefix.trans (List.prefix_append _ _), nofun⟩
  · obtain ⟨more, hjournal₁, -, hdone⟩ := hx hjournal hfirst
    obtain ⟨hevents, hP⟩ := hdone a rfl
    rw [run_bind_of_ok hfirst] at hrun
    obtain ⟨more', hjournal₂, hprefix, hdone'⟩ := hf a hjournal₁ hrun
    refine ⟨more ++ more', by rwa [← List.append_assoc], ?_, fun b hb => ?_⟩
    · rw [List.map_append, hevents]
      exact (List.prefix_append_right_inj events).mpr hprefix
    · obtain ⟨hevents', hR⟩ := hdone' b hb
      rw [List.map_append, hevents, hevents']
      exact ⟨rfl, hQ a b more more' hP hR⟩

theorem Logs.imp {Q : α → List Value → Prop} (h : Logs x events P)
    (hQ : ∀ a more, P a more → Q a more) : Logs x events Q := by
  intro log place records p result p' hjournal hrun
  obtain ⟨more, hjournal', hprefix, hdone⟩ := h hjournal hrun
  exact ⟨more, hjournal', hprefix, fun a ha => ⟨(hdone a ha).1, hQ a more (hdone a ha).2⟩⟩

theorem logs_pure (a : α) : Logs (pure a) [] fun b more => b = a ∧ more = [] := by
  intro log place records p result p' hjournal hrun
  cases hrun
  refine ⟨[], by rwa [List.append_nil], List.prefix_rfl, ?_⟩
  rintro _ ⟨⟩
  exact ⟨rfl, rfl, rfl⟩

theorem Logs.bind_pure {g : α → β} (hx : Logs x events P)
    (hQ : ∀ a more, P a more → Q (g a) more) : Logs (x >>= fun a => pure (g a)) events Q := by
  have h : Logs (x >>= fun a => pure (g a)) (events ++ []) Q := by
    refine hx.bind (fun a => logs_pure (g a)) ?_
    rintro a _ more _ hP ⟨rfl, rfl⟩
    rw [List.append_nil]
    exact hQ a more hP
  rwa [List.append_nil] at h

theorem Silent.logs (h : Silent x) : Logs x [] fun _ more => more = [] := by
  intro log place records p result p' hjournal hrun
  obtain ⟨htree, htrace⟩ := h p result p' hrun
  refine ⟨[], ?_, List.prefix_rfl, fun _ _ => ⟨rfl, rfl⟩⟩
  rw [List.append_nil]
  exact hjournal.of_eq htree htrace

theorem Silent.bind_logs (hx : Silent x) (hf : ∀ a, Logs (f a) events Q) :
    Logs (x >>= f) events Q :=
  hx.logs.bind hf fun _ _ _ _ hnil hQ => by rwa [hnil]

theorem silent_tree : Silent Action.tree := by
  intro p result p' h
  cases h
  exact ⟨rfl, rfl⟩

theorem silent_say (item : ConsoleItem) : Silent (Action.say item) := by
  intro p result p' h
  cases h
  exact ⟨rfl, rfl⟩

theorem silent_logged (result : Logged α) : Silent (Action.logged result) := by
  intro p result p' h
  cases h
  exact ⟨rfl, rfl⟩

theorem silent_orFail {ε : Type} (cause : ε → CommandError) (outcome : Except ε α) :
    Silent (Action.orFail cause outcome) := by
  intro p result p' h
  cases outcome <;> cases h <;> exact ⟨rfl, rfl⟩

theorem silent_traced (found : Traced α) : Silent (Action.traced found) := by
  intro p result p' h
  rw [Action.traced, run_bind_of_ok (rfl : (modify _ : Action Unit).run.run p = (.ok (), _))] at h
  obtain ⟨htree, htrace⟩ := silent_orFail _ _ _ _ _ h
  exact ⟨htree, htrace⟩

theorem run_sayAll (items : List ConsoleItem) (p : Progress) :
    ∃ p', (items.forM Action.say).run.run p = (.ok (), p') ∧ p'.tree = p.tree ∧
      p'.trace = p.trace := by
  induction items generalizing p with
  | nil => exact ⟨p, rfl, rfl, rfl⟩
  | cons item items ih => exact ih { p with console := p.console ++ [item] }

theorem silent_sayAll (items : List ConsoleItem) : Silent (items.forM Action.say) := by
  intro p result p' h
  obtain ⟨_, hrun, htree, htrace⟩ := run_sayAll items p
  rw [hrun] at h
  cases h
  exact ⟨htree, htrace⟩

theorem logs_record {env : Environment} {event : String} {entries : List (String × Value)}
    (h : Recordable entries) :
    Logs (Action.record env event entries) [event]
      fun _ more => more = [env.recordOf event entries] := by
  intro log place records p result p' hjournal hrun
  cases hrun
  have hevents : [env.recordOf event entries].map eventOf = [event] := by
    rw [List.map_singleton, h.eventOf_recordOf]
  have hprefix : [env.recordOf event entries].map eventOf <+: [event] :=
    ⟨[], by rw [hevents, List.append_nil]⟩
  exact ⟨_, hjournal.record h rfl, hprefix, fun _ _ => ⟨hevents, rfl⟩⟩

theorem logs_record_pure {env : Environment} {event : String} {entries : List (String × Value)}
    (h : Recordable entries) (a : α) :
    Logs (Action.record env event entries >>= fun _ => pure a) [event]
      fun b more => b = a ∧ more = [env.recordOf event entries] :=
  (logs_record h).bind_pure fun _ _ hmore => ⟨rfl, hmore⟩

end Steps

section Stages

variable (env : Environment) (options : ScanOptions)

theorem newline_not_mem_texts (items : List String) : '\n' ∉ Json.render (texts items) := by
  refine Json.newline_not_mem_render_list ?_
  simp [Json.render, Json.newline_not_mem_renderText]

theorem newline_not_mem_bool (b : Bool) : '\n' ∉ Json.render (.bool b) := by
  cases b <;> decide

theorem newline_not_mem_findings (findings : List Finding) :
    '\n' ∉ Json.render (.list (findings.map Finding.toValue)) := by
  refine Json.newline_not_mem_render_list ?_
  rw [List.forall_mem_map]
  exact fun f _ => Json.newline_not_mem_render (f.isJson_toValue (Nat.le_refl _))

theorem logs_announce (plan : ScanPlan) :
    Logs (announce env options plan) ["start"] fun _ more => counts more = [] := by
  have hentries : Recordable [("path", .str options.path.text), ("rules", texts plan.ruleSet.ids),
      ("exclude", texts options.exclude), ("slither", .bool options.slither),
      ("mythril", .bool options.mythril),
      ("formats", texts (plan.formats.map Report.Format.word))] := by
    refine ⟨by simp, ?_⟩
    simp only [List.forall_mem_cons]
    exact ⟨Json.newline_not_mem_renderText _, newline_not_mem_texts _, newline_not_mem_texts _,
      newline_not_mem_bool _, newline_not_mem_bool _, newline_not_mem_texts _, by simp⟩
  refine (silent_say _).bind_logs fun _ => (logs_record hentries).imp ?_
  rintro _ _ rfl
  rfl

theorem recordable_findings (findings : List Finding) : Recordable (findingEntries findings) := by
  refine ⟨by simp [findingEntries], ?_⟩
  simp only [findingEntries, List.forall_mem_cons]
  exact ⟨Json.newline_not_mem_renderInt _, newline_not_mem_findings _, by simp⟩

theorem logs_arcFindings (ruleSet : RuleSet) :
    Logs (arcFindings env options ruleSet) ["arc_findings"]
      fun found more => counts more = [(found.length : Int)] := by
  refine silent_tree.bind_logs fun tree => (silent_logged _).bind_logs fun sources => ?_
  refine (silent_logged _).bind_logs fun outcome => (silent_orFail _ _).bind_logs fun findings => ?_
  have hentries : Recordable (("files", .int sources.length) :: findingEntries findings) := by
    refine ⟨by simp [findingEntries], ?_⟩
    rw [List.forall_mem_cons]
    exact ⟨Json.newline_not_mem_renderInt _, (recordable_findings findings).oneLine⟩
  refine (logs_record_pure hentries findings).imp ?_
  rintro _ _ ⟨rfl, rfl⟩
  rfl

theorem logs_analyzerFindings (wanted : Bool) (event : String)
    (run : FileTree → Traced (List Finding)) :
    Logs (analyzerFindings env wanted event run) (if wanted then [event] else [])
      fun found more => counts more = if wanted then [(found.length : Int)] else [] := by
  unfold analyzerFindings
  cases wanted with
  | false =>
    refine (logs_pure _).imp ?_
    rintro _ _ ⟨-, rfl⟩
    rfl
  | true =>
    refine silent_tree.bind_logs fun tree => (silent_traced _).bind_logs fun findings => ?_
    refine (logs_record_pure (recordable_findings findings) findings).imp ?_
    rintro _ _ ⟨rfl, rfl⟩
    rfl

theorem logs_gather (ruleSet : RuleSet) :
    Logs (gather env options ruleSet) (["arc_findings"] ++
        ((if options.slither then ["slither_findings"] else []) ++
          if options.mythril then ["mythril_findings"] else []))
      fun found more => counts more = found.counts options := by
  refine (logs_arcFindings env options ruleSet).bind
    (R := fun arc found more => found.arc = arc ∧
      counts more = (if options.slither then [(found.slither.length : Int)] else []) ++
        if options.mythril then [(found.mythril.length : Int)] else []) (fun arc => ?_) ?_
  · refine (logs_analyzerFindings env options.slither "slither_findings" _).bind
      (R := fun slither found more => found.arc = arc ∧ found.slither = slither ∧
        counts more = if options.mythril then [(found.mythril.length : Int)] else [])
      (fun slither => ?_) ?_
    · exact (logs_analyzerFindings env options.mythril "mythril_findings" _).bind_pure
        fun mythril more hcounts => ⟨rfl, rfl, hcounts⟩
    · rintro _ found more more' hcounts ⟨harc, rfl, hcounts'⟩
      rw [counts_append, hcounts, hcounts']
      exact ⟨harc, rfl⟩
  · rintro _ found more more' hcounts ⟨rfl, hcounts'⟩
    rw [counts_append, hcounts, hcounts', ScanFindings.counts]

theorem logs_find (plan : ScanPlan) :
    Logs (announce env options plan >>= fun _ => gather env options plan.ruleSet)
      options.findingEvents fun found more => counts more = found.counts options := by
  refine (logs_announce env options plan).bind (fun _ => logs_gather env options plan.ruleSet) ?_
  intro _ found more more' hnone hcounts
  rw [counts_append, hnone, hcounts, List.nil_append]

end Stages

end ContractScan
