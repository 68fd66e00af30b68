import ContractScan.Command.Scan
import ContractScan.Proofs.FileTree.Growth

/-! # How scans end

A scan ends with the code of a completed one only after everything is found and
published. What ends it before is an error, or a refusal with a code of its own.
-/

namespace ContractScan

def findAndPublish (env : Environment) (options : ScanOptions) : Action ScanFindings := do
  let trace ← Action.edit (Trace.start options.debugLog)
  modify fun p => { p with trace }
  let plan ← ScanPlan.make env options
  announce env options plan
  let found ← gather env options plan.ruleSet
  publish env options plan found
  return found

theorem scanCommand_eq (env : Environment) (options : ScanOptions) :
    scanCommand env options = findAndPublish env options >>= conclude env options := by
  simp [scanCommand, findAndPublish, bind_assoc]

section Endings

variable {α β : Type}

/-- No code of a completed scan comes out of the step. -/
def NeverCompletes (x : Action α) : Prop :=
  ∀ p code p', x.run.run p = (.error (.exit code), p') → 1 < code

theorem NeverCompletes.bind {x : Action α} {f : α → Action β} (hx : NeverCompletes x)
    (hf : ∀ a, NeverCompletes (f a)) : NeverCompletes (x >>= f) := by
  intro p code p' h
  rcases run_bind_eq_error h with hstop | ⟨a, p₁, -, hstop⟩
  · exact hx p code p' hstop
  · exact hf a p₁ code p' hstop

theorem neverCompletes_of_ok {x : Action α} (h : ∀ p, ∃ a p', x.run.run p = (.ok a, p')) :
    NeverCompletes x := by
  intro p code p' hstop
  obtain ⟨a, p₁, hok⟩ := h p
  rw [hok] at hstop
  cases hstop

theorem neverCompletes_orFail {ε : Type} (cause : ε → CommandError) (x : Except ε α) :
    NeverCompletes (Action.orFail cause x) := by
  intro p code p' h
  cases x <;> cases h

theorem neverCompletes_logged (result : Logged α) : NeverCompletes (Action.logged result) :=
  neverCompletes_of_ok fun _ => ⟨_, _, rfl⟩

theorem neverCompletes_record (env : Environment) (event : String)
    (entries : List (String × Value)) : NeverCompletes (Action.record env event entries) :=
  neverCompletes_of_ok fun _ => ⟨_, _, rfl⟩

theorem neverCompletes_say (item : ConsoleItem) : NeverCompletes (Action.say item) :=
  neverCompletes_of_ok fun _ => ⟨_, _, rfl⟩

theorem neverCompletes_pure (a : α) : NeverCompletes (pure a) :=
  neverCompletes_of_ok fun _ => ⟨_, _, rfl⟩

theorem neverCompletes_tree : NeverCompletes Action.tree :=
  neverCompletes_of_ok fun _ => ⟨_, _, rfl⟩

theorem neverCompletes_traced (result : Traced α) : NeverCompletes (Action.traced result) :=
  (neverCompletes_of_ok fun _ => ⟨_, _, rfl⟩).bind fun _ => neverCompletes_orFail _ _

theorem neverCompletes_edit (change : FileTree.Edit α) : NeverCompletes (Action.edit change) :=
  (neverCompletes_of_ok fun _ => ⟨_, _, rfl⟩).bind fun _ =>
    (neverCompletes_of_ok fun _ => ⟨_, _, rfl⟩).bind fun _ => neverCompletes_orFail _ _

variable (env : Environment) (options : ScanOptions)

theorem neverCompletes_make : NeverCompletes (ScanPlan.make env options) := by
  refine neverCompletes_tree.bind fun tree => ?_
  dsimp only
  split
  · intro p code p' h
    cases h
  · refine (neverCompletes_orFail _ _).bind fun formats => ?_
    refine (neverCompletes_logged _).bind fun rules => ?_
    split
    · exact neverCompletes_pure _
    · intro p code p' h
      cases h
      decide
    · intro p code p' h
      cases h

theorem neverCompletes_arcFindings (ruleSet : RuleSet) :
    NeverCompletes (arcFindings env options ruleSet) :=
  neverCompletes_tree.bind fun _ => (neverCompletes_logged _).bind fun _ =>
    (neverCompletes_logged _).bind fun _ => (neverCompletes_orFail _ _).bind fun _ =>
      (neverCompletes_record _ _ _).bind fun _ => neverCompletes_pure _

theorem neverCompletes_analyzerFindings (wanted : Bool) (event : String)
    (run : FileTree → Traced (List Finding)) :
    NeverCompletes (analyzerFindings env wanted event run) := by
  unfold analyzerFindings
  cases wanted with
  | false => exact neverCompletes_pure []
  | true =>
    exact neverCompletes_tree.bind fun _ => (neverCompletes_traced _).bind fun _ =>
      (neverCompletes_record _ _ _).bind fun _ => neverCompletes_pure _

theorem neverCompletes_sayAll (items : List ConsoleItem) :
    NeverCompletes (items.forM Action.say) := by
  induction items with
  | nil => exact neverCompletes_pure ()
  | cons item items ih => exact (neverCompletes_say item).bind fun _ => ih

theorem neverCompletes_findAndPublish : NeverCompletes (findAndPublish env options) := by
  refine (neverCompletes_edit _).bind fun trace => ?_
  refine (neverCompletes_of_ok fun _ => ⟨_, _, rfl⟩).bind fun _ => ?_
  refine (neverCompletes_make env options).bind fun plan => ?_
  refine ((neverCompletes_say _).bind fun _ => neverCompletes_record _ _ _).bind fun _ => ?_
  refine NeverCompletes.bind ?_ fun found => NeverCompletes.bind ?_ fun _ => neverCompletes_pure _
  · exact (neverCompletes_arcFindings env options _).bind fun _ =>
      (neverCompletes_analyzerFindings env _ _ _).bind fun _ =>
        (neverCompletes_analyzerFindings env _ _ _).bind fun _ => neverCompletes_pure _
  · exact (neverCompletes_say _).bind fun _ => (neverCompletes_edit _).bind fun _ =>
      (neverCompletes_sayAll _).bind fun _ => neverCompletes_record _ _ _

end Endings

end ContractScan
