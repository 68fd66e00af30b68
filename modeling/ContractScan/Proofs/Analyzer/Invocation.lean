import ContractScan.Analyzer.Invocation
import ContractScan.Proofs.Json.RoundTrip
import ContractScan.Proofs.Text.Trim

/-! # Calls and what they mean

Computations with calls are composed call by call. The output of a call that came
to its end decides alone what the call means, its status and its errors do not.
-/

namespace ContractScan

namespace Traced

variable {α β : Type} {x : Traced α} {g : α → Traced β}

theorem outcome_bind (x : Traced α) (g : α → Traced β) :
    (x >>= g).outcome = x.outcome >>= fun a => (g a).outcome := by
  change (Traced.bind x g).outcome = _
  unfold Traced.bind
  cases x.outcome <;> rfl

theorem outcome_bind_eq_ok {b : β} (h : (x >>= g).outcome = .ok b) :
    ∃ a, x.outcome = .ok a ∧ (g a).outcome = .ok b := by
  rw [outcome_bind] at h
  exact bind_eq_ok_iff.mp h

theorem calls_bind_of_ok {a : α} (h : x.outcome = .ok a) :
    (x >>= g).calls = x.calls ++ (g a).calls := by
  change (Traced.bind x g).calls = _
  rw [Traced.bind, h]

theorem calls_bind_pure (x : Traced α) (f : α → β) :
    (x >>= fun a => pure (f a)).calls = x.calls := by
  change (Traced.bind x _).calls = _
  unfold Traced.bind
  cases x.outcome with
  | error e => rfl
  | ok a => exact List.append_nil _

theorem outcome_bind_log (x : Traced α) (message : α → String) :
    (x >>= fun a => log .info (message a) >>= fun _ => pure a).outcome = x.outcome := by
  rw [outcome_bind]
  cases x.outcome <;> rfl

theorem calls_bind_log (x : Traced α) (message : α → String) :
    (x >>= fun a => log .info (message a) >>= fun _ => pure a).calls = x.calls := by
  change (Traced.bind x _).calls = _
  unfold Traced.bind
  cases x.outcome with
  | error e => rfl
  | ok a => exact List.append_nil _

theorem calls_bind_of_error {e : AnalyzerError} (h : x.outcome = .error e) :
    (x >>= g).calls = x.calls := by
  change (Traced.bind x g).calls = _
  rw [Traced.bind, h]

end Traced

def versionCall (program option : String) : Invocation :=
  { arguments := [program, option] }

/-- A program is there: asked for its version, it ends with status zero. -/
def Installed (launch : Launcher) (program option : String) : Prop :=
  ∃ output errors, launch (versionCall program option) = .exited 0 output errors

/-- The output of a call has an integer that is too long to be read. -/
def WritesTooLong (outcome : Outcome) : Prop :=
  ∃ status output errors, outcome = .exited status output errors ∧
    Json.read (output.getD "").toList = .error .integerTooLong

theorem probe_of_exited {launch : Launcher} {arguments : List String}
    {output errors : Option String} (h : launch { arguments } = .exited 0 output errors) :
    probe launch arguments = { outcome := .ok true, calls := [{ arguments }] } := by
  unfold probe
  dsimp only
  rw [h]
  rfl

namespace Json

variable {text : List Char}

theorem readNumber_of_head {negative : Bool} (h : ∀ c ∈ text.head?, c.isDigit = false) :
    readNumber negative text = .error .malformed := by
  unfold readNumber
  split
  next rest => exact absurd (h '0' rfl) (by decide)
  next =>
    obtain _ | ⟨c, rest⟩ := text
    · rfl
    · simp [h c rfl]

theorem readValue_of_blank {fuel : Nat} (h : ∀ c ∈ text, Text.isBlank c = true) :
    readValue fuel text = .error .malformed := by
  obtain _ | fuel := fuel
  · rfl
  unfold readValue
  split
  case h_11 =>
    exact readNumber_of_head fun c hc => Text.isDigit_of_isBlank (h c (List.mem_of_mem_head? hc))
  all_goals exact absurd (h _ List.mem_cons_self) (by decide)

theorem read_of_blank (h : Text.trim text = []) : read text = .error .malformed := by
  have hspace : ∀ c ∈ skipSpace text, Text.isBlank c = true := fun c hc =>
    Text.blank_iff.mp (Text.trim_eq_nil_iff.mp h) c ((List.dropWhile_sublist _).subset hc)
  rw [read, readValue_of_blank hspace]
  rfl

end Json

section Interpretation

variable (tool : String) (limit : Option Seconds) (emptyOk : Bool) (status : Int)
  {output : Option String} (errors : Option String)

/-- Without a document in its output a call has failed, unless there need not be any. -/
theorem interpret_of_malformed (h : Json.read (output.getD "").toList = .error .malformed) :
    (∃ message kind,
      interpret tool limit emptyOk (.exited status output errors) =
        .ok (.failed tool message kind)) ∨
    emptyOk = true ∧
      interpret tool limit emptyOk (.exited status output errors) = .ok (.report tool .null) := by
  unfold interpret
  dsimp only
  split
  next => exact .inl ⟨_, _, rfl⟩
  next =>
    split
    next hblank =>
      rw [Bool.and_eq_true] at hblank
      exact .inr ⟨hblank.1, rfl⟩
    next =>
      rw [h]
      exact .inl ⟨_, _, rfl⟩

theorem interpret_of_ne_malformed
    (h : Json.read (output.getD "").toList ≠ .error .malformed) :
    interpret tool limit emptyOk (.exited status output errors) =
      ((Json.read (output.getD "").toList).map (.report tool)).mapError fun _ =>
        .integerTooLong := by
  unfold interpret
  dsimp only
  split
  next hempty =>
    rw [Bool.and_eq_true, String.isEmpty_iff] at hempty
    rw [hempty.2] at h
    exact absurd rfl h
  next =>
    split
    next hblank =>
      rw [Bool.and_eq_true, List.isEmpty_iff] at hblank
      exact absurd (Json.read_of_blank hblank.2) h
    next =>
      cases hread : Json.read (output.getD "").toList with
      | ok payload => rfl
      | error e =>
        cases e with
        | integerTooLong => rfl
        | malformed => exact absurd hread h

end Interpretation

/-- An analyzer that writes a value as findings and events are written, with any space around it,
has this value for its report. Neither its status nor its errors matter, nor whether it may be
silent. -/
theorem runAnalyzer_reads_print {v : Value} (hv : Json.IsJson Json.digitLimit v)
    {before after : List Char} (hbefore : ∀ c ∈ before, Json.isSpace c = true)
    (hafter : ∀ c ∈ after, Json.isSpace c = true) {launch : Launcher} {call : Invocation}
    {status : Int} {errors : Option String}
    (hcall : launch call = .exited status
      (some (String.ofList before ++ Json.print v ++ String.ofList after)) errors)
    (tool : String) (emptyOk : Bool) :
    (runAnalyzer launch tool call emptyOk).outcome = .ok (.report tool v) := by
  have hread : Json.read ((some (String.ofList before ++ Json.print v ++
      String.ofList after)).getD "").toList = .ok v := by
    simpa [Json.print] using Json.read_spaced hv hbefore hafter
  change interpret tool call.limit emptyOk (launch call) = _
  rw [hcall, interpret_of_ne_malformed _ _ _ _ _ (by rw [hread]; nofun), hread]
  rfl

/-- Everything a text can need an escape for, the empty list and the empty mapping, and the key of
an outer mapping again inside it. -/
def awkwardReport : Value :=
  .record [("", .list [.list [], .record [], .null, .bool false, .int (-10)]),
    ("\"\\/\n\r\t\x00\x7f", .str "\x08\x0c\x1f é 😀 \x7b[,:]\x7d"),
    ("k", .record [("", .str ""), ("k", .int 0)])]

theorem isJson_awkwardReport : Json.IsJson Json.digitLimit awkwardReport := by
  refine .record (by decide) ?_
  simp only [List.forall_mem_cons, List.not_mem_nil, false_implies, implies_true, and_true]
  refine ⟨.list ?_, .str _, .record (by decide) ?_⟩
  · simp only [List.forall_mem_cons, List.not_mem_nil, false_implies, implies_true, and_true]
    exact ⟨.list (by simp), .record (by decide) (by simp), .null, .bool false, .int (by decide)⟩
  · simp only [List.forall_mem_cons, List.not_mem_nil, false_implies, implies_true, and_true]
    exact ⟨.str _, .int (by decide)⟩

theorem runAnalyzer_reads_print_awkward :
    let output := String.ofList ['\n', '\t', '\r', ' '] ++ Json.print awkwardReport ++
      String.ofList ['\n', '\n']
    let launch : Launcher := fun _ => .exited 255 (some output) (some "error")
    Json.IsJson Json.digitLimit awkwardReport ∧
      (runAnalyzer launch "slither" { arguments := ["slither"] } true).outcome =
        .ok (.report "slither" awkwardReport) :=
  ⟨isJson_awkwardReport,
    runAnalyzer_reads_print isJson_awkwardReport (by simp [Json.isSpace]) (by simp [Json.isSpace])
      rfl "slither" true⟩

end ContractScan
