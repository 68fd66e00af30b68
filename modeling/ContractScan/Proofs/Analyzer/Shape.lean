import ContractScan.Analyzer.Shape
import ContractScan.Proofs.Finding.Schema

/-! # Reading values of any shape

What a report may hold for its entries to be read, and which data then become
those of a finding.
-/

namespace ContractScan

namespace Shape

def valueAt (entries : List (Value × Value)) (key : String) : Value :=
  (Value.lookup entries key).getD .null

/-- What can be walked over, with its parts. What counts as false has none. -/
inductive Parts : Value → List Value → Prop where
  | none {value : Value} (h : value.truthy = false) : Parts value []
  | list (items : List Value) : Parts (.list items) items
  | set (items : List Value) : Parts (.set items) items
  | characters (s : String) : Parts (.str s) (s.toList.map fun c => .str c.toString)
  | keys (entries : List (Value × Value)) : Parts (.map entries) (entries.map (·.1))

/-- What can be asked for entries, with these. What counts as false has none. -/
inductive Entries : Value → List (Value × Value) → Prop where
  | none {value : Value} (h : value.truthy = false) : Entries value []
  | map (entries : List (Value × Value)) : Entries (.map entries) entries

/-- A property of a value, unless the value counts as false. -/
def IfAny (P : Value → Prop) (value : Value) : Prop :=
  value.truthy = true → P value

def IsText (value : Value) : Prop :=
  ∃ s, Field.text value = .ok s

def IsPositive (value : Value) : Prop :=
  ∃ n, Field.positive value = .ok n

/-- What may be left out or null, and otherwise has a property. -/
def OrNull (P : Value → Prop) (value : Value) : Prop :=
  value = .null ∨ P value

def IsString (value : Value) : Prop :=
  ∃ s, value = .str s

def IsNatural (value : Value) : Prop :=
  ∃ n : Nat, value = .int n

def IsListOf (P : Value → Prop) (value : Value) : Prop :=
  ∃ items, value = .list items ∧ ∀ item ∈ items, P item

def IsMapOf (P : List (Value × Value) → Prop) (value : Value) : Prop :=
  ∃ entries, value = .map entries ∧ P entries

def textOf : Value → String
  | .str s => s
  | _ => ""

def numberOf : Value → Nat
  | .int n => n.toNat
  | _ => 0

section Reading

variable {value item : Value} {parts : List Value} {entries : List (Value × Value)}

theorem entry_eq_ok_iff {key : String} :
    entry value key = .ok item ↔ ∃ entries, value = .map entries ∧ valueAt entries key = item := by
  unfold entry valueAt
  split <;> simp_all

theorem entry_map (entries : List (Value × Value)) (key : String) :
    entry (.map entries) key = .ok (valueAt entries key) := rfl

theorem orElse_of_truthy {other : Value} (h : value.truthy = true) :
    orElse value other = value := by
  simp [orElse, h]

theorem orElse_of_not_truthy {other : Value} (h : value.truthy = false) :
    orElse value other = other := by
  simp [orElse, h]

theorem elementsIfAny_eq_ok_iff : elementsIfAny value = .ok parts ↔ Parts value parts := by
  unfold elementsIfAny
  split
  next htruthy =>
    constructor
    · intro h
      cases value <;> cases h <;> constructor
    · rintro (hfalse | _ | _ | _ | _)
      · rw [hfalse] at htruthy
        cases htruthy
      all_goals rfl
  next hfalse =>
    rw [Bool.not_eq_true] at hfalse
    constructor
    · intro h
      cases h
      exact .none hfalse
    · rintro (_ | items | items | s | entries)
      · rfl
      all_goals simp_all [Value.truthy]

theorem orElse_map_eq_iff : orElse value (.map []) = .map entries ↔ Entries value entries := by
  cases htruthy : value.truthy with
  | true =>
    rw [orElse_of_truthy htruthy]
    constructor
    · rintro rfl
      exact .map entries
    · rintro (hfalse | _)
      · rw [hfalse] at htruthy
        cases htruthy
      · rfl
  | false =>
    rw [orElse_of_not_truthy htruthy]
    constructor
    · intro h
      cases h
      exact .none htruthy
    · rintro (_ | _)
      · rfl
      · simp_all [Value.truthy]

theorem ifAny_iff (P : Value → Prop) {other : Value} (hother : P other) :
    P (orElse value other) ↔ IfAny P value := by
  unfold IfAny
  cases htruthy : value.truthy with
  | true => simp [orElse_of_truthy htruthy]
  | false => simpa [orElse_of_not_truthy htruthy] using hother

theorem isText_str (s : String) : IsText (.str s) := ⟨s, rfl⟩

theorem exists_optionalText_iff :
    (∃ s, Field.optionalText value = .ok s) ↔ value = .null ∨ IsText value := by
  unfold Field.optionalText IsText
  split
  next => simp
  next hne => cases Field.text value <;> simp [Checked.map, show value ≠ .null from hne]

theorem exists_label_iff {α : Type} {table : List (String × α)} {default : α} :
    (∃ a, label table default value = .ok a) ↔ IfAny (fun value => value.isKey = true) value := by
  have hempty : (Value.str "").isKey = true := rfl
  rw [← ifAny_iff _ hempty]
  unfold label
  split
  next s hs => simp [hs, Value.isKey]
  next => split <;> simp_all

theorem mem_of_label_eq_ok {α : Type} {table : List (String × α)} {default a : α}
    (h : label table default value = .ok a) : a ∈ default :: table.map (·.2) := by
  unfold label at h
  split at h
  next s _ =>
    cases h
    cases hlookup : table.lookup s with
    | none => exact List.mem_cons_self
    | some b =>
      obtain ⟨l₁, l₂, rfl, -⟩ := List.lookup_eq_some_iff.mp hlookup
      simp
  next =>
    split at h
    · cases h
      exact List.mem_cons_self
    · cases h

theorem severity_of_label {table : List (String × String)} {default word : String}
    (hwords : ∀ word ∈ default :: table.map (·.2), ∃ severity ∈ Severity.all, severity.word = word)
    (h : label table default value = .ok word) :
    ∃ severity, Severity.ofValue (.str word) = .ok severity := by
  obtain ⟨severity, -, rfl⟩ := hwords word (mem_of_label_eq_ok h)
  exact ⟨severity, Severity.ofValue_word severity⟩

end Reading

section Documents

variable {value : Value}

theorem OrNull.ifAny {P : Value → Prop} (h : OrNull P value) : IfAny P value := by
  intro htruthy
  obtain rfl | h := h
  · cases htruthy
  · exact h

theorem IsString.isText (h : IsString value) : IsText value := by
  obtain ⟨s, rfl⟩ := h
  exact isText_str s

theorem OrNull.ifAny_isText (h : OrNull IsString value) : IfAny IsText value :=
  fun htruthy => (h.ifAny htruthy).isText

theorem OrNull.exists_entries {P : List (Value × Value) → Prop} (h : OrNull (IsMapOf P) value)
    (hnone : P []) : ∃ entries, Entries value entries ∧ P entries := by
  obtain rfl | ⟨entries, rfl, hentries⟩ := h
  · exact ⟨[], .none rfl, hnone⟩
  · exact ⟨entries, .map entries, hentries⟩

/-- A line that is left out or zero is the first one. -/
theorem positive_orElse (h : OrNull IsNatural value) :
    Field.positive (orElse value (.int 1)) =
      .ok ⟨max 1 (numberOf value), Nat.lt_of_lt_of_le Nat.one_pos (Nat.le_max_left ..)⟩ := by
  obtain rfl | ⟨n, rfl⟩ := h
  · rfl
  · obtain rfl | hpos := Nat.eq_zero_or_pos n
    · rfl
    · have htruthy : (Value.int n).truthy = true := by
        simpa [Value.truthy] using Nat.ne_of_gt hpos
      have hmax : max 1 (numberOf (.int n)) = n := Nat.max_eq_right hpos
      rw [orElse_of_truthy htruthy, Finding.positive_natCast hpos]
      simp only [hmax]

theorem label_eq_ok {α : Type} (table : List (String × α)) (default : α)
    (h : OrNull IsString value) :
    label table default value = .ok ((table.lookup (textOf value)).getD default) := by
  obtain rfl | ⟨s, rfl⟩ := h
  · rfl
  · have hsame : orElse (.str s) (.str "") = .str s := by
      cases hs : (Value.str s).truthy with
      | true => exact orElse_of_truthy hs
      | false =>
        have hempty : s = "" := by simpa [Value.truthy] using hs
        rw [orElse_of_not_truthy hs, hempty]
    rw [label, hsame]
    rfl

end Documents

section Findings

variable {f : Finding}

theorem finding_eq_ok_iff {fields : List (String × Value)} :
    finding fields = .ok f ↔
      ∃ entries, Value.record fields = .map entries ∧ Finding.ofEntries entries = .ok f ∧
        Field.strayKeys Finding.fieldNames entries = [] := by
  rw [← Field.record_eq_ok_iff]
  change _ ↔ Finding.ofValue (.record fields) = .ok f
  unfold finding
  split <;> simp_all

theorem exists_finding_iff {tool : Tool}
    {id severity exploitability remediation prompt check : String}
    {title description filePath line snippet contract function : Value} :
    (∃ f, finding [("id", .str id), ("title", title), ("severity", .str severity),
      ("description", description), ("file_path", filePath), ("line_number", line),
      ("code_snippet", snippet), ("exploitability", .str exploitability),
      ("remediation", .str remediation), ("fix_prompt", .str prompt),
      ("contract_name", contract), ("function_name", function), ("detector", .str check),
      ("tool", .str tool.word)] = .ok f) ↔
    IsText title ∧ (∃ s, Severity.ofValue (.str severity) = .ok s) ∧ IsText description ∧
      IsText filePath ∧ IsPositive line ∧ IsText snippet ∧ (contract = .null ∨ IsText contract) ∧
      (function = .null ∨ IsText function) := by
  have htaken {α : Type} {x : Checked α} {step : Step} {a : α} (h : x.under step = .ok a) :
      ∃ a, x = .ok a := ⟨a, Checked.under_eq_ok_iff.mp h⟩
  constructor
  · rintro ⟨f, h⟩
    obtain ⟨_, ⟨⟩, hfields, -⟩ := finding_eq_ok_iff.mp h
    obtain ⟨-, htitle, hseverity, -, hdescription, hpath, hline, hsnippet, -, -, -, -, hcontract,
      hfunction, -⟩ := Finding.ofEntries_eq_ok_iff.mp hfields
    exact ⟨htaken htitle, htaken hseverity, htaken hdescription, htaken hpath, htaken hline,
      htaken hsnippet, exists_optionalText_iff.mp (htaken hcontract),
      exists_optionalText_iff.mp (htaken hfunction)⟩
  · rintro ⟨⟨name, hname⟩, ⟨level, hlevel⟩, ⟨said, hsaid⟩, ⟨path, hpath⟩, ⟨⟨number, hpos⟩, hline⟩,
      ⟨code, hcode⟩, hcontract, hfunction⟩
    obtain ⟨contractName, hcontract⟩ := exists_optionalText_iff.mpr hcontract
    obtain ⟨functionName, hfunction⟩ := exists_optionalText_iff.mpr hfunction
    let f : Finding :=
      { id, title := name, severity := level, description := said, filePath := path,
        lineNumber := number, codeSnippet := code, exploitability, remediation,
        fixPrompt := prompt, contractName, functionName, detector := check, tool,
        lineNumber_pos := hpos }
    refine ⟨f, finding_eq_ok_iff.mpr ⟨_, rfl, Finding.ofEntries_eq_ok_iff.mpr ?_, rfl⟩⟩
    have hgiven {α : Type} {x : Checked α} {step : Step} {a : α} (h : x = .ok a) :
        x.under step = .ok a := Checked.under_eq_ok_iff.mpr h
    exact ⟨rfl, hgiven hname, hgiven hlevel, rfl, hgiven hsaid, hgiven hpath, hgiven hline,
      hgiven hcode, rfl, rfl, rfl, rfl, hgiven hcontract, hgiven hfunction, rfl,
      hgiven (Tool.ofValue_word tool), rfl, rfl⟩

theorem severity_line_of_finding {tool : Tool}
    {id severity exploitability remediation prompt check : String}
    {title description filePath line snippet contract function : Value}
    (h : finding [("id", .str id), ("title", title), ("severity", .str severity),
      ("description", description), ("file_path", filePath), ("line_number", line),
      ("code_snippet", snippet), ("exploitability", .str exploitability),
      ("remediation", .str remediation), ("fix_prompt", .str prompt),
      ("contract_name", contract), ("function_name", function), ("detector", .str check),
      ("tool", .str tool.word)] = .ok f) :
    f.severity.word = severity ∧
      Field.positive line = .ok ⟨f.lineNumber, f.lineNumber_pos⟩ := by
  obtain ⟨_, ⟨⟩, hfields, -⟩ := finding_eq_ok_iff.mp h
  obtain ⟨-, -, hseverity, -, -, -, hline, -⟩ := Finding.ofEntries_eq_ok_iff.mp hfields
  exact ⟨Severity.word_of_ofValue (Checked.under_eq_ok_iff.mp hseverity),
    Checked.under_eq_ok_iff.mp hline⟩

variable {id : String} {fields : List (String × Value)}

theorem id_of_finding (h : finding (("id", .str id) :: fields) = .ok f) : f.id = id := by
  obtain ⟨_, ⟨⟩, hfields, -⟩ := finding_eq_ok_iff.mp h
  obtain ⟨value, hvalue, htext⟩ :=
    Field.required_eq_ok_iff.mp (Finding.ofEntries_eq_ok_iff.mp hfields).1
  cases hvalue
  cases htext
  rfl

/-- The id is checked by itself: another one makes the same finding under that id. -/
theorem finding_withId (id' : String) (h : finding (("id", .str id) :: fields) = .ok f) :
    finding (("id", .str id') :: fields) = .ok { f with id := id' } := by
  obtain ⟨_, ⟨⟩, hfields, hstray⟩ := finding_eq_ok_iff.mp h
  refine finding_eq_ok_iff.mpr ⟨_, rfl, Finding.ofEntries_eq_ok_iff.mpr ⟨rfl, ?_⟩, hstray⟩
  exact (Finding.ofEntries_eq_ok_iff.mp hfields).2

end Findings

end Shape

end ContractScan
