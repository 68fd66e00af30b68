import ContractScan.Proofs.Rule.Document
import ContractScan.Rule.Load

/-! # How loading a rule file can fail

Most faults of a rule file are refused as faults of the configuration. Others end
the loading with an error of their own: a path that cannot be asked for, octets
that are no text, a scalar that has no value, and a pattern with a count that does
not fit.
-/

namespace ContractScan

instance : Subsingleton Rule.Overflow := ⟨fun | .overflow, .overflow => rfl⟩

namespace Rule

variable {registry : Registry} {rule : Rule} {value : Value}

theorem checkPattern_eq_error_iff :
    rule.checkPattern = .error .overflow ↔ rule.matcher = .error .countTooLarge := by
  obtain ⟨hcount, hcheck⟩ | ⟨node, hnode, -, hcheck⟩ | ⟨hcount, -, kind, hcheck⟩ :=
    checkPattern_cases rule
  · simp [hcount, hcheck]
  · simp [hnode, hcheck]
  · simp [hcount, hcheck]

/-- A count that does not fit is met only in a rule whose fields are sound. -/
theorem ofValue_eq_error_iff :
    ofValue registry value = .error .overflow ↔
      ∃ fields rule, value = .map fields ∧ HasFields registry fields rule ∧
        rule.matcher = .error .countTooLarge := by
  have hfields (rule : Rule) :
      Field.record "Rule" fieldNames (ofEntries registry) value = .ok rule ↔ _ :=
    record_iff_hasFields
  unfold ofValue
  split
  next rule hrecord =>
    rw [checkPattern_eq_error_iff]
    constructor
    · intro hcount
      obtain ⟨fields, rfl, h⟩ := (hfields rule).mp hrecord
      exact ⟨fields, rule, rfl, h, hcount⟩
    · rintro ⟨fields, rule', rfl, h, hcount⟩
      have hsame := hrecord.symm.trans ((hfields rule').mpr ⟨fields, rfl, h⟩)
      rw [Checked.ok.inj hsame]
      exact hcount
  next first rest hrecord =>
    simp only [reduceCtorEq, false_iff, not_exists, not_and]
    rintro fields rule rfl h
    rw [(hfields rule).mpr ⟨fields, rfl, h⟩] at hrecord
    cases hrecord

end Rule

namespace RuleSet

open ContractScan.Field (Reads)

section Document

variable {registry : Registry} {document : Value} {source : String}
  {entries : List (Value × Value)} {cause : RuleSetError}

/-- Some rule of a document has sound fields and a pattern with a count that does not fit. -/
def HasOverflow (registry : Registry) (entries : List (Value × Value)) : Prop :=
  ∃ values fields rule, Reads entries "rules" Field.items values ∧ .map fields ∈ values ∧
    Rule.HasFields registry fields rule ∧ rule.matcher = .error .countTooLarge

theorem rulesOfEntries_eq_error_iff :
    rulesOfEntries registry entries = .error .overflow ↔ HasOverflow registry entries := by
  have hmapM (values : List Value) : (do
      let rules ← values.mapM (Rule.ofValue registry)
      return (Checked.collect 0 rules).andThen distinctIds) = .error .overflow ↔
      ∃ value ∈ values, Rule.ofValue registry value = .error .overflow := by
    rw [← mapM_eq_error_iff]
    cases values.mapM (Rule.ofValue registry) <;> simp [bind, Except.bind, pure, Except.pure]
  unfold rulesOfEntries HasOverflow Reads
  split
  next hnone => simp [hnone]
  next value hvalue =>
    unfold rulesOfValue
    split
    next hitems => simp [hvalue, hitems]
    next values hitems =>
      rw [hmapM]
      simp only [hvalue, Option.some.injEq, exists_eq_left', hitems, Checked.ok.injEq,
        Rule.ofValue_eq_error_iff]
      constructor
      · rintro ⟨_, hmem, fields, rule, rfl, hfields, hcount⟩
        exact ⟨values, fields, rule, rfl, hmem, hfields, hcount⟩
      · rintro ⟨_, fields, rule, rfl, hmem, hfields, hcount⟩
        exact ⟨_, hmem, fields, rule, rfl, hfields, hcount⟩

theorem ofEntries_eq_error_iff :
    ofEntries registry (named source entries) = .error .overflow ↔
      HasOverflow registry entries := by
  have hrules : rulesOfEntries registry (named source entries) =
      rulesOfEntries registry entries := by
    rw [rulesOfEntries, rulesOfEntries, lookup_named (by decide)]
  rw [← rulesOfEntries_eq_error_iff, ofEntries, hrules]
  cases rulesOfEntries registry entries <;> simp [bind, Except.bind, pure, Except.pure]

theorem ofDocument_eq_error_iff (hcause : ∀ refusal, cause ≠ .config refusal) :
    (ofDocument registry document source).value = .error cause ↔
      cause = .overflow ∧ ∃ entries, document = .map entries ∧ HasOverflow registry entries := by
  have hentries (entries : List (Value × Value)) :
      ofEntries registry (named source entries) = .error .overflow ↔ _ :=
    ofEntries_eq_error_iff
  simp only [← hentries]
  unfold ofDocument
  split
  next entries =>
    simp only [Value.map.injEq, exists_eq_left']
    split
    next hfault =>
      rw [hfault]
      simp [eq_comm]
    next hissues => simp [hissues, (hcause _).symm]
    next hwhole => simp [hwhole]
  next hnot =>
    simp only [Except.error.injEq, (hcause _).symm, false_iff, not_and, not_exists]
    intro _ entries hmap
    exact absurd hmap (hnot entries)

end Document

/-- The path leads to a file with a text, and this is the text. -/
def HoldsText (tree : FileTree) (path : Path) (text : List Char) : Prop :=
  path.hasZero = false ∧ ∃ content chars, tree.read path = .ok content ∧
    content.text? = some chars ∧ Text.unifyLineEnds chars = text

/-- What a rule file ends its loading with when it is not refused. -/
inductive Escapes (read : DocumentReader) (registry : Registry) (tree : FileTree) (path : Path) :
    RuleSetError → Prop where
  | impossiblePath (hzero : path.hasZero = true) :
      Escapes read registry tree path .impossiblePath
  | undecodable {content : Content} (hzero : path.hasZero = false)
      (hread : tree.read path = .ok content) (hoctets : content.text? = none) :
      Escapes read registry tree path .undecodable
  | unreadableValue {text : List Char} {fault : Yaml.Fault} (htext : HoldsText tree path text)
      (hvalue : read text = .error fault) (hfault : fault ≠ .malformed) :
      Escapes read registry tree path (.unreadableValue fault)
  | overflow {text : List Char} {entries : List (Value × Value)}
      (htext : HoldsText tree path text) (hvalue : read text = .ok (.map entries))
      (hcount : HasOverflow registry entries) : Escapes read registry tree path .overflow

section Files

variable {read : DocumentReader} {registry : Registry} {tree : FileTree} {path : Path}
  {text : List Char} {cause : RuleSetError}

theorem fileText_eq_ok_iff : fileText tree path = .ok text ↔ HoldsText tree path text := by
  unfold fileText HoldsText
  split
  next hzero => simp [hzero]
  next hzero =>
    split
    next hread => simp [hread]
    next content hread =>
      split
      next chars hchars => simp [hzero, hread, hchars]
      next hoctets => simp [hread, hoctets]

theorem fileText_eq_error_iff (hcause : ∀ refusal, cause ≠ .config refusal) :
    fileText tree path = .error cause ↔
      path.hasZero = true ∧ cause = .impossiblePath ∨
        path.hasZero = false ∧ (∃ content, tree.read path = .ok content ∧ content.text? = none) ∧
          cause = .undecodable := by
  unfold fileText
  split
  next hzero => simp [hzero, eq_comm]
  next hzero =>
    split
    next hread => simp [hzero, hread, (hcause _).symm]
    next content hread =>
      split
      next hchars => simp [hzero, hread, hchars]
      next hoctets => simp [hzero, hread, hoctets, eq_comm]

theorem fileDocument_eq_ok_iff {document : Value} :
    fileDocument read tree path = .ok document ↔
      ∃ text, HoldsText tree path text ∧ read text = .ok document := by
  simp only [← fileText_eq_ok_iff]
  rw [fileDocument, bind_eq_ok_iff]
  refine exists_congr fun text => and_congr_right fun _ => ?_
  split <;> simp_all [pure, Except.pure, throw, throwThe, MonadExceptOf.throw]

theorem fileDocument_eq_error_iff (hcause : ∀ refusal, cause ≠ .config refusal) :
    fileDocument read tree path = .error cause ↔
      fileText tree path = .error cause ∨
        ∃ text fault, HoldsText tree path text ∧ read text = .error fault ∧
          fault ≠ .malformed ∧ cause = .unreadableValue fault := by
  simp only [← fileText_eq_ok_iff]
  unfold fileDocument
  cases htext : fileText tree path with
  | error e => simp [bind, Except.bind]
  | ok text =>
    cases hread : read text with
    | ok document => simp [bind, Except.bind, hread, pure, Except.pure]
    | error fault =>
      cases fault with
      | malformed => simp [bind, Except.bind, hread, throw, throwThe, MonadExceptOf.throw,
          (hcause _).symm]
      | _ => simp [bind, Except.bind, hread, throw, throwThe, MonadExceptOf.throw, eq_comm]

theorem value_load : (load read registry tree path).value =
    (fileDocument read tree path).bind fun document =>
      (ofDocument registry document path.text).value := by
  unfold load
  cases fileDocument read tree path with
  | error cause => rfl
  | ok document =>
    dsimp only [Except.bind]
    split <;> rfl

theorem load_eq_error_iff_escapes (hcause : ∀ refusal, cause ≠ .config refusal) :
    (load read registry tree path).value = .error cause ↔
      Escapes read registry tree path cause := by
  rw [value_load]
  constructor
  · intro h
    cases hdocument : fileDocument read tree path with
    | error e =>
      rw [hdocument] at h
      cases h
      rcases (fileDocument_eq_error_iff hcause).mp hdocument with
        htext | ⟨text, fault, htext, hread, hfault, rfl⟩
      · rcases (fileText_eq_error_iff hcause).mp htext with
          ⟨hzero, rfl⟩ | ⟨hzero, ⟨content, hread, hoctets⟩, rfl⟩
        · exact .impossiblePath hzero
        · exact .undecodable hzero hread hoctets
      · exact .unreadableValue htext hread hfault
    | ok document =>
      rw [hdocument] at h
      obtain ⟨rfl, entries, rfl, hcount⟩ := (ofDocument_eq_error_iff hcause).mp h
      obtain ⟨text, htext, hread⟩ := fileDocument_eq_ok_iff.mp hdocument
      exact .overflow htext hread hcount
  · rintro (hzero | ⟨hzero, hread, hoctets⟩ | ⟨htext, hread, hfault⟩ | ⟨htext, hread, hcount⟩)
    · rw [(fileDocument_eq_error_iff hcause).mpr
        (.inl ((fileText_eq_error_iff hcause).mpr (.inl ⟨hzero, rfl⟩)))]
      rfl
    · rw [(fileDocument_eq_error_iff hcause).mpr
        (.inl ((fileText_eq_error_iff hcause).mpr (.inr ⟨hzero, ⟨_, hread, hoctets⟩, rfl⟩)))]
      rfl
    · rw [(fileDocument_eq_error_iff hcause).mpr (.inr ⟨_, _, htext, hread, hfault, rfl⟩)]
      rfl
    · rw [fileDocument_eq_ok_iff.mpr ⟨_, htext, hread⟩]
      exact (ofDocument_eq_error_iff hcause).mpr ⟨rfl, _, rfl, hcount⟩

theorem Escapes.ne_config (h : Escapes read registry tree path cause) (refusal : ConfigError) :
    cause ≠ .config refusal := by
  cases h <;> simp

theorem returns_or_refused_iff :
    ((∃ ruleSet, (load read registry tree path).value = .ok ruleSet) ∨
      ∃ refusal, (load read registry tree path).value = .error (.config refusal)) ↔
      ∀ cause, ¬ Escapes read registry tree path cause := by
  constructor
  · rintro (⟨ruleSet, hload⟩ | ⟨refusal, hload⟩) cause hescapes
    · rw [← load_eq_error_iff_escapes hescapes.ne_config, hload] at hescapes
      cases hescapes
    · have herror := (load_eq_error_iff_escapes hescapes.ne_config).mpr hescapes
      rw [hload] at herror
      exact hescapes.ne_config refusal (Except.error.inj herror).symm
  · intro hnone
    cases hload : (load read registry tree path).value with
    | ok ruleSet => exact .inl ⟨ruleSet, rfl⟩
    | error cause =>
      by_cases hconfig : ∃ refusal, cause = .config refusal
      · obtain ⟨refusal, rfl⟩ := hconfig
        exact .inr ⟨refusal, rfl⟩
      · have hcause (refusal : ConfigError) : cause ≠ .config refusal := fun heq =>
          hconfig ⟨refusal, heq⟩
        exact absurd ((load_eq_error_iff_escapes hcause).mp hload) (hnone cause)

end Files

end RuleSet

end ContractScan
