import ContractScan.Proofs.Schema.Checked
import ContractScan.Rule.RuleSet
import Mathlib.Data.List.Forall2

/-! # Which documents hold rule sets

A document is accepted when it is a mapping of the known keys to values of their
types, when every rule in it is, and when no id is used twice. The checks come in
stages, of which each looks only at what passed the one before it. Disabled rules
go through all of them and are left out last.
-/

namespace ContractScan

namespace Field

variable {α : Type}

/-- The entry under a key is there and reads as a value of the field's type. -/
def Reads (entries : List (Value × Value)) (name : String) (type : Value → Checked α) (a : α) :
    Prop :=
  ∃ value, Value.lookup entries name = some value ∧ type value = .ok a

/-- The same for a field with a default. -/
def ReadsOr (entries : List (Value × Value)) (name : String) (default : α)
    (type : Value → Checked α) (a : α) : Prop :=
  Value.lookup entries name = none ∧ default = a ∨ Reads entries name type a

def OnlyKeys (known : List String) (entries : List (Value × Value)) : Prop :=
  ∀ entry ∈ entries, ∃ name ∈ known, entry.1 = .str name

end Field

open ContractScan.Field (Reads ReadsOr OnlyKeys)

theorem Severity.ofValue_eq_ok_iff {value : Value} {s : Severity} :
    Severity.ofValue value = .ok s ↔ value = .str s.word := by
  constructor
  · intro h
    unfold Severity.ofValue at h
    dsimp only at h
    split at h
    next word =>
      cases hword : Severity.ofWord? word with
      | none =>
        rw [hword] at h
        cases h
      | some t =>
        rw [hword] at h
        cases h
        have hfound := List.find?_some hword
        rw [eq_of_beq hfound]
    · cases h
  · rintro rfl
    cases s <;> rfl

namespace Rule

/-- The entries of a mapping are the fields of a rule, whether or not its pattern can be read. -/
structure HasFields (registry : Registry) (entries : List (Value × Value)) (rule : Rule) :
    Prop where
  keys : OnlyKeys fieldNames entries
  id : Reads entries "id" Field.text rule.id
  name : Reads entries "name" Field.text rule.name
  severity : Value.lookup entries "severity" = some (.str rule.severity.word)
  pattern : Reads entries "pattern" Field.text rule.pattern
  ignoreCase : ReadsOr entries "ignore_case" false Field.truth rule.ignoreCase
  multiline : ReadsOr entries "multiline" false Field.truth rule.multiline
  dotAll : ReadsOr entries "dotall" false Field.truth rule.dotAll
  description : Reads entries "description" Field.text rule.description
  recommendation : Reads entries "recommendation" Field.text rule.recommendation
  cweId : ReadsOr entries "cwe_id" none Field.optionalText rule.cweId
  predicate : ReadsOr entries "predicate" none Field.optionalText rule.predicate
  enabled : ReadsOr entries "enabled" true Field.truth rule.enabled
  id_ne_empty : rule.id ≠ ""
  pattern_ne_empty : rule.pattern ≠ ""
  known : ∀ name, rule.predicate = some name → registry.contains name = true

/-- The entries of a mapping declare a rule: the pattern can also be read under the flags, and does
not match the empty text. -/
structure Declared (registry : Registry) (entries : List (Value × Value)) (rule : Rule) : Prop
    extends HasFields registry entries rule where
  readable : ∃ node, rule.matcher = .ok node ∧ Pattern.matchesWhole node [] = false

variable {registry : Registry} {entries : List (Value × Value)} {value : Value} {rule : Rule}

/-- A count that does not fit ends the check, every other fault of a pattern is an issue. -/
theorem checkPattern_cases (rule : Rule) :
    (rule.matcher = .error .countTooLarge ∧ rule.checkPattern = .error .overflow) ∨
    (∃ node, rule.matcher = .ok node ∧ Pattern.matchesWhole node [] = false ∧
      rule.checkPattern = .ok (.ok rule)) ∨
    rule.matcher ≠ .error .countTooLarge ∧
      (∀ node, rule.matcher = .ok node → Pattern.matchesWhole node [] = true) ∧
      ∃ kind, rule.checkPattern = .ok (.issue kind) := by
  unfold checkPattern
  split
  next hcount => exact .inl ⟨hcount, rfl⟩
  next hflags => exact .inr (.inr ⟨by simp [hflags], by simp [hflags], _, rfl⟩)
  next hlong => exact .inr (.inr ⟨by simp [hlong], by simp [hlong], _, rfl⟩)
  next hfault => exact .inr (.inr ⟨by simp [hfault], by simp [hfault], _, rfl⟩)
  next node hnode =>
    split
    next hempty => exact .inr (.inr ⟨by simp [hnode], by simp [hnode, hempty], _, rfl⟩)
    next hempty => exact .inr (.inl ⟨node, hnode, by simpa using hempty, rfl⟩)

theorem checkPattern_eq_ok_iff {rule' : Rule} :
    rule.checkPattern = .ok (.ok rule') ↔
      rule = rule' ∧ ∃ node, rule.matcher = .ok node ∧ Pattern.matchesWhole node [] = false := by
  obtain ⟨hcount, hcheck⟩ | ⟨node, hnode, hempty, hcheck⟩ | ⟨-, hempty, kind, hcheck⟩ :=
    checkPattern_cases rule
  · simp [hcount, hcheck]
  · simp [hnode, hempty, hcheck]
  · rw [hcheck]
    constructor
    · rintro ⟨⟩
    · rintro ⟨-, node, hnode, hnonempty⟩
      simp [hempty node hnode] at hnonempty

theorem knownPredicate_eq_ok_iff {predicate predicate' : Option String} :
    knownPredicate registry predicate = .ok predicate' ↔
      predicate = predicate' ∧
        ∀ name, predicate = some name → registry.contains name = true := by
  cases predicate with
  | none => simp [knownPredicate]
  | some name =>
    simp only [knownPredicate]
    split <;> simp_all

theorem ofEntries_eq_ok_iff :
    ofEntries registry entries = .ok rule ↔
      Field.required entries "id" Field.nonEmptyText = .ok rule.id ∧
      Field.required entries "name" Field.text = .ok rule.name ∧
      Field.required entries "severity" Severity.ofValue = .ok rule.severity ∧
      Field.required entries "pattern" Field.nonEmptyText = .ok rule.pattern ∧
      Field.optional entries "ignore_case" false Field.truth = .ok rule.ignoreCase ∧
      Field.optional entries "multiline" false Field.truth = .ok rule.multiline ∧
      Field.optional entries "dotall" false Field.truth = .ok rule.dotAll ∧
      Field.required entries "description" Field.text = .ok rule.description ∧
      Field.required entries "recommendation" Field.text = .ok rule.recommendation ∧
      Field.optional entries "cwe_id" none Field.optionalText = .ok rule.cweId ∧
      Field.optional entries "predicate" none (fun value =>
        (Field.optionalText value).andThen (knownPredicate registry)) = .ok rule.predicate ∧
      Field.optional entries "enabled" true Field.truth = .ok rule.enabled := by
  constructor
  · intro h
    simp only [ofEntries, Checked.seq_eq_ok_iff, Checked.map_eq_ok_iff] at h
    obtain ⟨_, ⟨_, ⟨_, ⟨_, ⟨_, ⟨_, ⟨_, ⟨_, ⟨_, ⟨_, ⟨_, ⟨_, hid, rfl⟩, _, hname, rfl⟩, _, hseverity,
      rfl⟩, _, hpattern, rfl⟩, _, hcase, rfl⟩, _, hmultiline, rfl⟩, _, hdot, rfl⟩, _, hdescription,
      rfl⟩, _, hrecommendation, rfl⟩, _, hcwe, rfl⟩, _, hpredicate, rfl⟩, _, henabled, rfl⟩ := h
    exact ⟨hid, hname, hseverity, hpattern, hcase, hmultiline, hdot, hdescription, hrecommendation,
      hcwe, hpredicate, henabled⟩
  · rintro ⟨hid, hname, hseverity, hpattern, hcase, hmultiline, hdot, hdescription,
      hrecommendation, hcwe, hpredicate, henabled⟩
    rw [ofEntries, hid, hname, hseverity, hpattern, hcase, hmultiline, hdot, hdescription,
      hrecommendation, hcwe, hpredicate, henabled]
    rfl

theorem reads_nonEmptyText_iff {name s : String} :
    Field.required entries name Field.nonEmptyText = .ok s ↔
      Reads entries name Field.text s ∧ s ≠ "" := by
  simp only [Field.required_eq_ok_iff, Field.nonEmptyText_eq_ok_iff, Reads, ← and_assoc,
    exists_and_right]

theorem reads_severity_iff {severity : Severity} :
    Field.required entries "severity" Severity.ofValue = .ok severity ↔
      Value.lookup entries "severity" = some (.str severity.word) := by
  simp only [Field.required_eq_ok_iff, Severity.ofValue_eq_ok_iff, exists_eq_right]

theorem reads_knownPredicate_iff {predicate : Option String} :
    Field.optional entries "predicate" none (fun value =>
        (Field.optionalText value).andThen (knownPredicate registry)) = .ok predicate ↔
      ReadsOr entries "predicate" none Field.optionalText predicate ∧
        ∀ name, predicate = some name → registry.contains name = true := by
  simp only [Field.optional_eq_ok_iff, Checked.andThen_eq_ok_iff, knownPredicate_eq_ok_iff,
    ReadsOr, Reads]
  constructor
  · rintro (⟨hnone, rfl⟩ | ⟨value, hvalue, _, htext, rfl, hknown⟩)
    · exact ⟨.inl ⟨hnone, rfl⟩, by simp⟩
    · exact ⟨.inr ⟨value, hvalue, htext⟩, hknown⟩
  · rintro ⟨⟨hnone, rfl⟩ | ⟨value, hvalue, htext⟩, hknown⟩
    · exact .inl ⟨hnone, rfl⟩
    · exact .inr ⟨value, hvalue, predicate, htext, rfl, hknown⟩

theorem ofValue_eq_ok_iff :
    ofValue registry value = .ok (.ok rule) ↔
      Field.record "Rule" fieldNames (ofEntries registry) value = .ok rule ∧
        ∃ node, rule.matcher = .ok node ∧ Pattern.matchesWhole node [] = false := by
  unfold ofValue
  split
  next rule' hrecord =>
    rw [checkPattern_eq_ok_iff, hrecord, Checked.ok.injEq]
    constructor
    · rintro ⟨rfl, hreadable⟩
      exact ⟨rfl, hreadable⟩
    · rintro ⟨rfl, hreadable⟩
      exact ⟨rfl, hreadable⟩
  next hrecord => simp [hrecord]

theorem record_iff_hasFields :
    Field.record "Rule" fieldNames (ofEntries registry) value = .ok rule ↔
      ∃ entries, value = .map entries ∧ HasFields registry entries rule := by
  rw [Field.record_eq_ok_iff]
  constructor
  · rintro ⟨entries, rfl, hentries, hkeys⟩
    obtain ⟨hid, hname, hseverity, hpattern, hcase, hmultiline, hdot, hdescription,
      hrecommendation, hcwe, hpredicate, henabled⟩ := ofEntries_eq_ok_iff.mp hentries
    obtain ⟨hid, hidne⟩ := reads_nonEmptyText_iff.mp hid
    obtain ⟨hpattern, hpatternne⟩ := reads_nonEmptyText_iff.mp hpattern
    obtain ⟨hpredicate, hknown⟩ := reads_knownPredicate_iff.mp hpredicate
    refine ⟨entries, rfl, ?_⟩
    exact {
      keys := Field.strayKeys_eq_nil_iff.mp hkeys
      id := hid
      name := Field.required_eq_ok_iff.mp hname
      severity := reads_severity_iff.mp hseverity
      pattern := hpattern
      ignoreCase := Field.optional_eq_ok_iff.mp hcase
      multiline := Field.optional_eq_ok_iff.mp hmultiline
      dotAll := Field.optional_eq_ok_iff.mp hdot
      description := Field.required_eq_ok_iff.mp hdescription
      recommendation := Field.required_eq_ok_iff.mp hrecommendation
      cweId := Field.optional_eq_ok_iff.mp hcwe
      predicate := hpredicate
      enabled := Field.optional_eq_ok_iff.mp henabled
      id_ne_empty := hidne
      pattern_ne_empty := hpatternne
      known := hknown }
  · rintro ⟨entries, rfl, h⟩
    refine ⟨entries, rfl, ofEntries_eq_ok_iff.mpr ?_, Field.strayKeys_eq_nil_iff.mpr h.keys⟩
    exact ⟨reads_nonEmptyText_iff.mpr ⟨h.id, h.id_ne_empty⟩, Field.required_eq_ok_iff.mpr h.name,
      reads_severity_iff.mpr h.severity,
      reads_nonEmptyText_iff.mpr ⟨h.pattern, h.pattern_ne_empty⟩,
      Field.optional_eq_ok_iff.mpr h.ignoreCase, Field.optional_eq_ok_iff.mpr h.multiline,
      Field.optional_eq_ok_iff.mpr h.dotAll, Field.required_eq_ok_iff.mpr h.description,
      Field.required_eq_ok_iff.mpr h.recommendation, Field.optional_eq_ok_iff.mpr h.cweId,
      reads_knownPredicate_iff.mpr ⟨h.predicate, h.known⟩,
      Field.optional_eq_ok_iff.mpr h.enabled⟩

theorem ofValue_iff_declared :
    ofValue registry value = .ok (.ok rule) ↔
      ∃ entries, value = .map entries ∧ Declared registry entries rule := by
  rw [ofValue_eq_ok_iff, record_iff_hasFields]
  constructor
  · rintro ⟨⟨entries, rfl, hfields⟩, hreadable⟩
    exact ⟨entries, rfl, hfields, hreadable⟩
  · rintro ⟨entries, rfl, hfields, hreadable⟩
    exact ⟨⟨entries, rfl, hfields⟩, hreadable⟩

end Rule

namespace RuleSet

/-- The rule set that the entries of a document declare, with the disabled rules. -/
structure Declared (registry : Registry) (source : String) (entries : List (Value × Value))
    (ruleSet : RuleSet) : Prop where
  keys : OnlyKeys ["name", "version", "description", "rules"] entries
  name : ReadsOr entries "name" (Path.ofText source).stem Field.text ruleSet.name
  version : ReadsOr entries "version" "0" Field.text ruleSet.version
  description : ReadsOr entries "description" none Field.optionalText ruleSet.description
  rules : ∃ values, ReadsOr entries "rules" [] Field.items values ∧
    values.Forall₂ (fun value rule => ∃ fields, value = .map fields ∧
      Rule.Declared registry fields rule) ruleSet.rules
  distinct : ruleSet.ids.Nodup

variable {registry : Registry} {source : String} {entries : List (Value × Value)}
  {rules rules' : List Rule}

section Ids

theorem firstRepeated_eq_none_iff {seen : List String} :
    firstRepeated seen rules = none ↔
      (rules.map (·.id)).Nodup ∧ ∀ rule ∈ rules, rule.id ∉ seen := by
  induction rules generalizing seen with
  | nil => simp [firstRepeated]
  | cons rule rest ih =>
    by_cases hseen : rule.id ∈ seen
    · simp [firstRepeated, hseen]
    · rw [firstRepeated, if_neg (by simpa using hseen), ih, List.map_cons, List.nodup_cons,
        List.forall_mem_cons]
      simp only [List.mem_cons, List.mem_map, not_or, not_exists, not_and]
      constructor
      · rintro ⟨hnodup, hrest⟩
        exact ⟨⟨fun other hother => (hrest other hother).1, hnodup⟩, hseen,
          fun other hother => (hrest other hother).2⟩
      · rintro ⟨⟨hne, hnodup⟩, -, hrest⟩
        exact ⟨hnodup, fun other hother => ⟨hne other hother, hrest other hother⟩⟩

theorem distinctIds_eq_ok_iff :
    distinctIds rules = .ok rules' ↔ rules = rules' ∧ (rules.map (·.id)).Nodup := by
  have hnone : firstRepeated [] rules = none ↔ _ := firstRepeated_eq_none_iff
  unfold distinctIds
  split
  next hfirst => simp [(hnone.mp hfirst).1]
  next id hfirst =>
    have hrepeated : ¬ (rules.map (·.id)).Nodup := fun hnodup => by
      rw [hnone.mpr ⟨hnodup, by simp⟩] at hfirst
      cases hfirst
    simp [hrepeated]

end Ids

section Rules

theorem rulesOfValue_eq_ok_iff {value : Value} :
    rulesOfValue registry value = .ok (.ok rules) ↔
      ∃ values, Field.items value = .ok values ∧
        values.Forall₂ (fun value rule => Rule.ofValue registry value = .ok (.ok rule)) rules ∧
        (rules.map (·.id)).Nodup := by
  have hpointwise (values : List Value) : values.map (Rule.ofValue registry) =
      (rules.map .ok).map .ok ↔ values.Forall₂ (fun value rule =>
        Rule.ofValue registry value = .ok (.ok rule)) rules := by
    rw [List.map_map, ← List.forall₂_eq_eq_eq, List.forall₂_map_left_iff,
      List.forall₂_map_right_iff]
    rfl
  unfold rulesOfValue
  split
  next hitems => simp [hitems]
  next values hitems =>
    simp only [hitems, Checked.ok.injEq, exists_eq_left']
    rw [← hpointwise, bind_eq_ok_iff]
    constructor
    · rintro ⟨checked, hchecked, h⟩
      obtain ⟨found, hcollect, hdistinct⟩ := Checked.andThen_eq_ok_iff.mp (pure_eq_ok_iff.mp h)
      obtain ⟨rfl, hnodup⟩ := distinctIds_eq_ok_iff.mp hdistinct
      obtain rfl := Checked.collect_eq_ok_iff.mp hcollect
      exact ⟨mapM_eq_ok_iff.mp hchecked, hnodup⟩
    · rintro ⟨hvalues, hnodup⟩
      refine ⟨rules.map .ok, mapM_eq_ok_iff.mpr hvalues, pure_eq_ok_iff.mpr ?_⟩
      exact Checked.andThen_eq_ok_iff.mpr
        ⟨rules, Checked.collect_eq_ok_iff.mpr rfl, distinctIds_eq_ok_iff.mpr ⟨rfl, hnodup⟩⟩

theorem rulesOfEntries_eq_ok_iff :
    rulesOfEntries registry entries = .ok (.ok rules) ↔
      (∃ values, ReadsOr entries "rules" [] Field.items values ∧
        values.Forall₂ (fun value rule => ∃ fields, value = .map fields ∧
          Rule.Declared registry fields rule) rules) ∧ (rules.map (·.id)).Nodup := by
  simp only [← Rule.ofValue_iff_declared, ReadsOr, Reads]
  unfold rulesOfEntries
  split
  next hnone =>
    simp only [hnone, Except.ok.injEq, Checked.ok.injEq]
    constructor
    · rintro rfl
      exact ⟨⟨[], .inl ⟨trivial, rfl⟩, .nil⟩, .nil⟩
    · rintro ⟨⟨_, ⟨-, rfl⟩ | ⟨_, hsome, -⟩, hrules⟩, -⟩
      · exact (List.forall₂_nil_left_iff.mp hrules).symm
      · cases hsome
  next value hvalue =>
    rw [rulesOfValue_eq_ok_iff]
    constructor
    · rintro ⟨values, hitems, hrules, hnodup⟩
      exact ⟨⟨values, .inr ⟨value, hvalue, hitems⟩, hrules⟩, hnodup⟩
    · rintro ⟨⟨values, ⟨hnone, -⟩ | ⟨value', hvalue', hitems⟩, hrules⟩, hnodup⟩
      · rw [hvalue] at hnone
        cases hnone
      · obtain rfl := Option.some.inj (hvalue.symm.trans hvalue')
        exact ⟨values, hitems, hrules, hnodup⟩

end Rules

section Names

theorem lookup_append_name {key : String} (value : Value) :
    Value.lookup (entries ++ [(.str "name", value)]) key =
      (Value.lookup entries key).or (if key = "name" then some value else none) := by
  simp only [Value.lookup, List.find?_append, Option.map_or]
  congr 1
  by_cases h : key = "name"
  · subst h
    rfl
  · have hkey : (Value.str "name").sameKey (.str key) = ("name" == key) := rfl
    simp [h, hkey, Ne.symm h]

theorem lookup_named {key : String} (h : key ≠ "name") :
    Value.lookup (named source entries) key = Value.lookup entries key := by
  unfold named
  split
  · rfl
  · rw [lookup_append_name, if_neg h, Option.or_none]

theorem reads_named_iff {name : String} :
    Reads (named source entries) "name" Field.text name ↔
      ReadsOr entries "name" (Path.ofText source).stem Field.text name := by
  unfold named ReadsOr
  split
  next hsome =>
    have hne : Value.lookup entries "name" ≠ none := by
      simpa [Option.isSome_iff_ne_none] using hsome
    simp [hne]
  next hnone =>
    have hname : Value.lookup entries "name" = none := by simpa using hnone
    simp [Reads, lookup_append_name, hname, Field.text]

theorem onlyKeys_named_iff {known : List String} (h : "name" ∈ known) :
    OnlyKeys known (named source entries) ↔ OnlyKeys known entries := by
  unfold named OnlyKeys
  split
  · rfl
  · rw [List.forall_mem_append, List.forall_mem_singleton]
    exact and_iff_left ⟨"name", h, rfl⟩

end Names

variable {ruleSet : RuleSet} {document : Value}

theorem ofEntries_eq_ok_iff :
    ofEntries registry entries = .ok (.ok ruleSet) ↔
      rulesOfEntries registry entries = .ok (.ok ruleSet.rules) ∧
      Field.required entries "name" Field.text = .ok ruleSet.name ∧
      Field.optional entries "version" "0" Field.text = .ok ruleSet.version ∧
      Field.optional entries "description" none Field.optionalText = .ok ruleSet.description ∧
      Field.strayKeys ["name", "version", "description", "rules"] entries = [] := by
  rw [ofEntries, bind_eq_ok_iff]
  constructor
  · rintro ⟨checked, hrules, h⟩
    obtain ⟨hfields, hstray⟩ := Checked.alongside_eq_ok_iff.mp (pure_eq_ok_iff.mp h)
    simp only [Checked.seq_eq_ok_iff, Checked.map_eq_ok_iff, Checked.under_eq_ok_iff] at hfields
    obtain ⟨_, ⟨_, ⟨_, ⟨_, hname, rfl⟩, _, hversion, rfl⟩, _, hdescription, rfl⟩, rules, rfl,
      rfl⟩ := hfields
    exact ⟨hrules, hname, hversion, hdescription, hstray⟩
  · rintro ⟨hrules, hname, hversion, hdescription, hstray⟩
    refine ⟨.ok ruleSet.rules, hrules, ?_⟩
    rw [hname, hversion, hdescription, hstray]
    rfl

theorem ofEntries_named_iff_declared :
    ofEntries registry (named source entries) = .ok (.ok ruleSet) ↔
      Declared registry source entries ruleSet := by
  rw [ofEntries_eq_ok_iff, rulesOfEntries_eq_ok_iff, Field.required_eq_ok_iff,
    Field.optional_eq_ok_iff, Field.optional_eq_ok_iff, Field.strayKeys_eq_nil_iff]
  simp only [ReadsOr, Reads, lookup_named (show "version" ≠ "name" by decide),
    lookup_named (show "description" ≠ "name" by decide),
    lookup_named (show "rules" ≠ "name" by decide)]
  constructor
  · rintro ⟨⟨hrules, hdistinct⟩, hname, hversion, hdescription, hkeys⟩
    exact ⟨(onlyKeys_named_iff (by simp)).mp hkeys, reads_named_iff.mp hname, hversion,
      hdescription, hrules, hdistinct⟩
  · rintro ⟨hkeys, hname, hversion, hdescription, hrules, hdistinct⟩
    exact ⟨⟨hrules, hdistinct⟩, reads_named_iff.mpr hname, hversion, hdescription,
      (onlyKeys_named_iff (by simp)).mpr hkeys⟩

/-- The rules that come out of a mapping are the enabled ones, in their order. -/
theorem ofDocument_eq_ok_iff :
    (ofDocument registry document source).value = .ok ruleSet ↔
      ∃ entries declared, document = .map entries ∧
        ofEntries registry (named source entries) = .ok (.ok declared) ∧
        ruleSet = { declared with rules := declared.rules.filter (·.enabled) } := by
  unfold ofDocument
  split
  next entries =>
    simp only [Value.map.injEq, exists_and_left, exists_eq_left']
    split
    next hfault => simp [hfault]
    next hissues => simp [hissues]
    next whole hwhole =>
      simp only [hwhole, Except.ok.injEq, Checked.ok.injEq, exists_eq_left']
      exact eq_comm
  next hnot =>
    constructor
    · intro h
      cases h
    · rintro ⟨entries, -, rfl, -⟩
      exact absurd rfl (hnot entries)

/-- A document gives a rule set exactly when it declares one, and it gives the enabled rules in
their order. -/
theorem ofDocument_iff_declared (registry : Registry) (document : Value) (source : String)
    (ruleSet : RuleSet) :
    (ofDocument registry document source).value = .ok ruleSet ↔
      ∃ entries declared, document = .map entries ∧ Declared registry source entries declared ∧
        ruleSet = { declared with rules := declared.rules.filter (·.enabled) } := by
  rw [ofDocument_eq_ok_iff]
  simp only [ofEntries_named_iff_declared]

end RuleSet

end ContractScan
