import ContractScan.Proofs.Rule.Document
import ContractScan.Proofs.Text.Order
import Mathlib.Data.List.Nodup

/-! # Selecting rules

Selecting the rules of some ids keeps their order, and asks of the ids only which
they are. A rule set out of a document has each id once and holds enabled rules
only; what is selected from it, any number of times, stays a part of it of that
kind, and selecting from a part is selecting from the whole.
-/

namespace ContractScan.RuleSet

variable {ruleSet selected : RuleSet} {ids : List String}

/-- The ids asked for that a rule set does not have, each once and in the order of their codes. -/
structure IsUnknown (ruleSet : RuleSet) (ids unknown : List String) : Prop where
  increasing : unknown.Pairwise Text.CodeBefore
  mem_iff : ∀ id, id ∈ unknown ↔ id ∈ ids ∧ id ∉ ruleSet.ids

def restrict (ruleSet : RuleSet) (ids : List String) : RuleSet :=
  { ruleSet with rules := ruleSet.rules.filter fun rule => ids.contains rule.id }

section Select

theorem exists_isUnknown (ruleSet : RuleSet) (ids : List String) :
    ∃ unknown, IsUnknown ruleSet ids unknown ∧
      ruleSet.select ids = if unknown.isEmpty then .ok (ruleSet.restrict ids)
        else .error (.unknownIds unknown ruleSet.name) := by
  refine ⟨_, ⟨?_, ?_⟩, rfl⟩
  · refine Text.pairwise_codeBefore_mergeSort (fun a b => ?_) (Text.nodup_eraseDups _)
    rw [Text.codeBefore_iff_lt, String.not_lt, decide_eq_true_iff]
  · intro id
    rw [List.mem_mergeSort, List.mem_eraseDups, List.mem_filter]
    simp

/-- Selecting succeeds if all ids are there, and else names those that are not. -/
theorem select_cases (ruleSet : RuleSet) (ids : List String) :
    ((∀ id ∈ ids, id ∈ ruleSet.ids) ∧ ruleSet.select ids = .ok (ruleSet.restrict ids)) ∨
      (∃ id ∈ ids, id ∉ ruleSet.ids) ∧ ∃ unknown, IsUnknown ruleSet ids unknown ∧
        ruleSet.select ids = .error (.unknownIds unknown ruleSet.name) := by
  obtain ⟨unknown, hunknown, hselect⟩ := exists_isUnknown ruleSet ids
  cases unknown with
  | nil =>
    refine .inl ⟨fun id hid => ?_, hselect⟩
    by_cases hknown : id ∈ ruleSet.ids
    · exact hknown
    · exact absurd ((hunknown.mem_iff id).mpr ⟨hid, hknown⟩) List.not_mem_nil
  | cons id rest =>
    exact .inr ⟨⟨id, (hunknown.mem_iff id).mp List.mem_cons_self⟩, _, hunknown, hselect⟩

theorem select_eq_ok_iff : ruleSet.select ids = .ok selected ↔
    (∀ id ∈ ids, id ∈ ruleSet.ids) ∧ ruleSet.restrict ids = selected := by
  obtain ⟨hknown, hselect⟩ | ⟨⟨id, hid, hunknown⟩, unknown, -, hselect⟩ := select_cases ruleSet ids
  · rw [hselect, Except.ok.injEq]
    exact ⟨fun hsame => ⟨hknown, hsame⟩, fun h => h.2⟩
  · rw [hselect]
    constructor
    · intro h
      cases h
    · rintro ⟨hknown, -⟩
      exact absurd (hknown id hid) hunknown

theorem select_eq_ok (h : ∀ id ∈ ids, id ∈ ruleSet.ids) :
    ruleSet.select ids =
      .ok { ruleSet with rules := ruleSet.rules.filter fun rule => ids.contains rule.id } :=
  select_eq_ok_iff.mpr ⟨h, rfl⟩

theorem select_eq_error {cause : ConfigError} (h : ruleSet.select ids = .error cause) :
    (∃ id ∈ ids, id ∉ ruleSet.ids) ∧ ∃ unknown, cause = .unknownIds unknown ruleSet.name ∧
      IsUnknown ruleSet ids unknown := by
  obtain ⟨-, hselect⟩ | ⟨hid, unknown, hunknown, hselect⟩ := select_cases ruleSet ids
  · rw [hselect] at h
    cases h
  · rw [hselect] at h
    exact ⟨hid, unknown, (Except.error.inj h).symm, hunknown⟩

theorem exists_select_eq_error_iff :
    (∃ cause, ruleSet.select ids = .error cause) ↔ ∃ id ∈ ids, id ∉ ruleSet.ids := by
  constructor
  · rintro ⟨cause, h⟩
    exact (select_eq_error h).1
  · rintro ⟨id, hid, hunknown⟩
    obtain ⟨hknown, -⟩ | ⟨-, unknown, -, hselect⟩ := select_cases ruleSet ids
    · exact absurd (hknown id hid) hunknown
    · exact ⟨_, hselect⟩

theorem mem_of_mem_select (h : ruleSet.select ids = .ok selected) {rule : Rule}
    (hrule : rule ∈ selected.rules) : rule ∈ ruleSet.rules := by
  obtain ⟨-, rfl⟩ := select_eq_ok_iff.mp h
  exact (List.mem_filter.mp hrule).1

end Select

section Repeated

variable {ids' : List String}

theorem ids_restrict (ruleSet : RuleSet) (ids : List String) :
    (ruleSet.restrict ids).ids = ruleSet.ids.filter (ids.contains ·) := by
  rw [RuleSet.ids, restrict, RuleSet.ids, List.filter_map]
  rfl

theorem mem_ids_restrict {id : String} :
    id ∈ (ruleSet.restrict ids).ids ↔ id ∈ ruleSet.ids ∧ id ∈ ids := by
  rw [ids_restrict, List.mem_filter, List.contains_iff_mem]

theorem restrict_congr (h : ∀ id, id ∈ ids ↔ id ∈ ids') :
    ruleSet.restrict ids = ruleSet.restrict ids' := by
  have hsame (id : String) : ids.contains id = ids'.contains id := by
    rw [Bool.eq_iff_iff, List.contains_iff_mem, List.contains_iff_mem, h]
  simp only [restrict, hsame]

theorem restrict_restrict (h : ∀ id ∈ ids', id ∈ ids) :
    (ruleSet.restrict ids).restrict ids' = ruleSet.restrict ids' := by
  simp only [restrict, List.filter_filter]
  congr 2
  funext rule
  by_cases hwanted : rule.id ∈ ids'
  · simp [hwanted, h _ hwanted]
  · simp [hwanted]

theorem select_congr (h : ∀ id, id ∈ ids ↔ id ∈ ids') :
    ruleSet.select ids = ruleSet.select ids' := by
  obtain ⟨unknown, hunknown, hselect⟩ := exists_isUnknown ruleSet ids
  obtain ⟨unknown', hunknown', hselect'⟩ := exists_isUnknown ruleSet ids'
  have hsame : unknown = unknown' := by
    refine Text.eq_of_pairwise_codeBefore hunknown.increasing hunknown'.increasing fun id => ?_
    rw [hunknown.mem_iff, hunknown'.mem_iff, h]
  rw [hselect, hselect', hsame, restrict_congr h]

theorem select_select_eq_ok_iff :
    (ruleSet.select ids >>= fun part => part.select ids') = .ok selected ↔
      ((∀ id ∈ ids', id ∈ ids) ∧ ∀ id ∈ ids, id ∈ ruleSet.ids) ∧
        ruleSet.restrict ids' = selected := by
  simp only [bind_eq_ok_iff, select_eq_ok_iff]
  constructor
  · rintro ⟨_, ⟨hids, rfl⟩, hids', rfl⟩
    have hsub : ∀ id ∈ ids', id ∈ ids := fun id hid => (mem_ids_restrict.mp (hids' id hid)).2
    exact ⟨⟨hsub, hids⟩, (restrict_restrict hsub).symm⟩
  · rintro ⟨⟨hsub, hids⟩, rfl⟩
    refine ⟨_, ⟨hids, rfl⟩, fun id hid => ?_, restrict_restrict hsub⟩
    exact mem_ids_restrict.mpr ⟨hids id (hsub id hid), hsub id hid⟩

end Repeated

/-- The rule sets that are reached by selecting, any number of times. -/
inductive Narrows (ruleSet : RuleSet) : RuleSet → Prop where
  | refl : Narrows ruleSet ruleSet
  | select {part selected : RuleSet} {ids : List String} : Narrows ruleSet part →
      part.select ids = .ok selected → Narrows ruleSet selected

/-- A part of a rule set: enabled rules of it in their order, each of which its id tells. -/
structure IsPartOf (ruleSet part : RuleSet) : Prop where
  distinct : part.ids.Nodup
  ordered : part.ids.Sublist ruleSet.ids
  enabled : ∀ rule ∈ part.rules, rule.enabled = true
  get?_eq_some_iff : ∀ id rule, part.get? id = some rule ↔ rule ∈ part.rules ∧ rule.id = id
  get?_eq_none_iff : ∀ id, part.get? id = none ↔ id ∉ part.ids

section Parts

variable {part : RuleSet}

theorem get?_eq_none_iff {id : String} : ruleSet.get? id = none ↔ id ∉ ruleSet.ids := by
  simp [get?, RuleSet.ids]

theorem get?_eq_some_iff (h : ruleSet.ids.Nodup) {id : String} {rule : Rule} :
    ruleSet.get? id = some rule ↔ rule ∈ ruleSet.rules ∧ rule.id = id := by
  constructor
  · intro hget
    exact ⟨List.mem_of_find?_eq_some hget, by simpa using List.find?_some hget⟩
  · rintro ⟨hrule, rfl⟩
    cases hget : ruleSet.get? rule.id with
    | none => exact absurd (List.mem_map_of_mem hrule) (get?_eq_none_iff.mp hget)
    | some other =>
      have hid : other.id = rule.id := by simpa using List.find?_some hget
      rw [List.inj_on_of_nodup_map h (List.mem_of_find?_eq_some hget) hrule hid]

theorem isPartOf_of_sublist (hrules : part.rules.Sublist ruleSet.rules)
    (hdistinct : ruleSet.ids.Nodup) (henabled : ∀ rule ∈ ruleSet.rules, rule.enabled = true) :
    IsPartOf ruleSet part where
  distinct := hdistinct.sublist (hrules.map _)
  ordered := hrules.map _
  enabled := fun rule hrule => henabled rule (hrules.subset hrule)
  get?_eq_some_iff := fun _ _ => get?_eq_some_iff (hdistinct.sublist (hrules.map _))
  get?_eq_none_iff := fun _ => get?_eq_none_iff

theorem Narrows.rules_sublist (h : Narrows ruleSet part) : part.rules.Sublist ruleSet.rules := by
  induction h with
  | refl => exact List.Sublist.refl _
  | select _ hselect ih =>
    obtain ⟨-, rfl⟩ := select_eq_ok_iff.mp hselect
    exact List.filter_sublist.trans ih

variable {registry : Registry} {document : Value} {source : String}

theorem nodup_ids_of_ofDocument (h : (ofDocument registry document source).value = .ok ruleSet) :
    ruleSet.ids.Nodup := by
  obtain ⟨entries, declared, rfl, hwhole, rfl⟩ := ofDocument_eq_ok_iff.mp h
  exact (ofEntries_named_iff_declared.mp hwhole).distinct.sublist (List.filter_sublist.map _)

theorem enabled_of_ofDocument (h : (ofDocument registry document source).value = .ok ruleSet) :
    ∀ rule ∈ ruleSet.rules, rule.enabled = true := by
  obtain ⟨entries, declared, rfl, -, rfl⟩ := ofDocument_eq_ok_iff.mp h
  intro rule hrule
  exact (List.mem_filter.mp hrule).2

end Parts

/-- The laws of selecting from the rules of a document: what fails and how, that only the set of
the ids counts, what selecting twice gives, and what any number of selections keeps. -/
theorem select_laws {registry : Registry} {document : Value} {source : String}
    {ruleSet : RuleSet} (h : (ofDocument registry document source).value = .ok ruleSet) :
    (∀ ids, (∃ cause, ruleSet.select ids = .error cause) ↔ ∃ id ∈ ids, id ∉ ruleSet.ids) ∧
      (∀ ids cause, ruleSet.select ids = .error cause →
        ∃ unknown, cause = .unknownIds unknown ruleSet.name ∧ IsUnknown ruleSet ids unknown) ∧
      (∀ ids ids', (∀ id, id ∈ ids ↔ id ∈ ids') → ruleSet.select ids = ruleSet.select ids') ∧
      (∀ ids ids', (∃ selected,
          (ruleSet.select ids >>= fun part => part.select ids') = .ok selected) ↔
        (∀ id ∈ ids', id ∈ ids) ∧ ∀ id ∈ ids, id ∈ ruleSet.ids) ∧
      (∀ ids ids' selected,
        (ruleSet.select ids >>= fun part => part.select ids') = .ok selected →
          ruleSet.select ids' = .ok selected) ∧
      ∀ part, Narrows ruleSet part → IsPartOf ruleSet part := by
  refine ⟨fun ids => exists_select_eq_error_iff,
    fun ids cause hselect => (select_eq_error hselect).2,
    fun ids ids' => select_congr, fun ids ids' => ?_, ?_, ?_⟩
  · simp only [select_select_eq_ok_iff, exists_and_left, exists_eq', and_true]
  · intro ids ids' selected hselect
    obtain ⟨⟨hsub, hids⟩, rfl⟩ := select_select_eq_ok_iff.mp hselect
    exact select_eq_ok fun id hid => hids id (hsub id hid)
  · intro part hpart
    exact isPartOf_of_sublist hpart.rules_sublist (nodup_ids_of_ofDocument h)
      (enabled_of_ofDocument h)

def triageDocument : Value :=
  .record [("name", .str "triage"), ("rules", .list ([("b", true), ("c", false), ("a", true)].map
    fun rule => .record [("id", .str rule.1), ("name", .str "n"), ("severity", .str "low"),
      ("pattern", .str "x"), ("description", .str "d"), ("recommendation", .str "r"),
      ("enabled", .bool rule.2)]))]

def triageRules : RuleSet where
  name := "triage"
  rules := ["b", "a"].map fun id =>
    { id, name := "n", severity := .low, pattern := "x", description := "d",
      recommendation := "r" }

theorem select_laws_triage :
    (ofDocument .builtin triageDocument "rules.yaml").value = .ok triageRules ∧
      (∃ unknown, triageRules.select ["z", "a", "c", "z"] =
        .error (.unknownIds unknown "triage") ∧ unknown = ["c", "z"]) ∧
      triageRules.select ["a", "b", "a"] = triageRules.select ["b", "a"] ∧
      ∃ selected, (triageRules.select ["a", "b"] >>= fun part => part.select ["a"]) =
          .ok selected ∧
        triageRules.select ["a"] = .ok selected ∧ IsPartOf triageRules selected ∧
        selected.get? "b" = none := by
  have hparsed : (ofDocument .builtin triageDocument "rules.yaml").value.toOption =
      some triageRules := by decide +kernel
  have h := toOption_eq_some_iff.mp hparsed
  obtain ⟨hfails, hnames, hcongr, htwice, hwhole, hparts⟩ := select_laws h
  refine ⟨h, ?_, hcongr _ _ (by simp [or_comm]), ?_⟩
  · obtain ⟨cause, hselect⟩ := (hfails ["z", "a", "c", "z"]).mpr ⟨"z", by decide, by decide⟩
    obtain ⟨unknown, rfl, hunknown⟩ := hnames _ _ hselect
    refine ⟨unknown, hselect,
      Text.eq_of_pairwise_codeBefore hunknown.increasing (by decide) fun id => ?_⟩
    rw [hunknown.mem_iff, show triageRules.ids = ["b", "a"] from rfl]
    grind
  · obtain ⟨selected, hselect⟩ := (htwice ["a", "b"] ["a"]).mpr ⟨by decide, by decide⟩
    have hsingle := hwhole _ _ _ hselect
    have hpart := hparts selected (.select .refl hsingle)
    refine ⟨selected, hselect, hsingle, hpart, (hpart.get?_eq_none_iff "b").mpr ?_⟩
    obtain ⟨-, rfl⟩ := select_eq_ok_iff.mp hsingle
    decide

end ContractScan.RuleSet
