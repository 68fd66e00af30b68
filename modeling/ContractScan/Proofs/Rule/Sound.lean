import ContractScan.Proofs.Rule.Document

/-! # Rule sets of documents are sound

Whatever a document says, a rule that comes out of it has a pattern that can be
read and a predicate that is known.
-/

namespace ContractScan

/-- What scanning relies on: the pattern can be read and does not match the empty text, and the
predicate is known. -/
structure Rule.IsSound (registry : Registry) (rule : Rule) : Prop where
  readable : ∃ node, rule.matcher = .ok node ∧ Pattern.matchesWhole node [] = false
  known : ∀ name, rule.predicate = some name → registry.contains name = true

theorem Rule.Declared.isSound {registry : Registry} {entries : List (Value × Value)} {rule : Rule}
    (h : Declared registry entries rule) : rule.IsSound registry :=
  ⟨h.readable, h.known⟩

theorem Rule.appliesTo_eq_ok {registry : Registry} {rule : Rule} (h : rule.IsSound registry)
    (text : List Char) : ∃ accepted, rule.appliesTo registry text = .ok accepted := by
  cases hp : rule.predicate with
  | none => exact ⟨true, by rw [appliesTo, hp]⟩
  | some name =>
    obtain ⟨predicate, hget⟩ := Option.isSome_iff_exists.mp (h.known name hp)
    refine ⟨predicate text, ?_⟩
    rw [appliesTo, hp]
    simp [Registry.get, hget, Except.map]

namespace RuleSet

variable {registry : Registry} {ruleSet : RuleSet} {source : String}

theorem Declared.isSound {entries : List (Value × Value)}
    (h : Declared registry source entries ruleSet) :
    ∀ rule ∈ ruleSet.rules, rule.IsSound registry := by
  obtain ⟨values, -, hrules⟩ := h.rules
  generalize ruleSet.rules = rules at hrules
  induction hrules with
  | nil => simp
  | cons hrule _ ih =>
    obtain ⟨fields, -, hdeclared⟩ := hrule
    exact List.forall_mem_cons.mpr ⟨hdeclared.isSound, ih⟩

/-- Every rule of a rule set that comes out of a document is sound. -/
theorem isSound_of_ofDocument {document : Value}
    (h : (ofDocument registry document source).value = .ok ruleSet) :
    ∀ rule ∈ ruleSet.rules, rule.IsSound registry := by
  obtain ⟨entries, declared, rfl, hwhole, rfl⟩ := ofDocument_eq_ok_iff.mp h
  intro rule hrule
  exact (ofEntries_named_iff_declared.mp hwhole).isSound rule (List.mem_filter.mp hrule).1

end RuleSet

end ContractScan
