import ContractScan.Proofs.Pattern.Empty
import ContractScan.Proofs.Scan.Sites

/-! # Findings of empty matches

A rule is refused if its pattern matches the empty text. That keeps it from
matching without a character at every place, but a pattern that asks what stands
around a place can be accepted and still match there without a character.
-/

namespace ContractScan

open Pattern

/-- A rule that is accepted matches nothing in an empty content. Where all that its pattern asks
for holds in the empty text, as far as it can be empty, it has no empty match in any content. -/
theorem accepted_rule_matches_nonempty {registry : Registry} {value : Value} {rule : Rule}
    (haccepted : Rule.ofValue registry value = .ok (.ok rule)) :
    rule.matchesIn registry [] = .ok [] ∧
      ∀ node cuts, rule.matcher = .ok node → node.Indifferent cuts → ∀ content, ∃ ms,
        rule.matchesIn registry content = .ok ms ∧ ∀ m ∈ ms, m.chars ≠ [] := by
  obtain ⟨entries, -, hdeclared⟩ := Rule.ofValue_iff_declared.mp haccepted
  have hsound := hdeclared.isSound
  obtain ⟨node, hnode, hempty⟩ := hsound.readable
  constructor
  · rw [Rule.matchesIn_eq_ok hsound, Except.ok.injEq]
    apply List.eq_nil_iff_forall_not_mem.mpr
    intro m hm
    have hfound := Rule.mem_foundIn hnode hm
    rw [findAll_nil hempty] at hfound
    cases hfound
  · intro node' cuts hnode' hindifferent content
    obtain rfl := Except.ok.inj (hnode.symm.trans hnode')
    refine ⟨_, Rule.matchesIn_eq_ok hsound content, ?_⟩
    intro m hm
    exact hindifferent.chars_ne_nil hempty (Rule.mem_foundIn hnode hm)

def documentWith (pattern : String) : Value :=
  .record [("id", .str "R"), ("name", .str "n"), ("severity", .str "low"),
    ("pattern", .str pattern), ("description", .str "d"), ("recommendation", .str "r")]

def ruleWith (pattern : String) : Rule where
  id := "R"
  name := "n"
  severity := .low
  pattern := pattern
  description := "d"
  recommendation := "r"

theorem ofValue_documentWith {pattern : String} (h : pattern ≠ "") :
    Rule.ofValue .builtin (documentWith pattern) = (ruleWith pattern).checkPattern := by
  have hfields : Field.record "Rule" Rule.fieldNames (Rule.ofEntries .builtin)
      (documentWith pattern) = .ok (ruleWith pattern) := by
    refine Rule.record_iff_hasFields.mpr ⟨_, rfl, ?_⟩
    exact {
      keys := by simp [Field.OnlyKeys, Rule.fieldNames]
      id := ⟨_, rfl, rfl⟩
      name := ⟨_, rfl, rfl⟩
      severity := rfl
      pattern := ⟨_, rfl, rfl⟩
      ignoreCase := .inl ⟨rfl, rfl⟩
      multiline := .inl ⟨rfl, rfl⟩
      dotAll := .inl ⟨rfl, rfl⟩
      description := ⟨_, rfl, rfl⟩
      recommendation := ⟨_, rfl, rfl⟩
      cweId := .inl ⟨rfl, rfl⟩
      predicate := .inl ⟨rfl, rfl⟩
      enabled := .inl ⟨rfl, rfl⟩
      id_ne_empty := by simp [ruleWith]
      pattern_ne_empty := h
      known := by simp [ruleWith] }
  rw [Rule.ofValue, hfields]

def doubledSource : String := "(?!x)(?:(a)|b?)\\1"

def doubled : Pattern :=
  .seq (.look .ahead true (.char 'x'))
    (.seq (.alt (.group 1 (.char 'a')) (.repetition .greedy 0 (some 1) (.char 'b')))
      (.backreference 1 .exact))

theorem indifferent_doubled : doubled.Indifferent false := by
  have hchar : ∀ c, (Node.char c).Indifferent false := fun _ => .wide Nat.one_pos
  refine .seq (.lookNot Nat.one_pos) (.seq (.alt (.group (hchar 'a')) ?_) (.backreference rfl))
  exact .repetition (by simp) (hchar 'b')

theorem accepted_rule_matches_nonempty_doubled :
    Rule.ofValue .builtin (documentWith doubledSource) = .ok (.ok (ruleWith doubledSource)) ∧
      (ruleWith doubledSource).matcher = .ok doubled ∧ doubled.Indifferent false ∧
      doubled.leastWidth = 0 ∧ (ruleWith doubledSource).matchesIn .builtin [] = .ok [] ∧
      ∃ ms, (ruleWith doubledSource).matchesIn .builtin "aaba".toList = .ok ms ∧
        ms.map (·.text) = ["aa"] ∧ ∀ m ∈ ms, m.chars ≠ [] := by
  have hmatcher : (ruleWith doubledSource).matcher = .ok doubled :=
    toOption_eq_some_iff.mp (by decide +kernel)
  have haccepted : Rule.ofValue .builtin (documentWith doubledSource) =
      .ok (.ok (ruleWith doubledSource)) := by
    rw [ofValue_documentWith (by decide), Rule.checkPattern_eq_ok_iff]
    exact ⟨rfl, doubled, hmatcher, by decide +kernel⟩
  obtain ⟨hnil, hcontents⟩ := accepted_rule_matches_nonempty haccepted
  obtain ⟨ms, hms, hchars⟩ := hcontents doubled false hmatcher indifferent_doubled "aaba".toList
  have htexts : ((ruleWith doubledSource).matchesIn .builtin "aaba".toList).toOption.map
      (·.map (·.text)) = some ["aa"] := by decide +kernel
  rw [hms] at htexts
  exact ⟨haccepted, hmatcher, indifferent_doubled, by decide, hnil, ms, hms,
    Option.some.inj htexts, hchars⟩

/-- A rule with the pattern is accepted, and matches in the content without a character. -/
def MatchesEmptily (pattern content : String) : Prop :=
  ∃ rule ms, Rule.ofValue .builtin (documentWith pattern) = .ok (.ok rule) ∧
    rule.matchesIn .builtin content.toList = .ok ms ∧ ∃ m ∈ ms, m.chars = []

theorem matchesEmptily_of_any {pattern content : String} (hpattern : pattern ≠ "")
    (h : ((ruleWith pattern).matcher.toOption.any fun node => !matchesWhole node [] &&
      (findAll node content.toList).any (·.chars.isEmpty)) = true) :
    MatchesEmptily pattern content := by
  cases hnode : (ruleWith pattern).matcher with
  | error cause =>
    rw [hnode] at h
    cases h
  | ok node =>
    have hnode' : (ruleWith pattern).matcher.toOption = some node := toOption_eq_some_iff.mpr hnode
    rw [hnode', Option.any_some, Bool.and_eq_true, Bool.not_eq_true', List.any_eq_true] at h
    obtain ⟨hempty, m, hm, hchars⟩ := h
    have happlies : (ruleWith pattern).appliesTo .builtin content.toList = .ok true := rfl
    refine ⟨ruleWith pattern, findAll node content.toList, ?_, ?_, m, hm,
      List.isEmpty_iff.mp hchars⟩
    · rw [ofValue_documentWith hpattern, Rule.checkPattern_eq_ok_iff]
      exact ⟨rfl, node, hnode, hempty⟩
    · simp only [Rule.matchesIn, happlies, hnode]

/-- What a pattern must not ask for: a word boundary, a text around it, no text of a kind that may
be empty; and groups that were matched before a cut. -/
theorem accepted_rules_match_emptily :
    MatchesEmptily "\\b" "a" ∧ MatchesEmptily "\\B" "ab" ∧ MatchesEmptily "(?=a)" "a" ∧
      MatchesEmptily "(?<=a)" "a" ∧ MatchesEmptily "(?!\\Z)" "a" ∧
      MatchesEmptily "(?>(a*+)\\1|())\\2" "ab" ∧
      MatchesEmptily "(?>(a)*+(?(1)b|)()|)(?(2)x|)" "ac" := by
  refine ⟨?_, ?_, ?_, ?_, ?_, ?_, ?_⟩
  all_goals exact matchesEmptily_of_any (by decide) (by decide +kernel)

end ContractScan
