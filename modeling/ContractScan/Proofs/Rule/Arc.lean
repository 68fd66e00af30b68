import ContractScan.Proofs.Pattern.Spelling
import ContractScan.Proofs.Rule.Sound
import ContractScan.Rule.Arc

/-! # The patterns of the Arc rules

What the patterns of some rules are read as, and which texts they spell. All the
rules for the Arc chain are sound.
-/

namespace ContractScan

open Pattern

/-- The rules that come with the scanner never stop a scan. -/
theorem RuleSet.isSound_arc : ∀ rule ∈ RuleSet.arc.rules, rule.IsSound .builtin := by
  have hall : RuleSet.arc.rules.all (fun rule =>
      rule.matcher.toOption.any (fun node => !matchesWhole node []) &&
        rule.predicate.all Registry.builtin.contains) = true := by decide +kernel
  intro rule hrule
  obtain ⟨hmatcher, hpredicate⟩ := Bool.and_eq_true_iff.mp (List.all_eq_true.mp hall rule hrule)
  constructor
  · cases hnode : rule.matcher.toOption with
    | none =>
      rw [hnode] at hmatcher
      cases hmatcher
    | some node =>
      rw [hnode, Option.any_some, Bool.not_eq_true'] at hmatcher
      exact ⟨node, toOption_eq_some_iff.mp hnode, hmatcher⟩
  · intro name hname
    rwa [hname, Option.all_some] at hpredicate

namespace Rule

def IsGap (gap : List Char) : Prop :=
  ∀ c ∈ gap, Text.isBlank c = true

theorem IsGap.not_mem {gap : List Char} (h : IsGap gap) {c : Char} (hc : Text.isBlank c = false) :
    c ∉ gap := by
  intro hmem
  rw [h c hmem] at hc
  cases hc

def blanks (folding : Folding := .exact) : Node :=
  .star (.chars { items := [.kind .space false], folding })

theorem spells_blanks {folding : Folding} {w : List Char} :
    (blanks folding).Spells w ↔ IsGap w := by
  simp only [blanks, Node.spells_star_iff, CharSet.contains_space, IsGap]

section Randomness

/-- A source of randomness that is none. -/
def IsRandomness (w : List Char) : Prop :=
  w = "block.prevrandao".toList ∨ w = "block.difficulty".toList

def randomness : Pattern :=
  .alternatives [.literal "block.prevrandao", .literal "block.difficulty"]

theorem matcher_arc001 : arc001.matcher = .ok randomness := by
  have h : arc001.matcher.toOption = some randomness := by decide +kernel
  exact toOption_eq_some_iff.mp h

theorem regular_randomness : randomness.Regular :=
  .alt (Node.regular_literal ..) (Node.regular_literal ..)

theorem spells_randomness {w : List Char} : randomness.Spells w ↔ IsRandomness w :=
  Node.spells_alt_iff.trans (or_congr Node.spells_literal Node.spells_literal)

theorem begins_randomness {text : List Char} :
    randomness.Begins text ↔ ∃ w, IsRandomness w ∧ w <+: text :=
  exists_congr fun _ => and_congr_left' spells_randomness

theorem startsWithOnly_randomness : randomness.StartsWithOnly 'b' := by
  intro w hw
  rcases spells_randomness.mp hw with rfl | rfl
  · exact ⟨"lock.prevrandao".toList, by decide, by decide⟩
  · exact ⟨"lock.difficulty".toList, by decide, by decide⟩

end Randomness

section Timestamp

/-- A comparison of the timestamp for being equal or not. -/
def IsStrictComparison (w : List Char) : Prop :=
  ∃ gap, IsGap gap ∧ ∃ sign ∈ ["==", "!="], w = "block.timestamp".toList ++ gap ++ sign.toList

def strictComparison : Pattern :=
  .sequence ("block.timestamp".toList.map (Node.char ·) ++
    [blanks, .group 1 (.alternatives [.literal "==", .literal "!="]), blanks])

theorem matcher_arc003 : arc003.matcher = .ok strictComparison := by
  have h : arc003.matcher.toOption = some strictComparison := by decide +kernel
  exact toOption_eq_some_iff.mp h

theorem regular_strictComparison : strictComparison.Regular := by
  refine Node.regular_sequence (List.forall_mem_append.mpr ⟨Node.regular_characters _ _, ?_⟩)
  simp only [List.forall_mem_cons, List.not_mem_nil, false_imp_iff, implies_true, and_true]
  exact ⟨.star _, .group (.alt (Node.regular_literal ..) (Node.regular_literal ..)), .star _⟩

theorem spells_sign {w : List Char} :
    (Node.alternatives [.literal "==", .literal "!="]).Spells w ↔
      ∃ sign ∈ ["==", "!="], w = sign.toList := by
  simp only [Node.alternatives, Node.spells_alt_iff, Node.spells_literal, List.mem_cons,
    List.not_mem_nil, or_false, exists_eq_or_imp, exists_eq_left]

theorem spells_strictComparison {w : List Char} :
    strictComparison.Spells w ↔ ∃ v gap, IsStrictComparison v ∧ IsGap gap ∧ w = v ++ gap := by
  simp only [strictComparison, Node.spells_sequence_append,
    Node.spells_characters fun _ _ => Node.spells_char, Node.spells_sequence_cons,
    Node.spells_sequence_nil, Node.spells_group_iff, spells_blanks, spells_sign]
  constructor
  · rintro ⟨_, _, rfl, ⟨gap, _, hgap, ⟨_, _, ⟨sign, hsign, rfl⟩,
      ⟨gap', _, hgap', rfl, rfl⟩, rfl⟩, rfl⟩, rfl⟩
    exact ⟨_, gap', ⟨gap, hgap, sign, hsign, rfl⟩, hgap',
      by simp only [List.append_assoc, List.append_nil]⟩
  · rintro ⟨_, gap', ⟨gap, hgap, sign, hsign, rfl⟩, hgap', rfl⟩
    exact ⟨_, _, rfl, ⟨gap, _, hgap, ⟨_, _, ⟨sign, hsign, rfl⟩,
      ⟨gap', _, hgap', rfl, rfl⟩, rfl⟩, rfl⟩, by simp only [List.append_assoc, List.append_nil]⟩

theorem begins_strictComparison {text : List Char} :
    strictComparison.Begins text ↔ ∃ w, IsStrictComparison w ∧ w <+: text := by
  constructor
  · rintro ⟨w, hw, hbegin⟩
    obtain ⟨v, gap, hv, -, rfl⟩ := spells_strictComparison.mp hw
    exact ⟨v, hv, (List.prefix_append v gap).trans hbegin⟩
  · rintro ⟨v, hv, hbegin⟩
    exact ⟨v, spells_strictComparison.mpr
      ⟨v, [], hv, List.forall_mem_nil _, (List.append_nil v).symm⟩, hbegin⟩

theorem startsWithOnly_strictComparison : strictComparison.StartsWithOnly 'b' := by
  intro w hw
  obtain ⟨_, gap', ⟨gap, hgap, sign, hsign, rfl⟩, hgap', rfl⟩ := spells_strictComparison.mp hw
  refine ⟨"lock.timestamp".toList ++ gap ++ sign.toList ++ gap', ?_, by simp⟩
  have hb : Text.isBlank 'b' = false := by decide
  simp only [List.mem_append, hgap.not_mem hb, hgap'.not_mem hb, or_false, not_or]
  refine ⟨by decide, ?_⟩
  simp only [List.mem_cons, List.not_mem_nil, or_false] at hsign
  rcases hsign with rfl | rfl <;> decide

end Timestamp

section Decimals

def IsDecimalsCall (w : List Char) : Prop :=
  ∃ gap inner, IsGap gap ∧ IsGap inner ∧
    w = ".decimals".toList ++ gap ++ "(".toList ++ inner ++ ")".toList

def decimalsCall : Pattern :=
  .sequence (".decimals".toList.map (Node.char ·) ++ [blanks, .char '(', blanks, .char ')'])

theorem matcher_arc007 : arc007.matcher = .ok decimalsCall := by
  have h : arc007.matcher.toOption = some decimalsCall := by decide +kernel
  exact toOption_eq_some_iff.mp h

theorem regular_decimalsCall : decimalsCall.Regular := by
  refine Node.regular_sequence (List.forall_mem_append.mpr ⟨Node.regular_characters _ _, ?_⟩)
  simp only [List.forall_mem_cons, List.not_mem_nil, false_imp_iff, implies_true, and_true]
  exact ⟨.star _, .chars _, .star _, .chars _⟩

theorem spells_decimalsCall {w : List Char} : decimalsCall.Spells w ↔ IsDecimalsCall w := by
  simp only [decimalsCall, Node.spells_sequence_append,
    Node.spells_characters fun _ _ => Node.spells_char, Node.spells_sequence_cons,
    Node.spells_sequence_nil, Node.spells_char, spells_blanks]
  constructor
  · rintro ⟨_, _, rfl, ⟨gap, _, hgap, ⟨_, _, rfl, ⟨inner, _, hinner,
      ⟨_, _, rfl, rfl, rfl⟩, rfl⟩, rfl⟩, rfl⟩, rfl⟩
    exact ⟨gap, inner, hgap, hinner, by simp⟩
  · rintro ⟨gap, inner, hgap, hinner, rfl⟩
    exact ⟨_, _, rfl, ⟨gap, _, hgap, ⟨_, _, rfl, ⟨inner, _, hinner,
      ⟨_, _, rfl, rfl, rfl⟩, rfl⟩, rfl⟩, rfl⟩, by simp⟩

theorem begins_decimalsCall {text : List Char} :
    decimalsCall.Begins text ↔ ∃ w, IsDecimalsCall w ∧ w <+: text :=
  exists_congr fun _ => and_congr_left' spells_decimalsCall

theorem startsWithOnly_decimalsCall : decimalsCall.StartsWithOnly '.' := by
  intro w hw
  obtain ⟨gap, inner, hgap, hinner, rfl⟩ := spells_decimalsCall.mp hw
  refine ⟨"decimals".toList ++ gap ++ "(".toList ++ inner ++ ")".toList, ?_, by simp⟩
  have hpoint : Text.isBlank '.' = false := by decide
  simp only [List.mem_append, hgap.not_mem hpoint, hinner.not_mem hpoint, or_false, not_or]
  decide

end Decimals

end Rule

end ContractScan
