import ContractScan.Proofs.Pattern.Search
import ContractScan.Proofs.Pattern.Steps

/-! # The texts that a pattern spells

A pattern of characters, stars of characters, sequences, alternatives and groups
stands for a set of texts, and matches wherever one of them begins. A search for
it passes over what a match has taken. Where every text begins with a character
that it has only there, no text begins inside another, and the search loses none.
-/

namespace ContractScan.Pattern

namespace Node

/-- The text is one that the pattern stands for. -/
inductive Spells : Node → List Char → Prop where
  | empty : Spells .empty []
  | chars {set : CharSet} {x : Char} : set.contains x = true → Spells (.chars set) [x]
  | seq {first second : Node} {u v : List Char} : Spells first u → Spells second v →
      Spells (.seq first second) (u ++ v)
  | left {first second : Node} {w : List Char} : Spells first w → Spells (.alt first second) w
  | right {first second : Node} {w : List Char} : Spells second w → Spells (.alt first second) w
  | group {index : Nat} {body : Node} {w : List Char} : Spells body w → Spells (.group index body) w
  | star {set : CharSet} {w : List Char} : (∀ x ∈ w, set.contains x = true) →
      Spells (.star (.chars set)) w

/-- The pattern has only parts that spell. -/
inductive Regular : Node → Prop where
  | empty : Regular .empty
  | chars (set : CharSet) : Regular (.chars set)
  | seq {first second : Node} : Regular first → Regular second → Regular (.seq first second)
  | alt {first second : Node} : Regular first → Regular second → Regular (.alt first second)
  | group {index : Nat} {body : Node} : Regular body → Regular (.group index body)
  | star (set : CharSet) : Regular (.star (.chars set))

section Sequences

variable {p : Node} {ps qs : List Node} {w text : List Char}

theorem regular_sequence (h : ∀ p ∈ ps, p.Regular) : (sequence ps).Regular := by
  induction ps with
  | nil => exact .empty
  | cons p ps ih =>
    obtain ⟨hp, hps⟩ := List.forall_mem_cons.mp h
    cases ps with
    | nil => exact hp
    | cons q ps => exact .seq hp (ih hps)

theorem regular_characters (text : List Char) (folding : Folding) :
    ∀ p ∈ text.map (char · folding), p.Regular := by
  intro p hp
  obtain ⟨c, -, rfl⟩ := List.mem_map.mp hp
  exact .chars _

theorem regular_literal (text : String) (folding : Folding) : (literal text folding).Regular :=
  regular_sequence (regular_characters text.toList folding)

theorem spells_sequence_nil : (sequence []).Spells w ↔ w = [] := by
  constructor
  · rintro ⟨⟩
    rfl
  · rintro rfl
    exact .empty

theorem spells_sequence_cons :
    (sequence (p :: ps)).Spells w ↔ ∃ u v, p.Spells u ∧ (sequence ps).Spells v ∧ w = u ++ v := by
  cases ps with
  | nil =>
    simp only [spells_sequence_nil]
    simp [sequence]
  | cons q ps =>
    constructor
    · rintro (⟨_⟩ | ⟨_⟩ | ⟨hu, hv⟩)
      exact ⟨_, _, hu, hv, rfl⟩
    · rintro ⟨u, v, hu, hv, rfl⟩
      exact .seq hu hv

theorem spells_sequence_append :
    (sequence (ps ++ qs)).Spells w ↔
      ∃ u v, (sequence ps).Spells u ∧ (sequence qs).Spells v ∧ w = u ++ v := by
  induction ps generalizing w with
  | nil => simp [spells_sequence_nil]
  | cons p ps ih =>
    simp only [List.cons_append, spells_sequence_cons, ih]
    constructor
    · rintro ⟨u, _, hu, ⟨v, v', hv, hv', rfl⟩, rfl⟩
      exact ⟨u ++ v, v', ⟨u, v, hu, hv, rfl⟩, hv', (List.append_assoc ..).symm⟩
    · rintro ⟨_, v', ⟨u, v, hu, hv, rfl⟩, hv', rfl⟩
      exact ⟨u, v ++ v', hu, ⟨v, v', hv, hv', rfl⟩, List.append_assoc ..⟩

theorem spells_chars_iff {set : CharSet} :
    (chars set).Spells w ↔ ∃ x, set.contains x = true ∧ w = [x] := by
  constructor
  · rintro ⟨⟩
    exact ⟨_, by assumption, rfl⟩
  · rintro ⟨x, hx, rfl⟩
    exact .chars hx

theorem spells_char {c : Char} : (char c).Spells w ↔ w = [c] := by
  simp [char, spells_chars_iff, CharSet.contains_code]

theorem spells_characters {folding : Folding} {text : List Char}
    (h : ∀ c ∈ text, ∀ {w}, (char c folding).Spells w ↔ w = [c]) :
    (sequence (text.map (char · folding))).Spells w ↔ w = text := by
  induction text generalizing w with
  | nil => exact spells_sequence_nil
  | cons c text ih =>
    obtain ⟨hc, htext⟩ := List.forall_mem_cons.mp h
    rw [List.map_cons, spells_sequence_cons]
    simp [hc, ih htext]

theorem spells_literal {text : String} : (literal text).Spells w ↔ w = text.toList :=
  spells_characters fun _ _ => spells_char

theorem spells_alt_iff {first second : Node} :
    (alt first second).Spells w ↔ first.Spells w ∨ second.Spells w := by
  constructor
  · rintro (_ | _ | _ | h | h)
    · exact .inl h
    · exact .inr h
  · rintro (h | h)
    · exact .left h
    · exact .right h

theorem spells_group_iff {index : Nat} {body : Node} :
    (group index body).Spells w ↔ body.Spells w := by
  constructor
  · rintro ⟨⟩
    assumption
  · exact .group

theorem spells_star_iff {set : CharSet} :
    (star (.chars set)).Spells w ↔ ∀ x ∈ w, set.contains x = true := by
  constructor
  · rintro ⟨⟩
    assumption
  · exact .star

end Sequences

end Node

section Ways

variable {p : Node} {s s' : State} {w : List Char}

theorem append_prefix_iff {u v text : List Char} :
    u ++ v <+: text ↔ u <+: text ∧ v <+: text.drop u.length := by
  constructor
  · rintro ⟨rest, rfl⟩
    rw [List.append_assoc, List.drop_left]
    exact ⟨List.prefix_append .., List.prefix_append ..⟩
  · rintro ⟨⟨rest, rfl⟩, hv⟩
    rw [List.drop_left] at hv
    exact (List.prefix_append_right_inj u).mpr hv

theorem mem_ways_star_iff {set : CharSet} :
    s' ∈ (Node.star (.chars set)).ways s ↔
      ∃ n ≤ stretch set s.cursor.after, s' = s.skip n := by
  have hmin : min s.cursor.after.length (s.cursor.after.takeWhile set.contains).length =
      stretch set s.cursor.after := Nat.min_eq_right (stretch_le_length ..)
  simp only [Node.star, Node.ways, strideWays, List.drop_zero, List.mem_map, List.mem_reverse,
    strides_eq_map_skip, Option.getD_none, List.mem_range, hmin]
  constructor
  · rintro ⟨_, ⟨n, hn, rfl⟩, rfl⟩
    exact ⟨n, Nat.le_of_lt_succ hn, rfl⟩
  · rintro ⟨n, hn, rfl⟩
    exact ⟨_, ⟨n, Nat.lt_succ_of_le hn, rfl⟩, rfl⟩

theorem mem_ways_anchor_iff {a : Anchor} {s s' : State} :
    s' ∈ (Node.anchor a).ways s ↔ a.holds s.cursor = true ∧ s' = s := by
  simp only [Node.ways]
  split <;> simp_all

theorem matchAt_false_eq_none_iff {p : Node} {c : Cursor} :
    matchAt p false c = none ↔ p.ways { cursor := c } = [] := by
  simp only [matchAt_eq_none_iff_ways, Bool.false_eq_true, false_and, imp_false]
  exact List.eq_nil_iff_forall_not_mem.symm

theorem length_le_stretch_iff {set : CharSet} {text : List Char} (h : w <+: text) :
    w.length ≤ stretch set text ↔ ∀ x ∈ w, set.contains x = true := by
  obtain ⟨rest, rfl⟩ := h
  induction w with
  | nil => simp
  | cons x w ih =>
    cases hx : set.contains x with
    | false => simp [stretch, hx]
    | true => simpa [stretch, hx] using ih

/-- A way of a regular pattern goes over a text that the pattern spells. -/
theorem exists_spelling_of_mem_ways (hp : p.Regular) (h : s' ∈ p.ways s) :
    ∃ w, p.Spells w ∧ w <+: s.cursor.after ∧ s'.cursor = s.cursor.skip w.length := by
  induction hp generalizing s s' with
  | empty =>
    obtain rfl := List.mem_singleton.mp h
    exact ⟨[], .empty, List.nil_prefix, (Cursor.skip_zero _).symm⟩
  | chars set =>
    simp only [Node.ways] at h
    split at h
    · cases h
    next x c hc =>
      split at h
      next hx =>
        obtain rfl := List.mem_singleton.mp h
        obtain ⟨rest, hrest, rfl⟩ := Cursor.next?_eq_some_iff.mp hc
        exact ⟨[x], .chars hx, ⟨rest, hrest.symm⟩, rfl⟩
      · cases h
  | seq _ _ ih ih' =>
    obtain ⟨t, ht, hs'⟩ := List.mem_flatMap.mp h
    obtain ⟨u, hu, hbegin, hcursor⟩ := ih ht
    obtain ⟨v, hv, hbegin', hcursor'⟩ := ih' hs'
    rw [hcursor] at hbegin' hcursor'
    refine ⟨u ++ v, .seq hu hv, append_prefix_iff.mpr ⟨hbegin, hbegin'⟩, ?_⟩
    rw [hcursor', Cursor.skip_skip, List.length_append]
  | alt _ _ ih ih' =>
    rcases List.mem_append.mp h with h | h
    · obtain ⟨w, hw, hrest⟩ := ih h
      exact ⟨w, .left hw, hrest⟩
    · obtain ⟨w, hw, hrest⟩ := ih' h
      exact ⟨w, .right hw, hrest⟩
  | group _ ih =>
    obtain ⟨t, ht, rfl⟩ := List.mem_map.mp h
    obtain ⟨w, hw, hrest⟩ := ih ht
    exact ⟨w, .group hw, hrest⟩
  | star set =>
    obtain ⟨n, hn, rfl⟩ := mem_ways_star_iff.mp h
    have hlength : (s.cursor.after.take n).length = n :=
      List.length_take_of_le (Nat.le_trans hn (stretch_le_length ..))
    have hbegin := List.take_prefix n s.cursor.after
    refine ⟨s.cursor.after.take n, .star ?_, hbegin, ?_⟩
    · rwa [← length_le_stretch_iff hbegin, hlength]
    · rw [hlength]
      rfl

/-- Where a text that a pattern spells stands, the pattern has a way over it. -/
theorem Node.Spells.exists_way (h : p.Spells w) (hw : w <+: s.cursor.after) :
    ∃ s' ∈ p.ways s, s'.cursor = s.cursor.skip w.length := by
  induction h generalizing s with
  | empty => exact ⟨s, List.mem_singleton_self _, (Cursor.skip_zero _).symm⟩
  | @chars set x hx =>
    obtain ⟨rest, hrest⟩ := hw
    have hnext : s.cursor.next? = some (x, s.cursor.skip 1) :=
      Cursor.next?_eq_some_iff.mpr ⟨rest, hrest.symm, rfl⟩
    refine ⟨s.skip 1, ?_, rfl⟩
    simp only [Node.ways, hnext, hx, if_true]
    exact List.mem_singleton_self _
  | seq _ _ ih ih' =>
    obtain ⟨hu, hv⟩ := append_prefix_iff.mp hw
    obtain ⟨t, ht, hcursor⟩ := ih hu
    obtain ⟨s', hs', hcursor'⟩ := ih' (s := t) (by rwa [hcursor])
    refine ⟨s', List.mem_flatMap.mpr ⟨t, ht, hs'⟩, ?_⟩
    rw [hcursor', hcursor, Cursor.skip_skip, List.length_append]
  | left _ ih =>
    obtain ⟨s', hs', hcursor⟩ := ih hw
    exact ⟨s', List.mem_append_left _ hs', hcursor⟩
  | right _ ih =>
    obtain ⟨s', hs', hcursor⟩ := ih hw
    exact ⟨s', List.mem_append_right _ hs', hcursor⟩
  | @group index body w _ ih =>
    obtain ⟨s', hs', hcursor⟩ := ih hw
    exact ⟨s'.record index s.cursor, List.mem_map.mpr ⟨s', hs', rfl⟩, hcursor⟩
  | star hall =>
    exact ⟨_, mem_ways_star_iff.mpr ⟨_, (length_le_stretch_iff hw).mpr hall, rfl⟩, rfl⟩

end Ways

section Matches

variable {p : Node} {advance : Bool} {c : Cursor} {text : List Char}

def Node.Begins (p : Node) (text : List Char) : Prop :=
  ∃ w, p.Spells w ∧ w <+: text

theorem exists_spelling_of_matchAt (hp : p.Regular) {m : Found} (h : matchAt p advance c = some m) :
    ∃ w, p.Spells w ∧ w <+: c.after ∧ m.first = c ∧ m.last = c.skip w.length := by
  obtain ⟨s, hs, rfl, -⟩ := matchAt_eq_some h
  obtain ⟨w, hw, hbegin, hcursor⟩ := exists_spelling_of_mem_ways hp hs
  exact ⟨w, hw, hbegin, rfl, hcursor⟩

theorem matchAt_isSome_iff (hp : p.Regular) (hne : ¬ p.Spells []) :
    (matchAt p advance c).isSome = true ↔ p.Begins c.after := by
  constructor
  · intro h
    obtain ⟨m, hm⟩ := Option.isSome_iff_exists.mp h
    obtain ⟨w, hw, hbegin, -⟩ := exists_spelling_of_matchAt hp hm
    exact ⟨w, hw, hbegin⟩
  · rintro ⟨w, hw, hbegin⟩
    obtain ⟨s, hs, hcursor⟩ := hw.exists_way (s := { cursor := c }) hbegin
    have hlength : 0 < w.length := by
      rw [List.length_pos_iff]
      rintro rfl
      exact hne hw
    simp only [matchAt, run_eq_findSome?_ways, Option.isSome_map, List.findSome?_isSome_iff]
    refine ⟨s, hs, ?_⟩
    have hmoved : (s.cursor.offset == c.offset) = false := by
      rw [hcursor, Cursor.skip_offset, beq_eq_false_iff_ne]
      exact Nat.ne_of_gt (Nat.lt_add_of_pos_right hlength)
    rw [hmoved, Bool.and_false]
    rfl

theorem matchAt_eq_none_iff (hp : p.Regular) (hne : ¬ p.Spells []) :
    matchAt p advance c = none ↔ ¬ p.Begins c.after := by
  have hsome : (matchAt p advance c).isSome = true ↔ p.Begins c.after := matchAt_isSome_iff hp hne
  rw [← hsome, Bool.not_eq_true, Option.isSome_eq_false_iff, Option.isNone_iff_eq_none]

theorem search_isSome_iff (hp : p.Regular) (hne : ¬ p.Spells []) :
    (search p text).isSome = true ↔ ∃ w, p.Spells w ∧ w <:+: text := by
  constructor
  · intro h
    obtain ⟨m, hm⟩ := Option.isSome_iff_exists.mp h
    obtain ⟨n, -, hat, -⟩ := matchAt_of_searchFrom_eq_some hm
    obtain ⟨w, hw, hbegin, -⟩ := exists_spelling_of_matchAt hp hat
    exact ⟨w, hw, hbegin.isInfix.trans (List.drop_suffix n text).isInfix⟩
  · rintro ⟨w, hw, before, after, rfl⟩
    rw [Option.isSome_iff_ne_none]
    intro hnone
    have hn : before.length ≤ (before ++ w ++ after).length := by
      rw [List.length_append, List.length_append]
      omega
    have hat := matchAt_of_searchFrom_eq_none hnone hn
    rw [matchAt_eq_none_iff hp hne, Cursor.skip_after] at hat
    refine hat ⟨w, hw, ?_⟩
    rw [Cursor.start, List.append_assoc, List.drop_left]
    exact List.prefix_append ..

end Matches

section Apart

/-- Every text that the pattern spells begins with the character, and has it only there. -/
def Node.StartsWithOnly (p : Node) (x : Char) : Prop :=
  ∀ w, p.Spells w → ∃ rest, x ∉ rest ∧ w = x :: rest

variable {p : Node} {x : Char} {advance : Bool} {c : Cursor} {ms : List Found}

theorem Node.StartsWithOnly.not_spells_nil (hx : p.StartsWithOnly x) : ¬ p.Spells [] := by
  intro h
  obtain ⟨rest, -, hrest⟩ := hx [] h
  cases hrest

theorem Node.StartsWithOnly.not_begins_inside (hx : p.StartsWithOnly x) {w text : List Char}
    (hw : p.Spells w) (hbegin : w <+: text) {n : Nat} (hpos : 0 < n) (hlt : n < w.length) :
    ¬ p.Begins (text.drop n) := by
  rintro ⟨w', hw', hbegin'⟩
  obtain ⟨rest, hrest, rfl⟩ := hx w hw
  obtain ⟨rest', -, rfl⟩ := hx w' hw'
  obtain ⟨more, rfl⟩ := hbegin
  obtain ⟨k, rfl⟩ : ∃ k, n = k + 1 := ⟨n - 1, by omega⟩
  have hk : k < rest.length := Nat.lt_of_succ_lt_succ hlt
  rw [List.cons_append, List.drop_succ_cons, List.drop_append_of_le_length (Nat.le_of_lt hk),
    List.drop_eq_getElem_cons hk, List.cons_append, List.cons_prefix_cons] at hbegin'
  exact hrest (hbegin'.1 ▸ List.getElem_mem hk)

theorem Finds.mem_offsets_iff (hp : p.Regular) (hx : p.StartsWithOnly x)
    (h : Finds p advance c ms) (n : Nat) :
    c.offset + n ∈ ms.map (·.first.offset) ↔ p.Begins (c.after.drop n) := by
  have hne := hx.not_spells_nil
  induction h generalizing n with
  | stop _ hc =>
    constructor
    · intro h
      cases h
    · rintro ⟨w, hw, hbegin⟩
      rw [hc, List.drop_nil, List.prefix_nil] at hbegin
      exact absurd (hbegin ▸ hw) hne
  | @skip advance c y rest ms hm hc hms ih =>
    cases n with
    | zero =>
      constructor
      · intro h
        obtain ⟨m, hmem, hoffset⟩ := List.mem_map.mp h
        have hle := hms.offset_le hmem
        rw [Cursor.skip_offset] at hle
        omega
      · exact fun h => absurd h ((matchAt_eq_none_iff hp hne).mp hm)
    | succ n =>
      have hn := ih n
      rw [Cursor.skip_offset, Cursor.skip_after, List.drop_drop] at hn
      rwa [Nat.add_comm n 1, ← Nat.add_assoc]
  | @take advance c m ms hm hms ih =>
    obtain ⟨w, hw, hbegin, hfirst, hlast⟩ := exists_spelling_of_matchAt hp hm
    rw [List.map_cons, List.mem_cons, hfirst]
    rcases Nat.eq_zero_or_pos n with rfl | hpos
    · exact iff_of_true (.inl rfl) ⟨w, hw, hbegin⟩
    rcases Nat.lt_or_ge n w.length with hlt | hge
    · refine iff_of_false ?_ (hx.not_begins_inside hw hbegin hpos hlt)
      rintro (heq | h)
      · omega
      · obtain ⟨m', hmem, hoffset⟩ := List.mem_map.mp h
        have hle := hms.offset_le hmem
        rw [hlast, Cursor.skip_offset] at hle
        omega
    · obtain ⟨k, rfl⟩ : ∃ k, n = w.length + k := ⟨n - w.length, by omega⟩
      have hk := ih k
      rw [hlast, Cursor.skip_offset, Cursor.skip_after, List.drop_drop, Nat.add_assoc] at hk
      exact (or_iff_right (by omega)).trans hk

/-- A search takes every place of the text where a spelled text begins, from left to right. -/
theorem findAll_offsets (hp : p.Regular) (hx : p.StartsWithOnly x) (text : List Char) :
    ((findAll p text).map (·.first.offset)).Pairwise (· < ·) ∧
      ∀ i, i ∈ (findAll p text).map (·.first.offset) ↔ p.Begins (text.drop i) := by
  have hfinds := findAll_finds p text
  constructor
  · rw [List.pairwise_map]
    refine hfinds.pairwise.imp_of_mem ?_
    intro m m' hm _ hle
    obtain ⟨advance, hat⟩ := hfinds.exists_matchAt m hm
    obtain ⟨w, hw, -, -, hlast⟩ := exists_spelling_of_matchAt hp hat
    obtain ⟨rest, -, rfl⟩ := hx w hw
    rw [hlast, Cursor.skip_offset, List.length_cons] at hle
    omega
  · intro i
    have hi := hfinds.mem_offsets_iff hp hx i
    rwa [Cursor.start, Nat.zero_add] at hi

end Apart

end ContractScan.Pattern
