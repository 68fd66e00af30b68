import ContractScan.Proofs.Pattern.Reach

/-! # Steps of a match

What running does for the patterns that others are made of: single characters,
literal texts and stretches of characters. A stretch that is followed by what
cannot match inside it is taken as a whole.
-/

namespace ContractScan.Pattern

def State.skip (s : State) (n : Nat) : State :=
  { s with cursor := s.cursor.skip n }

namespace State

@[simp] theorem skip_cursor (s : State) (n : Nat) : (s.skip n).cursor = s.cursor.skip n := rfl

@[simp] theorem skip_captures (s : State) (n : Nat) : (s.skip n).captures = s.captures := rfl

@[simp] theorem skip_zero (s : State) : s.skip 0 = s := by simp [skip]

@[simp] theorem skip_skip (s : State) (m n : Nat) : (s.skip m).skip n = s.skip (m + n) := by
  simp [skip]

end State

namespace CharSet

theorem accepts_code {set : CharSet} (h : set.folding = .exact) (c x : Char) :
    set.accepts x (.code c.toNat) = decide (x = c) := by
  rw [Bool.eq_iff_iff, decide_eq_true_iff, ← Char.toNat_inj]
  simp [accepts, h]

theorem contains_code (c x : Char) :
    CharSet.contains { items := [.code c.toNat] } x = decide (x = c) := by
  simp [contains, accepts_code]

theorem contains_noneOf (excluded : List Char) (x : Char) :
    CharSet.contains { items := excluded.map fun c => .code c.toNat, negated := true } x =
      decide (x ∉ excluded) := by
  rw [Bool.eq_iff_iff]
  simp only [contains, List.any_map, bne_iff_ne, ne_eq, Bool.not_eq_true, List.any_eq_false,
    Function.comp_apply, accepts_code, decide_eq_true_eq]
  exact ⟨fun h hx => h x hx rfl, fun h c hc hx => h (hx ▸ hc)⟩

theorem contains_space (folding : Folding) (x : Char) :
    CharSet.contains { items := [.kind .space false], folding } x = Text.isBlank x := by
  simp [contains, accepts, CharKind.holds]

@[simp] theorem contains_any (x : Char) : CharSet.any.contains x = true := rfl

end CharSet

variable {s : State} {k : Continuation}

theorem run_seq (first second : Node) (s : State) (k : Continuation) :
    (Node.seq first second).run s k = first.run s fun s' => second.run s' k := rfl

theorem run_alt (first second : Node) (s : State) (k : Continuation) :
    (Node.alt first second).run s k = (first.run s k).or (second.run s k) := by
  simp only [Node.run]
  cases first.run s k <;> rfl

theorem run_chars_nil {set : CharSet} (h : s.cursor.after = []) :
    (Node.chars set).run s k = none := by
  simp [Node.run, Cursor.next?_eq_none_iff.mpr h]

theorem run_chars_cons {set : CharSet} {x : Char} {rest : List Char}
    (h : s.cursor.after = x :: rest) :
    (Node.chars set).run s k = if set.contains x then k (s.skip 1) else none := by
  have hn : s.cursor.next? = some (x, s.cursor.skip 1) :=
    Cursor.next?_eq_some_iff.mpr ⟨rest, h, rfl⟩
  simp only [Node.run, hn]
  rfl

theorem run_char (c : Char) (s : State) (k : Continuation) :
    (Node.char c).run s k = if [c] <+: s.cursor.after then k (s.skip 1) else none := by
  cases h : s.cursor.after with
  | nil => simp [Node.char, run_chars_nil h]
  | cons x rest =>
    rw [Node.char, run_chars_cons h, CharSet.contains_code]
    simp [List.cons_prefix_cons, eq_comm]

theorem run_sequence_char (text : List Char) (s : State) (k : Continuation) :
    (Node.sequence (text.map fun c => Node.char c)).run s k =
      if text <+: s.cursor.after then k (s.skip text.length) else none := by
  induction text generalizing s with
  | nil => simp [Node.sequence, Node.run]
  | cons c text ih =>
    cases text with
    | nil => exact run_char c s k
    | cons d text =>
      change (Node.char c).run s (fun s' =>
        (Node.sequence ((d :: text).map fun c => Node.char c)).run s' k) = _
      rw [run_char]
      simp only [ih]
      cases h : s.cursor.after with
      | nil => simp
      | cons x rest =>
        simp only [List.cons_prefix_cons, List.nil_prefix, and_true, State.skip_cursor,
          Cursor.skip_after, h, List.drop_succ_cons, List.drop_zero, State.skip_skip,
          List.length_cons, Nat.add_comm 1]
        by_cases hx : c = x <;> simp [hx]

theorem run_literal (text : String) (s : State) (k : Continuation) :
    (Node.literal text).run s k =
      if text.toList <+: s.cursor.after then k (s.skip text.toList.length) else none :=
  run_sequence_char text.toList s k

theorem greedyRounds_star {step : Round} {fuel count : Nat} {last : Option Nat}
    (hl : last ≠ some s.cursor.offset) :
    greedyRounds step 0 none k (fuel + 1) count last s =
      (step s fun s' =>
        greedyRounds step 0 none k fuel (count + 1) (some s.cursor.offset) s').or (k s) := by
  have ha : another none count last s = true := by simp [another, hl]
  simp only [greedyRounds, Nat.not_lt_zero, if_false, ha, if_true]
  cases step s _ <;> rfl

theorem take_length_takeWhile {α : Type} (q : α → Bool) (l : List α) :
    l.take (l.takeWhile q).length = l.takeWhile q :=
  (List.prefix_iff_eq_take.mp (List.takeWhile_prefix q)).symm

theorem drop_length_takeWhile {α : Type} (q : α → Bool) (l : List α) :
    l.drop (l.takeWhile q).length = l.dropWhile q := by
  induction l with
  | nil => rfl
  | cons a l ih => by_cases h : q a <;> simp [h, ih]

section Stretches

variable {α : Type} {q : α → Bool} {l : List α} {i : Nat}

theorem takeWhile_drop (h : i ≤ (l.takeWhile q).length) :
    (l.drop i).takeWhile q = (l.takeWhile q).drop i := by
  induction l generalizing i with
  | nil => simp
  | cons a l ih =>
    cases i with
    | zero => rfl
    | succ i =>
      by_cases ha : q a
      · simp only [List.takeWhile_cons_of_pos ha, List.length_cons, List.drop_succ_cons] at h ⊢
        exact ih (by omega)
      · simp [ha] at h

theorem dropWhile_drop (h : i ≤ (l.takeWhile q).length) :
    (l.drop i).dropWhile q = l.dropWhile q := by
  rw [← drop_length_takeWhile, takeWhile_drop h, List.drop_drop, List.length_drop,
    Nat.add_sub_cancel' h, drop_length_takeWhile]

theorem exists_of_lt_length_takeWhile (h : i < (l.takeWhile q).length) :
    ∃ a rest, l.drop i = a :: rest ∧ q a = true := by
  induction l generalizing i with
  | nil => simp at h
  | cons a l ih =>
    by_cases ha : q a
    · cases i with
      | zero => exact ⟨a, l, rfl, ha⟩
      | succ i =>
        rw [List.takeWhile_cons_of_pos ha, List.length_cons] at h
        exact ih (by omega)
    · simp [ha] at h

theorem takeWhile_takeWhile_of_imp {q' : α → Bool} (h : ∀ a, q a = true → q' a = true) :
    (l.takeWhile q').takeWhile q = l.takeWhile q := by
  induction l with
  | nil => rfl
  | cons a l ih =>
    by_cases ha : q a
    · simp [ha, h a ha, ih]
    · by_cases ha' : q' a <;> simp [ha, ha']

theorem length_takeWhile_le_of_imp {q' : α → Bool} (h : ∀ a, q a = true → q' a = true) :
    (l.takeWhile q).length ≤ (l.takeWhile q').length := by
  rw [← takeWhile_takeWhile_of_imp h]
  exact (List.takeWhile_prefix q).length_le

end Stretches

def stretch (set : CharSet) (text : List Char) : Nat :=
  (text.takeWhile set.contains).length

theorem stretch_le_length (set : CharSet) (text : List Char) : stretch set text ≤ text.length :=
  (List.takeWhile_prefix _).length_le

theorem run_greedy (set : CharSet) (least : Nat) (s : State) (k : Continuation) :
    (Node.repetition .greedy least none (.chars set)).run s k =
      ((List.range (stretch set s.cursor.after + 1)).drop least).reverse.findSome?
        fun n => k (s.skip n) := by
  have hm : min s.cursor.after.length (stretch set s.cursor.after) = stretch set s.cursor.after :=
    Nat.min_eq_right (stretch_le_length ..)
  simp only [Node.run, repeatChars_eq, strideWays, strides_eq_map_skip, Option.getD_none]
  rw [← stretch, hm, ← List.map_drop, ← List.map_reverse, List.findSome?_map]
  rfl

/-- A stretch is taken as a whole, where failing after the whole of it means failing after each
part of it. -/
theorem run_greedy_of_committed {set : CharSet} {least n : Nat}
    (hn : stretch set s.cursor.after = n)
    (hk : k (s.skip n) = none → ∀ i < n, k (s.skip i) = none) :
    (Node.repetition .greedy least none (.chars set)).run s k =
      if least ≤ n then k (s.skip n) else none := by
  rw [run_greedy, hn]
  split
  next hle =>
    rw [List.range_succ, List.drop_append_of_le_length (by simpa using hle), List.reverse_append,
      List.reverse_singleton, List.singleton_append, List.findSome?_cons]
    cases h : k (s.skip n) with
    | some r => rfl
    | none =>
      rw [List.findSome?_eq_none_iff]
      intro i hi
      have hi' := List.mem_of_mem_drop (List.mem_reverse.mp hi)
      exact hk h i (List.mem_range.mp hi')
  next hlt => simp [List.drop_eq_nil_of_le, show n + 1 ≤ least by omega]

theorem run_star_of_committed {set : CharSet} {n : Nat} (hn : stretch set s.cursor.after = n)
    (hk : k (s.skip n) = none → ∀ i < n, k (s.skip i) = none) :
    (Node.star (.chars set)).run s k = k (s.skip n) := by
  rw [Node.star, run_greedy_of_committed hn hk, if_pos (Nat.zero_le _)]

theorem run_plus_of_committed {set : CharSet} {n : Nat} (hn : stretch set s.cursor.after = n)
    (hk : k (s.skip n) = none → ∀ i < n, k (s.skip i) = none) :
    (Node.plus (.chars set)).run s k = if n = 0 then none else k (s.skip n) := by
  rw [Node.plus, run_greedy_of_committed hn hk]
  cases n <;> simp

end ContractScan.Pattern
