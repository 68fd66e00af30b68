import ContractScan.Pattern.Width
import ContractScan.Proofs.Pattern.Ways

/-! # Where matches lead

Every way of a pattern leads to a later place of the same text, at least as
many characters on as the pattern is wide. A run of single characters reaches
exactly the places along the longest stretch of them.
-/

namespace ContractScan.Pattern

namespace Cursor

def skip (c : Cursor) (n : Nat) : Cursor :=
  ⟨(c.after.take n).reverse ++ c.before, c.after.drop n, c.offset + n⟩

@[simp] theorem skip_before (c : Cursor) (n : Nat) :
    (c.skip n).before = (c.after.take n).reverse ++ c.before := rfl

@[simp] theorem skip_after (c : Cursor) (n : Nat) : (c.skip n).after = c.after.drop n := rfl

@[simp] theorem skip_offset (c : Cursor) (n : Nat) : (c.skip n).offset = c.offset + n := rfl

@[simp] theorem skip_zero (c : Cursor) : c.skip 0 = c := by simp [skip]

@[simp] theorem skip_skip (c : Cursor) (m n : Nat) : (c.skip m).skip n = c.skip (m + n) := by
  simp [skip, List.take_add, Nat.add_assoc]

theorem skip_cons (before rest : List Char) (x : Char) (offset n : Nat) :
    skip ⟨x :: before, rest, offset + 1⟩ n = skip ⟨before, x :: rest, offset⟩ (n + 1) := by
  simp [skip, Nat.add_assoc, Nat.add_comm 1 n]

theorem upTo_skip (c : Cursor) (m n : Nat) :
    (c.skip m).upTo (c.skip (m + n)) = (c.after.drop m).take n := by
  simp only [upTo, skip_after, skip_offset]
  congr 1
  omega

theorem next?_eq_none_iff {c : Cursor} : c.next? = none ↔ c.after = [] := by
  unfold next?
  split <;> simp_all

theorem next?_eq_some_iff {c c' : Cursor} {x : Char} :
    c.next? = some (x, c') ↔ ∃ rest, c.after = x :: rest ∧ c' = c.skip 1 := by
  unfold next?
  split
  next h => simp [h]
  next y rest h =>
    simp only [Option.some.injEq, Prod.mk.injEq, h, List.cons.injEq]
    constructor
    · rintro ⟨rfl, rfl⟩
      exact ⟨rest, ⟨rfl, rfl⟩, by simp [skip, h]⟩
    · rintro ⟨rest', ⟨rfl, rfl⟩, rfl⟩
      exact ⟨rfl, by simp [skip, h]⟩

/-- The second place stands in the same text as the first, at least `least` characters later. -/
def Reaches (least : Nat) (c c' : Cursor) : Prop :=
  ∃ n, least ≤ n ∧ n ≤ c.after.length ∧ c' = c.skip n

namespace Reaches

theorem refl (c : Cursor) : Reaches 0 c c :=
  ⟨0, Nat.le_refl _, Nat.zero_le _, c.skip_zero.symm⟩

theorem mono {a b : Nat} {c c' : Cursor} (h : Reaches a c c') (hb : b ≤ a) : Reaches b c c' := by
  obtain ⟨n, hn, hle, rfl⟩ := h
  exact ⟨n, Nat.le_trans hb hn, hle, rfl⟩

theorem trans {a b : Nat} {c c' c'' : Cursor} (h : Reaches a c c') (h' : Reaches b c' c'') :
    Reaches (a + b) c c'' := by
  obtain ⟨m, hm, hle, rfl⟩ := h
  obtain ⟨n, hn, hle', rfl⟩ := h'
  simp only [skip_after, List.length_drop] at hle'
  exact ⟨m + n, by omega, by omega, skip_skip c m n⟩

theorem next {c c' : Cursor} {x : Char} (h : c.next? = some (x, c')) : Reaches 1 c c' := by
  obtain ⟨rest, hr, rfl⟩ := next?_eq_some_iff.mp h
  exact ⟨1, Nat.le_refl _, by simp [hr], rfl⟩

theorem add_le_offset {a : Nat} {c c' : Cursor} (h : Reaches a c c') :
    c.offset + a ≤ c'.offset := by
  obtain ⟨n, hn, _, rfl⟩ := h
  simpa using hn

end Reaches

end Cursor

theorem strides_eq_map_skip (set : CharSet) (limit : Nat) (before after : List Char)
    (offset : Nat) :
    strides set limit before after offset =
      (List.range (min limit (after.takeWhile set.contains).length + 1)).map
        (Cursor.skip ⟨before, after, offset⟩) := by
  induction limit generalizing before after offset with
  | zero => simp [strides_zero]
  | succ limit ih =>
    cases after with
    | nil => simp [strides_nil]
    | cons x rest =>
      by_cases hx : set.contains x
      · simp only [strides, hx, if_true, ih, List.takeWhile_cons, List.length_cons,
          Nat.add_min_add_right, List.range_succ_eq_map (n := _ + 1), List.map_cons,
          Cursor.skip_zero, List.map_map]
        congr 1
        apply List.map_congr_left
        intro n _
        exact Cursor.skip_cons ..
      · simp [strides, hx]

theorem mem_strideWays {mode : RepeatMode} {least : Nat} {places : List Cursor} {c : Cursor}
    (h : c ∈ strideWays mode least places) : c ∈ places.drop least := by
  cases mode with
  | greedy => simpa [strideWays] using h
  | lazy => exact h
  | possessive => exact List.mem_of_getLast? (by simpa [strideWays] using h)

theorem strideWays_reaches {mode : RepeatMode} {least limit : Nat} {set : CharSet} {c c' : Cursor}
    (h : c' ∈ strideWays mode least (strides set limit c.before c.after c.offset)) :
    c.Reaches least c' := by
  have hd := mem_strideWays h
  rw [strides_eq_map_skip, ← List.map_drop, List.mem_map] at hd
  obtain ⟨n, hn, rfl⟩ := hd
  obtain ⟨i, hi, rfl⟩ := List.mem_iff_getElem.mp hn
  have hlen := (List.takeWhile_prefix (l := c.after) set.contains).length_le
  simp only [List.length_drop, List.length_range] at hi
  simp only [List.getElem_drop, List.getElem_range]
  exact ⟨least + i, by omega, by omega, rfl⟩

section Rounds

variable {round : State → List State} {least : Nat} {most : Option Nat} {s s' : State}

theorem mem_lazyWays_iff {fuel count : Nat} {last : Option Nat} :
    s' ∈ lazyWays round least most fuel count last s ↔
      s' ∈ greedyWays round least most fuel count last s := by
  induction fuel generalizing count last s with
  | zero => simp [lazyWays, greedyWays]
  | succ fuel ih =>
    simp only [lazyWays, greedyWays]
    split
    · simp only [List.mem_flatMap, ih]
    · split
      · rw [List.mem_cons, List.mem_append, List.mem_singleton, or_comm]
        simp only [List.mem_flatMap, ih]
      · rfl

theorem mem_greedyWays_of_possessive {fuel count : Nat} {last : Option Nat}
    (h : possessiveRounds (fun s k => (round s).findSome? k) least most fuel count last s =
      some s') : s' ∈ greedyWays round least most fuel count last s := by
  induction fuel generalizing count last s with
  | zero => simp [possessiveRounds] at h
  | succ fuel ih =>
    simp only [possessiveRounds, findSome?_some] at h
    simp only [greedyWays]
    split at h
    next hc =>
      rw [if_pos hc, List.mem_flatMap]
      split at h
      · cases h
      next t ht => exact ⟨t, List.mem_of_head? ht, ih h⟩
    next hc =>
      rw [if_neg hc]
      split at h
      next ha =>
        rw [if_pos ha, List.mem_append, List.mem_flatMap]
        split at h
        · cases h
          exact Or.inr (List.mem_singleton_self _)
        next t ht => exact Or.inl ⟨t, List.mem_of_head? ht, ih h⟩
      next ha =>
        cases h
        rw [if_neg ha]
        exact List.mem_singleton_self _

theorem mem_roundWays {mode : RepeatMode} (h : s' ∈ roundWays mode least most round s) :
    s' ∈ greedyWays round least most (roundLimit least s) 0 none s := by
  cases mode with
  | greedy => exact h
  | lazy => exact mem_lazyWays_iff.mp h
  | possessive => exact mem_greedyWays_of_possessive (by simpa [roundWays] using h)

theorem greedyWays_reaches {w : Nat}
    (hr : ∀ s, ∀ s' ∈ round s, s.cursor.Reaches w s'.cursor)
    {fuel count : Nat} {last : Option Nat}
    (h : s' ∈ greedyWays round least most fuel count last s) :
    s.cursor.Reaches (w * (least - count)) s'.cursor := by
  induction fuel generalizing count last s with
  | zero => simp [greedyWays] at h
  | succ fuel ih =>
    simp only [greedyWays] at h
    split at h
    next hc =>
      obtain ⟨t, ht, hs'⟩ := List.mem_flatMap.mp h
      have hw : w * (least - count) = w + w * (least - (count + 1)) := by
        rw [show least - count = least - (count + 1) + 1 by omega, Nat.mul_add, Nat.mul_one,
          Nat.add_comm]
      exact hw ▸ (hr s t ht).trans (ih hs')
    next hc =>
      rw [show least - count = 0 by omega, Nat.mul_zero]
      split at h
      · rcases List.mem_append.mp h with h | h
        · obtain ⟨t, ht, hs'⟩ := List.mem_flatMap.mp h
          exact ((hr s t ht).trans (ih hs')).mono (Nat.zero_le _)
        · obtain rfl := List.mem_singleton.mp h
          exact .refl _
      · obtain rfl := List.mem_singleton.mp h
        exact .refl _

end Rounds

theorem follow_reaches {folding : Folding} {text : List Char} {c c' : Cursor}
    (h : follow folding text c = some c') : c.Reaches 0 c' := by
  induction text generalizing c with
  | nil =>
    cases h
    exact .refl _
  | cons x text ih =>
    simp only [follow] at h
    split at h
    · cases h
    next y d hd =>
      split at h
      · exact ((Cursor.Reaches.next hd).trans (ih h)).mono (Nat.zero_le _)
      · cases h

/-- The least width of a pattern, where a group that is referred to may be empty. -/
def Node.leastWidth (p : Node) : Nat :=
  (p.width fun _ => .zero).least

/-- Every way leads on in the same text, over at least the least width of the pattern. -/
theorem ways_reaches {p : Node} {s s' : State} (h : s' ∈ p.ways s) :
    s.cursor.Reaches p.leastWidth s'.cursor := by
  induction p generalizing s s' with
  | empty =>
    obtain rfl := List.mem_singleton.mp h
    exact .refl _
  | chars set =>
    simp only [Node.ways] at h
    split at h
    · cases h
    next x c hc =>
      split at h
      · obtain rfl := List.mem_singleton.mp h
        exact .next hc
      · cases h
  | anchor a =>
    simp only [Node.ways] at h
    split at h
    · obtain rfl := List.mem_singleton.mp h
      exact .refl _
    · cases h
  | seq first second ih ih' =>
    obtain ⟨t, ht, hs'⟩ := List.mem_flatMap.mp h
    exact (ih ht).trans (ih' hs')
  | alt first second ih ih' =>
    rcases List.mem_append.mp h with h | h
    · exact (ih h).mono (Nat.min_le_left _ _)
    · exact (ih' h).mono (Nat.min_le_right _ _)
  | group index body ih =>
    obtain ⟨t, ht, rfl⟩ := List.mem_map.mp h
    have hr := ih ht
    exact hr
  | repetition mode least most body ih =>
    have hw : ∀ s, ∀ s' ∈ body.ways s, s.cursor.Reaches body.leastWidth s'.cursor :=
      fun _ _ h => ih h
    cases body with
    | chars set =>
      obtain ⟨c, hc, rfl⟩ := List.mem_map.mp h
      exact (strideWays_reaches hc).mono (Nat.le_of_eq (Nat.one_mul _))
    | _ => exact greedyWays_reaches hw (mem_roundWays h)
  | backreference index folding =>
    simp only [Node.ways] at h
    split at h
    · cases h
    · split at h
      · cases h
      next c hc =>
        obtain rfl := List.mem_singleton.mp h
        exact follow_reaches hc
  | conditional index matched unmatched ih ih' =>
    simp only [Node.ways] at h
    split at h
    · exact (ih h).mono (Nat.min_le_left _ _)
    · exact (ih' h).mono (Nat.min_le_right _ _)
  | look direction negated body ih =>
    simp only [Node.ways] at h
    split at h
    · obtain rfl := List.mem_singleton.mp h
      exact .refl _
    · obtain rfl := List.mem_singleton.mp h
      exact .refl _
    · cases h
  | atomic body ih => exact ih (List.mem_of_head? (by simpa [Node.ways] using h))

end ContractScan.Pattern
