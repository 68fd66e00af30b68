import ContractScan.Proofs.Pattern.Reach

/-! # Searching

A search walks over the text place by place. Where the pattern matches, the
match is taken and the walk goes on from its end; elsewhere it goes on after
the next character. The matches therefore lie in the text one after another.
-/

namespace ContractScan.Pattern

variable {p : Node} {advance : Bool} {c : Cursor}

theorem matchAt_eq_some {m : Found} (h : matchAt p advance c = some m) :
    ∃ s ∈ p.ways { cursor := c }, m = ⟨c, s.cursor, s.captures⟩ ∧
      (advance = true → s.cursor.offset ≠ c.offset) := by
  simp only [matchAt, run_eq_findSome?_ways, Option.map_eq_some_iff] at h
  obtain ⟨s, hs, rfl⟩ := h
  obtain ⟨t, ht, hk⟩ := List.exists_of_findSome?_eq_some hs
  split at hk
  · cases hk
  next ha =>
    cases hk
    exact ⟨s, ht, rfl, fun hadv ho => ha (by simp [hadv, ho])⟩

theorem matchAt_eq_none_iff_ways : matchAt p advance c = none ↔
    ∀ s ∈ p.ways { cursor := c }, advance = true ∧ s.cursor.offset = c.offset := by
  simp only [matchAt, run_eq_findSome?_ways, Option.map_eq_none_iff, List.findSome?_eq_none_iff]
  refine forall₂_congr fun s _ => ?_
  split <;> simp_all

theorem matchAt_first {m : Found} (h : matchAt p advance c = some m) : m.first = c := by
  obtain ⟨s, _, rfl, _⟩ := matchAt_eq_some h
  rfl

theorem matchAt_reaches {m : Found} (h : matchAt p advance c = some m) :
    c.Reaches p.leastWidth m.last := by
  obtain ⟨s, hs, rfl, _⟩ := matchAt_eq_some h
  exact ways_reaches hs

theorem lt_offset_of_matchAt {m : Found} (h : matchAt p true c = some m) :
    c.offset < m.last.offset := by
  have hle := (matchAt_reaches h).add_le_offset
  obtain ⟨s, -, rfl, hmoves⟩ := matchAt_eq_some h
  have hne : s.cursor.offset ≠ c.offset := hmoves rfl
  change c.offset + p.leastWidth ≤ s.cursor.offset at hle
  change c.offset < s.cursor.offset
  omega

theorem matchAt_true_eq_none (h : matchAt p advance c = none) : matchAt p true c = none := by
  rw [matchAt_eq_none_iff_ways] at h ⊢
  exact fun s hs => ⟨rfl, (h s hs).2⟩

theorem matchAt_true_of_after_eq_nil (h : c.after = []) : matchAt p true c = none := by
  rw [matchAt_eq_none_iff_ways]
  intro s hs
  obtain ⟨n, -, hn, hc⟩ := ways_reaches hs
  change n ≤ c.after.length at hn
  obtain rfl : n = 0 := by simpa [h] using hn
  exact ⟨rfl, by rw [hc]; rfl⟩

theorem matchAt_of_leastWidth_pos (hp : 0 < p.leastWidth) (advance : Bool) (c : Cursor) :
    matchAt p advance c = (p.run { cursor := c } some).map fun s => ⟨c, s.cursor, s.captures⟩ := by
  simp only [matchAt, run_eq_findSome?_ways]
  congr 1
  have hne : ∀ s ∈ p.ways { cursor := c }, s.cursor.offset ≠ c.offset := by
    intro s hs
    have ho : c.offset + p.leastWidth ≤ s.cursor.offset := (ways_reaches hs).add_le_offset
    omega
  cases hw : p.ways { cursor := c } with
  | nil => rfl
  | cons s l => simp [hne s (by simp [hw])]

/-- The matches met by walking over the text from a place. With `advance` a match right at the
place has to move on. -/
inductive Finds (p : Node) : Bool → Cursor → List Found → Prop where
  | stop {advance : Bool} {c : Cursor} : matchAt p advance c = none → c.after = [] →
      Finds p advance c []
  | skip {advance : Bool} {c : Cursor} {x : Char} {rest : List Char} {ms : List Found} :
      matchAt p advance c = none → c.after = x :: rest → Finds p false (c.skip 1) ms →
      Finds p advance c ms
  | take {advance : Bool} {c : Cursor} {m : Found} {ms : List Found} :
      matchAt p advance c = some m → Finds p m.isEmpty m.last ms → Finds p advance c (m :: ms)

theorem finds_of_searchFrom_eq_none {before after : List Char} {offset : Nat}
    (h : searchFrom p advance before offset after = none) :
    Finds p advance ⟨before, after, offset⟩ [] := by
  induction after generalizing advance before offset with
  | nil =>
    simp only [searchFrom] at h
    split at h
    · cases h
    next hm => exact .stop hm rfl
  | cons x rest ih =>
    simp only [searchFrom] at h
    split at h
    · cases h
    next hm => exact .skip hm rfl (ih h)

theorem finds_of_searchFrom_eq_some {before after : List Char} {offset : Nat} {m : Found}
    {ms : List Found} (h : searchFrom p advance before offset after = some m)
    (hms : Finds p m.isEmpty m.last ms) : Finds p advance ⟨before, after, offset⟩ (m :: ms) := by
  induction after generalizing advance before offset with
  | nil =>
    simp only [searchFrom] at h
    split at h
    next hm =>
      cases h
      exact .take hm hms
    · cases h
  | cons x rest ih =>
    simp only [searchFrom] at h
    split at h
    next hm =>
      cases h
      exact .take hm hms
    next hm => exact .skip hm rfl (ih h)

theorem matchAt_of_searchFrom_eq_none {before after : List Char} {offset : Nat}
    (h : searchFrom p false before offset after = none) {n : Nat} (hn : n ≤ after.length) :
    matchAt p false (Cursor.skip ⟨before, after, offset⟩ n) = none := by
  induction after generalizing before offset n with
  | nil =>
    obtain rfl : n = 0 := Nat.le_zero.mp hn
    simp only [searchFrom] at h
    split at h
    · cases h
    next hm => rwa [Cursor.skip_zero]
  | cons x rest ih =>
    simp only [searchFrom] at h
    split at h
    · cases h
    next hm =>
      cases n with
      | zero => rwa [Cursor.skip_zero]
      | succ n =>
        rw [← Cursor.skip_cons]
        exact ih h (Nat.le_of_succ_le_succ hn)

theorem matchAt_of_searchFrom_eq_some {before after : List Char} {offset : Nat} {m : Found}
    (h : searchFrom p false before offset after = some m) :
    ∃ n ≤ after.length, matchAt p false (Cursor.skip ⟨before, after, offset⟩ n) = some m ∧
      ∀ k < n, matchAt p false (Cursor.skip ⟨before, after, offset⟩ k) = none := by
  induction after generalizing before offset with
  | nil =>
    simp only [searchFrom] at h
    split at h
    next hm =>
      cases h
      exact ⟨0, Nat.zero_le _, by rwa [Cursor.skip_zero], by simp⟩
    · cases h
  | cons x rest ih =>
    simp only [searchFrom] at h
    split at h
    next hm =>
      cases h
      exact ⟨0, Nat.zero_le _, by rwa [Cursor.skip_zero], by simp⟩
    next hm =>
      obtain ⟨n, hn, hat, hbefore⟩ := ih h
      refine ⟨n + 1, Nat.succ_le_succ hn, by rwa [← Cursor.skip_cons], ?_⟩
      intro k hk
      cases k with
      | zero => rwa [Cursor.skip_zero]
      | succ k =>
        rw [← Cursor.skip_cons]
        exact hbefore k (Nat.lt_of_succ_lt_succ hk)

def budget (advance : Bool) (c : Cursor) : Nat :=
  2 * c.after.length + if advance then 0 else 1

theorem budget_matchAt_lt {m : Found} (h : matchAt p advance c = some m) :
    budget m.isEmpty m.last < budget advance c := by
  obtain ⟨s, hs, rfl, ha⟩ := matchAt_eq_some h
  obtain ⟨n, _, hn, hc⟩ := ways_reaches hs
  simp only [budget, Found.isEmpty, hc, Cursor.skip_after, Cursor.skip_offset,
    List.length_drop] at ha hn ⊢
  cases n with
  | zero =>
    have hf : advance = false := Bool.eq_false_iff.mpr fun hadv => ha hadv rfl
    simp [hf]
  | succ n =>
    have he : (c.offset == c.offset + (n + 1)) = false := by simp
    rw [he]
    split <;> split <;> omega

theorem budget_searchFrom_lt {before after : List Char} {offset : Nat} {m : Found}
    (h : searchFrom p advance before offset after = some m) :
    budget m.isEmpty m.last < budget advance ⟨before, after, offset⟩ := by
  induction after generalizing advance before offset with
  | nil =>
    simp only [searchFrom] at h
    split at h
    next hm =>
      cases h
      exact budget_matchAt_lt hm
    · cases h
  | cons x rest ih =>
    simp only [searchFrom] at h
    split at h
    next hm =>
      cases h
      exact budget_matchAt_lt hm
    next hm =>
      have hlt := ih h
      simp only [budget, List.length_cons] at hlt ⊢
      split at hlt <;> split <;> simp_all <;> omega

theorem searchAll_finds {fuel : Nat} (hf : budget advance c < fuel) :
    Finds p advance c (searchAll p fuel advance c) := by
  induction fuel generalizing advance c with
  | zero => omega
  | succ fuel ih =>
    simp only [searchAll, searchAt]
    split
    next h => exact finds_of_searchFrom_eq_none h
    next m h =>
      have hb := budget_searchFrom_lt h
      exact finds_of_searchFrom_eq_some h (ih (by change _ < budget advance c at hb; omega))

/-- All matches in a text are the ones that a walk from its start meets. -/
theorem findAll_finds (p : Node) (text : List Char) :
    Finds p false (.start text) (findAll p text) :=
  searchAll_finds (by simp [budget, Cursor.start])

namespace Finds

variable {ms : List Found}

theorem reaches (h : Finds p advance c ms) :
    ∀ m ∈ ms, c.Reaches 0 m.first ∧ m.first.Reaches p.leastWidth m.last := by
  induction h with
  | stop => simp
  | @skip advance c x rest ms _ hc _ ih =>
    intro m hm
    have h1 : c.Reaches 1 (c.skip 1) := ⟨1, Nat.le_refl _, by simp [hc], rfl⟩
    exact ⟨(h1.trans (ih m hm).1).mono (Nat.zero_le _), (ih m hm).2⟩
  | @take advance c m ms hm _ ih =>
    have hl := matchAt_reaches hm
    intro m' hm'
    rcases List.mem_cons.mp hm' with rfl | hm'
    · rw [matchAt_first hm]
      exact ⟨.refl _, hl⟩
    · exact ⟨(hl.trans (ih m' hm').1).mono (Nat.zero_le _), (ih m' hm').2⟩

theorem offset_le (h : Finds p advance c ms) {m : Found} (hm : m ∈ ms) :
    c.offset ≤ m.first.offset :=
  (h.reaches m hm).1.add_le_offset

theorem lt_last_offset (h : Finds p advance c ms) (hp : 0 < p.leastWidth) {m : Found}
    (hm : m ∈ ms) : c.offset < m.last.offset := by
  have hf := h.offset_le hm
  have hl := (h.reaches m hm).2.add_le_offset
  omega

theorem exists_matchAt (h : Finds p advance c ms) :
    ∀ m ∈ ms, ∃ advance', matchAt p advance' m.first = some m := by
  induction h with
  | stop => simp
  | skip _ _ _ ih => exact ih
  | @take advance c m ms hm _ ih =>
    intro m' hm'
    rcases List.mem_cons.mp hm' with rfl | hm'
    · exact ⟨advance, by rw [matchAt_first hm, hm]⟩
    · exact ih m' hm'

theorem pairwise (h : Finds p advance c ms) :
    ms.Pairwise fun m m' => m.last.offset ≤ m'.first.offset := by
  induction h with
  | stop => exact .nil
  | skip _ _ _ ih => exact ih
  | take _ h ih => exact .cons (fun m' hm' => h.offset_le hm') ih

theorem lt_last_offset_of_advance (h : Finds p true c ms) {m : Found} (hm : m ∈ ms) :
    c.offset < m.last.offset := by
  cases h with
  | stop => cases hm
  | skip _ _ h =>
    have hfirst := h.offset_le hm
    have hlast := (h.reaches m hm).2.add_le_offset
    rw [Cursor.skip_offset] at hfirst
    omega
  | take hat h =>
    have hmoves := lt_offset_of_matchAt hat
    rcases List.mem_cons.mp hm with rfl | hm
    · exact hmoves
    · have hfirst := h.offset_le hm
      have hlast := (h.reaches m hm).2.add_le_offset
      omega

/-- Of two matches that a walk meets, the second begins where the first has ended or later, and
does not span the same places again. -/
theorem pairwise_apart (h : Finds p advance c ms) :
    ms.Pairwise fun m m' => m.last.offset ≤ m'.first.offset ∧
      (m.first.offset, m.last.offset) ≠ (m'.first.offset, m'.last.offset) := by
  induction h with
  | stop => exact .nil
  | skip _ _ _ ih => exact ih
  | @take advance c m ms hat h ih =>
    refine .cons (fun m' hm' => ⟨h.offset_le hm', fun hsame => ?_⟩) ih
    obtain ⟨hfirst, hlast⟩ := Prod.mk.inj hsame
    have hle := h.offset_le hm'
    have hle' := (h.reaches m' hm').2.add_le_offset
    have hempty : m.isEmpty = true := by
      rw [Found.isEmpty, beq_iff_eq]
      omega
    rw [hempty] at h
    have hlt := h.lt_last_offset_of_advance hm'
    omega

/-- Outside the matches that a walk meets nothing matches but the empty text. -/
theorem matchAt_eq_none_outside (h : Finds p advance c ms) (n : Nat)
    (houtside : ∀ m ∈ ms, c.offset + n < m.first.offset ∨ m.last.offset ≤ c.offset + n) :
    matchAt p true (c.skip n) = none := by
  induction h generalizing n with
  | @stop advance c hat hend =>
    exact matchAt_true_of_after_eq_nil (by rw [Cursor.skip_after, hend, List.drop_nil])
  | @skip advance c x rest ms hat _ _ ih =>
    cases n with
    | zero =>
      rw [Cursor.skip_zero]
      exact matchAt_true_eq_none hat
    | succ n =>
      rw [Nat.add_comm n 1, ← Cursor.skip_skip]
      refine ih n fun m hm => ?_
      have hm := houtside m hm
      rw [Cursor.skip_offset]
      omega
  | @take advance c m ms hat _ ih =>
    obtain ⟨w, -, -, hlast⟩ := matchAt_reaches hat
    obtain ⟨hout, hrest⟩ := List.forall_mem_cons.mp houtside
    rw [matchAt_first hat, hlast, Cursor.skip_offset] at hout
    obtain ⟨k, rfl⟩ : ∃ k, n = w + k := ⟨n - w, by omega⟩
    rw [← Cursor.skip_skip, ← hlast]
    refine ih k fun m' hm' => ?_
    have hm' := hrest m' hm'
    rw [hlast, Cursor.skip_offset]
    omega

end Finds

theorem exists_span_of_mem_findAll {text : List Char} {m : Found} (hm : m ∈ findAll p text) :
    ∃ start width, start + width ≤ text.length ∧ m.first.offset = start ∧
      m.last.offset = start + width ∧ m.chars = (text.drop start).take width := by
  obtain ⟨⟨start, -, hstart, hfirst⟩, ⟨width, -, hwidth, hlast⟩⟩ :=
    (findAll_finds p text).reaches m hm
  simp only [hfirst, Cursor.start, Cursor.skip_after, List.length_drop] at hstart hwidth
  refine ⟨start, width, by omega, by simp [hfirst, Cursor.start],
    by simp [hlast, hfirst, Cursor.start], ?_⟩
  simp [Found.chars, Cursor.upTo, hlast, hfirst, Cursor.start]

theorem splice_cons (f : List Char → List Char) (x : Char) (rest : List Char) {offset : Nat}
    {ms : List Found} (h : ∀ m ∈ ms, offset + 1 ≤ m.first.offset) :
    splice f offset (x :: rest) ms = x :: splice f (offset + 1) rest ms := by
  cases ms with
  | nil => rfl
  | cons m ms =>
    have hm := h m List.mem_cons_self
    simp only [splice]
    rw [show m.first.offset - offset = m.first.offset - (offset + 1) + 1 by omega]
    rfl

end ContractScan.Pattern
