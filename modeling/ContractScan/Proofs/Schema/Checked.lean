import ContractScan.Schema.Field

/-! # When checks succeed

A check of a record succeeds exactly when the checks of all its parts do.
-/

namespace ContractScan

section Except

variable {ε α β : Type}

theorem bind_eq_ok_iff {x : Except ε α} {f : α → Except ε β} {b : β} :
    x >>= f = .ok b ↔ ∃ a, x = .ok a ∧ f a = .ok b := by
  cases x <;> simp [bind, Except.bind]

theorem bind_eq_ok_imp {x : Except ε α} {f g : α → Except ε β} {b c : β} (h : x >>= f = .ok b)
    (hfg : ∀ a, f a = .ok b → g a = .ok c) : x >>= g = .ok c := by
  obtain ⟨a, rfl, ha⟩ := bind_eq_ok_iff.mp h
  exact hfg a ha

theorem ok_bind (a : α) (f : α → Except ε β) : Except.ok a >>= f = f a := rfl

theorem pure_eq_ok_iff {a b : α} : (pure a : Except ε α) = .ok b ↔ a = b := by
  simp [pure, Except.pure]

theorem toOption_eq_some_iff {x : Except ε α} {a : α} : x.toOption = some a ↔ x = .ok a := by
  cases x <;> simp [Except.toOption]

theorem mapM_eq_ok_iff {f : α → Except ε β} {items : List α} {values : List β} :
    items.mapM f = .ok values ↔ items.map f = values.map .ok := by
  induction items generalizing values with
  | nil => cases values <;> simp [pure_eq_ok_iff]
  | cons item rest ih =>
    simp only [List.mapM_cons, bind_eq_ok_iff, pure_eq_ok_iff, ih]
    cases values <;> simp

theorem mapM_eq_error_iff [Subsingleton ε] {f : α → Except ε β} {items : List α} {e : ε} :
    items.mapM f = .error e ↔ ∃ item ∈ items, f item = .error e := by
  induction items with
  | nil => simp [pure, Except.pure]
  | cons item rest ih =>
    rw [List.mapM_cons]
    cases hitem : f item with
    | error e' =>
      obtain rfl := Subsingleton.elim e' e
      simp [bind, Except.bind, hitem]
    | ok b =>
      have htail : (do
          let b' ← Except.ok b
          let bs ← rest.mapM f
          pure (b' :: bs)) = .error e ↔ rest.mapM f = .error e := by
        cases rest.mapM f <;> simp [bind, Except.bind, pure, Except.pure]
      rw [htail, ih]
      simp [hitem]

theorem exists_mapM {f : α → Except ε β} {items : List α}
    (h : ∀ item ∈ items, ∃ b, f item = .ok b) : ∃ values, items.mapM f = .ok values := by
  induction items with
  | nil => exact ⟨[], rfl⟩
  | cons item rest ih =>
    rw [List.forall_mem_cons] at h
    obtain ⟨⟨b, hb⟩, hrest⟩ := h
    obtain ⟨values, hvalues⟩ := ih hrest
    rw [List.mapM_cons, hb, ok_bind, hvalues]
    exact ⟨b :: values, rfl⟩

/-- The first item that fails decides the error. -/
theorem mapM_of_first_error {f : α → Except ε β} {before : List α} {item : α} {e : ε}
    (later : List α) (hbefore : ∀ other ∈ before, ∃ b, f other = .ok b) (h : f item = .error e) :
    (before ++ item :: later).mapM f = .error e := by
  induction before with
  | nil =>
    rw [List.nil_append, List.mapM_cons, h]
    rfl
  | cons other rest ih =>
    rw [List.forall_mem_cons] at hbefore
    obtain ⟨⟨b, hb⟩, hrest⟩ := hbefore
    rw [List.cons_append, List.mapM_cons, hb, ok_bind, ih hrest]
    rfl

/-- What every step of a run preserves holds at its end. -/
theorem foldlM_preserves {f : β → α → Except ε β} {P : β → Prop} {items : List α} {b b' : β}
    (hstep : ∀ b, ∀ a ∈ items, ∀ b', P b → f b a = .ok b' → P b') (hb : P b)
    (h : items.foldlM f b = .ok b') : P b' := by
  induction items generalizing b with
  | nil =>
    obtain rfl : b = b' := by simpa [pure_eq_ok_iff] using h
    exact hb
  | cons item rest ih =>
    rw [List.foldlM_cons, bind_eq_ok_iff] at h
    obtain ⟨next, hnext, h⟩ := h
    have hrest : ∀ b, ∀ a ∈ rest, ∀ b', P b → f b a = .ok b' → P b' :=
      fun b a ha => hstep b a (List.mem_cons_of_mem item ha)
    exact ih hrest (hstep b item List.mem_cons_self next hb hnext) h

end Except

namespace Checked

variable {α β : Type}

@[simp] theorem issue_ne_ok (kind : IssueKind) (location : List Step) (a : α) :
    issue kind location ≠ .ok a := by
  simp [issue]

@[simp] theorem map_eq_ok_iff {f : α → β} {x : Checked α} {b : β} :
    f <$> x = .ok b ↔ ∃ a, x = .ok a ∧ f a = b := by
  change x.map f = .ok b ↔ _
  cases x <;> simp [Checked.map]

@[simp] theorem seq_eq_ok_iff {f : Checked (α → β)} {x : Checked α} {b : β} :
    f <*> x = .ok b ↔ ∃ g, f = .ok g ∧ ∃ a, x = .ok a ∧ g a = b := by
  change f.apply x = .ok b ↔ _
  cases f with
  | ok g =>
    simp only [apply, ok.injEq, exists_eq_left']
    exact map_eq_ok_iff
  | issues first rest => simp [apply]

@[simp] theorem andThen_eq_ok_iff {x : Checked α} {f : α → Checked β} {b : β} :
    x.andThen f = .ok b ↔ ∃ a, x = .ok a ∧ f a = .ok b := by
  cases x <;> simp [andThen]

@[simp] theorem alongside_eq_ok_iff {x : Checked α} {other : List Issue} {a : α} :
    x.alongside other = .ok a ↔ x = .ok a ∧ other = [] := by
  cases x <;> cases other <;> simp [alongside]

@[simp] theorem under_eq_ok_iff {x : Checked α} {step : Step} {a : α} :
    x.under step = .ok a ↔ x = .ok a := by
  cases x <;> simp [under]

theorem collect_eq_ok_iff {position : Nat} {items : List (Checked α)} {values : List α} :
    collect position items = .ok values ↔ items = values.map .ok := by
  induction items generalizing position values with
  | nil => cases values <;> simp [collect]
  | cons item rest ih =>
    have hseq : collect position (item :: rest) = .ok values ↔
        ∃ a, item = .ok a ∧ ∃ as, rest = as.map .ok ∧ a :: as = values := by
      change (List.cons <$> item.under (.index position)) <*> collect (position + 1) rest =
        .ok values ↔ _
      simp only [seq_eq_ok_iff, map_eq_ok_iff, under_eq_ok_iff, ih]
      constructor
      · rintro ⟨_, ⟨a, ha, rfl⟩, as, has, h⟩
        exact ⟨a, ha, as, has, h⟩
      · rintro ⟨a, ha, as, has, h⟩
        exact ⟨_, ⟨a, ha, rfl⟩, as, has, h⟩
    rw [hseq]
    constructor
    · rintro ⟨a, rfl, as, rfl, rfl⟩
      rfl
    · intro h
      cases values with
      | nil => cases h
      | cons a as =>
        obtain ⟨rfl, rfl⟩ := List.cons.inj h
        exact ⟨a, rfl, as, rfl, rfl⟩

end Checked

namespace Field

variable {α : Type} {entries : List (Value × Value)} {name : String}

theorem required_eq_ok_iff {check : Value → Checked α} {a : α} :
    required entries name check = .ok a ↔
      ∃ value, Value.lookup entries name = some value ∧ check value = .ok a := by
  unfold required
  split <;> simp_all

theorem optional_eq_ok_iff {default : α} {check : Value → Checked α} {a : α} :
    optional entries name default check = .ok a ↔
      (Value.lookup entries name = none ∧ default = a) ∨
        ∃ value, Value.lookup entries name = some value ∧ check value = .ok a := by
  unfold optional
  split <;> simp_all

theorem record_eq_ok_iff {known : List String} {build : List (Value × Value) → Checked α}
    {value : Value} {a : α} :
    record name known build value = .ok a ↔
      ∃ entries, value = .map entries ∧ build entries = .ok a ∧ strayKeys known entries = [] := by
  unfold record
  split <;> simp_all

theorem nonEmptyText_eq_ok_iff {value : Value} {s : String} :
    nonEmptyText value = .ok s ↔ text value = .ok s ∧ s ≠ "" := by
  rw [nonEmptyText, Checked.andThen_eq_ok_iff]
  constructor
  · rintro ⟨t, ht, h⟩
    split at h
    · cases h
    next hne =>
      cases h
      exact ⟨ht, fun hempty => hne (by simp [hempty])⟩
  · rintro ⟨hs, hne⟩
    exact ⟨s, hs, if_neg fun hempty => hne (String.isEmpty_iff.mp hempty)⟩

theorem strayKeys_eq_nil_iff {known : List String} :
    strayKeys known entries = [] ↔ ∀ entry ∈ entries, ∃ name ∈ known, entry.1 = .str name := by
  rw [strayKeys, List.filterMap_eq_nil_iff]
  refine forall₂_congr fun entry _ => ?_
  obtain ⟨key, value⟩ := entry
  cases key <;> simp

end Field

end ContractScan
