import ContractScan.Proofs.FileTree.Order
import ContractScan.Proofs.Schema.Checked

/-! # Growing file trees

Every step that changes a tree keeps its directories directories and its files
files. A path therefore leads on to where it led before, and a file that was
written is found under the path it was written to.
-/

namespace ContractScan

section Steps

variable {ε σ α β : Type} {x : ExceptT ε (StateM σ) α} {f : α → ExceptT ε (StateM σ) β}
  {s s' : σ} {b : β} {e : ε}

theorem run_bind : (x >>= f).run.run s =
    match x.run.run s with
    | (.ok a, s₁) => (f a).run.run s₁
    | (.error e, s₁) => (.error e, s₁) := by
  rw [ExceptT.run_bind, StateT.run_bind]
  rcases x.run.run s with ⟨_ | a, s₁⟩ <;> rfl

theorem run_bind_of_ok {a : α} (h : x.run.run s = (.ok a, s')) :
    (x >>= f).run.run s = (f a).run.run s' := by
  rw [run_bind, h]

theorem run_bind_of_error (h : x.run.run s = (.error e, s')) :
    (x >>= f).run.run s = (.error e, s') := by
  rw [run_bind, h]

theorem run_bind_eq_ok (h : (x >>= f).run.run s = (.ok b, s')) :
    ∃ a s₁, x.run.run s = (.ok a, s₁) ∧ (f a).run.run s₁ = (.ok b, s') := by
  rw [run_bind] at h
  rcases hx : x.run.run s with ⟨_ | a, s₁⟩ <;> rw [hx] at h
  · cases h
  · exact ⟨a, s₁, rfl, h⟩

theorem run_bind_eq_error (h : (x >>= f).run.run s = (.error e, s')) :
    x.run.run s = (.error e, s') ∨
      ∃ a s₁, x.run.run s = (.ok a, s₁) ∧ (f a).run.run s₁ = (.error e, s') := by
  rw [run_bind] at h
  rcases hx : x.run.run s with ⟨_ | a, s₁⟩ <;> rw [hx] at h
  · cases h
    exact .inl rfl
  · exact .inr ⟨a, s₁, rfl, h⟩

end Steps

namespace FileTree

variable {t t' : FileTree} {names other place : List String} {node : FileNode}

section Nodes

theorem lookup_replace_self {nodes : List (List String × FileNode)}
    (h : (nodes.lookup names).isSome) :
    (nodes.map fun entry => if entry.1 == names then (names, node) else entry).lookup names =
      some node := by
  induction nodes with
  | nil => simp at h
  | cons entry rest ih =>
    obtain ⟨key, old⟩ := entry
    by_cases hkey : names = key
    · simp [hkey]
    · have hne : (names == key) = false := by simpa using hkey
      rw [List.lookup_cons, hne] at h
      simpa [Ne.symm hkey, List.lookup_cons, hne] using ih h

theorem lookup_replace_of_ne {nodes : List (List String × FileNode)} (hne : other ≠ names) :
    (nodes.map fun entry => if entry.1 == names then (names, node) else entry).lookup other =
      nodes.lookup other := by
  induction nodes with
  | nil => rfl
  | cons entry rest ih =>
    obtain ⟨key, old⟩ := entry
    by_cases hkey : key = names
    · have hother : (other == key) = false := by simpa [hkey] using hne
      have hother' : (other == names) = false := by simpa using hne
      simpa [hkey, List.lookup_cons, hother'] using ih
    · have hbeq : (key == names) = false := by simpa using hkey
      simp only [List.map_cons, hbeq, Bool.false_eq_true, if_false, List.lookup_cons, ih]

@[simp] theorem node?_nil : t.node? [] = some .directory := rfl

theorem node?_put_self (h : names ≠ []) : (t.put names node).node? names = some node := by
  have hnames : names.isEmpty = false := by simpa using h
  simp only [node?, put, hnames, Bool.false_eq_true, if_false]
  split
  · exact lookup_replace_self (by assumption)
  · rename_i hnone
    rw [Bool.not_eq_true, Option.isSome_eq_false_iff, Option.isNone_iff_eq_none] at hnone
    simp [List.lookup_append, hnone]

theorem node?_put_of_ne (h : other ≠ names) : (t.put names node).node? other = t.node? other := by
  have hother : (other == names) = false := by simpa using h
  simp only [node?, put]
  split
  · rfl
  · split
    · exact lookup_replace_of_ne h
    · simp [List.lookup_append, List.lookup_cons, hother]

@[simp] theorem base_put : (t.put names node).base = t.base := by
  unfold put; split <;> rfl

@[simp] theorem locked_put : (t.put names node).locked = t.locked := by
  unfold put; split <;> rfl

end Nodes

/-- Whether there is a directory, or a file, at a place. -/
def kind? (t : FileTree) (names : List String) : Option Bool :=
  (t.node? names).map (· == .directory)

theorem kind?_eq_true_iff : t.kind? names = some true ↔ t.node? names = some .directory := by
  simp [kind?]

theorem kind?_eq_none_iff : t.kind? names = none ↔ t.node? names = none := by
  simp [kind?]

/-- The later tree has all that the earlier one has, each thing of its kind. -/
structure Grows (t t' : FileTree) : Prop where
  base : t'.base = t.base
  kind? : ∀ names k, t.kind? names = some k → t'.kind? names = some k

namespace Grows

theorem refl (t : FileTree) : Grows t t := ⟨rfl, fun _ _ h => h⟩

theorem trans {t'' : FileTree} (h : Grows t t') (h' : Grows t' t'') : Grows t t'' :=
  ⟨h'.base.trans h.base, fun names k hk => h'.kind? names k (h.kind? names k hk)⟩

theorem directory (h : Grows t t') (hd : t.node? names = some .directory) :
    t'.node? names = some .directory :=
  kind?_eq_true_iff.mp (h.kind? _ _ (kind?_eq_true_iff.mpr hd))

theorem isSome (h : Grows t t') (hs : (t.node? names).isSome) : (t'.node? names).isSome := by
  obtain ⟨node, hnode⟩ := Option.isSome_iff_exists.mp hs
  have hkind := h.kind? names (node == .directory) (by simp [FileTree.kind?, hnode])
  rw [FileTree.kind?, Option.map_eq_some_iff] at hkind
  obtain ⟨node', hnode', -⟩ := hkind
  simp [hnode']

theorem put (hk : ∀ k, t.kind? names = some k → k = (node == .directory)) :
    Grows t (t.put names node) where
  base := base_put
  kind? other k h := by
    by_cases hother : other = names
    · subst hother
      have hkind := hk k h
      by_cases hnil : other = []
      · subst hnil
        exact h
      · simp [FileTree.kind?, node?_put_self hnil, hkind]
    · rw [FileTree.kind?, node?_put_of_ne hother]
      exact h

theorem follow (h : Grows t t') {found : List String} (hf : t.follow place names = .ok found) :
    t'.follow place names = .ok found := by
  induction names generalizing place with
  | nil => simpa [FileTree.follow] using hf
  | cons name rest ih =>
    rw [FileTree.follow] at hf ⊢
    split at hf
    · cases hf
    · cases hf
    · rename_i hdir
      simp only [h.directory hdir]
      split at hf
      · rename_i hup
        simp only [hup, if_true]
        split at hf
        · cases hf
        · rename_i hplace
          simp only [hplace, Bool.false_eq_true, if_false]
          exact ih hf
      · rename_i hdown
        simp only [hdown, Bool.false_eq_true, if_false]
        simp only at hf
        split at hf
        · rename_i hnext
          simp only [h.isSome hnext, if_true]
          exact ih hf
        · cases hf

theorem namesOf (h : Grows t t') (p : Path) : t'.namesOf p = t.namesOf p := by
  simp only [FileTree.namesOf, h.base]

theorem locate (h : Grows t t') {p : Path} (hl : t.locate p = .ok names) :
    t'.locate p = .ok names := by
  simp only [FileTree.locate, bind_eq_ok_iff, h.namesOf] at hl ⊢
  obtain ⟨steps, hsteps, hfollow⟩ := hl
  exact ⟨steps, hsteps, h.follow hfollow⟩

end Grows

section Follow

theorem follow_append {first rest : List String} :
    t.follow place (first ++ rest) = t.follow place first >>= fun p => t.follow p rest := by
  induction first generalizing place with
  | nil => rfl
  | cons name first ih =>
    simp only [List.cons_append, follow]
    split
    · rfl
    · rfl
    · split
      · split
        · rfl
        · exact ih
      · split
        · exact ih
        · rfl

def Reached (t : FileTree) (place : List String) : Prop :=
  ∀ count < place.length, t.node? (place.take count) = some .directory

theorem reached_nil : t.Reached [] := fun _ h => absurd h (by simp)

theorem Reached.dropLast (h : t.Reached place) : t.Reached place.dropLast := by
  intro count hcount
  rw [List.length_dropLast] at hcount
  rw [List.dropLast_eq_take, List.take_take, Nat.min_eq_left (by omega)]
  exact h count (by omega)

theorem Reached.node?_dropLast (h : t.Reached place) (hne : place ≠ []) :
    t.node? place.dropLast = some .directory := by
  have hlength : 0 < place.length := List.length_pos_iff.mpr hne
  rw [List.dropLast_eq_take]
  exact h _ (by omega)

theorem Reached.append (h : t.Reached place) (hdir : t.node? place = some .directory)
    (name : String) : t.Reached (place ++ [name]) := by
  intro count hcount
  rw [List.length_append, List.length_singleton] at hcount
  rcases Nat.lt_or_ge count place.length with hlt | hge
  · rw [List.take_append_of_le_length (Nat.le_of_lt hlt)]
    exact h count hlt
  · obtain rfl : count = place.length := by omega
    rwa [List.take_left']
    rfl

theorem Reached.follow (h : t.Reached place) {found : List String}
    (hf : t.follow place names = .ok found) : t.Reached found := by
  induction names generalizing place with
  | nil =>
    obtain rfl : place = found := by simpa [FileTree.follow] using hf
    exact h
  | cons name rest ih =>
    rw [FileTree.follow] at hf
    split at hf
    · cases hf
    · cases hf
    · rename_i hdir
      split at hf
      · split at hf
        · cases hf
        · exact ih h.dropLast hf
      · simp only at hf
        split at hf
        · exact ih (h.append hdir name) hf
        · cases hf

theorem node?_of_follow_up {found : List String}
    (hf : t.follow [] (names ++ [".."]) = .ok found) : t.node? found = some .directory := by
  rw [follow_append, bind_eq_ok_iff] at hf
  obtain ⟨place, hplace, hup⟩ := hf
  have hreached : t.Reached place := reached_nil.follow hplace
  simp only [follow, beq_self_eq_true, if_true] at hup
  split at hup
  · cases hup
  · cases hup
  · split at hup
    · cases hup
    · rename_i hne
      obtain rfl : place.dropLast = found := by simpa using hup
      exact hreached.node?_dropLast (by simpa using hne)

end Follow

section Place

/-- A place is free for a file only if it is a name in a directory. -/
theorem place_eq_ok {p : Path} (h : t.place p = .ok place)
    (hfree : t.node? place ≠ some .directory) :
    ∃ steps directory name, t.namesOf p = .ok (steps ++ [name]) ∧ name ≠ ".." ∧
      t.follow [] steps = .ok directory ∧ t.node? directory = some .directory ∧
      place = directory ++ [name] := by
  simp only [FileTree.place, bind_eq_ok_iff] at h
  obtain ⟨steps, hsteps, h⟩ := h
  split at h
  · cases h
    simp at hfree
  · rename_i hlast
    obtain ⟨steps, rfl⟩ := List.getLast?_eq_some_iff.mp hlast
    exact absurd (node?_of_follow_up h) hfree
  · rename_i name hup hlast
    obtain ⟨steps, rfl⟩ := List.getLast?_eq_some_iff.mp hlast
    rw [List.dropLast_concat] at h
    obtain ⟨directory, hfollow, h⟩ := bind_eq_ok_iff.mp h
    split at h
    · rename_i hdir
      cases h
      exact ⟨steps, directory, name, hsteps, hup, hfollow, hdir, rfl⟩
    · cases h

theorem place_of_follow {p : Path} {steps directory : List String} {name : String}
    (hnames : t.namesOf p = .ok (steps ++ [name])) (hup : name ≠ "..")
    (hfollow : t.follow [] steps = .ok directory) (hdir : t.node? directory = some .directory) :
    t.place p = .ok (directory ++ [name]) := by
  simp only [FileTree.place, bind_eq_ok_iff, hnames, Except.ok.injEq, exists_eq_left']
  rw [List.getLast?_concat]
  split
  · rename_i hlast
    cases hlast
  · rename_i hlast
    cases hlast
    exact absurd rfl hup
  · rename_i hlast
    cases hlast
    rw [List.dropLast_concat, bind_eq_ok_iff]
    exact ⟨directory, hfollow, by rw [hdir]⟩

theorem place_of_locate {p : Path} (h : t.locate p = .ok place) : t.place p = .ok place := by
  simp only [FileTree.locate, FileTree.place, bind_eq_ok_iff] at h ⊢
  obtain ⟨names, hnames, hfollow⟩ := h
  refine ⟨names, hnames, ?_⟩
  split
  · rename_i hlast
    obtain rfl : names = [] := List.getLast?_eq_none_iff.mp hlast
    exact hfollow
  · exact hfollow
  · rename_i name hup hlast
    obtain ⟨steps, rfl⟩ := List.getLast?_eq_some_iff.mp hlast
    rw [follow_append, bind_eq_ok_iff] at hfollow
    obtain ⟨directory, hsteps, hname⟩ := hfollow
    rw [List.dropLast_concat, bind_eq_ok_iff]
    refine ⟨directory, hsteps, ?_⟩
    have hdown : (name == "..") = false := by simpa using hup
    simp only [follow, hdown, Bool.false_eq_true, if_false] at hname
    split at hname
    · cases hname
    · cases hname
    · rename_i hdir
      rw [hdir]
      split at hname
      · exact hname
      · cases hname

theorem namesOf_eq_ok_iff {p : Path} {steps : List String} :
    t.namesOf p = .ok steps ↔
      p.isAbsolute = true ∧ p.root = t.base.root ∧ p.names = t.base.names ++ steps ∨
        p.isAbsolute = false ∧ p.names = steps := by
  unfold namesOf
  cases habsolute : p.isAbsolute with
  | false => simp
  | true =>
    simp only [true_and, Bool.true_eq_false, false_and, or_false, if_true]
    rw [← Path.below?_eq_some_iff]
    cases p.below? t.base with
    | none => simp
    | some names => simp

theorem namesOf_parent {p : Path} {steps : List String} {name : String}
    (h : t.namesOf p = .ok (steps ++ [name])) : t.namesOf p.parent = .ok steps := by
  rw [namesOf_eq_ok_iff] at h ⊢
  rcases h with ⟨habsolute, hroot, hnames⟩ | ⟨hrelative, hnames⟩
  · exact .inl ⟨habsolute, hroot, by simp [Path.parent, hnames, ← List.append_assoc]⟩
  · exact .inr ⟨hrelative, by simp [Path.parent, hnames]⟩

theorem write_eq_ok {p : Path} {text : String} (h : t.write p text = .ok t') :
    ∃ place, t.place p = .ok place ∧ t.node? place ≠ some .directory ∧
      t' = t.put place (.file (.text text)) := by
  simp only [write, bind_eq_ok_iff] at h
  obtain ⟨place, hplace, h⟩ := h
  split at h
  · cases h
  · rename_i hfree
    cases h
    exact ⟨place, hplace, hfree, rfl⟩

theorem write_of_place {p : Path} {text : String} (hplace : t.place p = .ok place)
    (hfree : t.node? place ≠ some .directory) :
    t.write p text = .ok (t.put place (.file (.text text))) := by
  rw [write, bind_eq_ok_iff]
  refine ⟨place, hplace, ?_⟩
  split
  · rename_i hdir
    exact absurd hdir hfree
  · rfl

theorem Grows.put_file {content : Content} (h : t.node? names ≠ some .directory) :
    Grows t (t.put names (.file content)) := by
  refine .put fun k hk => ?_
  cases k with
  | true => exact absurd (kind?_eq_true_iff.mp hk) h
  | false => rfl

/-- A path leads to what was made or written under it, and its place is the same. -/
theorem locate_put_place {p : Path} (hplace : t.place p = .ok place)
    (hfree : t.node? place ≠ some .directory) (hgrows : Grows t (t.put place node)) :
    place ≠ [] ∧ (t.put place node).locate p = .ok place ∧
      (t.put place node).place p = .ok place := by
  obtain ⟨steps, directory, name, hnames, hup, hfollow, hdir, rfl⟩ := place_eq_ok hplace hfree
  have hne : directory ++ [name] ≠ [] := by simp
  have hnode : (t.put (directory ++ [name]) node).node? (directory ++ [name]) = some node :=
    node?_put_self hne
  rw [← hgrows.namesOf] at hnames
  refine ⟨hne, ?_, place_of_follow hnames hup (hgrows.follow hfollow) (hgrows.directory hdir)⟩
  simp only [FileTree.locate, bind_eq_ok_iff, hnames, Except.ok.injEq, exists_eq_left']
  rw [follow_append, bind_eq_ok_iff]
  have hname : (name == "..") = false := by simpa using hup
  exact ⟨directory, hgrows.follow hfollow,
    by simp [FileTree.follow, hgrows.directory hdir, hname, hnode]⟩

end Place

section Edits

variable {p : Path} {u : Unit}

theorem run_edit_eq_ok {change : FileTree → Except FileError FileTree}
    (h : (edit change).run.run t = (.ok u, t')) : change t = .ok t' := by
  unfold edit at h
  obtain ⟨_, _, hget, h⟩ := run_bind_eq_ok h
  cases hget
  cases hchange : change t <;> rw [hchange] at h <;> cases h
  rfl

theorem run_get (t : FileTree) : (get : Edit FileTree).run.run t = (.ok t, t) := rfl

theorem run_edit_of_ok {change : FileTree → Except FileError FileTree} (h : change t = .ok t') :
    (edit change).run.run t = (.ok (), t') := by
  rw [edit, run_bind_of_ok (run_get t), h]
  rfl

theorem makeDirectory_eq_ok (h : t.makeDirectory p = .ok t') :
    ∃ place, t.place p = .ok place ∧ t.node? place = none ∧ t' = t.put place .directory := by
  simp only [makeDirectory, bind_eq_ok_iff] at h
  obtain ⟨place, hplace, h⟩ := h
  split at h
  · cases h
  · rename_i hfree
    cases h
    rw [Bool.not_eq_true, Option.isSome_eq_false_iff, Option.isNone_iff_eq_none] at hfree
    exact ⟨place, hplace, hfree, rfl⟩

theorem Grows.put_of_none (h : t.node? names = none) : Grows t (t.put names node) :=
  .put fun k hk => by rw [kind?_eq_none_iff.mpr h] at hk; cases hk

theorem Grows.makeDirectory (h : t.makeDirectory p = .ok t') : Grows t t' := by
  obtain ⟨place, -, hfree, rfl⟩ := makeDirectory_eq_ok h
  exact .put_of_none hfree

theorem Grows.ensureDirectory (h : (ensureDirectory p).run.run t = (.ok u, t')) : Grows t t' := by
  unfold FileTree.ensureDirectory at h
  obtain ⟨_, _, hget, h⟩ := run_bind_eq_ok h
  cases hget
  split at h
  · rename_i hmake
    cases h
    exact .makeDirectory hmake
  · split at h
    · cases h
      exact .refl t
    · cases h

theorem Grows.ensureDirectories {steps : Nat}
    (h : (ensureDirectories steps p).run.run t = (.ok u, t')) : Grows t t' := by
  induction steps generalizing p t t' u with
  | zero => exact .ensureDirectory h
  | succ steps ih =>
    unfold FileTree.ensureDirectories at h
    obtain ⟨_, _, hget, h⟩ := run_bind_eq_ok h
    cases hget
    split at h
    · obtain ⟨_, t₁, habove, h⟩ := run_bind_eq_ok h
      exact (ih habove).trans (.ensureDirectory h)
    · exact .ensureDirectory h

theorem Grows.ensureParent (h : (ensureParent p).run.run t = (.ok u, t')) : Grows t t' :=
  .ensureDirectories h

theorem run_openNew_eq_ok {file : OpenFile} (h : (openNew p).run.run t = (.ok file, t')) :
    file.place ≠ [] ∧ t'.locate p = .ok file.place ∧
      ∃ t₁, Grows t t₁ ∧ t₁.node? file.place ≠ some .directory ∧
        t' = t₁.put file.place (.file (.text "")) := by
  unfold openNew at h
  obtain ⟨_, t₁, hparent, h⟩ := run_bind_eq_ok h
  obtain ⟨_, t₂, hwrite, h⟩ := run_bind_eq_ok h
  obtain ⟨_, _, hget, h⟩ := run_bind_eq_ok h
  cases hget
  obtain ⟨place, _, hplace, h⟩ := run_bind_eq_ok h
  obtain ⟨place', hplace', hfree, rfl⟩ := write_eq_ok (run_edit_eq_ok hwrite)
  obtain ⟨hne, hlocate, hagain⟩ := locate_put_place hplace' hfree (.put_file hfree)
  rw [hagain] at hplace
  cases hplace
  cases h
  exact ⟨hne, hlocate, t₁, .ensureParent hparent, hfree, rfl⟩

theorem makeDirectory_of_locate (h : t.locate p = .ok place) (hs : (t.node? place).isSome) :
    t.makeDirectory p = .error .exists := by
  simp [makeDirectory, place_of_locate h, hs, bind, Except.bind]

theorem run_ensureDirectory_of_locate (h : t.locate p = .ok place)
    (hdir : t.node? place = some .directory) : (ensureDirectory p).run.run t = (.ok (), t) := by
  have hmake := makeDirectory_of_locate h (by simp [hdir])
  have his : t.isDirectory p = true := by simp [isDirectory, at?, h, hdir]
  rw [ensureDirectory, run_bind_of_ok (run_get t), hmake, his]
  rfl

theorem run_ensureParent_of_place (hplace : t.place p = .ok place)
    (hfree : t.node? place ≠ some .directory) : (ensureParent p).run.run t = (.ok (), t) := by
  obtain ⟨steps, directory, name, hnames, -, hfollow, hdir, -⟩ := place_eq_ok hplace hfree
  have hlocate : t.locate p.parent = .ok directory := by
    simp only [locate, bind_eq_ok_iff]
    exact ⟨steps, namesOf_parent hnames, hfollow⟩
  have hmake := makeDirectory_of_locate hlocate (by simp [hdir])
  have hensure := run_ensureDirectory_of_locate hlocate hdir
  unfold ensureParent
  cases p.names.length with
  | zero => exact hensure
  | succ count =>
    rw [ensureDirectories, run_bind_of_ok (run_get t), hmake]
    exact hensure

end Edits

end FileTree

end ContractScan
