import ContractScan.Proofs.FileTree.SameBut

/-! # Trees with the same files

Making directories changes no file, whether it succeeds or not. A file that is
written with the directories above it is therefore the only one that changes,
and none changes where that fails. Either way only directories above it are new.
-/

namespace ContractScan

/-- The directory of a path, and what is above that. -/
inductive Path.Above (p : Path) : Path → Prop where
  | parent : Above p p.parent
  | step {q : Path} : Above p q → Above p q.parent

namespace FileTree

variable {t t' t'' : FileTree} {names place : List String} {p : Path} {α β : Type}

/-- Both trees have the same files with the same contents, except for one place. -/
def SameFiles (except : Option (List String)) (t t' : FileTree) : Prop :=
  ∀ names content, except ≠ some names →
    (t'.node? names = some (.file content) ↔ t.node? names = some (.file content))

namespace SameFiles

variable {except : Option (List String)}

theorem refl (except : Option (List String)) (t : FileTree) : SameFiles except t t :=
  fun _ _ _ => Iff.rfl

theorem trans (h : SameFiles except t t') (h' : SameFiles except t' t'') :
    SameFiles except t t'' :=
  fun names content hne => (h' names content hne).trans (h names content hne)

theorem mono (h : SameFiles none t t') : SameFiles except t t' :=
  fun names content _ => h names content nofun

theorem put_directory (hne : names ≠ []) (h : t.node? names = none) :
    SameFiles none t (t.put names .directory) := by
  intro other content _
  by_cases hother : other = names
  · rw [hother, node?_put_self hne, h]
    simp
  · rw [node?_put_of_ne hother]

theorem put_file (t : FileTree) (place : List String) (content : Content) :
    SameFiles (some place) t (t.put place (.file content)) := by
  intro other content' hne
  rw [node?_put_of_ne]
  rintro rfl
  exact hne rfl

end SameFiles

/-- Both trees have the same directories, except for new ones that some paths lead to. -/
structure SameDirectories (made : Path → Prop) (t t' : FileTree) : Prop where
  kept : ∀ names, t.node? names = some .directory → t'.node? names = some .directory
  new : ∀ names, t'.node? names = some .directory →
    t.node? names = some .directory ∨ ∃ p, made p ∧ t'.locate p = .ok names

variable {made : Path → Prop}

theorem SameDirectories.refl (made : Path → Prop) (t : FileTree) : SameDirectories made t t :=
  ⟨fun _ h => h, fun _ h => .inl h⟩

/-- A path that leads to a new directory still does when the tree has grown. -/
theorem SameDirectories.trans (h : SameDirectories made t t') (h' : SameDirectories made t' t'')
    (hgrows : Grows t' t'') : SameDirectories made t t'' where
  kept names hdir := h'.kept names (h.kept names hdir)
  new names hdir := by
    obtain hdir | hnew := h'.new names hdir
    · obtain hdir | ⟨p, hmade, hlocate⟩ := h.new names hdir
      · exact .inl hdir
      · exact .inr ⟨p, hmade, hgrows.locate hlocate⟩
    · exact .inr hnew

theorem SameDirectories.put_file (content : Content) (h : t.node? place ≠ some .directory) :
    SameDirectories made t (t.put place (.file content)) where
  kept names hdir := (Grows.put_file h).directory hdir
  new names hdir := by
    by_cases hnames : names = place
    · subst hnames
      by_cases hnil : names = []
      · exact .inl (hnil ▸ rfl)
      · rw [node?_put_self hnil] at hdir
        cases hdir
    · rw [node?_put_of_ne hnames] at hdir
      exact .inl hdir

theorem SameBut.sameFiles {except : Option (List String)} (h : SameBut except t t') :
    SameFiles except t t' :=
  fun names content hne => by rw [h.node? names hne]

theorem SameBut.sameDirectories {except : Option (List String)} (h : SameBut except t t') :
    SameDirectories made t t' where
  kept names hdir := h.grows.directory hdir
  new names hdir := by
    rw [← kind?_eq_true_iff, h.kind?, kind?_eq_true_iff] at hdir
    exact .inl hdir

structure Widens (made : Path → Prop) (t t' : FileTree) : Prop where
  grows : Grows t t'
  sameFiles : SameFiles none t t'
  sameDirectories : SameDirectories made t t'

namespace Widens

theorem refl (made : Path → Prop) (t : FileTree) : Widens made t t :=
  ⟨.refl t, .refl none t, .refl made t⟩

theorem trans (h : Widens made t t') (h' : Widens made t' t'') : Widens made t t'' :=
  ⟨h.grows.trans h'.grows, h.sameFiles.trans h'.sameFiles,
    h.sameDirectories.trans h'.sameDirectories h'.grows⟩

theorem makeDirectory (hmade : made p) (h : t.makeDirectory p = .ok t') : Widens made t t' := by
  obtain ⟨place, hplace, hfree, rfl⟩ := makeDirectory_eq_ok h
  have hgrows : Grows t (t.put place .directory) := .put_of_none hfree
  obtain ⟨hne, hlocate, -⟩ := locate_put_place hplace (by simp [hfree]) hgrows
  refine ⟨hgrows, .put_directory hne hfree, fun _ hdir => hgrows.directory hdir, ?_⟩
  intro names hdir
  by_cases hnames : names = place
  · subst hnames
    exact .inr ⟨p, hmade, hlocate⟩
  · rw [node?_put_of_ne hnames] at hdir
    exact .inl hdir

end Widens

/-- However the step ends, it has made directories at most. -/
def Makes (made : Path → Prop) (x : Edit α) : Prop :=
  ∀ t result t', x.run.run t = (result, t') → Widens made t t'

namespace Makes

theorem bind {x : Edit α} {f : α → Edit β} (hx : Makes made x) (hf : ∀ a, Makes made (f a)) :
    Makes made (x >>= f) := by
  intro t result t' h
  cases result with
  | ok b =>
    obtain ⟨a, t₁, hrun, hrest⟩ := run_bind_eq_ok h
    exact (hx _ _ _ hrun).trans (hf a _ _ _ hrest)
  | error e =>
    obtain hrun | ⟨a, t₁, hrun, hrest⟩ := run_bind_eq_error h
    · exact hx _ _ _ hrun
    · exact (hx _ _ _ hrun).trans (hf a _ _ _ hrest)

theorem ensureDirectory (hmade : made p) : Makes made (ensureDirectory p) := by
  intro t result t' h
  rw [FileTree.ensureDirectory, run_bind_of_ok (run_get t)] at h
  split at h
  next hmake =>
    cases h
    exact .makeDirectory hmade hmake
  next =>
    split at h <;> cases h <;> exact .refl made t

theorem ensureDirectories (hup : ∀ q, made q → made q.parent) (steps : Nat) (hmade : made p) :
    Makes made (ensureDirectories steps p) := by
  induction steps generalizing p with
  | zero => exact .ensureDirectory hmade
  | succ steps ih =>
    intro t result t' h
    rw [FileTree.ensureDirectories, run_bind_of_ok (run_get t)] at h
    split at h
    · exact ((ih (hup p hmade)).bind fun _ => .ensureDirectory hmade) _ _ _ h
    · exact Makes.ensureDirectory hmade _ _ _ h

theorem ensureParent (p : Path) : Makes p.Above (ensureParent p) :=
  .ensureDirectories (fun _ => .step) _ .parent

end Makes

section Writing

variable {text : String} {e : FileError} {u : Unit}

theorem run_write_eq_error
    (h : (ensureParent p >>= fun _ => edit (·.write p text)).run.run t = (.error e, t')) :
    Widens p.Above t t' := by
  obtain hparent | ⟨_, t₁, hparent, hwrite⟩ := run_bind_eq_error h
  · exact Makes.ensureParent _ _ _ _ hparent
  · have hmade := Makes.ensureParent _ _ _ _ hparent
    rw [edit, run_bind_of_ok (run_get t₁)] at hwrite
    split at hwrite <;> cases hwrite
    exact hmade

/-- A written file is where its path leads, and no other file is changed. -/
theorem run_write_eq_ok
    (h : (ensureParent p >>= fun _ => edit (·.write p text)).run.run t = (.ok u, t')) :
    Grows t t' ∧ SameDirectories p.Above t t' ∧ ∃ place, place ≠ [] ∧ t'.locate p = .ok place ∧
      t'.place p = .ok place ∧ t'.node? place = some (.file (.text text)) ∧
      SameFiles (some place) t t' := by
  obtain ⟨_, t₁, hparent, hwrite⟩ := run_bind_eq_ok h
  obtain ⟨place, hplace, hfree, rfl⟩ := write_eq_ok (run_edit_eq_ok hwrite)
  have hwritten : Grows t₁ (t₁.put place (.file (.text text))) := .put_file hfree
  obtain ⟨hne, hlocate, hagain⟩ := locate_put_place hplace hfree hwritten
  have hmade := Makes.ensureParent _ _ _ _ hparent
  exact ⟨hmade.grows.trans hwritten,
    hmade.sameDirectories.trans (.put_file _ hfree) hwritten, place, hne, hlocate, hagain,
    node?_put_self hne, hmade.sameFiles.mono.trans (.put_file _ _ _)⟩

theorem openNew_eq (p : Path) : openNew p =
    (ensureParent p >>= fun _ => edit (·.write p "")) >>= fun _ => do
      let place ← (← get).place p
      return { place } := by
  simp [openNew, bind_assoc]

theorem widens_of_openNew_error (h : (openNew p).run.run t = (.error e, t')) :
    Widens p.Above t t' := by
  rw [openNew_eq] at h
  obtain hwrite | ⟨_, t₁, hwrite, hplace⟩ := run_bind_eq_error h
  · exact run_write_eq_error hwrite
  · obtain ⟨-, -, place, -, -, hagain, -⟩ := run_write_eq_ok hwrite
    rw [run_bind_of_ok (run_get t₁), hagain] at hplace
    cases hplace

theorem run_openNew_sameFiles {file : OpenFile} (h : (openNew p).run.run t = (.ok file, t')) :
    SameDirectories p.Above t t' ∧ ∃ place, file = { place } ∧ place ≠ [] ∧
      t'.locate p = .ok place ∧ t'.node? place = some (.file (.text "")) ∧
      SameFiles (some place) t t' := by
  rw [openNew_eq] at h
  obtain ⟨_, t₁, hwrite, hplace⟩ := run_bind_eq_ok h
  obtain ⟨-, hdirectories, place, hne, hlocate, hagain, hnode, hkept⟩ := run_write_eq_ok hwrite
  rw [run_bind_of_ok (run_get t₁), hagain] at hplace
  cases hplace
  exact ⟨hdirectories, place, rfl, hne, hlocate, hnode, hkept⟩

end Writing

end FileTree

end ContractScan
