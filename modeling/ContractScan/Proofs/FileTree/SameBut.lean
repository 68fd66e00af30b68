import ContractScan.FileTree.Discovery
import ContractScan.Proofs.FileTree.Growth
import Mathlib.Data.List.Basic

/-! # Trees that differ in one file

While a file is being written, the tree differs from what it was in what that
file holds and in nothing else. Paths lead to the same places, the same files
are found below every directory, and all other files can be read as before.
-/

namespace ContractScan.FileTree

variable {t t' t'' : FileTree} {names place : List String} {log : Option (List String)}

/-- There is an entry for a place, and every entry for it is a file. -/
structure HoldsFile (t : FileTree) (place : List String) : Prop where
  ne_nil : place ≠ []
  isSome : (t.nodes.lookup place).isSome
  isFile : ∀ entry ∈ t.nodes, entry.1 = place → ∃ content, entry.2 = .file content

/-- The trees differ at most in what the file at the place holds. -/
structure SameBut (log : Option (List String)) (t t' : FileTree) : Prop where
  base : t'.base = t.base
  locked : t'.locked = t.locked
  kind? : ∀ names, t'.kind? names = t.kind? names
  filesBelow : ∀ directory, t'.filesBelow directory = t.filesBelow directory
  node? : ∀ names, log ≠ some names → t'.node? names = t.node? names

namespace HoldsFile

theorem put (hne : place ≠ []) (content : Content) :
    (t.put place (.file content)).HoldsFile place := by
  refine ⟨hne, ?_, ?_⟩
  · have hnode : (t.put place (.file content)).node? place = some (.file content) :=
      node?_put_self hne
    have hplace : place.isEmpty = false := by simpa using hne
    rw [node?, hplace] at hnode
    simpa using congrArg Option.isSome hnode
  · intro entry hentry hkey
    unfold FileTree.put at hentry
    split at hentry
    · obtain ⟨old, -, rfl⟩ := List.mem_map.mp hentry
      split at hkey <;> rename_i hold
      · exact ⟨content, by rw [if_pos hold]⟩
      · exact absurd (beq_iff_eq.mpr hkey) hold
    · rename_i hfresh
      rcases List.mem_append.mp hentry with hold | hnew
      · have hsome : (t.nodes.lookup place).isSome := by
          rw [List.lookup_isSome_iff]
          exact ⟨entry, hold, beq_iff_eq.mpr hkey.symm⟩
        exact absurd hsome hfresh
      · rw [List.mem_singleton.mp hnew]
        exact ⟨content, rfl⟩

theorem kind? (h : t.HoldsFile place) : t.kind? place = some false := by
  obtain ⟨node, hnode⟩ := Option.isSome_iff_exists.mp h.isSome
  obtain ⟨before, after, hsplit, -⟩ := List.lookup_eq_some_iff.mp hnode
  obtain ⟨content, rfl⟩ := h.isFile (place, node) (by simp [hsplit]) rfl
  have hplace : place.isEmpty = false := by simpa using h.ne_nil
  simp [FileTree.kind?, FileTree.node?, hplace, hnode]

theorem filesBelow_put (h : t.HoldsFile place) (content : Content) (directory : List String) :
    (t.put place (.file content)).filesBelow directory = t.filesBelow directory := by
  unfold FileTree.put
  rw [if_pos h.isSome]
  unfold filesBelow
  dsimp only
  rw [List.filterMap_map]
  congr 1
  refine List.filterMap_congr fun entry hentry => ?_
  by_cases hkey : entry.1 = place
  · obtain ⟨old, hold⟩ := h.isFile entry hentry hkey
    obtain ⟨key, node⟩ := entry
    simp only at hkey hold
    subst hkey hold
    simp
  · have hbeq : (entry.1 == place) = false := by simpa using hkey
    simp only [Function.comp_apply, hbeq, Bool.false_eq_true, if_false]

theorem sameBut_put (h : t.HoldsFile place) (content : Content) :
    SameBut (some place) t (t.put place (.file content)) where
  base := base_put
  locked := locked_put
  filesBelow := h.filesBelow_put content
  node? names hne := node?_put_of_ne fun heq => hne (heq ▸ rfl)
  kind? names := by
    by_cases hnames : names = place
    · subst hnames
      rw [h.kind?, FileTree.kind?, node?_put_self h.ne_nil]
      rfl
    · rw [FileTree.kind?, node?_put_of_ne hnames, FileTree.kind?]

end HoldsFile

namespace SameBut

theorem refl (log : Option (List String)) (t : FileTree) : SameBut log t t :=
  ⟨rfl, rfl, fun _ => rfl, fun _ => rfl, fun _ _ => rfl⟩

theorem trans (h : SameBut log t t') (h' : SameBut log t' t'') : SameBut log t t'' where
  base := h'.base.trans h.base
  locked := h'.locked.trans h.locked
  kind? names := (h'.kind? names).trans (h.kind? names)
  filesBelow directory := (h'.filesBelow directory).trans (h.filesBelow directory)
  node? names hne := (h'.node? names hne).trans (h.node? names hne)

theorem grows (h : SameBut log t t') : Grows t t' :=
  ⟨h.base, fun names _ hk => (h.kind? names).trans hk⟩

theorem isSome (h : SameBut log t t') (names : List String) :
    (t'.node? names).isSome = (t.node? names).isSome := by
  have hkind := congrArg Option.isSome (h.kind? names)
  simpa [FileTree.kind?] using hkind

theorem follow (h : SameBut log t t') (place names : List String) :
    t'.follow place names = t.follow place names := by
  induction names generalizing place with
  | nil => rfl
  | cons name rest ih =>
    have hkind := h.kind? place
    rw [FileTree.follow, FileTree.follow]
    simp only [h.isSome, ih]
    rcases ht : t.node? place with _ | _ | _ <;> rcases ht' : t'.node? place with _ | _ | _ <;>
      simp_all [FileTree.kind?]

theorem locate (h : SameBut log t t') (p : Path) : t'.locate p = t.locate p := by
  simp only [FileTree.locate, namesOf, h.base, h.follow]

theorem kind?_at? (h : SameBut log t t') (p : Path) :
    (t'.at? p).map (· == .directory) = (t.at? p).map (· == .directory) := by
  unfold at?
  rw [h.locate]
  cases t.locate p with
  | error e => rfl
  | ok names => exact h.kind? names

theorem pathExists (h : SameBut log t t') (p : Path) : t'.pathExists p = t.pathExists p := by
  simpa [FileTree.pathExists] using congrArg Option.isSome (h.kind?_at? p)

theorem isDirectory (h : SameBut log t t') (p : Path) : t'.isDirectory p = t.isDirectory p := by
  have hkind := h.kind?_at? p
  unfold FileTree.isDirectory
  rcases ht : t.at? p with _ | _ | _ <;> rcases ht' : t'.at? p with _ | _ | _ <;> simp_all

theorem isFile (h : SameBut log t t') (p : Path) : t'.isFile p = t.isFile p := by
  have hkind := h.kind?_at? p
  unfold FileTree.isFile
  rcases ht : t.at? p with _ | _ | _ <;> rcases ht' : t'.at? p with _ | _ | _ <;> simp_all

theorem solidityBelow (h : SameBut log t t') (directory : Path) :
    t'.solidityBelow directory = t.solidityBelow directory := by
  simp only [FileTree.solidityBelow, h.locate, h.filesBelow]

theorem contractFiles (h : SameBut log t t') (target : Path) :
    t'.contractFiles target = t.contractFiles target := by
  simp only [FileTree.contractFiles, h.isFile, h.isDirectory, h.solidityBelow]

theorem read (h : SameBut log t t') {p : Path}
    (hp : ∀ place, t.locate p = .ok place → log ≠ some place) : t'.read p = t.read p := by
  unfold FileTree.read
  rw [h.locate]
  rcases hlocate : t.locate p with e | place
  · rfl
  · simp only [bind, Except.bind, h.node? place (hp place hlocate), h.locked]

end SameBut

def sourcePaths (t : FileTree) (root : Path) (exclude : List String) : List Path :=
  let fragments := exclude.filter (· != "")
  let target := root.resolve t.base
  let (base, candidates) :=
    if t.isFile target then (target.parent, [[target.name]])
    else (target, t.solidityBelow target)
  let kept := candidates.filter fun names => !fragments.any (names.dropLast.contains ·)
  kept.map fun names => { base with names := base.names ++ names }

/-- The sources are the same as long as the file that differs is none of them. -/
theorem SameBut.collectSources (h : SameBut log t t') {root : Path} {exclude : List String}
    (hapart : ∀ p ∈ t.sourcePaths root exclude, ∀ place, t.locate p = .ok place →
      log ≠ some place) :
    t'.collectSources root exclude = t.collectSources root exclude := by
  have hread : ∀ p ∈ t.sourcePaths root exclude, t'.read p = t.read p := fun p hp =>
    h.read (hapart p hp)
  unfold sourcePaths at hread
  unfold FileTree.collectSources
  dsimp only at hread ⊢
  rw [h.base, h.isFile, h.solidityBelow]
  generalize (if t.isFile (root.resolve t.base) = true then
    ((root.resolve t.base).parent, [[(root.resolve t.base).name]])
    else (root.resolve t.base, t.solidityBelow (root.resolve t.base))) = found at hread ⊢
  obtain ⟨base, candidates⟩ := found
  dsimp only at hread ⊢
  rw [List.map_congr_left fun names hnames => by
    rw [hread _ (List.mem_map.mpr ⟨names, hnames, rfl⟩)]]

end ContractScan.FileTree
