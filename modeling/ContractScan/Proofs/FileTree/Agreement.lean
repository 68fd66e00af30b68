import ContractScan.Proofs.FileTree.Listing
import Mathlib.Data.List.Nodup

/-! # Two ways to find files

The files that symbolic execution looks at are sources too. They are those of
all sources that no skipped directory holds, in the same order, although one
way sorts what it finds before it leaves anything out and the other after.
-/

namespace ContractScan

namespace Path

def relativeText (directory p : Path) : String :=
  "/".intercalate ((p.below? directory).getD [])

theorem relativeText_append (directory : Path) (names : List String) :
    relativeText directory { directory with names := directory.names ++ names } =
      "/".intercalate names := by
  simp [relativeText, below?]

end Path

namespace FileTree

variable {t : FileTree} {place names : List String} {root : Path}

/-- The tree stands at an absolute path without steps up. -/
structure Anchored (t : FileTree) : Prop extends Rooted t where
  absolute : t.base.root = .absolute
  straight : ".." ∉ t.base.names

section Resolve

variable {found done : List String}

theorem up_not_mem_of_follow (h : t.follow place names = .ok found) (hplace : ".." ∉ place) :
    ".." ∉ found := by
  induction names generalizing place with
  | nil =>
    obtain rfl : place = found := by simpa [follow] using h
    exact hplace
  | cons name rest ih =>
    rw [follow] at h
    split at h
    · cases h
    · cases h
    · split at h
      · split at h
        · cases h
        · exact ih h fun hup => hplace (List.dropLast_subset _ hup)
      · rename_i hname
        simp only at h
        split at h
        · refine ih h ?_
          rw [List.mem_append, List.mem_singleton]
          rintro (hup | rfl)
          · exact hplace hup
          · exact hname rfl
        · cases h

theorem collapse_straight (hup : ".." ∉ names) (rest : List String) :
    Path.collapse done (names ++ rest) = Path.collapse (names.reverse ++ done) rest := by
  induction names generalizing done with
  | nil => rfl
  | cons name names ih =>
    obtain ⟨hname, hnames⟩ : name ≠ ".." ∧ ".." ∉ names := by simpa [eq_comm] using hup
    have hdown : (name == "..") = false := by simpa using hname
    rw [List.cons_append, Path.collapse, hdown, if_neg Bool.false_ne_true, ih hnames]
    simp

/-- Steps that can be followed lead to where they lead without a look at the tree. -/
theorem collapse_of_follow (base : List String) (h : t.follow place names = .ok found) :
    Path.collapse (base ++ place).reverse names = base ++ found := by
  induction names generalizing place with
  | nil =>
    obtain rfl : place = found := by simpa [follow] using h
    rw [Path.collapse, List.reverse_reverse]
  | cons name rest ih =>
    rw [follow] at h
    split at h
    · cases h
    · cases h
    · rw [Path.collapse]
      split at h
      · rename_i hup
        split at h
        · cases h
        · rename_i hplace
          have hne : place ≠ [] := by simpa using hplace
          rw [if_pos hup, List.drop_one, List.tail_reverse, List.dropLast_append_of_ne_nil hne]
          exact ih h
      · rename_i hdown
        simp only at h
        split at h
        · rw [if_neg hdown, ← List.reverse_concat, List.append_assoc]
          exact ih h
        · cases h

theorem names_join {p : Path} {steps : List String} (h : t.namesOf p = .ok steps) :
    (t.base.join p).names = t.base.names ++ steps := by
  unfold Path.join
  rcases namesOf_eq_ok_iff.mp h with ⟨habsolute, -, hnames⟩ | ⟨hrelative, hnames⟩
  · rw [if_pos habsolute, hnames]
  · rw [if_neg (by simp [hrelative]), hnames]

theorem Anchored.locate_resolve (h : t.Anchored) (hroot : t.locate root = .ok place)
    (hthere : (t.node? place).isSome) : t.locate (root.resolve t.base) = .ok place := by
  simp only [locate, bind_eq_ok_iff] at hroot ⊢
  obtain ⟨steps, hsteps, hfollow⟩ := hroot
  have hresolve : root.resolve t.base = ⟨.absolute, t.base.names ++ place⟩ := by
    rw [Path.resolve, names_join hsteps, collapse_straight h.straight, List.append_nil]
    have hcollapse := collapse_of_follow t.base.names hfollow
    rw [List.append_nil] at hcollapse
    rw [hcollapse]
  refine ⟨place, ?_, ?_⟩
  · simp [namesOf, hresolve, Path.isAbsolute, Path.below?, h.absolute]
  · have hup : ".." ∉ place := up_not_mem_of_follow hfollow (by simp)
    exact follow_of_reached (reached_nil.follow hfollow) hthere hup

end Resolve

section Order

variable {directory : List String}

def entriesBelow (t : FileTree) (directory : List String) : List (List String) :=
  (((t.nodes.map (·.1)).filterMap directory.isPrefixOf?).filter (· != [])).mergeSort Path.le

theorem mem_entriesBelow_iff : names ∈ t.entriesBelow directory ↔
    names ≠ [] ∧ ∃ node, (directory ++ names, node) ∈ t.nodes := by
  simp [entriesBelow, List.isPrefixOf?_eq_some_iff_append_eq, and_comm]

theorem entriesBelow_pairwise (t : FileTree) (directory : List String) :
    (t.entriesBelow directory).Pairwise (Path.le · · = true) :=
  Path.pairwise_mergeSort _

theorem Sound.nodup_entriesBelow (h : t.Sound) (directory : List String) :
    (t.entriesBelow directory).Nodup := by
  rw [entriesBelow, (List.mergeSort_perm _ _).nodup_iff]
  refine List.Nodup.filter _ (h.nodup.filterMap ?_)
  intro place place' names hnames hnames'
  rw [Option.mem_def, List.isPrefixOf?_eq_some_iff_append_eq] at hnames hnames'
  rw [← hnames, hnames']

theorem Sound.filesBelow_eq_filter (h : t.Sound) {isFile : List String → Bool}
    (hfile : ∀ names node, (directory ++ names, node) ∈ t.nodes → names ≠ [] →
      (isFile names = true ↔ ∃ content, node = .file content)) :
    t.filesBelow directory = (t.entriesBelow directory).filter isFile := by
  refine List.Perm.eq_of_pairwise (fun p q _ _ hpq hqp => Path.le_antisymm hpq hqp)
    (filesBelow_pairwise t directory) ((entriesBelow_pairwise t directory).filter _) ?_
  rw [List.perm_ext_iff_of_nodup (h.nodup_filesBelow _) ((h.nodup_entriesBelow _).filter _)]
  intro names
  rw [List.mem_filter, mem_filesBelow_iff, mem_entriesBelow_iff]
  constructor
  · rintro ⟨hne, content, hmem⟩
    exact ⟨⟨hne, _, hmem⟩, (hfile names _ hmem hne).mpr ⟨content, rfl⟩⟩
  · rintro ⟨⟨hne, node, hmem⟩, his⟩
    obtain ⟨content, rfl⟩ := (hfile names node hmem hne).mp his
    exact ⟨hne, content, hmem⟩

end Order

section Skipped

theorem Rooted.isFile_below (h : t.Rooted) (hroot : t.locate root = .ok place) {node : FileNode}
    (hmem : (place ++ names, node) ∈ t.nodes) (hne : names ≠ []) :
    t.isFile { root with names := root.names ++ names } = true ↔
      ∃ content, node = .file content := by
  have hnode : t.at? { root with names := root.names ++ names } = some node := by
    rw [at?, h.locate_below hroot hmem hne]
    exact (h.node?_eq_some_iff (by simp [hne])).mpr hmem
  rw [isFile, hnode]
  cases node <;> simp

theorem contractFiles_of_directory (hroot : t.locate root = .ok place)
    (hdir : t.node? place = some .directory) :
    t.contractFiles root =
      (((t.filesBelow place).filter isSolidityName).filter fun names =>
        !names.dropLast.any isSkipped).map fun names =>
          { root with names := root.names ++ names } := by
  have hfile : t.isFile root = false := by simp [isFile, at?, hroot, hdir]
  have hdirectory : t.isDirectory root = true := by simp [isDirectory, at?, hroot, hdir]
  rw [contractFiles, hfile, hdirectory, solidityBelow, hroot]
  rfl

theorem Rooted.exists_directory (h : t.Rooted) {node : FileNode}
    (hmem : (place ++ names, node) ∈ t.nodes) {name : String} (hname : name ∈ names.dropLast) :
    ∃ directories, (place ++ directories ++ [name], .directory) ∈ t.nodes := by
  rcases names.eq_nil_or_concat' with rfl | ⟨above, last, rfl⟩
  · cases hname
  rw [List.dropLast_concat] at hname
  obtain ⟨directories, rest, rfl⟩ := List.append_of_mem hname
  have hsplit : place ++ (directories ++ name :: rest ++ [last]) =
      (place ++ directories ++ [name]) ++ (rest ++ [last]) := by simp
  have hdir := h.reached _ hmem (place ++ directories ++ [name]).length (by simp)
  rw [hsplit, List.take_left] at hdir
  exact ⟨directories, (h.node?_eq_some_iff (by simp)).mp hdir⟩

theorem any_isSkipped_eq (h : ∀ name ∈ names, String.ofList (Text.lowerText name.toList) = name) :
    names.any isSkipped = (skippedDirectories.filter (· != "")).any (names.contains ·) := by
  have hfragments : skippedDirectories.filter (· != "") = skippedDirectories := by decide
  rw [hfragments, Bool.eq_iff_iff, List.any_eq_true, List.any_eq_true]
  simp only [isSkipped, List.contains_iff_mem]
  constructor
  · rintro ⟨name, hname, hskipped⟩
    exact ⟨name, h name hname ▸ hskipped, hname⟩
  · rintro ⟨name, hskipped, hname⟩
    exact ⟨name, hname, (h name hname).symm ▸ hskipped⟩

theorem Rooted.paths_collectSources (h : t.Rooted)
    (hroot : t.locate (root.resolve t.base) = .ok place) (hdir : t.node? place = some .directory)
    (hreadable : ∀ names content, IsSource [] names → (place ++ names, .file content) ∈ t.nodes →
      place ++ names ∉ t.locked) (exclude : List String) :
    (t.collectSources root exclude).value.map (·.path) =
      ((t.filesBelow place).filter (isKept exclude)).map ("/".intercalate ·) := by
  have hunlocked : ∀ file ∈ t.sourcesBelow place exclude,
      (!t.locked.contains (place ++ file.1)) = true := by
    intro file hfile
    have hfound := h.isListing_sourcesBelow place exclude
    obtain ⟨⟨directories, name, hnames, hsuffix, -⟩, hmem⟩ :=
      (hfound.mem_iff file.1 file.2).mp hfile
    simpa using hreadable _ _ ⟨directories, name, hnames, hsuffix, by simp⟩ hmem
  rw [h.collectSources_eq hroot hdir, List.filter_eq_self.mpr hunlocked, sourcesBelow,
    List.map_map, List.map_map]
  rfl

end Skipped

/-- Where all sources can be read, the files for symbolic execution are the sources without those in
a skipped directory, whatever the case of its letters. Where the names of directories are in lower
case, they are the sources that excluding these names leaves. The same files come out if they are
told from directories only after all that has a Solidity name was sorted. -/
theorem contractFiles_agree_with_sources {t : FileTree} {root : Path} {place : List String}
    (h : t.Anchored) (hroot : t.locate root = .ok place)
    (hdir : t.node? place = some .directory)
    (hreadable : ∀ names content, IsSource [] names → (place ++ names, .file content) ∈ t.nodes →
      place ++ names ∉ t.locked) :
    (t.contractFiles root).map (Path.relativeText root) =
        ((t.collectSources root []).value.map (·.path)).filter
          (fun path => !(Path.components path).dropLast.any isSkipped) ∧
      ((∀ directories name, (place ++ directories ++ [name], .directory) ∈ t.nodes →
          String.ofList (Text.lowerText name.toList) = name) →
        (t.contractFiles root).map (Path.relativeText root) =
          (t.collectSources root skippedDirectories).value.map (·.path)) ∧
      t.contractFiles root =
        ((((t.entriesBelow place).filter isSolidityName).filter fun names =>
          !names.dropLast.any isSkipped).map fun names =>
            ({ root with names := root.names ++ names } : Path)).filter t.isFile := by
  have hresolved : t.locate (root.resolve t.base) = .ok place :=
    h.locate_resolve hroot (by simp [hdir])
  have hrelative : (t.contractFiles root).map (Path.relativeText root) =
      (((t.filesBelow place).filter isSolidityName).filter fun names =>
        !names.dropLast.any isSkipped).map ("/".intercalate ·) := by
    rw [contractFiles_of_directory hroot hdir, List.map_map]
    exact List.map_congr_left fun names _ => Path.relativeText_append root names
  refine ⟨?_, fun hlower => ?_, ?_⟩
  · have hkept : isKept [] = isSolidityName := by
      funext names
      simp [isKept]
    rw [hrelative, h.paths_collectSources hresolved hdir hreadable, hkept, List.filter_map]
    refine congrArg _ (List.filter_congr fun names hnames => ?_)
    obtain ⟨hne, content, hmem⟩ := mem_filesBelow_iff.mp (List.mem_filter.mp hnames).1
    have hcomponents : Path.components ("/".intercalate names) = names :=
      Path.components_intercalate hne fun name hname =>
        h.slash _ hmem name (List.mem_append_right place hname)
    rw [Function.comp_apply, hcomponents]
  · rw [hrelative, h.paths_collectSources hresolved hdir hreadable, List.filter_filter]
    refine congrArg _ (List.filter_congr fun names hnames => ?_)
    obtain ⟨-, content, hmem⟩ := mem_filesBelow_iff.mp hnames
    rw [isKept, any_isSkipped_eq fun name hname => ?_]
    obtain ⟨directories, hdirectory⟩ := h.exists_directory hmem hname
    exact hlower directories name hdirectory
  · rw [contractFiles_of_directory hroot hdir, List.filter_map,
      h.filesBelow_eq_filter fun names node hmem hne => h.isFile_below hroot hmem hne]
    refine congrArg _ ?_
    simp only [List.filter_filter]
    refine List.filter_congr fun names _ => ?_
    rw [Function.comp_apply]
    ac_rfl

/-- Skipped directories at two depths, one name that goes on after a skipped one, a directory with
the name of a source, and a file that cannot be read and is none. -/
def skippingTree : FileTree where
  base := ⟨.absolute, ["work"]⟩
  nodes := [(["lib"], .directory), (["lib", "a.sol"], .file (.text "")), (["library"], .directory),
    (["library", "lib.sol"], .file (.text "")), (["b.sol"], .directory),
    (["b.sol", "c.sol"], .file (.text "")), (["b.sol", "test"], .directory),
    (["b.sol", "test", "d.sol"], .file (.text "")), (["note.txt"], .file (.text ""))]
  locked := [["note.txt"]]

theorem anchored_skippingTree : skippingTree.Anchored where
  nodup := by decide +kernel
  slash := by decide +kernel
  up := by decide +kernel
  reached := by
    simp only [Reached]
    decide +kernel
  absolute := rfl
  straight := by decide +kernel

theorem readable_skippingTree (names : List String) (content : Content)
    (hsource : IsSource [] names) (_ : ([] ++ names, .file content) ∈ skippingTree.nodes) :
    [] ++ names ∉ skippingTree.locked := by
  intro hlocked
  obtain rfl : names = ["note.txt"] := List.mem_singleton.mp hlocked
  have hkept := (isSource_iff.mp hsource).2
  revert hkept
  decide +kernel

theorem lower_skippingTree (directories : List String) (name : String)
    (hmem : ([] ++ directories ++ [name], .directory) ∈ skippingTree.nodes) :
    String.ofList (Text.lowerText name.toList) = name := by
  have hlower : ∀ entry ∈ skippingTree.nodes, entry.2 = .directory →
      entry.1.getLast?.map (fun name => String.ofList (Text.lowerText name.toList)) =
        entry.1.getLast? := by decide +kernel
  simpa using hlower _ hmem rfl

def skippingRoot : Path := ⟨.relative, ["lib", ".."]⟩

theorem contractFiles_agree_with_sources_sample :
    skippingTree.Anchored ∧ skippingTree.locate skippingRoot = .ok [] ∧
      skippingTree.node? [] = some .directory ∧
      (skippingTree.contractFiles skippingRoot).map (Path.relativeText skippingRoot) =
        ((skippingTree.collectSources skippingRoot []).value.map (·.path)).filter
          (fun path => !(Path.components path).dropLast.any isSkipped) ∧
      (skippingTree.contractFiles skippingRoot).map (Path.relativeText skippingRoot) =
        (skippingTree.collectSources skippingRoot skippedDirectories).value.map (·.path) := by
  have hroot : skippingTree.locate skippingRoot = .ok [] := by decide +kernel
  obtain ⟨hfiltered, hexcluded, -⟩ :=
    contractFiles_agree_with_sources anchored_skippingTree hroot rfl readable_skippingTree
  exact ⟨anchored_skippingTree, hroot, rfl, hfiltered, hexcluded lower_skippingTree⟩

end FileTree

end ContractScan
