import ContractScan.Proofs.FileTree.Growth
import ContractScan.Proofs.FileTree.Order
import Mathlib.Data.List.Basic

/-! # Listing sources

The sources below a directory are the files with a Solidity name outside the
excluded directories. They come in the order of their names, each name by its
characters. A file that cannot be read leaves a warning, and all others stay.
-/

namespace ContractScan

namespace Path

variable {p q : List String}

/-- The order of names: where two lists part, one has ended or has the name with the smaller
character where the names part. -/
def NamesBefore (p q : List String) : Prop :=
  List.Lex (fun a b : String => List.Lex (fun c d : Char => c.toNat < d.toNat) a.toList b.toList)
    p q

theorem namesBefore_of_le (h : le p q = true) (hne : p ≠ q) : NamesBefore p q := by
  induction p generalizing q with
  | nil =>
    obtain _ | ⟨b, q⟩ := q
    · exact absurd rfl hne
    · exact .nil
  | cons a p ih =>
    obtain _ | ⟨b, q⟩ := q
    · cases h
    rcases le_cons_iff.mp h with hab | ⟨rfl, hpq⟩
    · exact .rel hab
    · refine .cons (ih hpq ?_)
      rintro rfl
      exact hne rfl

end Path

namespace FileTree

variable {t : FileTree} {place names : List String} {root : Path} {exclude : List String}

/-- All that stands in the tree stands in directories of the tree, and no name is a step up. -/
structure Rooted (t : FileTree) : Prop extends Sound t where
  up : ∀ entry ∈ t.nodes, ".." ∉ entry.1
  reached : ∀ entry ∈ t.nodes, t.Reached entry.1

section Entries

variable {node : FileNode} {content : Content}

theorem Sound.node?_eq_some_iff (h : t.Sound) (hne : names ≠ []) :
    t.node? names = some node ↔ (names, node) ∈ t.nodes := by
  have hempty : names.isEmpty = false := by simpa using hne
  rw [node?, hempty, if_neg Bool.false_ne_true, List.lookup_eq_some_iff]
  constructor
  · rintro ⟨before, after, hsplit, -⟩
    simp [hsplit]
  · intro hmem
    obtain ⟨before, after, hsplit⟩ := List.append_of_mem hmem
    refine ⟨before, after, hsplit, fun entry hentry => ?_⟩
    have hnodup := h.nodup
    rw [hsplit, List.map_append, List.map_cons, List.nodup_append] at hnodup
    have hdiffer := hnodup.2.2 _ (List.mem_map_of_mem hentry) names (by simp)
    simpa using hdiffer.symm

theorem follow_of_reached (hreached : t.Reached (place ++ names))
    (hthere : (t.node? (place ++ names)).isSome) (hup : ".." ∉ names) :
    t.follow place names = .ok (place ++ names) := by
  induction names generalizing place with
  | nil => simp [follow]
  | cons name rest ih =>
    rw [List.append_cons] at hreached hthere ⊢
    obtain ⟨hname, hrest⟩ : name ≠ ".." ∧ ".." ∉ rest := by simpa [eq_comm] using hup
    have hdown : (name == "..") = false := by simpa using hname
    have hdir : t.node? place = some .directory := by
      have hcount := hreached place.length (by simp)
      rwa [List.append_assoc, List.take_left] at hcount
    have hnext : (t.node? (place ++ [name])).isSome := by
      cases rest with
      | nil => simpa using hthere
      | cons other rest =>
        have hcount := hreached (place ++ [name]).length (by simp)
        rw [List.take_left] at hcount
        simp [hcount]
    simp only [follow, hdir, hdown, Bool.false_eq_true, if_false, hnext, if_true]
    exact ih hreached hthere hrest

theorem namesOf_append {p : Path} {steps : List String} (h : t.namesOf p = .ok steps)
    (more : List String) :
    t.namesOf { p with names := p.names ++ more } = .ok (steps ++ more) := by
  rw [namesOf_eq_ok_iff] at h ⊢
  rcases h with ⟨habsolute, hroot, hnames⟩ | ⟨hrelative, hnames⟩
  · exact .inl ⟨habsolute, hroot, by simp [hnames]⟩
  · exact .inr ⟨hrelative, by simp [hnames]⟩

/-- An entry below a directory is found under its names after the path of the directory. -/
theorem Rooted.locate_below (h : t.Rooted) {p : Path} (hp : t.locate p = .ok place)
    (hmem : (place ++ names, node) ∈ t.nodes) (hne : names ≠ []) :
    t.locate { p with names := p.names ++ names } = .ok (place ++ names) := by
  simp only [locate, bind_eq_ok_iff] at hp ⊢
  obtain ⟨steps, hsteps, hfollow⟩ := hp
  refine ⟨steps ++ names, namesOf_append hsteps names, ?_⟩
  have hthere : t.node? (place ++ names) = some node :=
    (h.node?_eq_some_iff (by simp [hne])).mpr hmem
  rw [follow_append, bind_eq_ok_iff]
  refine ⟨place, hfollow, follow_of_reached (h.reached _ hmem) (by simp [hthere]) ?_⟩
  intro hup
  exact h.up _ hmem (List.mem_append_right place hup)

theorem Rooted.read_below (h : t.Rooted) {p : Path} (hp : t.locate p = .ok place)
    (hmem : (place ++ names, .file content) ∈ t.nodes) (hne : names ≠ []) :
    t.read { p with names := p.names ++ names } =
      if t.locked.contains (place ++ names) then .error .denied else .ok content := by
  have hthere : t.node? (place ++ names) = some (.file content) :=
    (h.node?_eq_some_iff (by simp [hne])).mpr hmem
  simp only [read, h.locate_below hp hmem hne, bind, Except.bind, hthere]

end Entries

section Sources

variable {found : List (List String × Content)}

/-- Whether names below a directory are those of a source: the last is a Solidity name, and no
directory before it is excluded. -/
def IsSource (exclude names : List String) : Prop :=
  ∃ directories name, names = directories ++ [name] ∧ ".sol".toList <:+ name.toList ∧
    ∀ fragment ∈ exclude, fragment ≠ "" → fragment ∉ directories

/-- The sources below a directory with what they hold, in the order of their names. -/
structure IsListing (t : FileTree) (place exclude : List String)
    (found : List (List String × Content)) : Prop where
  increasing : (found.map (·.1)).Pairwise Path.NamesBefore
  mem_iff : ∀ names content, (names, content) ∈ found ↔
    IsSource exclude names ∧ (place ++ names, .file content) ∈ t.nodes

def sourceOf (file : List String × Content) : SourceFile :=
  ⟨"/".intercalate file.1, String.ofList (Text.unifyLineEnds file.2.lossyText)⟩

def unreadable (directory : Path) (names : List String) : LogRecord :=
  let relative := "/".intercalate names
  let path : Path := { directory with names := directory.names ++ names }
  ⟨.warning, s!"Skipping unreadable file {relative}: {FileError.denied.message path.text}"⟩

def isKept (exclude names : List String) : Bool :=
  !(exclude.filter (· != "")).any (names.dropLast.contains ·) && isSolidityName names

theorem isSolidityName_concat {directories : List String} {name : String} :
    isSolidityName (directories ++ [name]) = true ↔ ".sol".toList <:+ name.toList := by
  rw [isSolidityName, List.getLast?_concat, Option.getD_some,
    String.endsWith_eq_endsWith_toSlice, String.Slice.endsWith_string_iff, String.copy_toSlice]

theorem isSource_iff : IsSource exclude names ↔ names ≠ [] ∧ isKept exclude names = true := by
  rcases names.eq_nil_or_concat' with rfl | ⟨directories, name, rfl⟩
  · simp [IsSource]
  · have hexcluded : ((exclude.filter (· != "")).any (directories.contains ·)) = false ↔
        ∀ fragment ∈ exclude, fragment ≠ "" → fragment ∉ directories := by
      simp [List.any_eq_false]
    rw [isKept, List.dropLast_concat, Bool.and_eq_true, isSolidityName_concat, Bool.not_eq_true',
      hexcluded, and_comm (b := _ <:+ _)]
    constructor
    · rintro ⟨directories', name', hsplit, hsource⟩
      obtain ⟨rfl, rfl⟩ := List.append_inj' hsplit rfl |>.imp_right List.singleton_inj.mp
      exact ⟨by simp, hsource⟩
    · rintro ⟨-, hsource⟩
      exact ⟨directories, name, rfl, hsource⟩

def contentAt (t : FileTree) (place : List String) : Content :=
  match t.node? place with
  | some (.file content) => content
  | _ => .text ""

theorem Sound.contentAt_eq (h : t.Sound) (hne : names ≠ []) {content : Content}
    (hmem : (names, .file content) ∈ t.nodes) : t.contentAt names = content := by
  rw [contentAt, (h.node?_eq_some_iff hne).mpr hmem]

def sourcesBelow (t : FileTree) (place exclude : List String) : List (List String × Content) :=
  ((t.filesBelow place).filter (isKept exclude)).map fun names =>
    (names, t.contentAt (place ++ names))

theorem Sound.isListing_sourcesBelow (h : t.Sound) (place exclude : List String) :
    t.IsListing place exclude (t.sourcesBelow place exclude) where
  increasing := by
    rw [sourcesBelow, List.map_map, List.pairwise_map]
    refine List.Pairwise.filter _ ?_
    exact (filesBelow_pairwise t place).imp₂ (fun _ _ hle hne => Path.namesBefore_of_le hle hne)
      (h.nodup_filesBelow place)
  mem_iff names content := by
    simp only [sourcesBelow, List.mem_map, List.mem_filter, mem_filesBelow_iff, Prod.mk.injEq,
      isSource_iff]
    constructor
    · rintro ⟨names, ⟨⟨hne, content', hmem⟩, hkept⟩, rfl, rfl⟩
      rw [h.contentAt_eq (by simp [hne]) hmem]
      exact ⟨⟨hne, hkept⟩, hmem⟩
    · rintro ⟨⟨hne, hkept⟩, hmem⟩
      exact ⟨names, ⟨⟨hne, content, hmem⟩, hkept⟩, rfl, h.contentAt_eq (by simp [hne]) hmem⟩

theorem filterMap_eq_map_filter {α β : Type} {l : List α} {f : α → Option β} {p : α → Bool}
    {g : α → β} (h : ∀ a ∈ l, f a = if p a then some (g a) else none) :
    l.filterMap f = (l.filter p).map g := by
  rw [List.filterMap_congr h, ← List.filterMap_eq_map, List.filterMap_filter]
  rfl

theorem Rooted.collectSources_eq (h : t.Rooted) (hroot : t.locate (root.resolve t.base) = .ok place)
    (hdir : t.node? place = some .directory) (exclude : List String) :
    t.collectSources root exclude =
      { value := ((t.sourcesBelow place exclude).filter
          fun file => !t.locked.contains (place ++ file.1)).map sourceOf
        logs := ((t.sourcesBelow place exclude).filter
          fun file => t.locked.contains (place ++ file.1)).map
            fun file => unreadable (root.resolve t.base) file.1 } := by
  have hfile : t.isFile (root.resolve t.base) = false := by simp [isFile, at?, hroot, hdir]
  have hread : ∀ names ∈ (t.filesBelow place).filter (isKept exclude),
      t.read { root.resolve t.base with names := (root.resolve t.base).names ++ names } =
        if t.locked.contains (place ++ names) then .error .denied
        else .ok (t.contentAt (place ++ names)) := by
    intro names hnames
    obtain ⟨hne, content, hmem⟩ := mem_filesBelow_iff.mp (List.mem_filter.mp hnames).1
    rw [h.read_below hroot hmem hne, h.contentAt_eq (by simp [hne]) hmem]
  unfold collectSources
  dsimp only
  rw [hfile, if_neg Bool.false_ne_true]
  dsimp only
  rw [solidityBelow, hroot]
  dsimp only
  rw [List.filter_filter, sourcesBelow, Logged.mk.injEq]
  constructor
  · rw [List.filterMap_map, List.filter_map, List.map_map]
    refine filterMap_eq_map_filter fun names hnames => ?_
    rw [Function.comp_apply, hread names hnames]
    by_cases hlocked : place ++ names ∈ t.locked <;> simp [hlocked, sourceOf]
  · rw [List.filterMap_map, List.filter_map, List.map_map]
    refine filterMap_eq_map_filter fun names hnames => ?_
    rw [Function.comp_apply, hread names hnames]
    by_cases hlocked : place ++ names ∈ t.locked <;> simp [hlocked, unreadable]

theorem IsListing.components_sourceOf (hfound : t.IsListing place exclude found) (h : t.Sound)
    {file : List String × Content} (hfile : file ∈ found) :
    Path.components (sourceOf file).path = file.1 := by
  obtain ⟨hsource, hmem⟩ := (hfound.mem_iff file.1 file.2).mp hfile
  refine Path.components_intercalate (isSource_iff.mp hsource).1 fun name hname => ?_
  exact h.slash _ hmem name (List.mem_append_right place hname)

end Sources

/-- The sources below a directory are listed in the order of their names. A path is listed exactly
if it is that of a readable file with a Solidity name outside the excluded directories. Whichever
files cannot be read, each of them leaves one warning in place of its entry. -/
theorem collectSources_lists_every_source {t : FileTree} {root : Path} {place : List String}
    (h : t.Rooted) (hroot : t.locate (root.resolve t.base) = .ok place)
    (hdir : t.node? place = some .directory) (exclude : List String) :
    ((t.collectSources root exclude).value.map fun file => Path.components file.path).Pairwise
        Path.NamesBefore ∧
      (∀ path, path ∈ (t.collectSources root exclude).value.map (·.path) ↔
        ∃ names content, path = "/".intercalate names ∧ IsSource exclude names ∧
          (place ++ names, .file content) ∈ t.nodes ∧ place ++ names ∉ t.locked) ∧
      ∃ found, t.IsListing place exclude found ∧ ∀ locked,
        ({ t with locked := locked } : FileTree).collectSources root exclude =
          { value := (found.filter fun file => !locked.contains (place ++ file.1)).map sourceOf
            logs := (found.filter fun file => locked.contains (place ++ file.1)).map
              fun file => unreadable (root.resolve t.base) file.1 } := by
  have hfound := h.isListing_sourcesBelow place exclude
  refine ⟨?_, fun path => ?_, t.sourcesBelow place exclude, hfound, fun locked => ?_⟩
  · rw [h.collectSources_eq hroot hdir, List.map_map, List.map_congr_left (g := (·.1))]
    · exact hfound.increasing.sublist (List.filter_sublist.map _)
    · intro file hfile
      exact hfound.components_sourceOf h.toSound (List.mem_filter.mp hfile).1
  · rw [h.collectSources_eq hroot hdir]
    simp only [List.map_map, List.mem_map, List.mem_filter, Prod.exists, hfound.mem_iff]
    constructor
    · rintro ⟨names, content, ⟨⟨hsource, hmem⟩, hlocked⟩, rfl⟩
      exact ⟨names, content, rfl, hsource, hmem, by simpa using hlocked⟩
    · rintro ⟨names, content, rfl, hsource, hmem, hlocked⟩
      exact ⟨names, content, ⟨⟨hsource, hmem⟩, by simpa using hlocked⟩, rfl⟩
  · have hrooted : ({ t with locked := locked } : FileTree).Rooted :=
      ⟨⟨h.nodup, h.slash⟩, h.up, h.reached⟩
    have hgrows : Grows t { t with locked := locked } := ⟨rfl, fun _ _ hkind => hkind⟩
    exact hrooted.collectSources_eq (hgrows.locate hroot) hdir exclude

/-- A directory with the name of a source, one whose name goes on with a character before the slash,
one whose name only holds an excluded name, and an excluded one. -/
def listedTree : FileTree where
  base := ⟨.absolute, ["work"]⟩
  nodes := [(["a-b"], .directory), (["a-b", "z.sol"], .file (.text "")), (["a"], .directory),
    (["a", "x.sol"], .file (.text "")), (["b.sol"], .directory),
    (["b.sol", "test.sol"], .file (.octets [255])), (["mytest"], .directory),
    (["mytest", "x.sol"], .file (.text "")), (["test"], .directory),
    (["test", "t.sol"], .file (.text "")), (["note.txt"], .file (.text ""))]
  locked := [["mytest", "x.sol"]]

theorem rooted_listedTree : listedTree.Rooted where
  nodup := by decide +kernel
  slash := by decide +kernel
  up := by decide +kernel
  reached := by
    simp only [Reached]
    decide +kernel

theorem collectSources_lists_every_source_sample :
    listedTree.Rooted ∧
      listedTree.locate (Path.resolve ⟨.relative, ["test", ".."]⟩ listedTree.base) = .ok [] ∧
      listedTree.node? [] = some .directory ∧
      ∃ paths : List String, (paths.map Path.components).Pairwise Path.NamesBefore ∧
        "a/x.sol" ∈ paths ∧ "b.sol/test.sol" ∈ paths ∧ "test/t.sol" ∉ paths ∧
        paths = (listedTree.collectSources ⟨.relative, ["test", ".."]⟩
          ["test", "", "test.sol"]).value.map (·.path) := by
  have hroot : listedTree.locate (Path.resolve ⟨.relative, ["test", ".."]⟩ listedTree.base) =
      .ok [] := by decide +kernel
  obtain ⟨hincreasing, hmem, -⟩ := collectSources_lists_every_source rooted_listedTree hroot rfl
    ["test", "", "test.sol"]
  refine ⟨rooted_listedTree, hroot, rfl, _, ?_, ?_, ?_, ?_, rfl⟩
  · rw [List.map_map]
    exact hincreasing
  · refine (hmem _).mpr ⟨["a", "x.sol"], .text "", rfl, ?_, ?_, ?_⟩
    · exact ⟨["a"], "x.sol", rfl, by decide +kernel, by decide +kernel⟩
    · decide +kernel
    · decide +kernel
  · refine (hmem _).mpr ⟨["b.sol", "test.sol"], .octets [255], rfl, ?_, ?_, ?_⟩
    · exact ⟨["b.sol"], "test.sol", rfl, by decide +kernel, by decide +kernel⟩
    · decide +kernel
    · decide +kernel
  · rw [hmem]
    rintro ⟨names, content, hpath, hsource, hfile, -⟩
    obtain ⟨hne, hkept⟩ := isSource_iff.mp hsource
    have hnames : Path.components "test/t.sol" = names := by
      rw [hpath]
      exact Path.components_intercalate hne (rooted_listedTree.slash _ hfile)
    rw [← hnames] at hkept
    revert hkept
    decide +kernel

end FileTree

end ContractScan
