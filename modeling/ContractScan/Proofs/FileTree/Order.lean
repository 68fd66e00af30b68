import ContractScan.FileTree.Discovery
import ContractScan.Proofs.Text.Pieces

/-! # The order of discovered files

Paths are compared name by name. The files below a directory come in this order,
each once, and different files have different texts for their paths.
-/

namespace ContractScan

namespace Path

variable {p q r : List String}

theorem le_cons_iff {a b : String} :
    le (a :: p) (b :: q) = true ↔ a < b ∨ a = b ∧ le p q = true := by
  rw [le]
  by_cases hab : a = b
  · simp [hab]
  · simp [hab]

theorem le_trans (h : le p q = true) (h' : le q r = true) : le p r = true := by
  induction p generalizing q r with
  | nil => rfl
  | cons a p ih =>
    obtain _ | ⟨b, q⟩ := q
    · cases h
    obtain _ | ⟨c, r⟩ := r
    · cases h'
    rw [le_cons_iff] at h h' ⊢
    rcases h with hab | ⟨rfl, hpq⟩
    · rcases h' with hbc | ⟨rfl, -⟩
      · exact .inl (String.lt_trans hab hbc)
      · exact .inl hab
    · rcases h' with hbc | ⟨rfl, hqr⟩
      · exact .inl hbc
      · exact .inr ⟨rfl, ih hpq hqr⟩

theorem le_total (p q : List String) : le p q = true ∨ le q p = true := by
  induction p generalizing q with
  | nil => exact .inl rfl
  | cons a p ih =>
    obtain _ | ⟨b, q⟩ := q
    · exact .inr rfl
    rw [le_cons_iff, le_cons_iff]
    by_cases hab : a < b
    · exact .inl (.inl hab)
    by_cases hba : b < a
    · exact .inr (.inl hba)
    · obtain rfl : a = b := String.le_antisymm (String.not_lt.mp hba) (String.not_lt.mp hab)
      rcases ih q with hpq | hqp
      · exact .inl (.inr ⟨rfl, hpq⟩)
      · exact .inr (.inr ⟨rfl, hqp⟩)

theorem le_antisymm (h : le p q = true) (h' : le q p = true) : p = q := by
  induction p generalizing q with
  | nil =>
    obtain _ | ⟨b, q⟩ := q
    · rfl
    · cases h'
  | cons a p ih =>
    obtain _ | ⟨b, q⟩ := q
    · cases h
    rw [le_cons_iff] at h h'
    rcases h with hab | ⟨rfl, hpq⟩
    · rcases h' with hba | ⟨rfl, -⟩
      · exact absurd hba (String.lt_asymm hab)
      · exact absurd hab (String.lt_irrefl _)
    · rcases h' with haa | ⟨-, hqp⟩
      · exact absurd haa (String.lt_irrefl _)
      · rw [ih hpq hqp]

theorem pairwise_mergeSort (l : List (List String)) :
    (l.mergeSort le).Pairwise (le · · = true) := by
  have htrans (p q r : List String) (h : le p q = true) (h' : le q r = true) : le p r = true :=
    le_trans h h'
  have htotal (p q : List String) : (le p q || le q p) = true := by
    rw [Bool.or_eq_true]
    exact le_total p q
  exact List.pairwise_mergeSort htrans htotal l

theorem le_append_left (names : List String) : le (names ++ p) (names ++ q) = le p q := by
  induction names with
  | nil => rfl
  | cons name names ih =>
    rw [List.cons_append, List.cons_append, le, ih]
    simp

def Precedes (a b : Path) : Prop :=
  le a.names b.names = true ∧ a ≠ b

theorem below?_eq_some_iff {path dir : Path} {names : List String} :
    path.below? dir = some names ↔ path.root = dir.root ∧ path.names = dir.names ++ names := by
  rw [below?]
  constructor
  · intro h
    split at h
    next hbelow =>
      obtain ⟨hroot, htake⟩ : path.root = dir.root ∧
          path.names.take dir.names.length = dir.names := by
        simpa using hbelow
      have hsplit := List.take_append_drop dir.names.length path.names
      rw [htake, Option.some.inj h] at hsplit
      exact ⟨hroot, hsplit.symm⟩
    next => cases h
  · rintro ⟨hroot, hnames⟩
    simp [hroot, hnames]

/-- The names that the text of a path is made of. -/
def components (path : String) : List String :=
  (path.toList.splitOn '/').map String.ofList

theorem components_intercalate (hne : p ≠ []) (hslash : ∀ name ∈ p, '/' ∉ name.toList) :
    components ("/".intercalate p) = p := by
  have hpieces := Text.pieces_intercalate hne hslash
  rw [Text.pieces_eq_splitOn] at hpieces
  rw [components, show "/" = String.singleton '/' from rfl, hpieces, List.map_map]
  exact List.map_id'' (fun name => String.ofList_toList) p

/-- Names without a slash can be told from the text of a path. -/
theorem append_inj_of_text (dir : Path) (hp : p ≠ []) (hq : q ≠ [])
    (hslash : ∀ name ∈ p ++ q, '/' ∉ name.toList)
    (h : text { dir with names := dir.names ++ p } = text { dir with names := dir.names ++ q }) :
    p = q := by
  obtain ⟨hslashp, hslashq⟩ := List.forall_mem_append.mp hslash
  have hjoin : "/".intercalate (dir.names ++ p) = "/".intercalate (dir.names ++ q) := by
    simpa [text, hp, hq] using h
  have hjoin' : "/".intercalate p = "/".intercalate q := by
    by_cases hdir : dir.names = []
    · simpa [hdir] using hjoin
    · rw [String.intercalate_append_of_ne_nil hdir hp,
        String.intercalate_append_of_ne_nil hdir hq] at hjoin
      exact String.append_right_inj _ |>.mp hjoin
  have hnames := congrArg components hjoin'
  rwa [components_intercalate hp hslashp, components_intercalate hq hslashq] at hnames

end Path

namespace FileTree

variable {t : FileTree}

/-- Every place has one entry at most, and no name has a slash. -/
structure Sound (t : FileTree) : Prop where
  nodup : (t.nodes.map (·.1)).Nodup
  slash : ∀ entry ∈ t.nodes, ∀ name ∈ entry.1, '/' ∉ name.toList

section Below

variable {directory names : List String}

theorem filesBelow_pairwise (t : FileTree) (directory : List String) :
    (t.filesBelow directory).Pairwise (Path.le · · = true) :=
  Path.pairwise_mergeSort _

theorem append_drop_of_take {place : List String} (h : place.take directory.length = directory) :
    directory ++ place.drop directory.length = place := by
  have hsplit := List.take_append_drop directory.length place
  rwa [h] at hsplit

theorem mem_filesBelow_iff : names ∈ t.filesBelow directory ↔
    names ≠ [] ∧ ∃ content, (directory ++ names, .file content) ∈ t.nodes := by
  rw [filesBelow, List.mem_mergeSort, List.mem_filterMap]
  constructor
  · rintro ⟨⟨place, _ | content⟩, hmem, hbelow⟩
    · cases hbelow
    · dsimp only at hbelow
      split at hbelow
      next hplace =>
        cases hbelow
        simp only [Bool.and_eq_true, beq_iff_eq, decide_eq_true_eq] at hplace
        refine ⟨by simpa using hplace.2, content, ?_⟩
        rwa [append_drop_of_take hplace.1]
      next => cases hbelow
  · rintro ⟨hne, content, hmem⟩
    refine ⟨_, hmem, ?_⟩
    have hlength : 0 < names.length := List.length_pos_iff.mpr hne
    simp [hlength]

theorem Sound.nodup_filesBelow (h : t.Sound) (directory : List String) :
    (t.filesBelow directory).Nodup := by
  rw [filesBelow, (List.mergeSort_perm _ _).nodup_iff, List.Nodup, List.pairwise_filterMap]
  refine (List.pairwise_map.mp h.nodup).imp ?_
  rintro ⟨place, _ | content⟩ ⟨place', _ | content'⟩ hne names hnames names' hnames'
  · cases hnames
  · cases hnames
  · cases hnames'
  · dsimp only at hnames hnames'
    split at hnames
    next hplace =>
      split at hnames'
      next hplace' =>
        cases hnames
        cases hnames'
        simp only [Bool.and_eq_true, beq_iff_eq] at hplace hplace'
        intro hdrop
        apply hne
        rw [← append_drop_of_take hplace.1, hdrop, append_drop_of_take hplace'.1]
      next => cases hnames'
    next => cases hnames

end Below

section Contracts

variable {target : Path}

theorem contractFiles_cases (t : FileTree) (target : Path) :
    t.contractFiles target = [] ∨ t.contractFiles target = [target] ∨
      ∃ directory wanted, t.contractFiles target = ((t.filesBelow directory).filter wanted).map
        fun names => { target with names := target.names ++ names } := by
  unfold contractFiles solidityBelow
  split
  · split
    · exact .inr (.inl rfl)
    · exact .inl rfl
  · split
    · split
      · rw [List.filter_filter]
        exact .inr (.inr ⟨_, _, rfl⟩)
      · exact .inl rfl
    · exact .inl rfl

theorem contractFiles_pairwise_le (t : FileTree) (target : Path) :
    (t.contractFiles target).Pairwise fun a b => Path.le a.names b.names = true := by
  obtain h | h | ⟨directory, wanted, h⟩ := t.contractFiles_cases target
  · rw [h]
    exact .nil
  · rw [h]
    exact List.pairwise_singleton _ _
  · rw [h, List.pairwise_map]
    refine ((filesBelow_pairwise t directory).filter wanted).imp ?_
    intro p q hpq
    rwa [Path.le_append_left]

theorem Sound.nodup_text_contractFiles (h : t.Sound) (target : Path) :
    ((t.contractFiles target).map Path.text).Nodup := by
  obtain hfiles | hfiles | ⟨directory, wanted, hfiles⟩ := t.contractFiles_cases target
  · simp [hfiles]
  · simp [hfiles]
  · rw [hfiles, List.map_map, List.Nodup, List.pairwise_map]
    refine List.Pairwise.imp_of_mem ?_ ((h.nodup_filesBelow directory).filter wanted)
    intro p q hp hq hpq htext
    obtain ⟨hne, _, hmem⟩ := mem_filesBelow_iff.mp (List.mem_filter.mp hp).1
    obtain ⟨hne', _, hmem'⟩ := mem_filesBelow_iff.mp (List.mem_filter.mp hq).1
    refine hpq (Path.append_inj_of_text target hne hne' ?_ htext)
    rw [List.forall_mem_append]
    constructor
    · intro name hname
      exact h.slash _ hmem name (List.mem_append_right _ hname)
    · intro name hname
      exact h.slash _ hmem' name (List.mem_append_right _ hname)

theorem Sound.contractFiles_pairwise (h : t.Sound) (target : Path) :
    (t.contractFiles target).Pairwise Path.Precedes := by
  have hdistinct := List.pairwise_map.mp (h.nodup_text_contractFiles target)
  refine (t.contractFiles_pairwise_le target).imp₂ (fun a b hle hne => ⟨hle, ?_⟩) hdistinct
  rintro rfl
  exact hne rfl

end Contracts

end FileTree

end ContractScan
