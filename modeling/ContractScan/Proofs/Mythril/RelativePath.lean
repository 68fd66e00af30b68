import ContractScan.Mythril.Report
import ContractScan.Proofs.FileTree.Order
import ContractScan.Proofs.Source.Lines

/-! # File names seen from a root

A file name in an issue is given by the way from the root of the scan. Whatever
names and steps up the two texts are made of, the way is a relative one, and
going along it from the root leads where the file name led.
-/

namespace ContractScan

namespace Path

variable {directory names : List String}

/-- Where a name leads from a directory: an empty one and a dot nowhere else, and two dots to the
directory above, which the topmost one does not have. -/
def step (directory : List String) (name : String) : List String :=
  if name = "" ∨ name = "." then directory
  else if name = ".." then directory.dropLast
  else directory ++ [name]

/-- The names from the top down to where the text of a path leads. -/
def destination (path : String) : List String :=
  (components path).foldl step []

def StartsAtTop (path : String) : Prop :=
  path.toList.head? = some '/'

instance (path : String) : Decidable (StartsAtTop path) :=
  inferInstanceAs (Decidable (_ = _))

/-- The text of a path seen from a root; one that starts at the top stands alone. -/
def joinTexts (root path : String) : String :=
  if StartsAtTop path then path else root ++ "/" ++ path

structure IsName (name : String) : Prop where
  ne_empty : name ≠ ""
  ne_dot : name ≠ "."
  slash : '/' ∉ name.toList

section Reading

theorem components_append_slash (first second : String) :
    components (first ++ "/" ++ second) = components first ++ components second := by
  have hsplit := List.splitOn_append_cons_self (a := '/') first.toList second.toList
  simp only [components, String.toList_append, List.append_assoc]
  rw [← List.map_append, ← hsplit]
  rfl

theorem destination_append_slash (root path : String) :
    destination (root ++ "/" ++ path) = (components path).foldl step (destination root) := by
  rw [destination, components_append_slash, List.foldl_append, destination]

theorem names_ofText (text : String) :
    (ofText text).names = (components text).filter fun name => name != "" && name != "." := by
  rw [ofText, Text.pieces_eq_splitOn]
  rfl

theorem isName_of_mem_ofText {text : String} : ∀ name ∈ (ofText text).names, IsName name := by
  intro name hname
  rw [names_ofText, List.mem_filter, components, List.mem_map] at hname
  obtain ⟨⟨piece, hpiece, rfl⟩, hkept⟩ := hname
  simp only [Bool.and_eq_true, bne_iff_ne] at hkept
  refine ⟨hkept.1, hkept.2, ?_⟩
  rw [String.toList_ofList]
  exact Text.not_mem_of_mem_pieces (by rwa [Text.pieces_eq_splitOn])

theorem foldl_step_ofText (text : String) (directory : List String) :
    (ofText text).names.foldl step directory = (components text).foldl step directory := by
  rw [names_ofText, List.foldl_filter]
  congr 1
  funext directory name
  by_cases hstay : name = "" ∨ name = "."
  · have hdrop : ¬ (name != "" && name != ".") = true := by
      simpa [Classical.or_iff_not_imp_left] using hstay
    rw [if_neg hdrop, step, if_pos hstay]
  · have hkeep : (name != "" && name != ".") = true := by simpa using hstay
    rw [if_pos hkeep]

theorem destination_eq_foldl_step (text : String) :
    destination text = (ofText text).names.foldl step [] :=
  (foldl_step_ofText text []).symm

theorem isAbsolute_ofText_iff (text : String) :
    (ofText text).isAbsolute = true ↔ StartsAtTop text := by
  simp only [isAbsolute, ofText, StartsAtTop, bne_iff_ne]
  cases text.toList with
  | nil => simp
  | cons c rest =>
    by_cases hc : c = '/'
    · simp only [hc, beq_self_eq_true, List.takeWhile_cons, if_true, List.length_cons,
        List.head?_cons, iff_true]
      split
      · simp at *
      · split <;> simp
    · simp [hc]

end Reading

section Writing

theorem foldl_step_text (hnames : ∀ name ∈ names, IsName name) (directory : List String) :
    (components (text ⟨.relative, names⟩)).foldl step directory = names.foldl step directory := by
  by_cases hempty : names = []
  · subst hempty
    rfl
  · have htext : text ⟨.relative, names⟩ = "/".intercalate names := by
      simp [text, hempty, PathRoot.text]
    rw [htext, components_intercalate hempty fun name hname => (hnames name hname).slash]

theorem not_startsAtTop_text (hnames : ∀ name ∈ names, IsName name) :
    ¬ StartsAtTop (text ⟨.relative, names⟩) := by
  cases names with
  | nil => decide
  | cons name rest =>
    obtain ⟨hne, -, hslash⟩ := hnames name List.mem_cons_self
    obtain ⟨c, more, hchars⟩ := List.exists_cons_of_ne_nil (mt String.toList_eq_nil_iff.mp hne)
    have hhead : (text ⟨.relative, name :: rest⟩).toList.head? = some c := by
      cases rest <;> simp [text, PathRoot.text, hchars]
    rw [StartsAtTop, hhead, Option.some_inj]
    rintro rfl
    exact hslash (hchars ▸ List.mem_cons_self)

end Writing

section Walking

theorem mem_step {name entered : String} (h : name ∈ step directory entered) :
    name ∈ directory ∨ name = entered ∧ name ≠ ".." := by
  rw [step] at h
  split at h
  · exact .inl h
  · split at h
    · exact .inl (List.dropLast_subset _ h)
    next hdown =>
      obtain hname | hname := List.mem_append.mp h
      · exact .inl hname
      · obtain rfl := List.mem_singleton.mp hname
        exact .inr ⟨rfl, hdown⟩

theorem mem_foldl_step {name : String} (h : name ∈ names.foldl step directory) :
    name ∈ directory ∨ name ∈ names ∧ name ≠ ".." := by
  induction names generalizing directory with
  | nil => exact .inl h
  | cons entered rest ih =>
    obtain hname | ⟨hname, hdown⟩ := ih h
    · obtain hname | ⟨rfl, hdown⟩ := mem_step hname
      · exact .inl hname
      · exact .inr ⟨List.mem_cons_self, hdown⟩
    · exact .inr ⟨List.mem_cons_of_mem _ hname, hdown⟩

theorem step_of_isName {name : String} (h : IsName name) (directory : List String) :
    step directory name = if name = ".." then directory.dropLast else directory ++ [name] := by
  rw [step, if_neg (not_or.mpr ⟨h.ne_empty, h.ne_dot⟩)]

theorem collapse_eq_foldl_step (hnames : ∀ name ∈ names, IsName name) (done : List String) :
    collapse done names = names.foldl step done.reverse := by
  induction names generalizing done with
  | nil => rfl
  | cons name rest ih =>
    obtain ⟨hname, hrest⟩ := List.forall_mem_cons.mp hnames
    rw [collapse, List.foldl_cons, step_of_isName hname]
    by_cases hup : name = ".."
    · rw [if_pos (beq_iff_eq.mpr hup), if_pos hup, ih hrest, List.drop_one, List.dropLast_reverse]
    · rw [if_neg (mt beq_iff_eq.mp hup), if_neg hup, ih hrest, List.reverse_cons]

theorem foldl_step_down (hnames : ∀ name ∈ names, IsName name) (hup : ".." ∉ names)
    (directory : List String) : names.foldl step directory = directory ++ names := by
  induction names generalizing directory with
  | nil => rw [List.foldl_nil, List.append_nil]
  | cons name rest ih =>
    obtain ⟨hname, hrest⟩ := List.forall_mem_cons.mp hnames
    obtain ⟨hdown, hup⟩ := not_or.mp (mt List.mem_cons.mpr hup)
    rw [List.foldl_cons, step_of_isName hname, if_neg (Ne.symm hdown), ih hrest hup,
      List.append_assoc, List.singleton_append]

theorem foldl_step_up (count : Nat) (directory : List String) :
    (List.replicate count "..").foldl step directory =
      directory.take (directory.length - count) := by
  induction count generalizing directory with
  | zero => simp
  | succ count ih =>
    have hup : step directory ".." = directory.dropLast := by simp [step]
    rw [List.replicate_succ, List.foldl_cons, hup, ih, List.dropLast_eq_take, List.take_take,
      List.length_take]
    congr 1
    omega

theorem sharedLength_le (p q : List String) : sharedLength p q ≤ p.length := by
  fun_induction sharedLength p q with
  | case1 => simpa
  | case2 => exact Nat.zero_le _
  | case3 => exact Nat.zero_le _

theorem take_sharedLength (p q : List String) :
    p.take (sharedLength p q) = q.take (sharedLength p q) := by
  fun_induction sharedLength p q with
  | case1 a as b bs hab ih =>
    rw [beq_iff_eq.mp hab, List.take_succ_cons, List.take_succ_cons, ih]
  | case2 => rfl
  | case3 => rfl

theorem isName_up : IsName ".." :=
  ⟨by decide, by decide, by decide⟩

variable {p dir : Path}

theorem isName_of_mem_wayFrom (hp : ∀ name ∈ p.names, IsName name) :
    ∀ name ∈ (p.wayFrom dir).names, IsName name := by
  intro name hname
  obtain hname | hname := List.mem_append.mp hname
  · rw [List.eq_of_mem_replicate hname]
    exact isName_up
  · have hmem := List.mem_of_mem_drop hname
    rw [collapse_eq_foldl_step hp] at hmem
    obtain hmem | ⟨hmem, -⟩ := mem_foldl_step hmem
    · cases hmem
    · exact hp name hmem

/-- The way from a directory to a path leads from where the directory is to where the path leads. -/
theorem foldl_step_wayFrom (hp : ∀ name ∈ p.names, IsName name)
    (hdir : ∀ name ∈ dir.names, IsName name) :
    (p.wayFrom dir).names.foldl step (dir.names.foldl step []) = p.names.foldl step [] := by
  have hway : ∀ name ∈ (p.wayFrom dir).names, IsName name := isName_of_mem_wayFrom hp
  simp only [wayFrom, collapse_eq_foldl_step hp, collapse_eq_foldl_step hdir, List.reverse_nil]
    at hway ⊢
  generalize hdown : p.names.foldl step [] = down at hway ⊢
  generalize dir.names.foldl step [] = up at hway ⊢
  have hle := sharedLength_le up down
  have hstraight : ".." ∉ down := by
    intro hup
    rw [← hdown] at hup
    obtain hmem | ⟨-, hne⟩ := mem_foldl_step hup
    · cases hmem
    · exact hne rfl
  calc (List.replicate (up.length - sharedLength up down) ".." ++
        down.drop (sharedLength up down)).foldl step up
    _ = (down.drop (sharedLength up down)).foldl step (up.take (sharedLength up down)) := by
      rw [List.foldl_append, foldl_step_up, Nat.sub_sub_self hle]
    _ = up.take (sharedLength up down) ++ down.drop (sharedLength up down) :=
      foldl_step_down (fun name hname => hway name (List.mem_append_right _ hname))
        (fun hup => hstraight (List.mem_of_mem_drop hup)) _
    _ = down := by rw [take_sharedLength, List.take_append_drop]

end Walking

end Path

namespace Mythril

open ContractScan.Path

theorem relativePath_eq_text (root filename : String) :
    ∃ names, relativePath (.ofText root) filename = text ⟨.relative, names⟩ ∧
      (∀ name ∈ names, IsName name) ∧
      names.foldl step (destination root) = destination (joinTexts root filename) := by
  have hnames : ∀ name ∈ (ofText filename).names, IsName name := isName_of_mem_ofText
  unfold relativePath joinTexts
  dsimp only
  split
  next hrelative =>
    have htop : ¬ StartsAtTop filename := by
      rw [← isAbsolute_ofText_iff]
      simpa using hrelative
    have hroot : (ofText filename).root = .relative := by simpa [isAbsolute] using hrelative
    refine ⟨(ofText filename).names, by rw [← hroot], hnames, ?_⟩
    rw [if_neg htop, foldl_step_ofText, destination_append_slash]
  next habsolute =>
    have htop : StartsAtTop filename := by
      rw [← isAbsolute_ofText_iff]
      simpa using habsolute
    rw [if_pos htop, destination_eq_foldl_step root, destination_eq_foldl_step filename]
    split
    next names hbelow =>
      obtain ⟨-, hsplit⟩ := below?_eq_some_iff.mp hbelow
      refine ⟨names, rfl, fun name hname => hnames name ?_, ?_⟩
      · rw [hsplit]
        exact List.mem_append_right _ hname
      · rw [hsplit, List.foldl_append]
    next =>
      exact ⟨_, rfl, isName_of_mem_wayFrom hnames, foldl_step_wayFrom hnames isName_of_mem_ofText⟩

/-- A file name seen from a root is relative, and means the same file. -/
theorem relativePath_same_file (root filename : String) :
    ¬ StartsAtTop (relativePath (.ofText root) filename) ∧
      destination (joinTexts root (relativePath (.ofText root) filename)) =
        destination (joinTexts root filename) := by
  obtain ⟨names, htext, hnames, hway⟩ := relativePath_eq_text root filename
  have hrelative : ¬ StartsAtTop (relativePath (.ofText root) filename) := by
    rw [htext]
    exact not_startsAtTop_text hnames
  refine ⟨hrelative, ?_⟩
  rw [joinTexts, if_neg hrelative, destination_append_slash, htext, foldl_step_text hnames, hway]

end Mythril

end ContractScan
