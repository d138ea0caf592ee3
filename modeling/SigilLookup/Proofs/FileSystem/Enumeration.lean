import Mathlib.Data.List.Pairwise
import SigilLookup.FileSystem.Disk
import SigilLookup.Proofs.Path.Order

/-!
# Enumeration of directories

A directory has its entries in some order, which depends on the history of the disk and says nothing.
Nobody who reads a disk can find out about it. Walks look entries up by name, and a directory is listed
in ascending order: whatever the order in which its entries are enumerated, sorting their paths gives
the listing. So two disks that differ only in the order of entries are the same file system.
-/

namespace SigilLookup

/-! ### Sorting -/

theorem pairwise_mergeSort_of_total {α : Type} [LE α] [DecidableLE α]
    (htrans : ∀ x y z : α, x ≤ y → y ≤ z → x ≤ z) (htotal : ∀ x y : α, x ≤ y ∨ y ≤ x)
    (list : List α) : (list.mergeSort fun x y => decide (x ≤ y)).Pairwise (· ≤ ·) := by
  have hsorted := @List.pairwise_mergeSort _ (fun x y : α => decide (x ≤ y))
    (fun x y z hxy hyz => by simpa using htrans x y z (by simpa using hxy) (by simpa using hyz))
    (fun x y => by simpa using htotal x y) list
  exact hsorted.imp of_decide_eq_true

/-- What ascends strictly is what sorting gives, also where different elements may be equal in the
order. -/
theorem mergeSort_eq_of_pairwise_lt {paths sorted : List Path} (hperm : paths.Perm sorted)
    (hsorted : sorted.Pairwise (· < ·)) :
    (paths.mergeSort fun first second => decide (first ≤ second)) = sorted := by
  have hsame : ∀ first ∈ sorted, ∀ second ∈ sorted,
      first ≤ second → second ≤ first → first = second := by
    have hsymm : Std.Symm fun first second : Path =>
        first ≤ second → second ≤ first → first = second :=
      ⟨fun _ _ hboth hle hge => (hboth hge hle).symm⟩
    apply List.Pairwise.forall_of_forall
    · intro path _ _ _
      rfl
    · refine hsorted.imp ?_
      intro first second hlt _ hge
      exact absurd hge (Path.not_le_of_lt hlt)
  have hmerged := (List.mergeSort_perm paths fun first second => decide (first ≤ second)).trans hperm
  refine List.Perm.eq_of_pairwise ?_
    (pairwise_mergeSort_of_total (fun _ _ _ => Path.le_trans) Path.le_total paths)
    (hsorted.imp Path.le_of_lt) hmerged
  intro first second hfirst hsecond hle hge
  exact hsame first (hmerged.mem_iff.mp hfirst) second hsecond hle hge

/-! ### Disks that differ in the order of entries -/

/-- Nodes that cannot be told apart without going on to entries: directories may have their names in
another order. -/
inductive Node.Alike : Node → Node → Prop where
  | file (content : List UInt8) : Alike (.file content) (.file content)
  | link (target : List UInt8) : Alike (.link target) (.link target)
  | dir {first second : List (List UInt8 × Node)}
      (hnames : (first.map Prod.fst).Perm (second.map Prod.fst)) : Alike (.dir first) (.dir second)

theorem Node.Alike.refl (node : Node) : node.Alike node := by
  cases node with
  | file content => exact .file content
  | link target => exact .link target
  | dir entries => exact .dir (.refl _)

theorem Node.Alike.symm {first second : Node} (halike : first.Alike second) :
    second.Alike first := by
  cases halike with
  | file content => exact .file content
  | link target => exact .link target
  | dir hnames => exact .dir hnames.symm

theorem Node.Alike.exists_dir {entries : List (List UInt8 × Node)} {other : Node}
    (halike : (Node.dir entries).Alike other) : ∃ others, other = .dir others ∧
      (entries.map Prod.fst).Perm (others.map Prod.fst) := by
  cases halike with
  | dir hnames => exact ⟨_, rfl, hnames⟩

theorem Node.Alike.eq_link {target : List UInt8} {other : Node}
    (halike : (Node.link target).Alike other) : other = .link target := by
  cases halike with
  | link => rfl

theorem Node.Alike.exists_some {node : Node} {found : Option Node}
    (hfound : Option.Rel Node.Alike (some node) found) :
    ∃ other, found = some other ∧ node.Alike other := by
  cases hfound with
  | some halike => exact ⟨_, rfl, halike⟩

theorem Node.Alike.eq_none {found : Option Node} (hfound : Option.Rel Node.Alike none found) :
    found = none := by
  cases hfound with
  | none => rfl

namespace Disk

/-- The disks hold the same at every place, up to the order of entries. -/
structure Reorders (first second : Disk) : Prop where
  workingDir : first.workingDir = second.workingDir
  nodes : ∀ place, Option.Rel Node.Alike (find? first.root place) (find? second.root place)

/-! ### Places -/

theorem find?_append_singleton {root : Node} {place : List (List UInt8)}
    {entries : List (List UInt8 × Node)} (hdir : find? root place = some (.dir entries))
    (name : List UInt8) : find? root (place ++ [name]) = entries.lookup name := by
  induction place generalizing root with
  | nil =>
      cases hdir
      rw [List.nil_append, find?]
      cases entries.lookup name <;> rfl
  | cons first rest ih =>
      cases root with
      | file content => cases hdir
      | link target => cases hdir
      | dir others =>
          rw [find?] at hdir
          rw [List.cons_append, find?]
          cases hfirst : others.lookup first with
          | none =>
              rw [hfirst] at hdir
              cases hdir
          | some node =>
              rw [hfirst] at hdir
              exact ih hdir

/-- What distinct names lead to does not depend on their order. -/
theorem lookup_eq_of_perm {first second : List (List UInt8 × Node)} (hperm : first.Perm second)
    (hdistinct : (first.map Prod.fst).Nodup) (name : List UInt8) :
    first.lookup name = second.lookup name := by
  induction hperm with
  | nil => rfl
  | cons entry hrest ih =>
      rw [List.map_cons, List.nodup_cons] at hdistinct
      rw [List.lookup_cons, List.lookup_cons, ih hdistinct.2]
  | swap entry other rest =>
      obtain ⟨key, node⟩ := entry
      obtain ⟨otherKey, otherNode⟩ := other
      simp only [List.map_cons, List.nodup_cons, List.mem_cons, not_or] at hdistinct
      simp only [List.lookup_cons]
      by_cases hkey : name = key
      · by_cases hother : name = otherKey
        · exact absurd (hother.symm.trans hkey) hdistinct.1.1
        · simp [hkey, beq_eq_false_iff_ne.mpr (hkey ▸ hother)]
      · simp [beq_eq_false_iff_ne.mpr hkey]
  | trans hfirst hsecond ihFirst ihSecond =>
      rw [ihFirst hdistinct]
      exact ihSecond ((hfirst.map Prod.fst).nodup_iff.mp hdistinct)

/-- To put the entries of the root into another order is to reorder the disk. -/
theorem reorders_of_perm {first second : List (List UInt8 × Node)} (hperm : first.Perm second)
    (hdistinct : (first.map Prod.fst).Nodup) (workingDir : List (List UInt8)) :
    Reorders ⟨.dir first, workingDir⟩ ⟨.dir second, workingDir⟩ := by
  refine ⟨rfl, ?_⟩
  intro place
  cases place with
  | nil => exact .some (.dir (hperm.map Prod.fst))
  | cons name rest =>
      rw [find?, find?, lookup_eq_of_perm hperm hdistinct name]
      cases second.lookup name with
      | none => exact .none
      | some node =>
          dsimp only
          cases find? node rest with
          | none => exact .none
          | some found => exact .some (.refl found)

/-- Sorted names do not depend on the order in which the names were given. -/
theorem mergeSort_eq_of_perm {first second : List (List UInt8)} (hperm : first.Perm second) :
    (first.mergeSort fun x y => decide (x ≤ y)) = second.mergeSort fun x y => decide (x ≤ y) := by
  have hfirst := pairwise_mergeSort_of_total (fun x y z => List.le_trans) List.le_total first
  have hsecond := pairwise_mergeSort_of_total (fun x y z => List.le_trans) List.le_total second
  refine List.Perm.eq_of_pairwise ?_ hfirst hsecond ?_
  · intro x y _ _ hxy hyx
    exact List.le_antisymm hxy hyx
  · exact (List.mergeSort_perm first _).trans (hperm.trans (List.mergeSort_perm second _).symm)

namespace Reorders

variable {first second : Disk}

theorem symm (hsame : first.Reorders second) : second.Reorders first := by
  refine ⟨hsame.workingDir.symm, ?_⟩
  intro place
  have hnode := hsame.nodes place
  generalize find? first.root place = node at hnode ⊢
  generalize find? second.root place = other at hnode ⊢
  cases hnode with
  | none => exact .none
  | some halike => exact .some halike.symm

/-- A directory is one on both disks, and its names lead to nodes that are alike. -/
theorem dir_of_dir (hsame : first.Reorders second) {place : List (List UInt8)}
    {entries : List (List UInt8 × Node)} (hdir : find? first.root place = some (.dir entries)) :
    ∃ others, find? second.root place = some (.dir others) ∧
      ∀ name, Option.Rel Node.Alike (entries.lookup name) (others.lookup name) := by
  have hnode := hsame.nodes place
  rw [hdir] at hnode
  obtain ⟨node, hother, halike⟩ := Node.Alike.exists_some hnode
  obtain ⟨others, rfl, -⟩ := halike.exists_dir
  refine ⟨others, hother, ?_⟩
  intro name
  have hentry := hsame.nodes (place ++ [name])
  rwa [find?_append_singleton hdir, find?_append_singleton hother] at hentry

/-! ### Walks -/

/-- A walk meets the same on both disks, so it ends at the same place or with the same fault. -/
theorem walk_eq (hsame : first.Reorders second) (links : Nat)
    (place remaining : List (List UInt8)) :
    walk first.root links place remaining = walk second.root links place remaining := by
  fun_induction walk first.root links place remaining with
  | case1 => rw [walk]
  | case2 links place rest entries hdir ih =>
      obtain ⟨others, hother, -⟩ := hsame.dir_of_dir hdir
      rw [ih, walk, hother]
      simp only [if_pos]
  | case3 links place rest entries hdir hhere ih =>
      obtain ⟨others, hother, -⟩ := hsame.dir_of_dir hdir
      rw [ih, walk, hother]
      simp only [if_neg hhere, if_pos]
  | case4 links place part rest entries hdir hhere hup hlong =>
      obtain ⟨others, hother, -⟩ := hsame.dir_of_dir hdir
      rw [walk, hother]
      simp only [if_neg hhere, if_neg hup, if_pos hlong]
  | case5 links place part rest entries hdir hhere hup hlong hlookup =>
      obtain ⟨others, hother, hentries⟩ := hsame.dir_of_dir hdir
      have hmissing := Node.Alike.eq_none (hlookup ▸ hentries part)
      rw [walk, hother]
      simp only [if_neg hhere, if_neg hup, if_neg hlong, hmissing]
  | case6 place part rest entries hdir hhere hup hlong target hlookup =>
      obtain ⟨others, hother, hentries⟩ := hsame.dir_of_dir hdir
      obtain ⟨node, hfound, halike⟩ := Node.Alike.exists_some (hlookup ▸ hentries part)
      rw [halike.eq_link] at hfound
      rw [walk, hother]
      simp only [if_neg hhere, if_neg hup, if_neg hlong, hfound]
  | case7 place part rest entries hdir hhere hup hlong target hlookup links ih =>
      obtain ⟨others, hother, hentries⟩ := hsame.dir_of_dir hdir
      obtain ⟨node, hfound, halike⟩ := Node.Alike.exists_some (hlookup ▸ hentries part)
      rw [halike.eq_link] at hfound
      rw [walk.eq_def second.root, hother]
      simp only [if_neg hhere, if_neg hup, if_neg hlong, hfound]
      exact ih
  | case8 links place part rest entries hdir hhere hup hlong node hlink hlookup ih =>
      obtain ⟨others, hother, hentries⟩ := hsame.dir_of_dir hdir
      obtain ⟨found, hfound, halike⟩ := Node.Alike.exists_some (hlookup ▸ hentries part)
      rw [ih, walk.eq_def second.root _ _ (part :: rest), hother]
      simp only [if_neg hhere, if_neg hup, if_neg hlong, hfound]
      cases found with
      | link target => exact (hlink target halike.symm.eq_link).elim
      | file content => rfl
      | dir entries => rfl
  | case9 links place part rest hdir =>
      rw [walk]
      split
      case h_1 others hother =>
        obtain ⟨entries, hentries, -⟩ := hsame.symm.dir_of_dir hother
        exact (hdir entries hentries).elim
      case h_2 => rfl

theorem locate_eq (hsame : first.Reorders second) (path : Path) :
    first.locate path = second.locate path := by
  simp only [locate, hsame.workingDir, hsame.walk_eq]

/-- A path fails on both disks, or leads to nodes that are alike. -/
theorem node_cases (hsame : first.Reorders second) (path : Path) :
    (∃ fault, first.node path = .error fault ∧ second.node path = .error fault) ∨
      ∃ node other, first.node path = .ok node ∧ second.node path = .ok other ∧
        node.Alike other := by
  rw [node, node, hsame.locate_eq path]
  cases second.locate path with
  | error fault => exact .inl ⟨fault, rfl, rfl⟩
  | ok place =>
      have hnode := hsame.nodes place
      simp only [bind, Except.bind]
      cases hfirst : find? first.root place with
      | none =>
          rw [hfirst] at hnode
          rw [Node.Alike.eq_none hnode]
          exact .inl ⟨.missing, rfl, rfl⟩
      | some found =>
          rw [hfirst] at hnode
          obtain ⟨other, hother, halike⟩ := Node.Alike.exists_some hnode
          rw [hother]
          exact .inr ⟨found, other, rfl, rfl, halike⟩

/-! ### What can be found out -/

theorem content_eq (hsame : first.Reorders second) (path : Path) :
    first.content path = second.content path := by
  rcases hsame.node_cases path with ⟨fault, hfirst, hsecond⟩ | ⟨node, other, hfirst, hsecond, halike⟩
  · rw [content, content, hfirst, hsecond]
  · rw [content, content, hfirst, hsecond]
    cases halike <;> rfl

theorem isDir_eq (hsame : first.Reorders second) (path : Path) :
    first.isDir path = second.isDir path := by
  rcases hsame.node_cases path with ⟨fault, hfirst, hsecond⟩ | ⟨node, other, hfirst, hsecond, halike⟩
  · rw [isDir, isDir, hfirst, hsecond]
  · rw [isDir, isDir, hfirst, hsecond]
    cases halike <;> rfl

theorem isFile_eq (hsame : first.Reorders second) (path : Path) :
    first.isFile path = second.isFile path := by
  rcases hsame.node_cases path with ⟨fault, hfirst, hsecond⟩ | ⟨node, other, hfirst, hsecond, halike⟩
  · rw [isFile, isFile, hfirst, hsecond]
  · rw [isFile, isFile, hfirst, hsecond]
    cases halike <;> rfl

theorem names_eq (hsame : first.Reorders second) (path : Path) :
    first.names path = second.names path := by
  rcases hsame.node_cases path with ⟨fault, hfirst, hsecond⟩ | ⟨node, other, hfirst, hsecond, halike⟩
  · rw [names, names, hfirst, hsecond]
  · rw [names, names, hfirst, hsecond]
    cases halike with
    | file content => rfl
    | link target => rfl
    | dir hnames =>
        simp only [bind, Except.bind]
        rw [mergeSort_eq_of_perm hnames]

theorem fileSystem_eq (hsame : first.Reorders second) : first.fileSystem = second.fileSystem := by
  have hcontent : first.content = second.content := funext hsame.content_eq
  have hnames : first.names = second.names := funext hsame.names_eq
  have hread : first.read = second.read := by
    funext path
    rw [read, read, hcontent]
  have htext : first.readText = second.readText := by
    funext path
    rw [readText, readText, hread]
  have hpaths : first.paths = second.paths := by
    funext path
    rw [paths, paths, hnames]
  simp only [fileSystem, system, hread, htext, hpaths, funext hsame.isDir_eq,
    funext hsame.isFile_eq]

end Reorders

/-! ### Listings -/

/-- The paths of the entries of a directory, in an order in which they may be enumerated. -/
def Enumerates (disk : Disk) (dir : Path) (paths : List Path) : Prop :=
  ∃ entries, disk.node dir = .ok (.dir entries) ∧ (entries.map Prod.fst).Nodup ∧
    (∀ name ∈ entries.map Prod.fst, Path.ProperName name) ∧
    paths.Perm (entries.map fun entry => dir.join entry.1)

theorem bytes_ne_nil_of_node {disk : Disk} {path : Path} {found : Node}
    (hnode : disk.node path = .ok found) : path.bytes ≠ [] := by
  intro hempty
  have hfault : disk.locate path = .error .missing := by
    rw [locate, hempty]
    rfl
  rw [node, hfault] at hnode
  cases hnode

theorem Enumerates.isDir {disk : Disk} {dir : Path} {paths : List Path}
    (henumerates : disk.Enumerates dir paths) : disk.fileSystem.isDir dir = true := by
  obtain ⟨entries, hnode, -⟩ := henumerates
  simp only [fileSystem, FileSystem.ofSystem, Disk.isDir, hnode]

/-- Distinct names ascend strictly once they are sorted, and so do the paths made of them. -/
theorem pairwise_lt_join {dir : Path} (hdir : dir.bytes ≠ []) {names : List (List UInt8)}
    (hdistinct : names.Nodup) (hproper : ∀ name ∈ names, Path.ProperName name) :
    ((names.mergeSort fun x y => decide (x ≤ y)).map dir.join).Pairwise (· < ·) := by
  have hperm := List.mergeSort_perm names fun x y => decide (x ≤ y)
  have hle := pairwise_mergeSort_of_total (fun x y z => List.le_trans) List.le_total names
  rw [List.pairwise_map]
  refine List.Pairwise.imp_of_mem ?_ (hle.and (hperm.nodup_iff.mpr hdistinct))
  rintro first second hfirst hsecond ⟨hle, hne⟩
  apply Path.join_lt_join hdir
  · exact hproper first (hperm.mem_iff.mp hfirst)
  · exact hproper second (hperm.mem_iff.mp hsecond)
  · apply List.not_le.mp
    intro hge
    exact hne (List.le_antisymm hle hge)

/-- Sorting the enumerated paths of a directory gives its listing, which ascends. -/
theorem Enumerates.paths_eq {disk : Disk} {dir : Path} {paths : List Path}
    (henumerates : disk.Enumerates dir paths) :
    disk.fileSystem.paths dir =
        .ok (paths.mergeSort fun first second => decide (first ≤ second)) ∧
      (paths.mergeSort fun first second => decide (first ≤ second)).Pairwise (· < ·) := by
  obtain ⟨entries, hnode, hdistinct, hproper, hpaths⟩ := henumerates
  have hlisting : disk.fileSystem.paths dir =
      .ok (((entries.map Prod.fst).mergeSort fun x y => decide (x ≤ y)).map dir.join) := by
    simp only [fileSystem, FileSystem.ofSystem, Disk.paths, names, hnode]
    rfl
  have hascending := pairwise_lt_join (bytes_ne_nil_of_node hnode) hdistinct hproper
  have hperm : paths.Perm
      (((entries.map Prod.fst).mergeSort fun x y => decide (x ≤ y)).map dir.join) := by
    refine hpaths.trans ?_
    have hjoined := ((List.mergeSort_perm (entries.map Prod.fst)
      fun x y => decide (x ≤ y)).map dir.join).symm
    rwa [List.map_map] at hjoined
  rw [mergeSort_eq_of_pairwise_lt hperm hascending]
  exact ⟨hlisting, hascending⟩

end Disk

end SigilLookup
