import ServiceAtlas.Disk.Walk
import ServiceAtlas.Proofs.PathSpelling
import ServiceAtlas.Proofs.TextBytes
import Mathlib.Data.List.Sort

/-!
The files below a directory. Whatever is left out, the files come in the order of the names that lead
to them (`FileNode.pairwise_filesFrom`), because the entries of each directory do and no two of them
have the same name. If nothing is left out, they are all the files there are
(`FileNode.mem_filesFrom_of_hasFile`); with ignore files, they are some of them, in the same order.
-/

namespace ServiceAtlas.FileNode

variable {n : FileNode} {entries : List (String × FileNode)} {respect : Bool}
  {levels : List IgnoreLevel} {names : List String}

/-! ### Directory trees -/

/-- A name that an entry of a directory may have. -/
def IsEntryName (name : String) : Prop := '/' ∉ name.toList ∧ name ∉ ["", ".", ".."]

/-- The entries of each directory have different names, and such as an entry may have. -/
inductive IsTree : FileNode → Prop
  | file (bytes : List Nat) : IsTree (.file bytes)
  | directory {entries : List (String × FileNode)} (distinct : (entries.map Prod.fst).Nodup)
    (named : ∀ e ∈ entries, IsEntryName e.1) (subtrees : ∀ e ∈ entries, IsTree e.2) :
    IsTree (.directory entries)

/-- The names lead from the node to a regular file with these bytes. -/
inductive HasFile : FileNode → List String → List Nat → Prop
  | here (bytes : List Nat) : HasFile (.file bytes) [] bytes
  | inEntry {entries : List (String × FileNode)} {name : String} {node : FileNode}
    {names : List String} {bytes : List Nat} (hentry : (name, node) ∈ entries)
    (hfile : HasFile node names bytes) : HasFile (.directory entries) (name :: names) bytes

/-! ### What is listed -/

/-- Whether the walk goes on to an entry. -/
def keeps (respect : Bool) (levels : List IgnoreLevel) (names : List String)
    (e : String × FileNode) : Bool :=
  !(respect && IgnoreLevel.leavesOut levels (names ++ [e.1]) e.2.isDirectory)

theorem entriesFrom_eq (respect : Bool) (levels : List IgnoreLevel) (names : List String)
    (entries : List (String × FileNode)) :
    entriesFrom respect levels names entries =
      (entries.filter (keeps respect levels names)).map fun e =>
        (e.1, filesFrom respect levels (names ++ [e.1]) e.2) := by
  induction entries with
  | nil => simp [entriesFrom]
  | cons e entries ih =>
    obtain ⟨name, node⟩ := e
    rw [entriesFrom, ih, List.filter_cons, keeps]
    cases respect && IgnoreLevel.leavesOut levels (names ++ [name]) node.isDirectory <;> rfl

/-- The rules in force among the entries of a directory. -/
def levelsBelow (respect : Bool) (levels : List IgnoreLevel) (names : List String)
    (entries : List (String × FileNode)) : List IgnoreLevel :=
  if respect then .ofEntries names.length entries :: levels else levels

theorem filesFrom_directory (respect : Bool) (levels : List IgnoreLevel) (names : List String)
    (entries : List (String × FileNode)) :
    filesFrom respect levels names (.directory entries) =
      ((entriesFrom respect (levelsBelow respect levels names entries) names entries).mergeSort
        byName).flatMap (·.2) := by
  rw [filesFrom]
  rfl

theorem mem_filesFrom_directory {f : FoundFile} :
    f ∈ filesFrom respect levels names (.directory entries) ↔
      ∃ e ∈ entries, keeps respect (levelsBelow respect levels names entries) names e = true ∧
        f ∈ filesFrom respect (levelsBelow respect levels names entries) (names ++ [e.1]) e.2 := by
  rw [filesFrom_directory, List.mem_flatMap]
  simp only [List.mem_mergeSort, entriesFrom_eq, List.mem_map, List.mem_filter]
  constructor
  · rintro ⟨_, ⟨e, ⟨hentry, hkeeps⟩, rfl⟩, hfile⟩
    exact ⟨e, hentry, hkeeps, hfile⟩
  · rintro ⟨e, hentry, hkeeps, hfile⟩
    exact ⟨_, ⟨e, ⟨hentry, hkeeps⟩, rfl⟩, hfile⟩

/-- What is listed is a file of the tree, with the names that lead to it. -/
theorem hasFile_of_mem_filesFrom (h : n.IsTree) {f : FoundFile}
    (hf : f ∈ filesFrom respect levels names n) :
    ∃ rest, f.names = names ++ rest ∧ n.HasFile rest f.bytes := by
  induction h generalizing levels names with
  | file bytes =>
    rw [filesFrom, List.mem_singleton] at hf
    rw [hf]
    exact ⟨[], (List.append_nil names).symm, .here bytes⟩
  | directory distinct _ _ ih =>
    obtain ⟨e, hentry, -, hfile⟩ := mem_filesFrom_directory.1 hf
    obtain ⟨rest, hnames, hrest⟩ := ih e hentry hfile
    exact ⟨e.1 :: rest, by rw [hnames, List.append_assoc]; rfl, .inEntry hentry hrest⟩

/-- Every file of the tree is listed unless ignore files count. -/
theorem mem_filesFrom_of_hasFile {rest : List String} {bytes : List Nat}
    (h : n.HasFile rest bytes) (levels : List IgnoreLevel) (names : List String) :
    ⟨names ++ rest, bytes⟩ ∈ filesFrom false levels names n := by
  induction h generalizing levels names with
  | here bytes =>
    rw [filesFrom, List.append_nil]
    exact List.mem_singleton_self _
  | @inEntry entries name node rest bytes hentry _ ih =>
    refine mem_filesFrom_directory.2 ⟨_, hentry, rfl, ?_⟩
    have hfile := ih (levelsBelow false levels names entries) (names ++ [name])
    rwa [List.append_assoc] at hfile

/-! ### Order -/

theorem pairwise_entriesFrom (h : (entries.map Prod.fst).Nodup) :
    ((entriesFrom respect levels names entries).mergeSort byName).Pairwise (·.1 < ·.1) := by
  have hnodup : ((entriesFrom respect levels names entries).map Prod.fst).Nodup := by
    rw [entriesFrom_eq, List.map_map]
    exact h.sublist (List.filter_sublist.map Prod.fst)
  have hdistinct : ((entriesFrom respect levels names entries).mergeSort byName).Pairwise
      (·.1 ≠ ·.1) :=
    List.pairwise_map.1 (((List.mergeSort_perm _ byName).map Prod.fst).nodup_iff.2 hnodup)
  have hsorted : ((entriesFrom respect levels names entries).mergeSort byName).Pairwise
      (byName · · = true) := by
    refine List.pairwise_mergeSort (fun a b c hab hbc => ?_) (fun a b => ?_) _
    · exact decide_eq_true (String.le_trans (of_decide_eq_true hab) (of_decide_eq_true hbc))
    · simpa [byName] using String.le_total a.1 b.1
  refine (hsorted.and hdistinct).imp fun ⟨hle, hne⟩ => ?_
  by_contra hlt
  exact hne (String.le_antisymm (of_decide_eq_true hle) (String.not_lt.1 hlt))

theorem exists_entry {found : String × List FoundFile}
    (h : found ∈ (entriesFrom respect levels names entries).mergeSort byName) :
    ∃ e ∈ entries, found = (e.1, filesFrom respect levels (names ++ [e.1]) e.2) := by
  rw [List.mem_mergeSort, entriesFrom_eq] at h
  obtain ⟨e, hentry, rfl⟩ := List.mem_map.1 h
  exact ⟨e, List.mem_of_mem_filter hentry, rfl⟩

/-- The files of a node come in the order of the names that lead to them. -/
theorem pairwise_filesFrom (h : n.IsTree) (respect : Bool) (levels : List IgnoreLevel)
    (names : List String) :
    (filesFrom respect levels names n).Pairwise (·.names < ·.names) := by
  induction h generalizing levels names with
  | file bytes =>
    rw [filesFrom]
    exact List.pairwise_singleton _ _
  | directory distinct _ subtrees ih =>
    rw [filesFrom_directory, List.pairwise_flatMap]
    constructor
    · intro found hfound
      obtain ⟨e, hentry, rfl⟩ := exists_entry hfound
      exact ih e hentry _ _
    · refine (pairwise_entriesFrom distinct).imp_of_mem fun {found found'} hfound hfound' hlt => ?_
      obtain ⟨e, hentry, rfl⟩ := exists_entry hfound
      obtain ⟨e', hentry', rfl⟩ := exists_entry hfound'
      intro f hf g hg
      obtain ⟨rest, hrest, -⟩ := hasFile_of_mem_filesFrom (subtrees e hentry) hf
      obtain ⟨rest', hrest', -⟩ := hasFile_of_mem_filesFrom (subtrees e' hentry') hg
      rw [hrest, hrest', List.append_assoc, List.append_assoc]
      exact List.append_left_lt (List.cons_lt_cons_iff.2 (.inl hlt))

/-- What is listed with ignore files is listed without them, and in the same order. -/
theorem filesFrom_sublist (h : n.IsTree) (levels : List IgnoreLevel) (names : List String) :
    (filesFrom true levels names n).Sublist (filesFrom false levels names n) := by
  have hasymm : Std.Antisymm fun f g : FoundFile => f.names < g.names :=
    ⟨fun f g hfg hgf => (lt_asymm hfg hgf).elim⟩
  have hsorted := pairwise_filesFrom h true levels names
  refine List.sublist_of_subperm_of_pairwise ?_ hsorted (pairwise_filesFrom h false levels names)
  refine List.subperm_of_subset ?_ fun f hf => ?_
  · refine hsorted.imp fun hlt heq => ?_
    rw [heq] at hlt
    exact lt_irrefl _ hlt
  · obtain ⟨rest, hnames, hfile⟩ := hasFile_of_mem_filesFrom h hf
    have hmem := mem_filesFrom_of_hasFile hfile levels names
    rwa [← hnames] at hmem

/-! ### Paths -/

theorem isInner_of_isEntryName {name : String} (h : IsEntryName name) :
    (Path.Component.name name).IsInner := by
  have hplain : String.ofList name.toList ∉ ["", ".", ".."] := by
    rw [String.ofList_toList]
    exact h.2
  have hname := Path.ofSegment?_eq_name hplain
  rw [String.ofList_toList] at hname
  exact ⟨h.1, hname⟩

theorem isEntryName_of_hasFile (h : n.IsTree) {rest : List String} {bytes : List Nat}
    (hfile : n.HasFile rest bytes) : ∀ name ∈ rest, IsEntryName name := by
  induction hfile with
  | here => exact fun name hname => (List.not_mem_nil hname).elim
  | inEntry hentry _ ih =>
    cases h with
    | directory _ named subtrees =>
      exact List.forall_mem_cons.2 ⟨named _ hentry, ih (subtrees _ hentry)⟩

theorem components_intercalate_names {names : List String} (h : ∀ name ∈ names, IsEntryName name) :
    Path.components ⟨"/".intercalate names⟩ = names.map .name := by
  have hwritten : Path.ofComponents (names.map .name) = ⟨"/".intercalate names⟩ := by
    cases names with
    | nil => rfl
    | cons name names => simp [Path.ofComponents, Path.Component.text, Function.comp_def]
  rw [← hwritten]
  refine Path.components_ofComponents (Path.isSteps_of_isInner fun step hstep => ?_)
  obtain ⟨name, hname, rfl⟩ := List.mem_map.1 hstep
  exact isInner_of_isEntryName (h name hname)

theorem paths_sourceTree (root : Path) (respect : Bool) (n : FileNode) :
    (n.sourceTree root respect).paths = (n.files respect).map fun f => ⟨"/".intercalate f.names⟩ := by
  rw [SourceTree.paths, sourceTree, List.map_map]
  rfl

/-- A file that is listed has a path with the names that lead to it as steps. -/
theorem components_of_mem_files (h : n.IsTree) {f : FoundFile} (hf : f ∈ n.files respect) :
    n.HasFile f.names f.bytes ∧ Path.components ⟨"/".intercalate f.names⟩ = f.names.map .name := by
  obtain ⟨rest, hnames, hfile⟩ := hasFile_of_mem_filesFrom h hf
  rw [List.nil_append] at hnames
  rw [hnames]
  exact ⟨hfile, components_intercalate_names (isEntryName_of_hasFile h hfile)⟩

end ServiceAtlas.FileNode

namespace ServiceAtlas

/-- The steps of a path by the bytes that they are written with. -/
def Path.stepBytes (p : Path) : List (List UInt8) := p.components.map fun step => Text.bytes step.text

namespace FileNode

variable {n : FileNode}

theorem pairwise_stepBytes (h : n.IsTree) (root : Path) (respect : Bool) :
    (n.sourceTree root respect).paths.Pairwise fun p q => p.stepBytes < q.stepBytes := by
  rw [paths_sourceTree, List.pairwise_map]
  refine (pairwise_filesFrom h respect [] []).imp_of_mem fun {f g} hf hg hlt => ?_
  rw [Path.stepBytes, Path.stepBytes, (components_of_mem_files h hf).2,
    (components_of_mem_files h hg).2, List.map_map, List.map_map]
  exact List.map_lt (fun _ _ => Text.bytes_lt_bytes) hlt

/-- Without ignore files the files of a tree are listed, each of them once and no others, in the order
of the bytes of their steps. With ignore files some of them are, in the same order. -/
theorem sourceTree_lists_files (root : Path) (h : n.IsTree) :
    (∀ p ∈ (n.sourceTree root false).paths,
      ∃ names bytes, n.HasFile names bytes ∧ p.components = names.map .name) ∧
    (∀ names bytes, n.HasFile names bytes →
      ((n.sourceTree root false).paths.map Path.components).count (names.map .name) = 1) ∧
    (n.sourceTree root false).paths.Pairwise (fun p q => p.stepBytes < q.stepBytes) ∧
    (n.sourceTree root true).paths.Sublist (n.sourceTree root false).paths := by
  have hsorted := pairwise_stepBytes h root false
  refine ⟨fun p hp => ?_, fun names bytes hfile => ?_, hsorted, ?_⟩
  · rw [paths_sourceTree] at hp
    obtain ⟨f, hf, rfl⟩ := List.mem_map.1 hp
    exact ⟨f.names, f.bytes, components_of_mem_files h hf⟩
  · apply List.count_eq_one_of_mem
    · refine List.pairwise_map.2 (hsorted.imp fun {p q} hlt heq => ?_)
      rw [Path.stepBytes, heq, ← Path.stepBytes] at hlt
      exact List.lt_irrefl _ hlt
    · have hmem := mem_filesFrom_of_hasFile hfile [] []
      rw [paths_sourceTree, List.map_map]
      refine List.mem_map.2 ⟨_, hmem, ?_⟩
      exact components_intercalate_names (isEntryName_of_hasFile h hfile)
  · rw [paths_sourceTree, paths_sourceTree]
    exact (filesFrom_sublist h [] []).map _

/-- A name may be the beginning of another, and a directory may stand between files. -/
theorem sourceTree_lists_files_nested :
    let inner := FileNode.directory [(".x", .file []), ("é", .file [7])]
    let n := FileNode.directory [("b", inner), ("a.py", .file []), ("a", inner),
      (".gitignore", .file [0x62])]
    n.IsTree ∧ n.HasFile ["b", "é"] [7] ∧
      ((n.sourceTree ⟨"/w"⟩ false).paths.map Path.components).count [.name "b", .name "é"] = 1 ∧
      (n.sourceTree ⟨"/w"⟩ false).paths.Pairwise (fun p q => p.stepBytes < q.stepBytes) ∧
      (n.sourceTree ⟨"/w"⟩ true).paths.Sublist (n.sourceTree ⟨"/w"⟩ false).paths := by
  intro inner n
  have hinner : inner.IsTree :=
    .directory (by decide) (by simp [IsEntryName]) (by simp [IsTree.file])
  have htree : n.IsTree :=
    .directory (by decide) (by simp [IsEntryName]) (by simp [hinner, IsTree.file])
  have hfile : n.HasFile ["b", "é"] [7] :=
    .inEntry List.mem_cons_self (.inEntry (by simp) (.here [7]))
  obtain ⟨-, hcount, hsorted, hsublist⟩ := sourceTree_lists_files ⟨"/w"⟩ htree
  exact ⟨htree, hfile, hcount _ _ hfile, hsorted, hsublist⟩

end FileNode

end ServiceAtlas
