import ServiceAtlas.Proofs.OrderedMapHistory
import ServiceAtlas.Service.Name
import ServiceAtlas.SourceTree
import Mathlib.Data.Finset.Card
import Mathlib.Data.List.Infix

/-!
The URL table as a record of the insertions that made it. `UrlTable.Records` says what a table keeps
of a sequence of insertions: each key once, at its first place, with its last entry. The survey of a
tree is such a record of what its configuration files hold, file by file (`UrlSurvey.table_ofTree`).
-/

namespace ServiceAtlas

/-! ### Results of logged computations -/

namespace Logged

variable {α β : Type}

@[simp] theorem value_pure (a : α) : (pure a : Logged α).value = a := rfl

@[simp] theorem value_bind (x : Logged α) (f : α → Logged β) :
    (x >>= f).value = (f x.value).value := rfl

/-- Messages have no influence on the result of a loop. -/
theorem value_foldlM (f : β → α → Logged β) (as : List α) (b : β) :
    (as.foldlM f b).value = as.foldl (fun b a => (f b a).value) b := by
  induction as generalizing b with
  | nil => rfl
  | cons a as ih => rw [List.foldlM_cons, value_bind, ih, List.foldl_cons]

end Logged

/-! ### Texts within texts -/

theorem Text.occursIn_iff (needle hay : List Char) :
    Text.occursIn needle hay = true ↔ needle <:+: hay := by
  induction hay with
  | nil => simp [Text.occursIn]
  | cons c cs ih =>
    rw [Text.occursIn, Bool.or_eq_true, ih, List.isPrefixOf_iff_prefix, List.infix_cons_iff]

/-- The lower-case form of the key has `url` in it. -/
def MentionsUrl (key : String) : Prop := "url".toList <:+: key.toList.map Char.toLower

instance (key : String) : Decidable (MentionsUrl key) :=
  inferInstanceAs (Decidable ("url".toList <:+: key.toList.map Char.toLower))

theorem isUrlKey_iff (key : String) : isUrlKey key = true ↔ MentionsUrl key := by
  simp only [isUrlKey, Text.contains, Text.occursIn_iff, Text.lower, String.toList_ofList,
    MentionsUrl]

/-! ### Insertions -/

/-- What a table keeps of a sequence of insertions. -/
structure UrlTable.Records (t : UrlTable) (insertions : List (String × UrlEntry)) : Prop where
  distinct : t.keys.Nodup
  order : t.keys = (insertions.map Prod.fst).eraseDups
  latest : ∀ key, t.get? key = ((insertions.filter fun i => i.1 = key).getLast?).map Prod.snd
  found : ∀ key, (t.get? key).isSome ↔ key ∈ insertions.map Prod.fst
  listed : ∀ key entry, t.get? key = some entry ↔ (key, entry) ∈ t.entries
  size : t.size = (insertions.map Prod.fst).toFinset.card

theorem UrlTable.records_ofPairs (insertions : List (String × UrlEntry)) :
    UrlTable.Records (OrderedMap.ofPairs insertions) insertions := by
  have hkeys : (OrderedMap.ofPairs insertions).keys = (insertions.map Prod.fst).eraseDups :=
    OrderedMap.keys_foldl_alter Prod.fst (fun i _ => i.2) insertions .empty
  have hmem : ∀ key, key ∈ (OrderedMap.ofPairs insertions).keys ↔
      key ∈ insertions.map Prod.fst := by
    intro key
    rw [hkeys, List.mem_eraseDups]
  refine ⟨OrderedMap.keys_nodup _, hkeys, ?_, ?_, OrderedMap.get?_eq_some_iff _, ?_⟩
  · exact OrderedMap.get?_foldl_insert Prod.fst Prod.snd insertions
  · intro key
    rw [OrderedMap.isSome_get?_iff, hmem]
  · rw [← OrderedMap.length_keys, ← List.toFinset_card_of_nodup (OrderedMap.keys_nodup _)]
    congr 1
    ext key
    rw [List.mem_toFinset, List.mem_toFinset, hmem]

/-! ### The survey of a tree -/

namespace UrlSurvey

/-- The insertions that a file gives rise to: the pairs of a configuration file that mention a URL.
A file that cannot be read or is not well formed gives none. -/
def insertionsOf (t : SourceTree) (path : Path) : List (String × UrlEntry) :=
  match Dialect.ofPath? path, t.read path with
  | some dialect, .ok text =>
    match dialect.pairs text with
    | .ok pairs => (pairs.filter fun p => MentionsUrl p.1).map fun p => (p.1, ⟨p.2, dialect, path⟩)
    | .error _ => []
  | _, _ => []

theorem urlPairs_eq (d : Dialect) (text : String) :
    d.urlPairs text = (d.pairs text).map (·.filter fun p => MentionsUrl p.1) := by
  have h : (fun p : String × String => isUrlKey p.1) = fun p => decide (MentionsUrl p.1) := by
    funext p
    rw [Bool.eq_iff_iff, isUrlKey_iff, decide_eq_true_iff]
  rw [Dialect.urlPairs, h]

/-- What one file does to the table. -/
theorem table_visit (t : SourceTree) (s : UrlSurvey) (path : Path) :
    (visit t s path).value.table =
      (insertionsOf t path).foldl (fun m i => m.insert i.1 i.2) s.table := by
  unfold visit insertionsOf
  cases Dialect.ofPath? path with
  | none => rfl
  | some dialect =>
    cases t.read path with
    | error e => rfl
    | ok text =>
      simp only [urlPairs_eq]
      cases dialect.pairs text with
      | error e => rfl
      | ok pairs =>
        simp only [Except.map, List.foldl_map]
        rfl

/-- The table of a tree is made by the insertions of its files, in their order. -/
theorem table_ofTree (t : SourceTree) :
    (ofTree t).value.table = OrderedMap.ofPairs (t.paths.flatMap (insertionsOf t)) := by
  have run : ∀ (paths : List Path) (s : UrlSurvey),
      (paths.foldl (fun s path => (visit t s path).value) s).table =
        (paths.flatMap (insertionsOf t)).foldl (fun m i => m.insert i.1 i.2) s.table := by
    intro paths
    induction paths with
    | nil => intro s; rfl
    | cons path paths ih =>
      intro s
      rw [List.foldl_cons, ih, table_visit, List.flatMap_cons, List.foldl_append]
  rw [ofTree, Logged.value_foldlM, run]
  rfl

theorem mentionsUrl_of_mem_insertionsOf {t : SourceTree} {path : Path} {i : String × UrlEntry}
    (h : i ∈ insertionsOf t path) : MentionsUrl i.1 := by
  unfold insertionsOf at h
  split at h
  · split at h
    · obtain ⟨p, hp, rfl⟩ := List.mem_map.1 h
      exact of_decide_eq_true (List.mem_filter.1 hp).2
    · cases h
  · cases h

/-- Every key of a table that a survey makes mentions a URL. -/
theorem mentionsUrl_of_mem_keys {t : SourceTree} {key : String}
    (h : key ∈ (ofTree t).value.table.keys) : MentionsUrl key := by
  rw [table_ofTree, (UrlTable.records_ofPairs _).order, List.mem_eraseDups] at h
  obtain ⟨i, hi, rfl⟩ := List.mem_map.1 h
  obtain ⟨path, _, hi⟩ := List.mem_flatMap.1 hi
  exact mentionsUrl_of_mem_insertionsOf hi

theorem not_mentionsUrl_unknownName : ¬ MentionsUrl Service.unknownName := by decide

/-- A table is the record of the insertions that made it; the survey of a tree makes it from the
pairs of the configuration files of the tree, and the name for unknown services is never one of its
keys. -/
theorem table_records_insertions :
    (∀ insertions, UrlTable.Records (OrderedMap.ofPairs insertions) insertions) ∧
    ∀ t : SourceTree,
      UrlTable.Records (ofTree t).value.table (t.paths.flatMap (insertionsOf t)) ∧
      Service.unknownName ∉ (ofTree t).value.table.keys := by
  refine ⟨UrlTable.records_ofPairs, fun t => ⟨?_, fun h => ?_⟩⟩
  · rw [table_ofTree]
    exact UrlTable.records_ofPairs _
  · exact not_mentionsUrl_unknownName (mentionsUrl_of_mem_keys h)

end UrlSurvey

end ServiceAtlas
