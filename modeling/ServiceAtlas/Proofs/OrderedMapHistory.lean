import ServiceAtlas.OrderedMap
import Mathlib.Data.List.Nodup

/-!
What an ordered map looks like after any history of writes. The keys are the keys that were written,
each at the place of its first writing (`keys_foldl_alter`); the value under a key is made by the
writes to that key alone, in their order (`get?_foldl_alter`). Together the two views determine the
entries (`entries_eq_filterMap`).
-/

namespace ServiceAtlas

variable {α κ ν : Type}

/-! ### Keys in order of first appearance -/

section FirstAppearance

variable [BEq κ] [LawfulBEq κ]

theorem eraseDups_of_nodup {ks : List κ} (h : ks.Nodup) : ks.eraseDups = ks := by
  induction ks with
  | nil => rfl
  | cons k ks ih =>
    obtain ⟨hk, hks⟩ := List.nodup_cons.1 h
    have hfilter : ks.filter (fun b => !b == k) = ks :=
      List.filter_eq_self.2 fun b hb => by
        have hne : b ≠ k := fun e => hk (e ▸ hb)
        simpa using hne
    rw [List.eraseDups_cons, hfilter, ih hks]

theorem eraseDups_append_cons {ks ls : List κ} {k : κ} (h : k ∈ ks) :
    (ks ++ k :: ls).eraseDups = (ks ++ ls).eraseDups := by
  rw [List.eraseDups_append, List.eraseDups_append, List.cons_removeAll]
  simp [h]

theorem nodup_eraseDups (ks : List κ) : ks.eraseDups.Nodup := by
  induction h : ks.length using Nat.strongRecOn generalizing ks with
  | ind n ih =>
    cases ks with
    | nil => exact .nil
    | cons k ks =>
      have hshort : (ks.filter fun b => !b == k).length < n := by
        rw [← h, List.length_cons]
        exact Nat.lt_succ_of_le (List.length_filter_le _ _)
      rw [List.eraseDups_cons]
      refine List.nodup_cons.2 ⟨?_, ih _ hshort _ rfl⟩
      rw [List.mem_eraseDups, List.mem_filter]
      simp

/-- How many different keys there are does not depend on their order. -/
theorem length_eraseDups_of_perm {ks ls : List κ} (h : ks.Perm ls) :
    ks.eraseDups.length = ls.eraseDups.length := by
  refine List.Perm.length_eq ((List.perm_ext_iff_of_nodup (nodup_eraseDups ks)
    (nodup_eraseDups ls)).2 fun k => ?_)
  rw [List.mem_eraseDups, List.mem_eraseDups, h.mem_iff]

end FirstAppearance

namespace OrderedMap

@[simp] theorem keys_empty : (empty : OrderedMap κ ν).keys = [] := rfl

theorem keys_nodup (m : OrderedMap κ ν) : m.keys.Nodup := m.nodup

theorem length_keys (m : OrderedMap κ ν) : m.keys.length = m.size := List.length_map _

variable [DecidableEq κ]

@[simp] theorem get?_empty (k : κ) : (empty : OrderedMap κ ν).get? k = none := rfl

/-! ### The keys -/

/-- The keys after a history of writes, in the order in which each was first written. -/
theorem keys_foldl_alter (key : α → κ) (f : α → Option ν → ν) (as : List α) (m : OrderedMap κ ν) :
    (as.foldl (fun m a => m.alter (key a) (f a)) m).keys = (m.keys ++ as.map key).eraseDups := by
  induction as generalizing m with
  | nil => simp [eraseDups_of_nodup m.keys_nodup]
  | cons a as ih =>
    rw [List.foldl_cons, ih, keys_alter, List.map_cons]
    split
    · rename_i hk
      rw [eraseDups_append_cons hk]
    · rw [List.append_assoc, List.singleton_append]

/-! ### The values -/

/-- The value under a key after a history of writes comes from the writes to that key. -/
theorem get?_foldl_alter (key : α → κ) (f : α → Option ν → ν) (as : List α) (m : OrderedMap κ ν)
    (k : κ) :
    (as.foldl (fun m a => m.alter (key a) (f a)) m).get? k =
      (as.filter fun a => key a = k).foldl (fun v a => some (f a v)) (m.get? k) := by
  induction as generalizing m with
  | nil => rfl
  | cons a as ih =>
    rw [List.foldl_cons, ih, get?_alter]
    by_cases hk : key a = k
    · rw [if_pos hk, List.filter_cons_of_pos (by simpa using hk), List.foldl_cons, hk]
    · rw [if_neg hk, List.filter_cons_of_neg (by simpa using hk)]

private theorem foldl_overwrite (g : α → ν) (as : List α) (v : Option ν) :
    as.foldl (fun _ a => some (g a)) v = (as.getLast?.map g).or v := by
  induction as generalizing v with
  | nil => cases v <;> rfl
  | cons a as ih =>
    rw [List.foldl_cons, ih, List.getLast?_cons]
    cases as.getLast? <;> rfl

/-- Under a key stands what was last inserted with it. -/
theorem get?_foldl_insert (key : α → κ) (value : α → ν) (as : List α) (k : κ) :
    (as.foldl (fun m a => m.insert (key a) (value a)) empty).get? k =
      (as.filter fun a => key a = k).getLast?.map value := by
  have h := get?_foldl_alter key (fun a _ => value a) as empty k
  rw [foldl_overwrite, get?_empty, Option.or_none] at h
  exact h

theorem keys_ofPairs (pairs : List (κ × ν)) :
    (ofPairs pairs).keys = (pairs.map Prod.fst).eraseDups :=
  keys_foldl_alter Prod.fst (fun p _ => p.2) pairs empty

theorem get?_ofPairs (pairs : List (κ × ν)) (k : κ) :
    (ofPairs pairs).get? k = (pairs.filter fun p => p.1 = k).getLast?.map Prod.snd :=
  get?_foldl_insert Prod.fst Prod.snd pairs k

/-! ### The entries -/

private theorem get?_eq_some_iff_aux {es : List (κ × ν)} (h : (es.map Prod.fst).Nodup) (k : κ)
    (v : ν) :
    (es.find? fun e => e.1 = k).map Prod.snd = some v ↔ (k, v) ∈ es := by
  induction es with
  | nil => simp
  | cons e es ih =>
    obtain ⟨hfresh, hes⟩ := List.nodup_cons.1 h
    by_cases hk : e.1 = k
    · subst hk
      rw [List.find?_cons_of_pos (by simp), Option.map_some, Option.some.injEq, List.mem_cons]
      constructor
      · rintro rfl
        exact .inl rfl
      · rintro (he | he)
        · rw [← he]
        · exact (hfresh (List.mem_map.2 ⟨_, he, rfl⟩)).elim
    · rw [List.find?_cons_of_neg (by simpa using hk), ih hes, List.mem_cons]
      constructor
      · exact .inr
      · rintro (he | he)
        · exact (hk (by rw [← he])).elim
        · exact he

/-- Look-up finds exactly what is listed. -/
theorem get?_eq_some_iff (m : OrderedMap κ ν) (k : κ) (v : ν) :
    m.get? k = some v ↔ (k, v) ∈ m.entries :=
  get?_eq_some_iff_aux m.nodup k v

theorem isSome_get?_iff (m : OrderedMap κ ν) (k : κ) : (m.get? k).isSome ↔ k ∈ m.keys := by
  rw [Option.isSome_iff_exists, keys, List.mem_map]
  constructor
  · rintro ⟨v, hv⟩
    exact ⟨(k, v), (m.get?_eq_some_iff k v).1 hv, rfl⟩
  · rintro ⟨⟨k', v⟩, he, rfl⟩
    exact ⟨v, (m.get?_eq_some_iff _ v).2 he⟩

/-- The keys and the look-up determine the entries. -/
theorem entries_eq_filterMap (m : OrderedMap κ ν) :
    m.entries = m.keys.filterMap fun k => (m.get? k).map (k, ·) := by
  rw [keys, List.filterMap_map]
  have hget : ∀ e ∈ m.entries, ((fun k => (m.get? k).map (k, ·)) ∘ Prod.fst) e = some e := by
    rintro ⟨k, v⟩ he
    simp [(m.get?_eq_some_iff k v).2 he]
  rw [List.filterMap_congr hget, List.filterMap_some]

/-- Writes to new keys leave the entries as they are and add others behind them. -/
theorem entries_foldl_alter_of_fresh (key : α → κ) (f : α → Option ν → ν) {as : List α}
    {m : OrderedMap κ ν} (h : ∀ a ∈ as, key a ∉ m.keys) :
    ∃ added, (as.foldl (fun m a => m.alter (key a) (f a)) m).entries = m.entries ++ added ∧
      ∀ e ∈ added, e.1 ∈ as.map key := by
  have hremove : (as.map key).removeAll m.keys = as.map key := by
    refine List.filter_eq_self.2 fun k hk => ?_
    obtain ⟨a, ha, rfl⟩ := List.mem_map.1 hk
    simp [h a ha]
  have hold : ∀ k ∈ m.keys, (as.foldl (fun m a => m.alter (key a) (f a)) m).get? k = m.get? k := by
    intro k hk
    have hnone : as.filter (fun a => key a = k) = [] :=
      List.filter_eq_nil_iff.2 fun a ha hak => h a ha (of_decide_eq_true hak ▸ hk)
    rw [get?_foldl_alter, hnone, List.foldl_nil]
  rw [entries_eq_filterMap, keys_foldl_alter, List.eraseDups_append, hremove,
    eraseDups_of_nodup m.keys_nodup, List.filterMap_append, m.entries_eq_filterMap]
  refine ⟨_, congrArg₂ _ (List.filterMap_congr fun k hk => by rw [hold k hk]) rfl, ?_⟩
  intro e he
  obtain ⟨k, hk, hke⟩ := List.mem_filterMap.1 he
  obtain ⟨v, -, rfl⟩ := Option.map_eq_some_iff.1 hke
  exact List.mem_eraseDups.1 hk

/-- Maps with the same keys in the same order and the same values are the same. -/
theorem eq_of_views {m n : OrderedMap κ ν} (hkeys : m.keys = n.keys)
    (hget : ∀ k, m.get? k = n.get? k) : m = n := by
  have h : m.entries = n.entries := by
    rw [m.entries_eq_filterMap, n.entries_eq_filterMap, hkeys]
    simp only [hget]
  cases m
  cases n
  cases h
  rfl

/-- Pairs with different keys are kept as they stand. -/
theorem entries_ofPairs_of_nodup {pairs : List (κ × ν)} (h : (pairs.map Prod.fst).Nodup) :
    (ofPairs pairs).entries = pairs := by
  rw [entries_eq_filterMap, keys_ofPairs, eraseDups_of_nodup h, List.filterMap_map]
  refine (List.filterMap_congr fun p hp => ?_).trans List.filterMap_some
  have hfilter : p ∈ pairs.filter fun q => q.1 = p.1 := List.mem_filter.2 ⟨hp, by simp⟩
  have hlast := List.getLast?_eq_some_getLast (List.ne_nil_of_mem hfilter)
  obtain ⟨hmem, hkey⟩ := List.mem_filter.1 (List.mem_of_getLast? hlast)
  have heq := List.inj_on_of_nodup_map h hmem hp (of_decide_eq_true hkey)
  rw [heq] at hlast
  rw [Function.comp_apply, get?_ofPairs, hlast]
  rfl

/-- Two writes to one key are one write. -/
theorem alter_alter (m : OrderedMap κ ν) (k : κ) (f g : Option ν → ν) :
    (m.alter k f).alter k g = m.alter k fun v => g (some (f v)) := by
  apply eq_of_views
  · rw [keys_alter, keys_alter, keys_alter]
    by_cases hk : k ∈ m.keys <;> simp [hk]
  · intro k'
    simp only [get?_alter]
    by_cases hk : k = k' <;> simp [hk]

end OrderedMap

end ServiceAtlas
