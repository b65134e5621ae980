/-!
Finite maps that keep their keys in order of arrival. Writing to a key that is already present
changes its value and leaves its place; a new key goes to the end. `keys_alter` and `get?_alter`
say what one write does to the two views of a map, its keys and its values by key, and
`entries_alter_of_mem` and `entries_alter_of_not_mem` what it does to the entries.
-/

namespace ServiceAtlas

/-- A list of entries with pairwise different keys. -/
structure OrderedMap (κ ν : Type) where
  entries : List (κ × ν)
  nodup : (entries.map Prod.fst).Nodup

namespace OrderedMap

variable {κ ν : Type}

def empty : OrderedMap κ ν := ⟨[], .nil⟩

instance : EmptyCollection (OrderedMap κ ν) := ⟨empty⟩

instance : Inhabited (OrderedMap κ ν) := ⟨empty⟩

def keys (m : OrderedMap κ ν) : List κ := m.entries.map Prod.fst

def values (m : OrderedMap κ ν) : List ν := m.entries.map Prod.snd

def size (m : OrderedMap κ ν) : Nat := m.entries.length

def isEmpty (m : OrderedMap κ ν) : Bool := m.entries.isEmpty

variable [DecidableEq κ]

def get? (m : OrderedMap κ ν) (k : κ) : Option ν :=
  (m.entries.find? fun e => e.1 = k).map Prod.snd

private def write (k : κ) (f : Option ν → ν) : List (κ × ν) → List (κ × ν)
  | [] => [(k, f none)]
  | e :: rest => if e.1 = k then (e.1, f (some e.2)) :: rest else e :: write k f rest

private theorem map_fst_write (k : κ) (f : Option ν → ν) (es : List (κ × ν)) :
    (write k f es).map Prod.fst =
      if k ∈ es.map Prod.fst then es.map Prod.fst else es.map Prod.fst ++ [k] := by
  induction es with
  | nil => simp [write]
  | cons e rest ih =>
    by_cases h : e.1 = k
    · simp [write, h]
    · have h' : ¬k = e.1 := fun e => h e.symm
      simp only [write, h, if_false, List.map_cons, ih, List.mem_cons, h', false_or]
      split <;> simp

private theorem nodup_write (k : κ) (f : Option ν → ν) (es : List (κ × ν))
    (h : (es.map Prod.fst).Nodup) : ((write k f es).map Prod.fst).Nodup := by
  rw [map_fst_write]
  split
  · exact h
  · rename_i hk
    refine List.nodup_append.2 ⟨h, by simp, ?_⟩
    intro a ha b hb
    rw [List.mem_singleton.1 hb]
    exact fun e => hk (e ▸ ha)

/-- Writes `f` of the present value, if there is one, under the key `k`. -/
def alter (m : OrderedMap κ ν) (k : κ) (f : Option ν → ν) : OrderedMap κ ν :=
  ⟨write k f m.entries, nodup_write k f m.entries m.nodup⟩

def insert (m : OrderedMap κ ν) (k : κ) (v : ν) : OrderedMap κ ν :=
  m.alter k fun _ => v

/-- Inserts the pairs from left to right, so that the last value given for a key stays. -/
def ofPairs (pairs : List (κ × ν)) : OrderedMap κ ν :=
  pairs.foldl (fun m e => m.insert e.1 e.2) empty

theorem keys_alter (m : OrderedMap κ ν) (k : κ) (f : Option ν → ν) :
    (m.alter k f).keys = if k ∈ m.keys then m.keys else m.keys ++ [k] :=
  map_fst_write k f m.entries

private theorem find?_write (k k' : κ) (f : Option ν → ν) (es : List (κ × ν)) :
    ((write k f es).find? fun e => e.1 = k').map Prod.snd =
      if k = k' then some (f ((es.find? fun e => e.1 = k).map Prod.snd))
      else (es.find? fun e => e.1 = k').map Prod.snd := by
  induction es with
  | nil => by_cases h : k = k' <;> simp [write, h]
  | cons e rest ih =>
    by_cases h : e.1 = k
    · by_cases h' : k = k'
      · simp [write, h, h']
      · simp [write, h, h']
    · by_cases h' : e.1 = k'
      · have : ¬k = k' := fun e' => h (h'.trans e'.symm)
        rw [write, if_neg h, List.find?_cons_of_pos (by simpa using h'), if_neg this,
          List.find?_cons_of_pos (by simpa using h')]
      · simp only [write, h, if_false, List.find?_cons, h', decide_false, ih]

theorem get?_alter (m : OrderedMap κ ν) (k k' : κ) (f : Option ν → ν) :
    (m.alter k f).get? k' = if k = k' then some (f (m.get? k)) else m.get? k' :=
  find?_write k k' f m.entries

private theorem write_of_mem {k : κ} {es : List (κ × ν)} (h : k ∈ es.map Prod.fst)
    (f : Option ν → ν) : ∃ before v after, es = before ++ (k, v) :: after ∧
      write k f es = before ++ (k, f (some v)) :: after := by
  induction es with
  | nil => cases h
  | cons e rest ih =>
    obtain ⟨k', v⟩ := e
    by_cases hk : k' = k
    · subst hk
      exact ⟨[], v, rest, rfl, by simp [write]⟩
    · have hrest : k ∈ rest.map Prod.fst := by
        rcases List.mem_cons.1 h with h | h
        · exact (hk h.symm).elim
        · exact h
      obtain ⟨before, v', after, hes, hwrite⟩ := ih hrest
      exact ⟨(k', v) :: before, v', after, by rw [hes, List.cons_append],
        by simp [write, hk, hwrite]⟩

private theorem write_of_not_mem {k : κ} {es : List (κ × ν)} (h : k ∉ es.map Prod.fst)
    (f : Option ν → ν) : write k f es = es ++ [(k, f none)] := by
  induction es with
  | nil => rfl
  | cons e rest ih =>
    rw [List.map_cons, List.mem_cons, not_or] at h
    rw [write, if_neg (Ne.symm h.1), ih h.2, List.cons_append]

/-- A write to a key that is present changes the one entry with that key. -/
theorem entries_alter_of_mem (m : OrderedMap κ ν) {k : κ} (h : k ∈ m.keys) (f : Option ν → ν) :
    ∃ before v after, m.entries = before ++ (k, v) :: after ∧
      (m.alter k f).entries = before ++ (k, f (some v)) :: after :=
  write_of_mem h f

theorem entries_alter_of_not_mem (m : OrderedMap κ ν) {k : κ} (h : k ∉ m.keys)
    (f : Option ν → ν) : (m.alter k f).entries = m.entries ++ [(k, f none)] :=
  write_of_not_mem h f

end OrderedMap

end ServiceAtlas
