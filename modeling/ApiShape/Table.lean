/-!
Tables in order of first insertion. Setting a key that is present replaces its value in place;
setting a new key appends it.
-/

namespace ApiShape

/-- Keys with their values in the order in which the keys were first set. No key occurs twice. -/
structure Table (κ ν : Type) where
  entries : List (κ × ν)
  nodup : (entries.map (·.1)).Nodup
deriving Repr

namespace Table

variable {κ ν : Type}

instance : EmptyCollection (Table κ ν) := ⟨⟨[], List.nodup_nil⟩⟩

instance : Inhabited (Table κ ν) := ⟨∅⟩

/-- The keys in order. -/
def keys (t : Table κ ν) : List κ := t.entries.map (·.1)

/-- The values in order. -/
def values (t : Table κ ν) : List ν := t.entries.map (·.2)

/-- The table with each value replaced by its image. -/
def mapValues {μ : Type} (f : ν → μ) (t : Table κ ν) : Table κ μ where
  entries := t.entries.map fun e => (e.1, f e.2)
  nodup := by
    rw [List.map_map]
    exact t.nodup

variable [DecidableEq κ]

/-- The value of a key in a list of entries; the first entry of the key counts. -/
def lookup (k : κ) : List (κ × ν) → Option ν
  | [] => none
  | (k', v) :: rest => if k' = k then some v else lookup k rest

/-- The entries with the value of `k` replaced, or with `k` appended. -/
def put (k : κ) (v : ν) : List (κ × ν) → List (κ × ν)
  | [] => [(k, v)]
  | (k', v') :: rest => if k' = k then (k', v) :: rest else (k', v') :: put k v rest

/-- Setting a key adds it at the end if it is new, and changes no other key. -/
theorem map_fst_put (k : κ) (v : ν) (entries : List (κ × ν)) :
    (put k v entries).map (·.1) =
      if (lookup k entries).isSome then entries.map (·.1) else entries.map (·.1) ++ [k] := by
  induction entries with
  | nil => simp [put, lookup]
  | cons e rest ih =>
    obtain ⟨k', v'⟩ := e
    by_cases h : k' = k
    · simp [put, lookup, h]
    · simp only [put, lookup, h, if_false, List.map_cons, ih]
      split <;> simp

/-- A key has a value exactly if it is there. -/
theorem lookup_isSome_iff (k : κ) (entries : List (κ × ν)) :
    (lookup k entries).isSome ↔ k ∈ entries.map (·.1) := by
  induction entries with
  | nil => simp [lookup]
  | cons e rest ih =>
    simp only [lookup, List.map_cons, List.mem_cons]
    split
    · next h => simp [h]
    · next h =>
      rw [ih]
      exact ⟨Or.inr, fun hk => hk.resolve_left (Ne.symm h)⟩

/-- No key is put twice. -/
theorem nodup_put (k : κ) (v : ν) {entries : List (κ × ν)} (h : (entries.map (·.1)).Nodup) :
    ((put k v entries).map (·.1)).Nodup := by
  rw [map_fst_put]
  split
  · exact h
  · next hnew =>
    refine List.nodup_append.2 ⟨h, by simp, fun a ha b hb hab => ?_⟩
    obtain rfl : b = k := by simpa using hb
    exact hnew ((lookup_isSome_iff b entries).2 (hab ▸ ha))

/-- The value of a key. -/
def get? (t : Table κ ν) (k : κ) : Option ν := lookup k t.entries

/-- The key is set. -/
def contains (t : Table κ ν) (k : κ) : Bool := (t.get? k).isSome

/-- Sets a key. -/
def set (t : Table κ ν) (k : κ) (v : ν) : Table κ ν := ⟨put k v t.entries, nodup_put k v t.nodup⟩

/-- The table that setting the pairs one after the other gives. -/
def ofList (pairs : List (κ × ν)) : Table κ ν := pairs.foldl (fun t p => t.set p.1 p.2) ∅

/-- The values of each key, in order. -/
def group (pairs : List (κ × ν)) : Table κ (List ν) :=
  pairs.foldl (fun t p => t.set p.1 ((t.get? p.1).getD [] ++ [p.2])) ∅

@[simp] theorem get?_empty (k : κ) : (∅ : Table κ ν).get? k = none := rfl

/-- Putting a key changes the value of that key and of no other. -/
theorem lookup_put (k j : κ) (v : ν) (entries : List (κ × ν)) :
    lookup j (put k v entries) = if k = j then some v else lookup j entries := by
  induction entries with
  | nil => simp [put, lookup]
  | cons e rest ih =>
    obtain ⟨k', v'⟩ := e
    simp only [put]
    split <;> grind [lookup]

/-- Setting a key changes that key and no other. -/
@[simp] theorem get?_set (t : Table κ ν) (k j : κ) (v : ν) :
    (t.set k v).get? j = if k = j then some v else t.get? j :=
  lookup_put k j v t.entries

/-- Every key has the image of its value. -/
theorem get?_mapValues {μ : Type} (f : ν → μ) (t : Table κ ν) (k : κ) :
    (t.mapValues f).get? k = (t.get? k).map f := by
  show lookup k (t.entries.map fun e => (e.1, f e.2)) = (lookup k t.entries).map f
  induction t.entries with
  | nil => rfl
  | cons e rest ih =>
    rw [List.map_cons, lookup, lookup, ih]
    split <;> rfl

/-- The value of the last of the pairs with the key. -/
def lastOf? (k : κ) (pairs : List (κ × ν)) : Option ν :=
  ((pairs.filter fun p => p.1 = k).getLast?).map (·.2)

/-- Of the pairs that are set one after the other, the last one of a key counts. -/
theorem get?_foldl_set (pairs : List (κ × ν)) (t : Table κ ν) (k : κ) :
    (pairs.foldl (fun t p => t.set p.1 p.2) t).get? k = (lastOf? k pairs).or (t.get? k) := by
  induction pairs generalizing t with
  | nil => rfl
  | cons p rest ih =>
    rw [List.foldl_cons, ih, get?_set]
    by_cases h : p.1 = k
    · cases hlast : (rest.filter fun q => q.1 = k).getLast? <;>
        simp [lastOf?, h, hlast, List.getLast?_cons]
    · simp [lastOf?, h]

/-- The last pair of a key counts. -/
theorem get?_ofList (pairs : List (κ × ν)) (k : κ) : (ofList pairs).get? k = lastOf? k pairs := by
  rw [ofList, get?_foldl_set]
  exact Option.or_none

/-- The keys that are set are those of the table. -/
theorem contains_iff (t : Table κ ν) (k : κ) : t.contains k = true ↔ k ∈ t.keys :=
  lookup_isSome_iff k t.entries

/-- A new entry goes to the end. -/
theorem put_of_not_mem {k : κ} {entries : List (κ × ν)} (h : k ∉ entries.map (·.1)) (v : ν) :
    put k v entries = entries ++ [(k, v)] := by
  induction entries with
  | nil => rfl
  | cons e rest ih =>
    have hne : e.1 ≠ k := fun heq => h (heq ▸ List.mem_cons_self)
    rw [put, if_neg hne, ih fun hmem => h (List.mem_cons_of_mem _ hmem)]
    rfl

/-- A table made from pairs with distinct keys holds the pairs in order. -/
theorem entries_ofList {pairs : List (κ × ν)} (h : (pairs.map (·.1)).Nodup) :
    (ofList pairs).entries = pairs := by
  suffices hset : ∀ t : Table κ ν, (t.keys ++ pairs.map (·.1)).Nodup →
      (pairs.foldl (fun t p => t.set p.1 p.2) t).entries = t.entries ++ pairs from hset ∅ h
  clear h
  induction pairs with
  | nil => exact fun t _ => (List.append_nil t.entries).symm
  | cons p rest ih =>
    intro t ht
    have hnew : p.1 ∉ t.entries.map (·.1) := fun hmem =>
      (List.nodup_append.1 ht).2.2 p.1 hmem p.1 List.mem_cons_self rfl
    have hset : (t.set p.1 p.2).entries = t.entries ++ [p] := put_of_not_mem hnew p.2
    have hkeys : (t.set p.1 p.2).keys = t.keys ++ [p.1] := by
      rw [keys, hset, List.map_append]
      rfl
    rw [List.foldl_cons, ih, hset, List.append_assoc]
    · rfl
    · rw [hkeys, List.append_assoc]
      exact ht

/-- Pairs with distinct keys are a table as they stand. -/
theorem ofList_eq {pairs : List (κ × ν)} (h : (pairs.map (·.1)).Nodup) :
    ofList pairs = ⟨pairs, h⟩ := by
  have hentries := entries_ofList h
  cases htable : ofList pairs with
  | mk entries nodup =>
    rw [htable] at hentries
    subst hentries
    rfl

/-- In a list of entries without repeated keys, every entry is the value of its key. -/
theorem lookup_of_mem {entries : List (κ × ν)} (h : (entries.map (·.1)).Nodup) {k : κ} {v : ν}
    (hmem : (k, v) ∈ entries) : lookup k entries = some v := by
  induction entries with
  | nil => cases hmem
  | cons e rest ih =>
    obtain ⟨k', v'⟩ := e
    rw [List.map_cons, List.nodup_cons] at h
    rcases List.mem_cons.1 hmem with heq | hrest
    · cases heq
      exact if_pos rfl
    · have hne : k' ≠ k := by
        rintro rfl
        exact h.1 (List.mem_map.2 ⟨_, hrest, rfl⟩)
      rw [lookup, if_neg hne]
      exact ih h.2 hrest

/-- The last value of a key is one of its values. -/
theorem mem_of_lastOf? {k : κ} {v : ν} {pairs : List (κ × ν)} (h : lastOf? k pairs = some v) :
    (k, v) ∈ pairs := by
  obtain ⟨p, hp, rfl⟩ := Option.map_eq_some_iff.1 h
  obtain ⟨hmem, hk⟩ := List.mem_filter.1 (List.mem_of_getLast? hp)
  obtain rfl : p.1 = k := of_decide_eq_true hk
  exact hmem

/-- A key without a last value has none. -/
theorem not_mem_of_lastOf? {k : κ} {pairs : List (κ × ν)} (h : lastOf? k pairs = none) (v : ν) :
    (k, v) ∉ pairs := by
  intro hmem
  have hnone : (pairs.filter fun p => p.1 = k) = [] :=
    List.getLast?_eq_none_iff.1 (Option.map_eq_none_iff.1 h)
  exact List.filter_eq_nil_iff.1 hnone _ hmem (decide_eq_true rfl)

/-- The entries of a table made from pairs are among the pairs. -/
theorem mem_of_mem_entries_ofList {pairs : List (κ × ν)} {e : κ × ν}
    (h : e ∈ (ofList pairs).entries) : e ∈ pairs := by
  have hget : (ofList pairs).get? e.1 = some e.2 := lookup_of_mem (ofList pairs).nodup h
  rw [get?_ofList] at hget
  exact mem_of_lastOf? hget

/-- The last pair of a key is the one that no other follows. -/
theorem lastOf?_append_cons (before : List (κ × ν)) {p : κ × ν} {after : List (κ × ν)}
    (h : p.1 ∉ after.map (·.1)) : lastOf? p.1 (before ++ p :: after) = some p.2 := by
  have hlast : (p :: after).filter (fun q => q.1 = p.1) = [p] := by
    rw [List.filter_cons, if_pos (decide_eq_true rfl), List.filter_eq_nil_iff.2]
    exact fun q hq heq => h (List.mem_map.2 ⟨q, hq, of_decide_eq_true heq⟩)
  rw [lastOf?, List.filter_append, hlast, List.getLast?_concat]
  rfl

end Table

end ApiShape
