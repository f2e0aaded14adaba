/-!
# Insertion-ordered dictionaries

A dictionary lists its entries in the order in which their keys were first written. Writing a key
again replaces its value and keeps its place; erasing a key closes the gap, so a key written again
afterwards goes to the end. No key occurs twice.

The view is `entries`; the main statements give the keys (`keys_insert`, `keys_erase`) and the
look-up (`get?_insert`, `get?_erase`) after each operation. To remove a key is to look it up and to
erase it (`remove_eq`).
-/

namespace SmartHome

universe u v w

/-- A finite map that remembers the order in which its keys were first written. -/
structure Dict (κ : Type u) (α : Type v) where
  entries : List (κ × α)
  nodup : (entries.map Prod.fst).Nodup

namespace Dict

variable {κ : Type u} {α : Type v} {β : Type w}

@[ext] theorem ext {d e : Dict κ α} (h : d.entries = e.entries) : d = e := by
  cases d; cases e; cases h; rfl

instance [DecidableEq κ] [DecidableEq α] : DecidableEq (Dict κ α) := fun d e =>
  if h : d.entries = e.entries then isTrue (ext h) else isFalse fun he => h (he ▸ rfl)

/-- The dictionary without entries. -/
def empty : Dict κ α := ⟨[], List.nodup_nil⟩

instance : Inhabited (Dict κ α) := ⟨empty⟩

/-- The keys, in the order in which they were first written. -/
def keys (d : Dict κ α) : List κ := d.entries.map Prod.fst

/-- The values, in the order of their keys. -/
def values (d : Dict κ α) : List α := d.entries.map Prod.snd

def size (d : Dict κ α) : Nat := d.entries.length

def isEmpty (d : Dict κ α) : Bool := d.entries.isEmpty

section Entries

variable [DecidableEq κ]

/-- The value of the first entry with the key. -/
def find (k : κ) : List (κ × α) → Option α
  | [] => none
  | e :: es => if e.1 = k then some e.2 else find k es

/-- Overwrite the first entry with the key in its place, or add one at the end. -/
def upsert (k : κ) (v : α) : List (κ × α) → List (κ × α)
  | [] => [(k, v)]
  | e :: es => if e.1 = k then (k, v) :: es else e :: upsert k v es

theorem map_fst_upsert (k : κ) (v : α) (es : List (κ × α)) :
    (upsert k v es).map Prod.fst
      = if k ∈ es.map Prod.fst then es.map Prod.fst else es.map Prod.fst ++ [k] := by
  induction es with
  | nil => simp [upsert]
  | cons e es ih =>
    by_cases h : e.1 = k
    · simp [upsert, h]
    · have h' : ¬ k = e.1 := fun hk => h hk.symm
      simp only [upsert, h, if_false, List.map_cons, ih, List.mem_cons, h', false_or]
      split <;> simp

theorem find_upsert (k j : κ) (v : α) (es : List (κ × α)) :
    find j (upsert k v es) = if k = j then some v else find j es := by
  induction es with
  | nil => simp [upsert, find]
  | cons e es ih =>
    by_cases h : e.1 = k
    · simp only [upsert, h, if_true, find]; split <;> simp_all
    · simp only [upsert, h, if_false, find, ih]
      by_cases hj : e.1 = j
      · have : ¬ k = j := fun hk => h (hj.trans hk.symm)
        simp [hj, this]
      · simp [hj]

theorem mem_upsert {k : κ} {v : α} {es : List (κ × α)} {e : κ × α} (h : e ∈ upsert k v es) :
    e = (k, v) ∨ e ∈ es := by
  induction es with
  | nil => exact .inl (List.mem_singleton.1 h)
  | cons f es ih =>
    simp only [upsert] at h
    split at h
    · rcases List.mem_cons.1 h with rfl | h
      · exact .inl rfl
      · exact .inr (List.mem_cons_of_mem _ h)
    · rcases List.mem_cons.1 h with rfl | h
      · exact .inr List.mem_cons_self
      · exact (ih h).imp_right (List.mem_cons_of_mem _)

theorem find_eq_none_iff {k : κ} {es : List (κ × α)} :
    find k es = none ↔ k ∉ es.map Prod.fst := by
  induction es with
  | nil => simp [find]
  | cons e es ih =>
    by_cases h : e.1 = k
    · simp [find, h]
    · have h' : ¬ k = e.1 := fun hk => h hk.symm
      simp [find, h, h', ih]

/-- Take the first entry with the key out; its value, if there is one, and the entries left. -/
def pull (k : κ) : List (κ × α) → Option α × List (κ × α)
  | [] => (none, [])
  | e :: es => if e.1 = k then (some e.2, es) else ((pull k es).1, e :: (pull k es).2)

theorem pull_eq {k : κ} {es : List (κ × α)} (hn : (es.map Prod.fst).Nodup) :
    pull k es = (find k es, es.filter fun e => e.1 ≠ k) := by
  induction es with
  | nil => rfl
  | cons e es ih =>
    rw [List.map_cons, List.nodup_cons] at hn
    by_cases h : e.1 = k
    · have hes : es.filter (fun e => e.1 ≠ k) = es := by
        refine List.filter_eq_self.2 fun f hf => decide_eq_true fun hfk => hn.1 ?_
        exact List.mem_map.2 ⟨f, hf, hfk.trans h.symm⟩
      rw [List.filter_cons_of_neg (by simp [h]), hes]
      simp [pull, find, h]
    · simp [pull, find, h, ih hn.2]

theorem find_filter_ne (k j : κ) (es : List (κ × α)) :
    find j (es.filter fun e => e.1 ≠ k) = if k = j then none else find j es := by
  induction es with
  | nil => simp [find]
  | cons e es ih =>
    by_cases h : e.1 = k
    · by_cases hj : k = j
      · simp_all
      · have : ¬ e.1 = j := fun he => hj (h.symm.trans he)
        simp_all [find]
    · by_cases hj : e.1 = j
      · have : ¬ k = j := fun hk => h (hj.trans hk.symm)
        simp_all [find]
      · simp_all [find]

end Entries

section Keyed

variable [DecidableEq κ]

/-- The value of a key, if it is there. -/
def get? (d : Dict κ α) (k : κ) : Option α := find k d.entries

def contains (d : Dict κ α) (k : κ) : Bool := (d.get? k).isSome

/-- Write a key: in its place if it is there, else at the end. -/
def insert (d : Dict κ α) (k : κ) (v : α) : Dict κ α where
  entries := upsert k v d.entries
  nodup := by
    rw [map_fst_upsert]
    split
    · exact d.nodup
    · rename_i h
      refine List.nodup_append.2 ⟨d.nodup, by simp, fun a ha b hb => ?_⟩
      rw [List.mem_singleton.1 hb]
      exact fun hab => h (hab ▸ ha)

/-- Remove a key; the other entries keep their order. -/
def erase (d : Dict κ α) (k : κ) : Dict κ α where
  entries := d.entries.filter fun e => e.1 ≠ k
  nodup := d.nodup.sublist (List.filter_sublist.map Prod.fst)

/-- Remove a key; also the value that it had. -/
def remove (d : Dict κ α) (k : κ) : Option α × Dict κ α :=
  ((pull k d.entries).1, ⟨(pull k d.entries).2, by
    rw [pull_eq d.nodup]
    exact (d.erase k).nodup⟩)

/-- Write the entries one after the other: later values win, earlier places stay. -/
def insertAll (d : Dict κ α) (es : List (κ × α)) : Dict κ α :=
  es.foldl (fun d e => d.insert e.1 e.2) d

/-- Collect entries: later values win, earlier places stay. -/
def ofList (es : List (κ × α)) : Dict κ α := empty.insertAll es

/-- All entries of `e` written over those of `d`. -/
def overlay (d e : Dict κ α) : Dict κ α := d.insertAll e.entries

theorem keys_insert (d : Dict κ α) (k : κ) (v : α) :
    (d.insert k v).keys = if k ∈ d.keys then d.keys else d.keys ++ [k] :=
  map_fst_upsert k v d.entries

theorem keys_erase (d : Dict κ α) (k : κ) : (d.erase k).keys = d.keys.filter (· ≠ k) := by
  simp only [keys, erase, List.filter_map]
  rfl

theorem mem_insert {d : Dict κ α} {k : κ} {v : α} {e : κ × α}
    (h : e ∈ (d.insert k v).entries) : e = (k, v) ∨ e ∈ d.entries :=
  mem_upsert h

theorem get?_empty (k : κ) : (empty : Dict κ α).get? k = none := rfl

theorem get?_insert (d : Dict κ α) (k j : κ) (v : α) :
    (d.insert k v).get? j = if k = j then some v else d.get? j :=
  find_upsert k j v d.entries

theorem get?_erase (d : Dict κ α) (k j : κ) :
    (d.erase k).get? j = if k = j then none else d.get? j :=
  find_filter_ne k j d.entries

theorem remove_eq (d : Dict κ α) (k : κ) : d.remove k = (d.get? k, d.erase k) := by
  have hvalue : (pull k d.entries).1 = d.get? k := by rw [pull_eq d.nodup, get?]
  have hentries : (pull k d.entries).2 = (d.erase k).entries := by rw [pull_eq d.nodup, erase]
  exact Prod.ext hvalue (ext hentries)

theorem get?_eq_none_iff {d : Dict κ α} {k : κ} : d.get? k = none ↔ k ∉ d.keys :=
  find_eq_none_iff

theorem contains_iff {d : Dict κ α} {k : κ} : d.contains k = true ↔ k ∈ d.keys := by
  rw [contains, ← Decidable.not_iff_not, ← get?_eq_none_iff]
  cases d.get? k <;> simp

end Keyed

end Dict

end SmartHome
