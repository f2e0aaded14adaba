import Mathlib.Data.List.Induction
import SmartHome.Dict
import SmartHome.Proofs.Failure

/-!
# Dictionaries written over one another

A dictionary is its keys in order and its look-up (`ext_get?`). In an overlay the second dictionary
wins (`get?_overlay`) and the first gives the places: its own keys come first, and those that only
the second has follow in their order (`keys_overlay`). So an overlay whose second dictionary says
nothing new is the first (`overlay_eq_left`), and to write a dictionary under its own overlay
changes nothing (`overlay_overlay_self`); and as each entry that is written over an overlay might as
well have been written over its second dictionary first (`overlay_insert`), overlays can be taken
together in any way (`overlay_assoc`). Of entries that are collected the first with a key gives
the place (`keys_ofList`) and the last the value (`get?_ofList_eq_some_iff`).
-/

namespace SmartHome

universe u v

/-- The element is in the list, and nothing behind it has the property. -/
def LastWith {γ : Type u} (P : γ → Prop) (l : List γ) (x : γ) : Prop :=
  ∃ pre post, l = pre ++ x :: post ∧ ∀ y ∈ post, ¬ P y

namespace LastWith

variable {γ : Type u} {P : γ → Prop} {l : List γ} {x y : γ}

theorem not_nil : ¬ LastWith P [] x := by
  rintro ⟨pre, post, h, -⟩
  simp at h

theorem mem (h : LastWith P l x) : x ∈ l := by
  obtain ⟨pre, post, rfl, -⟩ := h
  simp

theorem cons_iff : LastWith P (y :: l) x ↔ LastWith P l x ∨ y = x ∧ ∀ z ∈ l, ¬ P z := by
  constructor
  · rintro ⟨pre, post, h, hpost⟩
    rcases pre with _ | ⟨w, pre⟩
    · obtain ⟨rfl, rfl⟩ := List.cons.inj h
      exact .inr ⟨rfl, hpost⟩
    · obtain ⟨-, rfl⟩ := List.cons.inj h
      exact .inl ⟨pre, post, rfl, hpost⟩
  · rintro (⟨pre, post, rfl, hpost⟩ | ⟨rfl, hl⟩)
    · exact ⟨y :: pre, post, rfl, hpost⟩
    · exact ⟨[], l, rfl, hl⟩

theorem concat_iff : LastWith P (l ++ [y]) x ↔ y = x ∨ ¬ P y ∧ LastWith P l x := by
  constructor
  · rintro ⟨pre, post, h, hpost⟩
    rcases List.eq_nil_or_concat post with rfl | ⟨post, z, rfl⟩
    · exact .inl (List.singleton_inj.1 (List.append_inj' h rfl).2)
    · have h : l ++ [y] = (pre ++ x :: post) ++ [z] := by simpa using h
      obtain ⟨hl, hz⟩ := List.append_inj' h rfl
      obtain rfl := List.singleton_inj.1 hz
      exact .inr ⟨hpost y (by simp), pre, post, hl, fun w hw => hpost w (by simp [hw])⟩
  · rintro (rfl | ⟨hy, pre, post, rfl, hpost⟩)
    · exact ⟨l, [], rfl, by simp⟩
    · refine ⟨pre, post ++ [y], by simp, fun z hz => ?_⟩
      rcases List.mem_append.1 hz with hz | hz
      · exact hpost z hz
      · rwa [List.mem_singleton.1 hz]

/-- The last element of a list stands at the place of the last of the related list. -/
theorem of_forall₂ {δ : Type v} {Q : δ → Prop} {R : γ → δ → Prop} (hR : ∀ a b, R a b → (P a ↔ Q b))
    {m : List δ} (h : List.Forall₂ R l m) {b : δ} (hb : LastWith Q m b) :
    ∃ a, LastWith P l a ∧ R a b := by
  induction h with
  | nil => exact absurd hb not_nil
  | @cons a c l m hac hlm ih =>
    rcases cons_iff.1 hb with hb | ⟨rfl, hm⟩
    · obtain ⟨x, hx, hxb⟩ := ih hb
      exact ⟨x, cons_iff.2 (.inl hx), hxb⟩
    · refine ⟨a, cons_iff.2 (.inr ⟨rfl, fun x hx hP => ?_⟩), hac⟩
      obtain ⟨y, hy, hxy⟩ := exists_of_forall₂ hlm.flip hx
      exact hm y hy ((hR x y hxy).1 hP)

theorem map_iff {δ : Type v} {f : δ → γ} {m : List δ} :
    LastWith P (m.map f) x ↔ ∃ a, LastWith (fun a => P (f a)) m a ∧ f a = x := by
  have hf : List.Forall₂ (fun a b => f a = b) m (m.map f) :=
    List.forall₂_map_right_iff.2 (List.forall₂_same.2 fun _ _ => rfl)
  constructor
  · intro h
    exact of_forall₂ (fun a b hab => by rw [hab]) hf h
  · rintro ⟨a, ha, rfl⟩
    obtain ⟨b, hb, rfl⟩ := of_forall₂ (fun b a hab => by rw [← hab]) hf.flip ha
    exact hb

end LastWith

namespace Dict

variable {κ : Type u} {α : Type v} [DecidableEq κ]

section Lookup

theorem find_eq_some_of_mem {es : List (κ × α)} (hn : (es.map Prod.fst).Nodup) {k : κ} {a : α}
    (h : (k, a) ∈ es) : find k es = some a := by
  induction es with
  | nil => cases h
  | cons e es ih =>
    rw [List.map_cons, List.nodup_cons] at hn
    rcases List.mem_cons.1 h with rfl | h
    · simp [find]
    · have hk : e.1 ≠ k := fun he => hn.1 (he ▸ List.mem_map_of_mem h)
      simp only [find, hk, if_false]
      exact ih hn.2 h

theorem mem_of_find_eq_some {es : List (κ × α)} {k : κ} {a : α} (h : find k es = some a) :
    (k, a) ∈ es := by
  induction es with
  | nil => cases h
  | cons e es ih =>
    simp only [find] at h
    split at h
    · rename_i hk
      cases h
      exact hk ▸ List.mem_cons_self
    · exact List.mem_cons_of_mem _ (ih h)

theorem get?_eq_some_iff {d : Dict κ α} {k : κ} {a : α} :
    d.get? k = some a ↔ (k, a) ∈ d.entries :=
  ⟨mem_of_find_eq_some, find_eq_some_of_mem d.nodup⟩

theorem mem_keys_iff {d : Dict κ α} {k : κ} : k ∈ d.keys ↔ ∃ a, d.get? k = some a := by
  rw [← Option.ne_none_iff_exists', Ne, get?_eq_none_iff, Decidable.not_not]

theorem entries_eq_of_find : ∀ {es fs : List (κ × α)}, (es.map Prod.fst).Nodup →
    es.map Prod.fst = fs.map Prod.fst → (∀ k, find k es = find k fs) → es = fs
  | [], [], _, _, _ => rfl
  | [], _ :: _, _, hk, _ => by simp at hk
  | _ :: _, [], _, hk, _ => by simp at hk
  | e :: es, f :: fs, hn, hk, hf => by
    simp only [List.map_cons, List.cons.injEq] at hk
    rw [List.map_cons, List.nodup_cons] at hn
    have he : e = f := by
      have := hf e.1
      simp only [find, if_true, hk.1, Option.some.injEq] at this
      exact Prod.ext hk.1 this
    subst he
    refine congrArg (e :: ·) (entries_eq_of_find hn.2 hk.2 fun k => ?_)
    by_cases hek : e.1 = k
    · subst hek
      rw [find_eq_none_iff.2 hn.1, find_eq_none_iff.2 (hk.2 ▸ hn.1)]
    · have := hf k
      simpa only [find, hek, if_false] using this

/-- Two dictionaries with the same keys in the same order and the same look-up are the same. -/
theorem ext_get? {d e : Dict κ α} (hk : d.keys = e.keys) (hg : ∀ k, d.get? k = e.get? k) : d = e :=
  ext (entries_eq_of_find d.nodup hk hg)

theorem upsert_split {k : κ} {a : α} : ∀ {es : List (κ × α)}, (es.map Prod.fst).Nodup →
    find k es = some a → ∃ pre post, es = pre ++ (k, a) :: post ∧ (∀ e ∈ pre, e.1 ≠ k)
      ∧ (∀ e ∈ post, e.1 ≠ k) ∧ ∀ b, upsert k b es = pre ++ (k, b) :: post
  | [], _, h => by cases h
  | e :: es, hn, h => by
    rw [List.map_cons, List.nodup_cons] at hn
    by_cases hk : e.1 = k
    · subst hk
      simp only [find, if_true, Option.some.injEq] at h
      refine ⟨[], es, by rw [← h]; rfl, by simp, fun f hf hfe => ?_, fun b => by simp [upsert]⟩
      exact hn.1 (hfe ▸ List.mem_map_of_mem hf)
    · simp only [find, hk, if_false] at h
      obtain ⟨pre, post, rfl, hpre, hpost, hup⟩ := upsert_split hn.2 h
      refine ⟨e :: pre, post, rfl, ?_, hpost, fun b => by simp [upsert, hk, hup]⟩
      rintro f (_ | ⟨_, hf⟩)
      · exact hk
      · exact hpre f hf

theorem upsert_of_not_mem {k : κ} (a : α) : ∀ {es : List (κ × α)}, k ∉ es.map Prod.fst →
    upsert k a es = es ++ [(k, a)]
  | [], _ => rfl
  | e :: es, hk => by
    rw [List.map_cons, List.mem_cons, not_or] at hk
    rw [upsert, if_neg (Ne.symm hk.1), upsert_of_not_mem a hk.2, List.cons_append]

theorem entries_insert_of_not_mem {d : Dict κ α} {k : κ} (hk : k ∉ d.keys) (a : α) :
    (d.insert k a).entries = d.entries ++ [(k, a)] :=
  upsert_of_not_mem a hk

/-- A key has one entry, and writing the key changes this entry alone. -/
theorem insert_split {d : Dict κ α} {k : κ} {a : α} (h : d.get? k = some a) :
    ∃ pre post, d.entries = pre ++ (k, a) :: post ∧ (∀ e ∈ pre, e.1 ≠ k)
      ∧ (∀ e ∈ post, e.1 ≠ k) ∧ ∀ b, (d.insert k b).entries = pre ++ (k, b) :: post :=
  upsert_split d.nodup h

end Lookup

section Overlay

theorem insertAll_cons (d : Dict κ α) (e : κ × α) (es : List (κ × α)) :
    d.insertAll (e :: es) = (d.insert e.1 e.2).insertAll es := rfl

theorem insertAll_append (d : Dict κ α) (es fs : List (κ × α)) :
    d.insertAll (es ++ fs) = (d.insertAll es).insertAll fs :=
  List.foldl_append

theorem mem_insertAll {e : κ × α} : ∀ {es : List (κ × α)} {d : Dict κ α},
    e ∈ (d.insertAll es).entries → e ∈ d.entries ∨ e ∈ es
  | [], _, h => .inl h
  | f :: es, d, h => by
    rw [insertAll_cons] at h
    rcases mem_insertAll h with h | h
    · rcases mem_insert h with rfl | h
      · exact .inr List.mem_cons_self
      · exact .inl h
    · exact .inr (List.mem_cons_of_mem _ h)

theorem mem_ofList {es : List (κ × α)} {e : κ × α} (h : e ∈ (ofList es).entries) : e ∈ es := by
  rcases mem_insertAll h with h | h
  · cases h
  · exact h

theorem get?_insertAll (k : κ) : ∀ {es : List (κ × α)} (d : Dict κ α),
    (es.map Prod.fst).Nodup → (d.insertAll es).get? k = (find k es).or (d.get? k)
  | [], _, _ => rfl
  | e :: es, d, hn => by
    rw [List.map_cons, List.nodup_cons] at hn
    rw [insertAll_cons, get?_insertAll k _ hn.2, get?_insert]
    by_cases hk : e.1 = k
    · subst hk
      simp [find, find_eq_none_iff.2 hn.1]
    · simp [find, hk]

theorem keys_insertAll : ∀ {es : List (κ × α)} (d : Dict κ α), (es.map Prod.fst).Nodup →
    (d.insertAll es).keys = d.keys ++ (es.map Prod.fst).filter (· ∉ d.keys)
  | [], d, _ => by simp [insertAll]
  | e :: es, d, hn => by
    rw [List.map_cons, List.nodup_cons] at hn
    rw [insertAll_cons, keys_insertAll _ hn.2, List.map_cons, List.filter_cons, keys_insert]
    by_cases hk : e.1 ∈ d.keys
    · simp [hk]
    · have : (es.map Prod.fst).filter (· ∉ d.keys ++ [e.1])
          = (es.map Prod.fst).filter (· ∉ d.keys) := by
        refine List.filter_congr fun k hm => ?_
        have : k ≠ e.1 := fun h => hn.1 (h ▸ hm)
        simp [this]
      simp only [hk, if_false, this]
      simp

/-- Keys that are all written with one value have it, and the others are as they were. -/
theorem get?_insertAll_map (a : α) (k : κ) : ∀ (ks : List κ) (d : Dict κ α),
    (d.insertAll (ks.map fun j => (j, a))).get? k = if k ∈ ks then some a else d.get? k
  | [], d => rfl
  | j :: ks, d => by
    rw [List.map_cons, insertAll_cons, get?_insertAll_map a k ks, get?_insert]
    by_cases hj : j = k
    · simp [hj]
    · have : ¬ k = j := fun h => hj h.symm
      simp [hj, this]

/-- A list in which no key occurs twice is a dictionary as it is. -/
theorem ofList_of_nodup {es : List (κ × α)} (h : (es.map Prod.fst).Nodup) :
    ofList es = ⟨es, h⟩ := by
  refine ext_get? ?_ fun k => ?_
  · rw [ofList, keys_insertAll empty h]
    simp [keys, empty]
  · rw [ofList, get?_insertAll k empty h, get?_empty, Option.or_none, get?]

theorem get?_overlay (d e : Dict κ α) (k : κ) :
    (d.overlay e).get? k = (e.get? k).or (d.get? k) :=
  get?_insertAll k d e.nodup

/-- The first dictionary of an overlay gives the places; what only the second has follows. -/
theorem keys_overlay (d e : Dict κ α) :
    (d.overlay e).keys = d.keys ++ e.keys.filter (· ∉ d.keys) :=
  keys_insertAll d e.nodup

theorem overlay_insert (d e : Dict κ α) (k : κ) (a : α) :
    d.overlay (e.insert k a) = (d.overlay e).insert k a := by
  refine ext_get? ?_ fun j => ?_
  · simp only [keys_overlay, keys_insert, List.mem_append, List.mem_filter, decide_eq_true_eq]
    by_cases hd : k ∈ d.keys <;> by_cases he : k ∈ e.keys <;> simp [hd, he]
  · simp only [get?_overlay, get?_insert]
    split_ifs <;> rfl

theorem overlay_insertAll (d : Dict κ α) : ∀ (es : List (κ × α)) (e : Dict κ α),
    d.overlay (e.insertAll es) = (d.overlay e).insertAll es
  | [], _ => rfl
  | f :: es, e => by
    rw [insertAll_cons, overlay_insertAll d es, overlay_insert, insertAll_cons]

theorem overlay_assoc (d e f : Dict κ α) : (d.overlay e).overlay f = d.overlay (e.overlay f) :=
  (overlay_insertAll d f.entries e).symm

theorem empty_overlay (d : Dict κ α) : empty.overlay d = d :=
  ofList_of_nodup d.nodup

theorem overlay_eq_left {d e : Dict κ α} (h : ∀ k ∈ e.keys, d.get? k = e.get? k) :
    d.overlay e = d := by
  refine ext_get? ?_ fun k => ?_
  · have : e.keys.filter (· ∉ d.keys) = [] := by
      refine List.filter_eq_nil_iff.2 fun k hk => ?_
      obtain ⟨a, ha⟩ := mem_keys_iff.1 hk
      simpa using mem_keys_iff.2 ⟨a, (h k hk).trans ha⟩
    rw [keys_overlay, this, List.append_nil]
  · rw [get?_overlay]
    by_cases hk : k ∈ e.keys
    · rw [h k hk, Option.or_self]
    · rw [get?_eq_none_iff.2 hk, Option.none_or]

theorem overlay_overlay_self (d e : Dict κ α) : d.overlay (d.overlay e) = d.overlay e := by
  refine ext_get? ?_ fun k => ?_
  · have : d.keys.filter (· ∉ d.keys) = [] := List.filter_eq_nil_iff.2 (by simp)
    rw [keys_overlay, keys_overlay, List.filter_append, this, List.nil_append, List.filter_filter]
    simp
  · simp only [get?_overlay]
    cases e.get? k <;> simp

end Overlay

section Collection

theorem eraseDups_concat (l : List κ) (k : κ) :
    (l ++ [k]).eraseDups = if k ∈ l then l.eraseDups else l.eraseDups ++ [k] := by
  rw [List.eraseDups_append, List.removeAll, List.filter_cons, List.filter_nil]
  by_cases hk : k ∈ l <;> simp [hk, List.eraseDups_cons]

theorem ofList_concat (es : List (κ × α)) (e : κ × α) :
    ofList (es ++ [e]) = (ofList es).insert e.1 e.2 := by
  rw [ofList, ofList, insertAll, insertAll, List.foldl_append, List.foldl_cons, List.foldl_nil]

/-- To write entries one after the other is to write what they come to. -/
theorem overlay_ofList (d : Dict κ α) (es : List (κ × α)) :
    d.overlay (ofList es) = d.insertAll es :=
  overlay_insertAll d es empty

/-- Collected entries stand in the order in which their keys first occur. -/
theorem keys_ofList (es : List (κ × α)) : (ofList es).keys = (es.map Prod.fst).eraseDups := by
  induction es using List.reverseRecOn with
  | nil => rfl
  | append_singleton es e ih =>
    have hmem : e.1 ∈ (ofList es).keys ↔ e.1 ∈ es.map Prod.fst := by
      rw [ih, List.mem_eraseDups]
    rw [ofList_concat, keys_insert, List.map_append, List.map_singleton, eraseDups_concat, ← ih]
    simp only [hmem]

/-- Of collected entries with one key the last gives the value. -/
theorem get?_ofList_eq_some_iff {es : List (κ × α)} {k : κ} {a : α} :
    (ofList es).get? k = some a ↔ LastWith (·.1 = k) es (k, a) := by
  induction es using List.reverseRecOn with
  | nil => exact iff_of_false (fun h => by cases h) LastWith.not_nil
  | append_singleton es e ih =>
    rw [ofList_concat, get?_insert, LastWith.concat_iff, ← ih]
    by_cases hk : e.1 = k
    · rw [if_pos hk]
      simp [Prod.ext_iff, hk]
    · rw [if_neg hk]
      simp [Prod.ext_iff, hk]

/-- Written entries keep to the places that are there; new keys follow in the order in which they
first occur. -/
theorem keys_insertAll_eraseDups (d : Dict κ α) (es : List (κ × α)) :
    (d.insertAll es).keys = d.keys ++ (es.map Prod.fst).eraseDups.filter (· ∉ d.keys) := by
  rw [← overlay_ofList, keys_overlay, keys_ofList]

theorem foldl_overlay {γ : Type*} (f : γ → Dict κ α) : ∀ (l : List γ) (d : Dict κ α),
    l.foldl (fun d x => d.overlay (f x)) d = d.insertAll (l.flatMap fun x => (f x).entries)
  | [], _ => rfl
  | x :: l, d => by
    rw [List.foldl_cons, foldl_overlay f l, List.flatMap_cons, overlay, insertAll, insertAll,
      insertAll, List.foldl_append]

end Collection

section Erase

theorem keys_foldl_erase : ∀ (ks : List κ) (d : Dict κ α),
    (ks.foldl erase d).keys = d.keys.filter (· ∉ ks)
  | [], d => by simp
  | j :: ks, d => by
    rw [List.foldl_cons, keys_foldl_erase ks, keys_erase, List.filter_filter]
    refine List.filter_congr fun k _ => ?_
    simp [Bool.and_comm]

theorem get?_foldl_erase (k : κ) : ∀ (ks : List κ) (d : Dict κ α),
    (ks.foldl erase d).get? k = if k ∈ ks then none else d.get? k
  | [], d => by simp
  | j :: ks, d => by
    rw [List.foldl_cons, get?_foldl_erase k ks, get?_erase]
    by_cases hj : j = k
    · simp [hj]
    · have : ¬ k = j := fun h => hj h.symm
      simp [hj, this]

end Erase

end Dict

end SmartHome
