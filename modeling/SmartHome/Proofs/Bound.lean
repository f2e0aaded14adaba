import Mathlib.Data.List.Perm.Subperm
import SmartHome.Proofs.Place

/-!
# How many documents can be under expansion

The components of a path that can be read are a word over the names of the tree, the marks and `..`
(`components_subset`), no longer than a path may be (`length_components_le`). There are fewer such
words than `pathBound` (`length_words_lt`), so documents under expansion, whose components differ,
are fewer as well (`UnderExpansion.length_lt`).

A path is at least as long as its names with the separators between them (`spread_names_le`).
-/

namespace SmartHome

namespace Document

section Words

variable {α : Type}

/-- The words over letters that are not longer than a bound. -/
def words (letters : List α) : Nat → List (List α)
  | 0 => [[]]
  | n + 1 => [] :: letters.flatMap fun a => (words letters n).map (a :: ·)

theorem mem_words {letters : List α} : ∀ {n : Nat} {word : List α},
    word.length ≤ n → (∀ a ∈ word, a ∈ letters) → word ∈ words letters n
  | 0, word, hn, _ => by
    rw [words, List.mem_singleton]
    exact List.length_eq_zero_iff.1 (Nat.le_zero.1 hn)
  | n + 1, [], _, _ => List.mem_cons_self
  | n + 1, a :: word, hn, hword => by
    have hrest : word ∈ words letters n :=
      mem_words (Nat.le_of_succ_le_succ hn) fun b hb => hword b (List.mem_cons_of_mem _ hb)
    refine List.mem_cons_of_mem _ (List.mem_flatMap.2 ⟨a, hword a List.mem_cons_self, ?_⟩)
    exact List.mem_map.2 ⟨word, hrest, rfl⟩

theorem length_words (letters : List α) (n : Nat) :
    (words letters n).length ≤ Nat.pow (letters.length + 1) n := by
  induction n with
  | zero => exact Nat.le_refl 1
  | succ n ih =>
    have hlength : (words letters (n + 1)).length
        = letters.length * (words letters n).length + 1 := by
      simp [words, List.length_flatMap]
    have hmul : letters.length * (words letters n).length
        ≤ letters.length * Nat.pow (letters.length + 1) n := Nat.mul_le_mul_left _ ih
    have hpos : 0 < Nat.pow (letters.length + 1) n := Nat.pow_pos (Nat.succ_pos _)
    have hsucc : Nat.pow (letters.length + 1) (n + 1)
        = letters.length * Nat.pow (letters.length + 1) n + Nat.pow (letters.length + 1) n := by
      change Nat.pow (letters.length + 1) n * (letters.length + 1) = _
      rw [Nat.mul_succ, Nat.mul_comm]
    omega

end Words

section Length

variable {p : Path}

theorem length_splitAll (c : UInt8) (cs : List UInt8) :
    (Split.splitAll c cs).length ≤ cs.length + 1 := by
  induction cs with
  | nil => exact Nat.le_refl 1
  | cons d cs ih =>
    rcases hp : Split.splitAll c cs with _ | ⟨q, qs⟩ <;> rw [hp] at ih <;>
      by_cases hd : d = c <;> simp_all [Split.splitAll]
    all_goals omega

theorem length_named_le (ss : List (List UInt8)) : (Path.named ss).length ≤ ss.length :=
  List.length_filter_le _ ss

/-- The mark in front of a path takes the place of an idle piece. -/
theorem length_components_segments (p : Path) : p.components.length ≤ p.segments.length := by
  rw [Path.components_eq, Path.mark, List.length_append, List.length_map]
  by_cases habs : p.isAbsolute = true
  · have hnames : p.names = Path.named (p.segments.drop 1) := by
      rw [Path.names, Path.segments_of_isAbsolute habs]
      rfl
    have hlength : p.segments.length = (p.segments.drop 1).length + 1 := by
      conv_lhs => rw [Path.segments_of_isAbsolute habs]
      rfl
    have hle := length_named_le (p.segments.drop 1)
    rw [if_pos habs, hnames, hlength, List.length_singleton]
    omega
  · rw [if_neg habs]
    by_cases hdot : p.segments.head? = some [Path.dot]
    · obtain ⟨tail, htail⟩ := List.head?_eq_some_iff.1 hdot
      have hnames : p.names = Path.named tail := by
        rw [Path.names, htail]
        rfl
      have hle := length_named_le tail
      rw [if_pos hdot, hnames, htail, List.length_singleton, List.length_cons]
      omega
    · rw [if_neg hdot, List.length_nil, Nat.zero_add]
      exact length_named_le _

theorem length_components_le (h : p.bytes.length ≤ FileTree.pathLimit) :
    p.components.length ≤ FileTree.pathLimit + 1 := by
  have hpieces := length_splitAll Path.slash p.bytes
  have hcomponents := length_components_segments p
  rw [Path.segments] at hcomponents
  omega

/-- How long the pieces are with a separator behind each. -/
def spread : List (List UInt8) → Nat
  | [] => 0
  | s :: ss => s.length + 1 + spread ss

@[simp] theorem spread_cons (s : List UInt8) (ss : List (List UInt8)) :
    spread (s :: ss) = s.length + 1 + spread ss := rfl

@[simp] theorem spread_append (ss ts : List (List UInt8)) :
    spread (ss ++ ts) = spread ss + spread ts := by
  induction ss with
  | nil => exact (Nat.zero_add _).symm
  | cons s ss ih =>
    rw [List.cons_append, spread_cons, spread_cons, ih]
    omega

theorem length_join (c : UInt8) : ∀ {ss : List (List UInt8)}, ss ≠ [] →
    (Split.join c ss).length + 1 = spread ss
  | [s], _ => rfl
  | s :: r :: ss, _ => by
    have ih := length_join c (List.cons_ne_nil r ss)
    change (s ++ c :: Split.join c (r :: ss)).length + 1 = _
    rw [spread_cons, ← ih, List.length_append, List.length_cons]
    omega

theorem spread_named_le (ss : List (List UInt8)) : spread (Path.named ss) ≤ spread ss := by
  induction ss with
  | nil => exact Nat.le_refl 0
  | cons s ss ih =>
    by_cases hs : Path.isIdle s = true
    · have hnamed : Path.named (s :: ss) = Path.named ss := by simp [Path.named, hs]
      rw [hnamed, spread_cons]
      omega
    · have hnamed : Path.named (s :: ss) = s :: Path.named ss := by simp [Path.named, hs]
      rw [hnamed, spread_cons, spread_cons]
      omega

/-- A path is as long as its names with the separators between them, or longer. -/
theorem spread_names_le (p : Path) : spread p.names ≤ p.bytes.length + 1 := by
  have hsegments : spread p.segments = p.bytes.length + 1 := by
    rw [Path.segments, ← length_join Path.slash (Split.splitAll_ne_nil Path.slash _),
      Split.join_splitAll]
  rw [← hsegments]
  exact spread_named_le p.segments

end Length

section Letters

variable {t : FileTree} {P place : Place} {e : Entry} {p : Path} {text : String}

/-- The names of a tree: those on the way to the working directory and to an entry. -/
def namesOf (t : FileTree) : List OsText := t.workingDirectory ++ t.entries.keys.flatten

theorem subset_namesOf (h : t.entry? P = some e) : P ⊆ namesOf t := by
  have key : ∀ {q : Place}, q ∈ t.entries.keys → P ⊆ q → P ⊆ namesOf t := fun hq hsub n hn =>
    List.mem_append_right _ (List.mem_flatten.2 ⟨_, hq, hsub hn⟩)
  rw [FileTree.entry?] at h
  split_ifs at h with hbelow
  · simp only [FileTree.hasBelow, Bool.or_eq_true, List.isPrefixOf_iff_prefix, List.any_eq_true,
      Bool.and_eq_true] at hbelow
    rcases hbelow with hwd | ⟨q, hq, hpre, -⟩
    · exact fun n hn => List.mem_append_left _ (hwd.subset hn)
    · exact key hq hpre.subset
  · have hP : P ∈ t.entries.keys := by
      rw [← Dict.contains_iff, Dict.contains, h]
      rfl
    exact key hP (List.Subset.refl P)

theorem exists_entry?_of_follow {ss : List (List UInt8)} (h : t.follow place ss = .found P e) :
    ∃ e', t.entry? place = some e' := by
  rcases ss with _ | ⟨s, ss⟩
  · obtain ⟨rfl, he⟩ := FileTree.follow_nil h
    exact ⟨e, he⟩
  · obtain ⟨a, hdir, -⟩ := FileTree.follow_cons h
    exact ⟨_, hdir⟩

/-- Along a path that leads somewhere, each name that goes down is one of the tree. -/
theorem names_of_follow : ∀ {ss : List (List UInt8)} {place : Place},
    t.follow place ss = .found P e →
      ∀ s ∈ Path.named ss, s = [Path.dot, Path.dot] ∨ OsText.mk s ∈ namesOf t
  | [], _, _, s, hs => by cases hs
  | r :: ss, place, h, s, hs => by
    obtain ⟨-, -, -, next, hnext, -, hcases⟩ := FileTree.follow_cons h
    have ih := names_of_follow hnext s
    by_cases hr : Path.isIdle r = true
    · have hnamed : Path.named (r :: ss) = Path.named ss := by simp [Path.named, hr]
      exact ih (hnamed ▸ hs)
    · have hnamed : Path.named (r :: ss) = r :: Path.named ss := by simp [Path.named, hr]
      rw [hnamed] at hs
      rcases List.mem_cons.1 hs with rfl | hs
      · obtain ⟨hr', -⟩ | ⟨-, hup, -⟩ | ⟨-, -, hdown⟩ := hcases
        · exact absurd hr' hr
        · exact .inl hup
        · obtain ⟨e', he'⟩ := exists_entry?_of_follow hnext
          exact .inr (subset_namesOf he' (by simp [hdown]))
      · exact ih hs

/-- What a path that leads somewhere is made of. -/
def letters (t : FileTree) : List OsText :=
  ⟨[Path.slash]⟩ :: ⟨[Path.dot]⟩ :: ⟨[Path.dot, Path.dot]⟩ :: namesOf t

theorem components_subset (h : t.lookup p = .found P e) : ∀ c ∈ p.components, c ∈ letters t := by
  intro c hc
  rw [Path.components_eq] at hc
  rcases List.mem_append.1 hc with hmark | hname
  · obtain ⟨hm, -⟩ | ⟨hm, -⟩ | ⟨hm, -⟩ := Path.mark_cases p <;> rw [hm] at hmark
    · simp [letters, List.mem_singleton.1 hmark]
    · simp [letters, List.mem_singleton.1 hmark]
    · cases hmark
  · obtain ⟨s, hs, rfl⟩ := List.mem_map.1 hname
    rcases names_of_follow (FileTree.follow_of_lookup h).2.2 s hs with rfl | hmem
    · exact List.mem_cons_of_mem _ (List.mem_cons_of_mem _ List.mem_cons_self)
    · exact List.mem_cons_of_mem _ (List.mem_cons_of_mem _ (List.mem_cons_of_mem _ hmem))

theorem components_mem_words (h : t.lookup p = .found P e) :
    p.components ∈ words (letters t) (FileTree.pathLimit + 1) :=
  mem_words (length_components_le (FileTree.follow_of_lookup h).1) (components_subset h)

theorem length_words_lt (t : FileTree) :
    (words (letters t) (FileTree.pathLimit + 1)).length < pathBound t := by
  have hletters : (letters t).length + 1 = t.nameCount + 4 := rfl
  have hle := length_words (letters t) (FileTree.pathLimit + 1)
  rw [hletters] at hle
  refine Nat.lt_of_le_of_lt hle ?_
  exact Nat.pow_lt_pow_right (by omega) (Nat.lt_succ_self _)

end Letters

/-- Documents under expansion can be read, and no two of them have a path with the same
components. -/
structure UnderExpansion (w : Workspace) (within : List Path) : Prop where
  readable : ∀ p ∈ within, ∃ text, readText w.files p = .ok text
  distinct : (within.map Path.components).Nodup

namespace UnderExpansion

variable {w : Workspace} {within : List Path} {q : Path} {text : String}

theorem nil (w : Workspace) : UnderExpansion w [] := ⟨by simp, by simp⟩

theorem cons (h : UnderExpansion w within) (hq : readText w.files q = .ok text)
    (hnew : ∀ p ∈ within, p.components ≠ q.components) : UnderExpansion w (q :: within) := by
  refine ⟨fun p hp => ?_, ?_⟩
  · rcases List.mem_cons.1 hp with rfl | hp
    · exact ⟨text, hq⟩
    · exact h.readable p hp
  · refine List.nodup_cons.2 ⟨fun hmem => ?_, h.distinct⟩
    obtain ⟨p, hp, heq⟩ := List.mem_map.1 hmem
    exact hnew p hp heq

theorem lookup_of_readText (h : readText w.files q = .ok text) :
    ∃ place, w.files.lookup q = .found place (.file (some text)) := by
  rw [readText] at h
  rcases hq : w.files.lookup q with _ | _ | ⟨place, (_ | text') | _⟩ <;> rw [hq] at h <;> cases h
  exact ⟨place, rfl⟩

theorem length_lt (h : UnderExpansion w within) : within.length < pathBound w.files := by
  have hsub : within.map Path.components ⊆ words (letters w.files) (FileTree.pathLimit + 1) := by
    intro c hc
    obtain ⟨p, hp, rfl⟩ := List.mem_map.1 hc
    obtain ⟨text, htext⟩ := h.readable p hp
    obtain ⟨place, hplace⟩ := lookup_of_readText htext
    exact components_mem_words hplace
  have hle := (List.subperm_of_subset h.distinct hsub).length_le
  rw [List.length_map] at hle
  exact Nat.lt_of_le_of_lt hle (length_words_lt w.files)

end UnderExpansion

end Document

end SmartHome
