import Mathlib.Data.List.DropRight
import SmartHome.Files.Path

/-!
# The names in a path

A path names what those of its pieces name that are not idle (`names`). The names of a path read
from a directory are those of the directory and then its own (`names_join`), and the directory of a
path that names anything has all its names but the last (`parent?_spec`). Components are names with
a mark in front, so paths with the same components have the same names (`names_eq_of_components`).
-/

namespace SmartHome

namespace Path

section Pieces

/-- The pieces that are not idle. -/
def named (ss : List (List UInt8)) : List (List UInt8) := ss.filter fun s => !isIdle s

theorem named_append (ss ts : List (List UInt8)) : named (ss ++ ts) = named ss ++ named ts :=
  List.filter_append ..

theorem prefix_dropIdle (ss : List (List UInt8)) : dropIdle ss <+: ss :=
  List.rdropWhile_prefix isIdle ss

theorem named_dropIdle (ss : List (List UInt8)) : named (dropIdle ss) = named ss := by
  have drop : ∀ l : List (List UInt8),
      (l.dropWhile isIdle).filter (fun s => !isIdle s) = l.filter fun s => !isIdle s := by
    intro l
    induction l with
    | nil => rfl
    | cons s l ih => by_cases hs : isIdle s <;> simp [hs, ih]
  rw [named, named, dropIdle, List.filter_reverse, drop, List.filter_reverse, List.reverse_reverse]

/-- The last of the pieces that are left is not idle, so taking it away takes a name away. -/
theorem named_dropLast {ss : List (List UInt8)} (hne : dropIdle ss ≠ []) :
    named (dropIdle ss).dropLast = (named ss).dropLast := by
  have hlast : isIdle ((dropIdle ss).getLast hne) = false :=
    Bool.eq_false_iff.2 (List.rdropWhile_last_not isIdle ss hne)
  have hone : named [(dropIdle ss).getLast hne] = [(dropIdle ss).getLast hne] := by
    simp [named, hlast]
  rw [← named_dropIdle ss]
  conv_rhs => rw [← List.dropLast_concat_getLast hne]
  rw [named_append, hone, List.dropLast_concat]

/-- The idle pieces at the end. -/
def ending : List (List UInt8) → List (List UInt8)
  | [] => []
  | s :: ss => if (s :: ss).all isIdle then s :: ss else ending ss

theorem all_ending (ss : List (List UInt8)) : (ending ss).all isIdle = true := by
  induction ss with
  | nil => rfl
  | cons s ss ih =>
    rw [ending]
    split
    · assumption
    · exact ih

theorem ending_cons {s : List UInt8} {ss : List (List UInt8)} (h : ¬ (s :: ss).all isIdle = true) :
    ending (s :: ss) = ending ss := by
  rw [ending, if_neg h]

theorem ending_append {ts : List (List UInt8)} (h : ¬ ts.all isIdle = true) :
    ∀ ss : List (List UInt8), ending (ss ++ ts) = ending ts
  | [] => rfl
  | s :: ss => by
    have hall : ¬ (s :: (ss ++ ts)).all isIdle = true := by
      rw [List.all_cons, List.all_append]
      simp [h]
    rw [List.cons_append, ending_cons hall, ending_append h ss]

theorem ending_eq_nil {ss : List (List UInt8)}
    (h : ∀ s, ss.getLast? = some s → isIdle s = false) : ending ss = [] := by
  induction ss with
  | nil => rfl
  | cons s ss ih =>
    have hlast : isIdle ((s :: ss).getLast (by simp)) = false :=
      h _ (List.getLast?_eq_some_getLast _)
    have hall : ¬ (s :: ss).all isIdle = true := fun hall => by
      rw [List.all_eq_true] at hall
      simp [hall _ (List.getLast_mem _)] at hlast
    rw [ending_cons hall]
    exact ih fun r hr => h r (by rw [List.getLast?_cons, hr]; rfl)

theorem isIdle_getLast {ss : List (List UInt8)} (h : ending ss = []) {s : List UInt8}
    (hs : ss.getLast? = some s) : isIdle s = false := by
  obtain ⟨front, rfl⟩ := List.getLast?_eq_some_iff.1 hs
  refine Bool.eq_false_iff.2 fun hidle => ?_
  induction front with
  | nil => simp [ending, hidle] at h
  | cons r front ih =>
    rw [List.cons_append, ending] at h
    split at h
    · cases h
    · exact ih h List.getLast?_concat

/-- Pieces without separators come back from the text they join to, but for idle ones. -/
theorem named_splitAll_join {ss : List (List UInt8)} (h : ∀ s ∈ ss, slash ∉ s) :
    named (Split.splitAll slash (Split.join slash ss)) = named ss := by
  rcases ss with _ | ⟨s, ss⟩
  · rfl
  · rw [Split.splitAll_join (List.cons_ne_nil s ss) h]

theorem head?_join {s : List UInt8} {ss : List (List UInt8)} (hs : s ≠ []) :
    (Split.join slash (s :: ss)).head? = s.head? := by
  obtain ⟨c, s, rfl⟩ := List.exists_cons_of_ne_nil hs
  rcases ss with _ | ⟨t, ss⟩ <;> rfl

theorem head?_splitAll {s : List UInt8} (h : (Split.splitAll slash s).head? = some []) :
    s = [] ∨ s.head? = some slash := by
  rcases s with _ | ⟨c, s⟩
  · exact .inl rfl
  · by_cases hc : c = slash
    · exact .inr (by rw [hc]; rfl)
    · rcases hp : Split.splitAll slash s with _ | ⟨p, ps⟩ <;> simp [Split.splitAll, hc, hp] at h

end Pieces

variable {p q base : Path}

/-- The pieces that name something. -/
def names (p : Path) : List (List UInt8) := named p.segments

theorem separator_not_mem {s : List UInt8} (h : s ∈ p.segments) : slash ∉ s :=
  Split.not_mem_of_mem_splitAll h

theorem mem_names {s : List UInt8} (h : s ∈ p.names) : slash ∉ s ∧ s ≠ [] ∧ s ≠ [dot] := by
  obtain ⟨hs, hidle⟩ := List.mem_filter.1 h
  exact ⟨separator_not_mem hs, by simpa [isIdle] using hidle⟩

/-- A byte other than the separator and the dot is in a path if it is in one of its names. -/
theorem mem_bytes_iff {c : UInt8} (hslash : c ≠ slash) (hdot : c ≠ dot) :
    c ∈ p.bytes ↔ ∃ s ∈ p.names, c ∈ s := by
  rw [← Split.join_splitAll slash p.bytes, Split.mem_join hslash]
  constructor
  · rintro ⟨s, hs, hc⟩
    refine ⟨s, List.mem_filter.2 ⟨hs, ?_⟩, hc⟩
    have hne : s ≠ [] := List.ne_nil_of_mem hc
    have hne' : s ≠ [dot] := by
      rintro rfl
      exact hdot (List.mem_singleton.1 hc)
    simp [isIdle, hne, hne']
  · rintro ⟨s, hs, hc⟩
    exact ⟨s, (List.mem_filter.1 hs).1, hc⟩

/-- A path names something if its last piece does. -/
theorem names_ne_nil_of_last (h : ∀ s, p.segments.getLast? = some s → isIdle s = false) :
    p.names ≠ [] := by
  have hne : p.segments ≠ [] := Split.splitAll_ne_nil slash _
  have hlast := h (p.segments.getLast hne) (List.getLast?_eq_some_getLast hne)
  exact List.ne_nil_of_mem (List.mem_filter.2 ⟨List.getLast_mem hne, by simp [hlast]⟩)

section Join

theorem segments_append (a b : List UInt8) :
    segments ⟨⟨a ++ slash :: b⟩⟩ = segments ⟨⟨a⟩⟩ ++ segments ⟨⟨b⟩⟩ :=
  Split.splitAll_append slash a b

theorem join_of_isAbsolute (h : p.isAbsolute = true) : base.join p = p := by
  simp [join, h]

/-- The bytes of a joined path are those of the directory, with one separator behind them, and then
those of the path. -/
theorem join_cases (base : Path) (h : p.isAbsolute = false) : base.bytes = [] ∧ base.join p = p
    ∨ (∃ a, base.bytes = a ++ [slash] ∧ base.join p = ⟨⟨a ++ slash :: p.bytes⟩⟩)
    ∨ base.bytes ≠ [] ∧ base.join p = ⟨⟨base.bytes ++ slash :: p.bytes⟩⟩ := by
  by_cases hbase : base.bytes = []
  · exact .inl ⟨hbase, by simp [join, hbase]⟩
  · by_cases hlast : base.bytes.getLast? = some slash
    · obtain ⟨a, ha⟩ := List.getLast?_eq_some_iff.1 hlast
      refine .inr (.inl ⟨a, ha, ?_⟩)
      rw [join, h, Bool.false_or, if_neg (by simpa using hbase), if_pos hlast, ha,
        List.append_assoc, List.singleton_append]
    · refine .inr (.inr ⟨hbase, ?_⟩)
      rw [join, h, Bool.false_or, if_neg (by simpa using hbase), if_neg hlast]

theorem isAbsolute_append {a b : List UInt8} (h : a ≠ []) :
    isAbsolute ⟨⟨a ++ b⟩⟩ = isAbsolute ⟨⟨a⟩⟩ := by
  obtain ⟨c, cs, rfl⟩ := List.exists_cons_of_ne_nil h
  rfl

theorem isAbsolute_join (h : p.isAbsolute = false) :
    (base.join p).isAbsolute = base.isAbsolute := by
  obtain ⟨hbase, hj⟩ | ⟨a, ha, hj⟩ | ⟨hbase, hj⟩ := join_cases base h
  · rw [hj, h, isAbsolute, hbase]
    rfl
  · have hsplit : a ++ slash :: p.bytes = base.bytes ++ p.bytes := by simp [ha]
    rw [hj, hsplit]
    exact isAbsolute_append (by simp [ha])
  · rw [hj]
    exact isAbsolute_append hbase

theorem names_join (h : p.isAbsolute = false) : (base.join p).names = base.names ++ p.names := by
  obtain ⟨hbase, hj⟩ | ⟨a, ha, hj⟩ | ⟨-, hj⟩ := join_cases base h
  · have hnone : base.names = [] := by rw [names, segments, hbase]; rfl
    rw [hj, hnone, List.nil_append]
  · have hnames : base.names = named (segments ⟨⟨a⟩⟩) := by
      have hsegments : base.segments = segments ⟨⟨a⟩⟩ ++ segments ⟨⟨[]⟩⟩ := by
        rw [← segments_append, ← ha]
        rfl
      rw [names, hsegments, named_append]
      exact List.append_nil _
    rw [hj, hnames, names, segments_append, named_append]
    rfl
  · rw [hj, names, segments_append, named_append]
    rfl

theorem segments_join (base : Path) (h : p.isAbsolute = false) :
    ∃ ss, (base.join p).segments = ss ++ p.segments := by
  obtain ⟨-, hj⟩ | ⟨a, -, hj⟩ | ⟨-, hj⟩ := join_cases base h
  · exact ⟨[], by rw [hj, List.nil_append]⟩
  · exact ⟨segments ⟨⟨a⟩⟩, by rw [hj]; exact segments_append a p.bytes⟩
  · exact ⟨base.segments, by rw [hj]; exact segments_append base.bytes p.bytes⟩

theorem getLast?_segments_join (base p : Path) :
    (base.join p).segments.getLast? = p.segments.getLast? := by
  rcases h : p.isAbsolute with _ | _
  · obtain ⟨ss, hss⟩ := segments_join base h
    have hne : p.segments ≠ [] := Split.splitAll_ne_nil slash p.bytes
    rw [hss, List.getLast?_append_of_ne_nil _ hne]
  · rw [join_of_isAbsolute h]

theorem ending_segments_join (base : Path) (h : p.names ≠ []) :
    ending (base.join p).segments = ending p.segments := by
  rcases habs : p.isAbsolute with _ | _
  · obtain ⟨ss, hss⟩ := segments_join base habs
    have hall : ¬ p.segments.all isIdle = true := by
      intro hall
      refine h (List.filter_eq_nil_iff.2 fun s hs => ?_)
      simp [List.all_eq_true.1 hall s hs]
    rw [hss, ending_append hall]
  · rw [join_of_isAbsolute habs]

theorem length_join_le (base p : Path) :
    (base.join p).bytes.length ≤ base.bytes.length + 1 + p.bytes.length := by
  rcases h : p.isAbsolute with _ | _
  · obtain ⟨-, hj⟩ | ⟨a, ha, hj⟩ | ⟨-, hj⟩ := join_cases base h <;> rw [hj]
    · omega
    · rw [ha]
      simp [bytes]
      omega
    · simp [bytes]
      omega
  · rw [join_of_isAbsolute h]
    omega

theorem le_length_join (base : Path) (h : p.isAbsolute = false) :
    base.bytes.length + p.bytes.length ≤ (base.join p).bytes.length := by
  obtain ⟨hbase, hj⟩ | ⟨a, ha, hj⟩ | ⟨-, hj⟩ := join_cases base h
  · rw [hj, hbase]
    exact Nat.le_of_eq (Nat.zero_add _)
  · rw [hj, ha]
    simp [bytes]
    omega
  · rw [hj]
    simp [bytes]

theorem length_le_join (base p : Path) : p.bytes.length ≤ (base.join p).bytes.length := by
  rcases h : p.isAbsolute with _ | _
  · exact Nat.le_trans (Nat.le_add_left _ _) (le_length_join base h)
  · rw [join_of_isAbsolute h]

theorem mem_join {c : UInt8} (hslash : c ≠ slash) (hbase : c ∉ base.bytes) :
    c ∈ (base.join p).bytes ↔ c ∈ p.bytes := by
  rcases h : p.isAbsolute with _ | _
  · obtain ⟨-, hj⟩ | ⟨a, ha, hj⟩ | ⟨-, hj⟩ := join_cases base h
    · rw [hj]
    · rw [ha] at hbase
      rw [hj]
      simp_all [bytes]
    · rw [hj]
      simp_all [bytes]
  · rw [join_of_isAbsolute h]

theorem mem_join_of_mem {c : UInt8} (h : c ∈ p.bytes) : c ∈ (base.join p).bytes := by
  rcases habs : p.isAbsolute with _ | _
  · obtain ⟨-, hj⟩ | ⟨a, -, hj⟩ | ⟨-, hj⟩ := join_cases base habs <;> rw [hj] <;>
      simp_all [bytes]
  · rwa [join_of_isAbsolute habs]

theorem bytes_join_ne_nil (hbase : base.bytes ≠ []) : (base.join p).bytes ≠ [] := by
  rcases habs : p.isAbsolute with _ | _
  · obtain ⟨hempty, -⟩ | ⟨a, -, hj⟩ | ⟨-, hj⟩ := join_cases base habs
    · exact absurd hempty hbase
    all_goals
      rw [hj]
      simp [bytes]
  · rw [join_of_isAbsolute habs]
    rintro h
    simp [isAbsolute, h] at habs

end Join

section Parent

theorem head?_join_of_initial {ss ts : List (List UInt8)} (hss : ss <+: ts)
    (hts : ts.head? ≠ some []) (hsep : ∀ s ∈ ts, slash ∉ s) :
    (Split.join slash ss).head? ≠ some slash := by
  rcases ss with _ | ⟨s, ss⟩
  · simp [Split.join]
  · obtain ⟨tail, rfl⟩ := hss
    have hs : s ≠ [] := fun h => hts (by simp [h])
    have hmem : slash ∉ s := hsep s (by simp)
    rw [head?_join hs]
    exact fun h => hmem (List.mem_of_head? h)

theorem names_mk (bs : List UInt8) : names ⟨⟨bs⟩⟩ = named (Split.splitAll slash bs) := rfl

theorem segments_of_isAbsolute (h : p.isAbsolute = true) :
    p.segments = [] :: p.segments.drop 1 := by
  have hhead : p.bytes.head? = some slash := of_decide_eq_true h
  obtain ⟨cs, hcs⟩ := List.head?_eq_some_iff.1 hhead
  simp [segments, hcs, Split.splitAll]

theorem exists_dropIdle {ss : List (List UInt8)} (h : named ss ≠ []) :
    ∃ b bs, dropIdle ss = b :: bs := by
  refine List.exists_cons_of_ne_nil fun hnil => h ?_
  rw [← named_dropIdle, hnil]
  rfl

theorem named_parent {ss : List (List UInt8)} (h : named ss ≠ []) :
    named (dropIdle (dropIdle ss).dropLast) = (named ss).dropLast := by
  obtain ⟨b, bs, hb⟩ := exists_dropIdle h
  rw [named_dropIdle, named_dropLast (by simp [hb])]

theorem mem_of_mem_parent {ss : List (List UInt8)} {s : List UInt8}
    (h : s ∈ dropIdle (dropIdle ss).dropLast) : s ∈ ss :=
  (prefix_dropIdle ss).subset (List.dropLast_subset _ ((prefix_dropIdle _).subset h))

/-- The pieces before the last name, joined again, keep the names before the last. -/
theorem named_join_parent {ss : List (List UInt8)} (hsub : ss ⊆ p.segments)
    (hnamed : named ss = p.names) (h : p.names ≠ []) :
    named (Split.splitAll slash (Split.join slash (dropIdle (dropIdle ss).dropLast)))
      = p.names.dropLast := by
  rw [named_splitAll_join fun s hs => separator_not_mem (hsub (mem_of_mem_parent hs)),
    named_parent (by rwa [hnamed]), hnamed]

theorem parent?_of_isAbsolute (h : p.names ≠ []) (habs : p.isAbsolute = true) :
    ∃ d, p.parent? = some d ∧ d.names = p.names.dropLast ∧ d.isAbsolute = true := by
  have hnamed : named (p.segments.drop 1) = p.names := by
    rw [names, segments_of_isAbsolute habs]
    rfl
  obtain ⟨b, bs, hb⟩ := exists_dropIdle (by rwa [hnamed])
  have hjoined := named_join_parent (List.drop_subset 1 _) hnamed h
  rw [hb] at hjoined
  refine ⟨⟨⟨slash :: Split.join slash (dropIdle (b :: bs).dropLast)⟩⟩, ?_, ?_, ?_⟩
  · simp only [parent?, habs, if_true, hb]
    rfl
  · rw [names_mk, ← hjoined]
    rfl
  · simp [isAbsolute]

theorem parent?_of_dot (h : p.names ≠ []) (habs : p.isAbsolute = false)
    (hdot : p.segments.head? = some [dot]) :
    ∃ d, p.parent? = some d ∧ d.names = p.names.dropLast ∧ d.isAbsolute = false := by
  obtain ⟨tail, htail⟩ := List.head?_eq_some_iff.1 hdot
  have hnamed : named (p.segments.drop 1) = p.names := by
    rw [names, htail]
    rfl
  obtain ⟨b, bs, hb⟩ := exists_dropIdle (by rwa [hnamed])
  have hjoined := named_join_parent (List.drop_subset 1 _) hnamed h
  rw [hb] at hjoined
  refine ⟨⟨⟨if (dropIdle (b :: bs).dropLast).isEmpty then [dot]
    else dot :: slash :: Split.join slash (dropIdle (b :: bs).dropLast)⟩⟩, ?_, ?_, ?_⟩
  · simp only [parent?, habs, hdot, Bool.false_eq_true, if_false, if_true, hb]
  · rw [names_mk, ← hjoined]
    by_cases hempty : dropIdle (b :: bs).dropLast = []
    · rw [hempty]
      rfl
    · rw [if_neg (by simpa using hempty)]
      rfl
  · split <;> simp [isAbsolute, dot_ne_slash]

theorem parent?_of_bare (h : p.names ≠ []) (habs : p.isAbsolute = false)
    (hdot : p.segments.head? ≠ some [dot]) :
    ∃ d, p.parent? = some d ∧ d.names = p.names.dropLast ∧ d.isAbsolute = false := by
  obtain ⟨b, bs, hb⟩ := @exists_dropIdle p.segments h
  have hjoined := named_join_parent (List.Subset.refl _) rfl h
  rw [hb] at hjoined
  refine ⟨⟨⟨Split.join slash (dropIdle (b :: bs).dropLast)⟩⟩, ?_, ?_, ?_⟩
  · simp only [parent?, habs, hdot, Bool.false_eq_true, if_false, hb]
    rfl
  · rw [names_mk, hjoined]
  · have hhead : p.segments.head? ≠ some [] := by
      intro hnil
      rcases head?_splitAll hnil with htext | hslash
      · exact h (by rw [names, segments, htext]; rfl)
      · simp [isAbsolute, hslash] at habs
    have hpre : dropIdle (b :: bs).dropLast <+: p.segments := by
      rw [← hb]
      exact ((prefix_dropIdle _).trans (List.dropLast_prefix _)).trans (prefix_dropIdle _)
    exact decide_eq_false (head?_join_of_initial hpre hhead fun s => separator_not_mem)

/-- The directory of a path that names anything. -/
theorem parent?_spec (h : p.names ≠ []) :
    ∃ d, p.parent? = some d ∧ d.names = p.names.dropLast ∧ d.isAbsolute = p.isAbsolute := by
  rcases habs : p.isAbsolute with _ | _
  · by_cases hdot : p.segments.head? = some [dot]
    · exact parent?_of_dot h habs hdot
    · exact parent?_of_bare h habs hdot
  · exact parent?_of_isAbsolute h habs

end Parent

section Components

/-- No name is one of the marks in front of components. -/
theorem mark_not_mem :
    OsText.mk [slash] ∉ p.names.map OsText.mk ∧ OsText.mk [dot] ∉ p.names.map OsText.mk := by
  constructor
  · intro h
    obtain ⟨s, hs, hslash⟩ := List.mem_map.1 h
    cases hslash
    exact (mem_names hs).1 List.mem_cons_self
  · intro h
    obtain ⟨s, hs, hdot⟩ := List.mem_map.1 h
    cases hdot
    exact (mem_names hs).2.2 rfl

/-- The mark in front of a path's components. -/
def mark (p : Path) : List OsText :=
  if p.isAbsolute then ["/"] else if p.segments.head? = some [dot] then ["."] else []

theorem components_eq (p : Path) : p.components = p.mark ++ p.names.map OsText.mk := by
  rw [components, mark]
  split
  · rfl
  · split <;> rfl

theorem mark_cases (p : Path) : p.mark = [⟨[slash]⟩] ∧ p.isAbsolute = true
    ∨ p.mark = [⟨[dot]⟩] ∧ p.isAbsolute = false ∨ p.mark = [] ∧ p.isAbsolute = false := by
  rw [mark]
  split
  · exact .inl ⟨rfl, ‹_›⟩
  · have hrel : p.isAbsolute = false := by simpa using ‹¬p.isAbsolute = true›
    split
    · exact .inr (.inl ⟨rfl, hrel⟩)
    · exact .inr (.inr ⟨rfl, hrel⟩)

theorem names_eq_of_components (h : p.components = q.components) :
    p.names = q.names ∧ p.isAbsolute = q.isAbsolute := by
  obtain ⟨hp, hp'⟩ := @mark_not_mem p
  obtain ⟨hq, hq'⟩ := @mark_not_mem q
  rw [components_eq, components_eq] at h
  have hsame : p.names.map OsText.mk = q.names.map OsText.mk
      ∧ p.isAbsolute = q.isAbsolute := by
    generalize p.names.map OsText.mk = ns at h hp hp'
    generalize q.names.map OsText.mk = ms at h hq hq'
    obtain ⟨hm, ha⟩ | ⟨hm, ha⟩ | ⟨hm, ha⟩ := mark_cases p <;>
      obtain ⟨hm', ha'⟩ | ⟨hm', ha'⟩ | ⟨hm', ha'⟩ := mark_cases q <;>
        rw [hm, hm'] at h <;> rw [ha, ha'] <;> 
          simp_all [dot_ne_slash, dot_ne_slash.symm]
    · exact absurd (h ▸ List.mem_cons_self) hq
    · exact absurd (h ▸ List.mem_cons_self) hq'
  have hinj : Function.Injective OsText.mk := fun a b hab => congrArg OsText.bytes hab
  exact ⟨List.map_injective_iff.2 hinj hsame.1, hsame.2⟩

/-- The components of a path read from the directory the dot names. -/
theorem components_join_dot (p : Path) : (join ⟨"."⟩ p).components
    = ⟨[if p.isAbsolute then slash else dot]⟩ :: p.names.map OsText.mk := by
  rcases h : p.isAbsolute with _ | _
  · have hrel : (join ⟨"."⟩ p).isAbsolute = false := isAbsolute_join h
    have hdot : (join ⟨"."⟩ p).segments.head? = some [dot] := by
      have hjoin : join ⟨"."⟩ p = ⟨⟨[dot] ++ slash :: p.bytes⟩⟩ := by
        rw [join, h]
        rfl
      rw [hjoin, segments_append]
      rfl
    rw [components_eq, mark, hrel, hdot, names_join h]
    rfl
  · rw [join_of_isAbsolute h, components_eq, mark, if_pos h]
    rfl

end Components

end Path

end SmartHome
