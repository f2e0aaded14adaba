import SmartHome.Document.Loader
import SmartHome.Proofs.Dictionary
import SmartHome.Proofs.Path

/-!
# Where the names of a path lead

A path leads from a place to what its names lead to (`leads`). This is what it finds when it is
looked up (`leads_of_lookup`), its length and idle pieces at its end aside (`lookup_eq`): these find
a directory only if it can be gone through, and no file. Places compose: a path read from a
directory leads to where it leads from the directory's place (`leads_join`), and the directory of a
document leads to the place above the document's (`leads_directoryOf`), since whatever holds a
directory is a directory.
-/

namespace SmartHome

namespace FileTree

variable {t : FileTree} {P D place : Place} {e : Entry} {a : Access} {p d : Path}

section Below

theorem entry?_workingDirectory (t : FileTree) :
    t.entry? t.workingDirectory = some (.directory (t.accessAt t.workingDirectory)) := by
  simp [FileTree.entry?, hasBelow]

theorem entry?_root (t : FileTree) : t.entry? [] = some (.directory (t.accessAt [])) := by
  simp [FileTree.entry?, hasBelow]

theorem mem_of_entry?_file {text : Option String} (h : t.entry? P = some (.file text)) :
    (P, Entry.file text) ∈ t.entries.entries := by
  rw [FileTree.entry?] at h
  split at h
  · cases h
  · exact Dict.get?_eq_some_iff.1 h

theorem hasBelow_dropLast (h : t.hasBelow P = true) : t.hasBelow P.dropLast = true := by
  have hpre : P.dropLast <+: P := List.dropLast_prefix P
  simp only [hasBelow, Bool.or_eq_true, List.isPrefixOf_iff_prefix, List.any_eq_true,
    Bool.and_eq_true, decide_eq_true_eq] at h ⊢
  rcases h with h | ⟨key, hkey, hP, hne⟩
  · exact .inl (hpre.trans h)
  · refine .inr ⟨key, hkey, hpre.trans hP, fun heq => hne ?_⟩
    have hlength : P.length ≤ P.dropLast.length := by
      rw [heq]
      exact hP.length_le
    have hsame : P.dropLast = P := hpre.eq_of_length_le hlength
    rw [← heq, hsame]

/-- What holds a directory is a directory. -/
theorem entry?_dropLast (h : t.entry? P = some (.directory a)) :
    ∃ b, t.entry? P.dropLast = some (.directory b) := by
  rw [FileTree.entry?] at h
  split_ifs at h with hbelow
  · exact ⟨_, by rw [FileTree.entry?, if_pos (hasBelow_dropLast hbelow)]⟩
  · by_cases hP : P = []
    · rw [hP]
      exact ⟨_, entry?_root t⟩
    · have hkey : P ∈ t.entries.keys := by
        rw [← Dict.contains_iff, Dict.contains, h]
        rfl
      have hne : P.dropLast ≠ P := by
        intro heq
        have hlength := congrArg List.length heq
        rw [List.length_dropLast] at hlength
        have hpos := List.length_pos_iff.2 hP
        omega
      have hparent : t.hasBelow P.dropLast = true := by
        simp only [hasBelow, Bool.or_eq_true, List.isPrefixOf_iff_prefix, List.any_eq_true,
          Bool.and_eq_true, decide_eq_true_eq]
        exact .inr ⟨P, hkey, List.dropLast_prefix P, hne⟩
      exact ⟨_, by rw [FileTree.entry?, if_pos hparent]⟩

end Below

section Follow

theorem follow_nil (h : t.follow place [] = .found P e) : place = P ∧ t.entry? P = some e := by
  rw [follow] at h
  rcases he : t.entry? place with _ | e' <;> rw [he] at h
  · cases h
  · cases h
    exact ⟨rfl, he⟩

/-- One piece leads from a directory to the next place, whatever comes after it; unless the piece is
empty, the directory has to allow it. -/
theorem follow_cons {s : List UInt8} {ss : List (List UInt8)}
    (h : t.follow place (s :: ss) = .found P e) : ∃ a, t.entry? place = some (.directory a)
      ∧ (s = [] ∨ a.search = true)
      ∧ ∃ next, t.follow next ss = .found P e
        ∧ (∀ ts, t.follow place (s :: ts) = t.follow next ts)
        ∧ (Path.isIdle s = true ∧ next = place
          ∨ Path.isIdle s = false ∧ s = [Path.dot, Path.dot] ∧ next = place.dropLast
          ∨ Path.isIdle s = false ∧ s ≠ [Path.dot, Path.dot] ∧ next = place ++ [⟨s⟩]) := by
  rcases hdir : t.entry? place with _ | text | a <;> simp only [follow, hdir] at h
  case some.directory =>
    by_cases hempty : s = []
    · have hnext : ∀ ts, t.follow place (s :: ts) = t.follow place ts := by
        intro ts
        rw [follow, hdir]
        simp only [hempty, if_true]
      rw [if_pos hempty] at h
      exact ⟨a, rfl, .inl hempty, place, h, hnext, .inl ⟨by simp [Path.isIdle, hempty], rfl⟩⟩
    · rcases hsearch : a.search with _ | _
      · simp [hempty, hsearch] at h
      · have hstep : ∀ ts, t.follow place (s :: ts) = if s = [Path.dot] then t.follow place ts
            else if s = [Path.dot, Path.dot] then t.follow place.dropLast ts
            else if nameLimit < s.length then .unusable
            else t.follow (place ++ [⟨s⟩]) ts := by
          intro ts
          rw [follow, hdir]
          simp [hempty, hsearch]
        simp only [hempty, hsearch, Bool.not_true, Bool.false_eq_true, if_false] at h
        refine ⟨a, rfl, .inr hsearch, ?_⟩
        by_cases hdot : s = [Path.dot]
        · rw [if_pos hdot] at h
          exact ⟨place, h, fun ts => by rw [hstep, if_pos hdot],
            .inl ⟨by simp [Path.isIdle, hdot], rfl⟩⟩
        · have hidle : Path.isIdle s = false := by simp [Path.isIdle, hempty, hdot]
          rw [if_neg hdot] at h
          by_cases hup : s = [Path.dot, Path.dot]
          · rw [if_pos hup] at h
            exact ⟨place.dropLast, h, fun ts => by rw [hstep, if_neg hdot, if_pos hup],
              .inr (.inl ⟨hidle, hup, rfl⟩)⟩
          · rw [if_neg hup] at h
            by_cases hlong : nameLimit < s.length
            · rw [if_pos hlong] at h
              cases h
            · rw [if_neg hlong] at h
              exact ⟨place ++ [⟨s⟩], h,
                fun ts => by rw [hstep, if_neg hdot, if_neg hup, if_neg hlong],
                .inr (.inr ⟨hidle, hup, rfl⟩)⟩
  all_goals cases h

theorem entry?_of_follow : ∀ {ss : List (List UInt8)} {place : Place},
    t.follow place ss = .found P e → t.entry? P = some e
  | [], _, h => (follow_nil h).2
  | _ :: _, _, h => by
    obtain ⟨-, -, -, next, hnext, -⟩ := follow_cons h
    exact entry?_of_follow hnext

theorem follow_append {ts : List (List UInt8)} : ∀ {ss : List (List UInt8)} {place : Place},
    t.follow place ss = .found P e → t.follow place (ss ++ ts) = t.follow P ts
  | [], _, h => by rw [(follow_nil h).1, List.nil_append]
  | s :: ss, place, h => by
    obtain ⟨-, -, -, next, hnext, hall, -⟩ := follow_cons h
    rw [List.cons_append, hall]
    exact follow_append hnext

/-- What is found along pieces is found by way of what the first of them lead to. -/
theorem follow_split {ts : List (List UInt8)} : ∀ {ss : List (List UInt8)} {place : Place},
    t.follow place (ss ++ ts) = .found P e →
      ∃ Q e', t.follow place ss = .found Q e' ∧ t.follow Q ts = .found P e
  | [], place, h => by
    have hentry : ∃ e', t.entry? place = some e' := by
      rcases ts with _ | ⟨s, ts⟩
      · obtain ⟨rfl, he⟩ := follow_nil h
        exact ⟨e, he⟩
      · obtain ⟨a, hdir, -⟩ := follow_cons h
        exact ⟨_, hdir⟩
    obtain ⟨e', he'⟩ := hentry
    exact ⟨place, e', by rw [follow, he'], h⟩
  | s :: ss, place, h => by
    obtain ⟨-, -, -, next, hnext, hall, -⟩ := follow_cons h
    obtain ⟨Q, e', hQ, hP⟩ := follow_split hnext
    exact ⟨Q, e', by rw [hall, hQ], hP⟩

/-- Idle pieces lead nowhere else, and only from a directory. -/
theorem follow_idle : ∀ {ss : List (List UInt8)}, ss.all Path.isIdle = true →
    t.follow place ss = .found P e →
      place = P ∧ t.entry? P = some e ∧ (ss = [] ∨ ∃ a, e = .directory a)
  | [], _, h => ⟨(follow_nil h).1, (follow_nil h).2, .inl rfl⟩
  | s :: ss, hidle, h => by
    rw [List.all_cons, Bool.and_eq_true] at hidle
    obtain ⟨a, hdir, -, next, hnext, -, ⟨-, hplace⟩ | ⟨hs, -⟩ | ⟨hs, -⟩⟩ := follow_cons h
    · obtain ⟨hP, hentry, -⟩ := follow_idle hidle.2 (hplace ▸ hnext)
      rw [hP, hentry] at hdir
      exact ⟨hP, hentry, .inr ⟨a, Option.some.inj hdir⟩⟩
    all_goals simp [hs] at hidle

/-- No piece leads from a directory that does not allow it, but for empty ones. -/
theorem follow_unsearchable (hdir : t.entry? place = some (.directory a))
    (ha : a.search = false) : ∀ {ss : List (List UInt8)}, ¬ ss.all Path.isIdle = true →
      t.follow place ss = .unusable
  | [], h => absurd rfl h
  | s :: ss, h => by
    rw [follow, hdir]
    by_cases hs : s = []
    · have hrest : ¬ ss.all Path.isIdle = true := by simpa [hs, Path.isIdle] using h
      simpa only [hs, if_true] using follow_unsearchable hdir ha hrest
    · simp [hs, ha]

/-- An idle piece in front of a name changes nothing: the name needs what the piece needs. -/
theorem follow_cons_idle {s : List UInt8} {ss : List (List UInt8)} (hs : Path.isIdle s = true)
    (hss : ¬ ss.all Path.isIdle = true) : t.follow place (s :: ss) = t.follow place ss := by
  obtain ⟨r, rs, rfl⟩ := List.exists_cons_of_ne_nil fun hnil : ss = [] => hss (by rw [hnil]; rfl)
  rcases hdir : t.entry? place with _ | text | a
  · rw [follow, follow, hdir]
  · rw [follow, follow, hdir]
  · by_cases hempty : s = []
    · rw [follow, hdir]
      simp only [hempty, if_true]
    · have hdot : s = [Path.dot] := by simpa [Path.isIdle, hempty] using hs
      rw [follow, hdir]
      rcases ha : a.search with _ | _
      · rw [follow_unsearchable hdir ha hss]
        simp [hempty, ha]
      · simp [hdot, ha]

/-- Only the names among the pieces count, and the idle pieces behind the last one. -/
theorem follow_eq : ∀ (ss : List (List UInt8)) (place : Place),
    t.follow place ss = t.follow place (Path.named ss ++ Path.ending ss)
  | [], _ => rfl
  | s :: ss, place => by
    by_cases hall : (s :: ss).all Path.isIdle = true
    · have hnamed : Path.named (s :: ss) = [] := by
        rw [Path.named, List.filter_eq_nil_iff]
        intro r hr
        simp [List.all_eq_true.1 hall r hr]
      rw [hnamed, List.nil_append, Path.ending, if_pos hall]
    · rw [Path.ending_cons hall]
      by_cases hs : Path.isIdle s = true
      · have hnamed : Path.named (s :: ss) = Path.named ss := by simp [Path.named, hs]
        have hss : ¬ ss.all Path.isIdle = true := by simpa [hs] using hall
        rw [hnamed, follow_cons_idle hs hss, follow_eq ss]
      · have hnamed : Path.named (s :: ss) = s :: Path.named ss := by simp [Path.named, hs]
        rw [hnamed, List.cons_append, follow, follow]
        simp only [← follow_eq ss]

theorem follow_named {ss : List (List UInt8)} (h : t.follow place ss = .found P e) :
    t.follow place (Path.named ss) = .found P e := by
  rw [follow_eq] at h
  obtain ⟨Q, e', hQ, hP⟩ := follow_split h
  obtain ⟨rfl, hentry, -⟩ := follow_idle (Path.all_ending ss) hP
  rw [hQ]
  rw [entry?_of_follow hQ] at hentry
  rw [Option.some.inj hentry]

/-- A file stands below the place that all pieces but the last lead to. -/
theorem follow_concat {text : Option String} : ∀ {ss : List (List UInt8)} {s : List UInt8}
    {place : Place}, Path.isIdle s = false → t.follow place (ss ++ [s]) = .found P (.file text) →
      ∃ a, t.follow place ss = .found P.dropLast (.directory a) ∧ a.search = true := by
  intro ss s place hs h
  obtain ⟨Q, e', hQ, hP⟩ := follow_split h
  obtain ⟨a, hdir, hsearch, next, hnext, -, ⟨hs', -⟩ | ⟨-, -, hup⟩ | ⟨-, -, hdown⟩⟩ :=
    follow_cons hP
  · rw [hs] at hs'
    cases hs'
  · -- going back leads to a directory, not to a file
    obtain ⟨hP, hfile⟩ := follow_nil hnext
    obtain ⟨b, hparent⟩ := entry?_dropLast hdir
    rw [← hP, hup, hparent] at hfile
    cases hfile
  · have hne : s ≠ [] := by
      rintro rfl
      cases hs
    rw [entry?_of_follow hQ] at hdir
    cases hdir
    rw [← (follow_nil hnext).1, hdown, List.dropLast_concat]
    exact ⟨a, hQ, hsearch.resolve_left hne⟩

end Follow

/-- Where the names of a path lead from a place. -/
def leads (t : FileTree) (place : Place) (p : Path) : Lookup :=
  t.follow (if p.isAbsolute then [] else place) p.names

theorem follow_of_lookup (h : t.lookup p = .found P e) : p.bytes.length ≤ pathLimit
    ∧ 0 ∉ p.bytes
    ∧ t.follow (if p.isAbsolute then [] else t.workingDirectory) p.segments = .found P e := by
  rw [lookup] at h
  split at h
  · cases h
  · split at h
    · cases h
    · rename_i hlimit
      simp only [Bool.or_eq_true, List.contains_iff_mem, decide_eq_true_eq, not_or,
        Nat.not_lt] at hlimit
      exact ⟨hlimit.2, hlimit.1, h⟩

theorem lookup_of_long (h : pathLimit < p.bytes.length) : t.lookup p = .unusable := by
  have hempty : p.bytes.isEmpty = false := by
    refine Bool.eq_false_iff.2 fun hbytes => ?_
    rw [List.isEmpty_iff.1 hbytes] at h
    exact absurd h (Nat.not_lt_zero _)
  simp [lookup, hempty, h]

theorem leads_of_lookup (h : t.lookup p = .found P e) :
    t.leads t.workingDirectory p = .found P e :=
  follow_named (follow_of_lookup h).2.2

theorem leads_congr (hn : p.names = d.names) (ha : p.isAbsolute = d.isAbsolute) :
    t.leads place p = t.leads place d := by
  rw [leads, leads, hn, ha]

theorem entry?_of_leads (h : t.leads place p = .found P e) : t.entry? P = some e :=
  entry?_of_follow h

/-- A path read from a directory leads to where it leads from the directory's place. -/
theorem leads_join (h : t.leads place d = .found D e) : t.leads place (d.join p) = t.leads D p := by
  rcases hp : p.isAbsolute with _ | _
  · have hfollow : t.follow (if d.isAbsolute then [] else place) d.names = .found D e := h
    rw [leads, leads, Path.isAbsolute_join hp, Path.names_join hp, hp, follow_append hfollow]
    rfl
  · rw [Path.join_of_isAbsolute hp, leads, leads, hp]
    rfl

/-- The path is one of the working directory: its names lead there. -/
structure IsWorking (t : FileTree) (p : Path) : Prop where
  leads : ∃ a, t.leads t.workingDirectory p = .found t.workingDirectory (.directory a)
  nonempty : p.bytes ≠ []
  nul : 0 ∉ p.bytes

theorem isWorking_of_lookup (h : t.lookup p = .found t.workingDirectory (.directory a)) :
    t.IsWorking p := by
  refine ⟨⟨a, leads_of_lookup h⟩, fun hempty => ?_, (follow_of_lookup h).2.1⟩
  rw [lookup, hempty] at h
  cases h

theorem isWorking_here (t : FileTree) : t.IsWorking Document.here := by
  refine ⟨⟨t.accessAt t.workingDirectory, ?_⟩, by decide, by decide⟩
  have hnames : Document.here.names = [] := rfl
  have hrel : Document.here.isAbsolute = false := rfl
  rw [leads, hnames, hrel, if_neg Bool.false_ne_true, follow, entry?_workingDirectory]

/-- A path read from the working directory leads to where it leads by itself. -/
theorem leads_working_join {base : Path} (hb : t.IsWorking base) (p : Path) :
    t.leads t.workingDirectory (base.join p) = t.leads t.workingDirectory p := by
  obtain ⟨a, ha⟩ := hb.leads
  exact leads_join ha

/-- Whatever a path leads to, looking it up goes on from there with the idle pieces at its end, if
it is no longer than a path may be. -/
theorem lookup_eq (hlong : p.bytes.length ≤ pathLimit) (hnul : 0 ∉ p.bytes) (hne : p.bytes ≠ [])
    (h : t.leads t.workingDirectory p = .found P e) :
    t.lookup p = t.follow P (Path.ending p.segments) := by
  have hempty : p.bytes.isEmpty = false := by simpa using hne
  have hlimit : (p.bytes.contains 0 || pathLimit < p.bytes.length) = false := by
    simpa [hnul] using hlong
  rw [lookup, hempty, hlimit, if_neg Bool.false_ne_true, if_neg Bool.false_ne_true, follow_eq]
  exact follow_append h

/-- Whatever a path leads to, looking it up finds it, if it is no longer than a path may be and no
idle piece comes last. -/
theorem lookup_of_leads (hlong : p.bytes.length ≤ pathLimit) (hnul : 0 ∉ p.bytes)
    (hlast : ∀ s, p.segments.getLast? = some s → Path.isIdle s = false)
    (h : t.leads t.workingDirectory p = .found P e) : t.lookup p = .found P e := by
  have hne : p.bytes ≠ [] := by
    intro hempty
    have hsegments : p.segments = [[]] := by
      rw [Path.segments, hempty]
      rfl
    exact absurd (hlast [] (by rw [hsegments]; rfl)) (by decide)
  rw [lookup_eq hlong hnul hne h, Path.ending_eq_nil hlast, follow, entry?_of_leads h]

/-- Idle pieces at the end find a directory that can be gone through. -/
theorem lookup_directory_of_leads (hlong : p.bytes.length ≤ pathLimit) (hnul : 0 ∉ p.bytes)
    (hne : p.bytes ≠ []) (h : t.leads t.workingDirectory p = .found P (.directory a))
    (ha : a.search = true) : t.lookup p = .found P (.directory a) := by
  have hdir := entry?_of_leads h
  have hstay : ∀ {ss : List (List UInt8)}, ss.all Path.isIdle = true →
      t.follow P ss = .found P (.directory a) := by
    intro ss hss
    induction ss with
    | nil => rw [follow, hdir]
    | cons s ss ih =>
      rw [List.all_cons, Bool.and_eq_true] at hss
      rw [follow, hdir, ← ih hss.2]
      by_cases hs : s = []
      · simp only [hs, if_true]
      · have hdot : s = [Path.dot] := by simpa [Path.isIdle, hs] using hss.1
        simp [hdot, ha]
  rw [lookup_eq hlong hnul hne h]
  exact hstay (Path.all_ending _)

/-- No idle piece comes last in the path of a file. -/
theorem last_of_lookup {text : Option String} (h : t.lookup p = .found P (.file text)) :
    ∀ s, p.segments.getLast? = some s → Path.isIdle s = false := by
  have hfollow := (follow_of_lookup h).2.2
  rw [follow_eq] at hfollow
  obtain ⟨Q, e', -, hQ⟩ := follow_split hfollow
  obtain ⟨-, -, hnone | ⟨a, ha⟩⟩ := follow_idle (Path.all_ending p.segments) hQ
  · exact fun s => Path.isIdle_getLast hnone
  · cases ha

/-- A file that one path finds is found by every path that leads there as well and ends in the same
piece, if it can be looked up. -/
theorem lookup_of_leads_eq {text : Option String} {q : Path}
    (hp : t.lookup p = .found P (.file text)) (h : t.leads t.workingDirectory q
      = t.leads t.workingDirectory p) (hlast : q.segments.getLast? = p.segments.getLast?)
    (hlong : q.bytes.length ≤ pathLimit) (hnul : 0 ∉ q.bytes) :
    t.lookup q = .found P (.file text) := by
  refine lookup_of_leads hlong hnul (fun s hs => ?_) (h.trans (leads_of_lookup hp))
  exact last_of_lookup hp s (hlast ▸ hs)

theorem names_ne_nil {text : Option String}
    (h : t.leads t.workingDirectory p = .found P (.file text)) : p.names ≠ [] := by
  intro hnil
  rw [leads, hnil] at h
  obtain ⟨hP, hfile⟩ := follow_nil h
  rw [← hP] at hfile
  split_ifs at hfile
  · rw [entry?_root] at hfile
    cases hfile
  · rw [entry?_workingDirectory] at hfile
    cases hfile

theorem names_directoryOf (h : p.names ≠ []) :
    (Document.directoryOf Document.here p).names = p.names.dropLast
      ∧ (Document.directoryOf Document.here p).isAbsolute = p.isAbsolute := by
  obtain ⟨d, hd, hnames, habs⟩ := Path.parent?_spec h
  rw [← hnames, ← habs, Document.directoryOf, hd]
  by_cases hbytes : d.bytes.isEmpty = true
  · have hempty : d.bytes = [] := List.isEmpty_iff.1 hbytes
    simp only [hbytes, if_true]
    constructor
    · rw [Path.names, Path.names, Path.segments, Path.segments, hempty]
      rfl
    · rw [Path.isAbsolute, Path.isAbsolute, hempty]
      rfl
  · simp only [hbytes, Bool.false_eq_true, if_false, and_self]

theorem not_mem_directoryOf {base : Path} {c : UInt8} (hslash : c ≠ Path.slash)
    (hdot : c ≠ Path.dot) (hnames : p.names ≠ []) (hbase : c ∉ base.bytes) (hp : c ∉ p.bytes) :
    c ∉ (Document.directoryOf base p).bytes := by
  obtain ⟨d, hd, hdnames, -⟩ := Path.parent?_spec hnames
  rw [Document.directoryOf, hd]
  by_cases hbytes : d.bytes.isEmpty = true
  · simpa only [hbytes, if_true] using hbase
  · simp only [hbytes, Bool.false_eq_true, if_false]
    rw [Path.mem_bytes_iff hslash hdot, hdnames]
    rintro ⟨s, hs, hc⟩
    exact hp ((Path.mem_bytes_iff hslash hdot).2 ⟨s, List.dropLast_subset _ hs, hc⟩)

theorem bytes_directoryOf_ne_nil {base : Path} (hbase : base.bytes ≠ []) (p : Path) :
    (Document.directoryOf base p).bytes ≠ [] := by
  rw [Document.directoryOf]
  rcases p.parent? with _ | d
  · exact hbase
  · by_cases hbytes : d.bytes.isEmpty = true
    · simpa only [hbytes, if_true] using hbase
    · simp only [hbytes, Bool.false_eq_true, if_false]
      exact fun hempty => hbytes (List.isEmpty_iff.2 hempty)

/-- The directory in a document's path leads to the place above the document, and allows to go
through it. -/
theorem leads_parent {text : Option String}
    (h : t.leads t.workingDirectory p = .found P (.file text)) :
    ∃ d a, p.parent? = some d
      ∧ t.leads t.workingDirectory d = .found P.dropLast (.directory a) ∧ a.search = true := by
  have hne := names_ne_nil h
  obtain ⟨d, hd, hnames, habs⟩ := Path.parent?_spec hne
  have hidle : Path.isIdle (p.names.getLast hne) = false := by
    have hmem := (List.mem_filter.1 (List.getLast_mem hne)).2
    simpa using hmem
  rw [leads, ← List.dropLast_concat_getLast hne] at h
  obtain ⟨a, ha, hsearch⟩ := follow_concat hidle h
  refine ⟨d, a, hd, ?_, hsearch⟩
  rw [leads, hnames, habs]
  exact ha

theorem leads_of_names_nil (hp : p.names = []) (habs : p.isAbsolute = false)
    (h : t.entry? place = some e) : t.leads place p = .found place e := by
  rw [leads, hp, habs, if_neg Bool.false_ne_true, follow, h]

/-- The directory of a document leads to the place above the document. -/
theorem leads_directoryOf {base : Path} {text : Option String} (hb : t.IsWorking base)
    (h : t.leads t.workingDirectory p = .found P (.file text)) :
    ∃ a, t.leads t.workingDirectory (Document.directoryOf base p)
      = .found P.dropLast (.directory a) ∧ a.search = true := by
  obtain ⟨d, a, hd, hleads, hsearch⟩ := leads_parent h
  refine ⟨a, ?_, hsearch⟩
  rw [Document.directoryOf, hd]
  by_cases hbytes : d.bytes.isEmpty = true
  · -- no directory in the path: the document stands in the working directory
    have hempty : d = ⟨⟨[]⟩⟩ :=
      congrArg (fun bs => Path.mk ⟨bs⟩) (List.isEmpty_iff.1 hbytes)
    rw [hempty, leads_of_names_nil rfl rfl (entry?_workingDirectory t),
      Lookup.found.injEq] at hleads
    obtain ⟨b, hbase⟩ := hb.leads
    have hsame := entry?_of_leads hbase
    rw [entry?_workingDirectory, hleads.2] at hsame
    simp only [hbytes, if_true]
    rw [hbase, ← hleads.1, Option.some.inj hsame]
  · simp only [hbytes, Bool.false_eq_true, if_false]
    exact hleads

end FileTree

end SmartHome
