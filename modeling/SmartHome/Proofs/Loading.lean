import SmartHome.Proofs.Bound
import SmartHome.Proofs.Dictionary
import SmartHome.Proofs.Listing

/-!
# Loading gives what a document stands for

To expand a value is to replace its directives (`Becomes`), up to one that cannot be replaced
(`EndsAt`): this is faulty, or cites a document that cannot be loaded (`EndsAt.cites`). If the
documents that are cited load as what they stand for and the listings are complete, so does the
value (`Becomes.expands`), and the expansion ends where the walk through the value does
(`EndsAt.opens`). So a document is loaded as what it stands for, or the walk through it ends in the
error (`loadWithin_outcome`), where the walk also ends if it comes to a document that is under
expansion (`Ends`). The bound on the documents under expansion is never met (`loadWithin_add`).
-/

namespace SmartHome

namespace Document

open Yaml (Value)

section Relations

variable (w : Workspace) (base : Path) (load : Path → Except DocumentError Value) (s : Path)

/-- What the loader puts in the place of a directive. -/
def replacement (d : Directive) (a : Value) : Except DocumentError Value :=
  match d with
  | .document => tagPath base s d.tag a >>= load
  | .directory => tagPath base s d.tag a >>= directoryMapping w load
  | .environment => variableText w.environment a

/-- What a value is expanded to: its directives are replaced, and all else stays as it is. -/
inductive Becomes : Value → Value → Prop
  | scalar {v} : IsScalar v → Becomes v v
  | nil : Becomes (.sequence []) (.sequence [])
  | item {v u vs us} : Becomes v u → Becomes (.sequence vs) (.sequence us) →
      Becomes (.sequence (v :: vs)) (.sequence (u :: us))
  | empty : Becomes (.mapping []) (.mapping [])
  | pair {k v u ps qs} : Becomes v u → Becomes (.mapping ps) (.mapping qs) →
      Becomes (.mapping ((k, v) :: ps)) (.mapping ((k, u) :: qs))
  | other {tag v u} : Directive.ofTag? tag = none → Becomes v u →
      Becomes (.tagged tag v) (.tagged tag u)
  | replaced {tag d a u} : Directive.ofTag? tag = some d → replacement w base load s d a = .ok u →
      Becomes (.tagged tag a) u

/-- The directive at which an expansion ends early: all that stands before it is expanded. -/
inductive EndsAt : Value → Directive → Value → DocumentError → Prop
  | here {tag d a e} : Directive.ofTag? tag = some d → replacement w base load s d a = .error e →
      EndsAt (.tagged tag a) d a e
  | under {tag v d a e} : Directive.ofTag? tag = none → EndsAt v d a e →
      EndsAt (.tagged tag v) d a e
  | item {v vs d a e} : EndsAt v d a e → EndsAt (.sequence (v :: vs)) d a e
  | items {v u vs d a e} : Becomes w base load s v u → EndsAt (.sequence vs) d a e →
      EndsAt (.sequence (v :: vs)) d a e
  | pair {k v ps d a e} : EndsAt v d a e → EndsAt (.mapping ((k, v) :: ps)) d a e
  | pairs {k v u ps d a e} : Becomes w base load s v u → EndsAt (.mapping ps) d a e →
      EndsAt (.mapping ((k, v) :: ps)) d a e

end Relations

variable {w : Workspace} {base s folder p : Path} {load : Path → Except DocumentError Value}
  {tag : String} {a u v : Value} {e : DocumentError}

section Argument

theorem tagPath_eq_ok_iff :
    tagPath base s tag a = .ok p ↔ ∃ text, a = .string text ∧ p = target base s text := by
  rcases a with _ | _ | _ | text | _ | _ | _ <;> simp [tagPath, target, eq_comm]

theorem tagPath_eq_error (h : tagPath base s tag a = .error e) :
    (∀ text, a ≠ .string text) ∧ e = .invalidIncludePath tag a := by
  rcases a with _ | _ | _ | text | _ | _ | _ <;> simp_all [tagPath]

theorem variableText_eq_ok (h : variableText w.environment a = .ok u) :
    ∃ name text, a = .string name ∧ w.environment.get? name = some text ∧ u = .string text := by
  rcases a with _ | _ | _ | name | _ | _ | _
  case string =>
    rcases hget : w.environment.get? name with _ | text <;> simp only [variableText, hget] at h
    · cases h
    · cases h
      exact ⟨name, text, rfl, hget, rfl⟩
  all_goals cases h

theorem variableText_eq_error (h : variableText w.environment a = .error e) :
    Faulty w base s .environment a e := by
  rcases a with _ | _ | _ | name | _ | _ | _
  case string =>
    rcases hget : w.environment.get? name with _ | text <;> simp only [variableText, hget] at h
    · cases h
      exact .unset hget
    · cases h
  all_goals
    cases h
    exact .name fun _ => Value.noConfusion

end Argument

section Directory

variable {names : List OsText} {place : Place} {access : Access}

/-- What a path loads as, for paths that load. -/
def loaded (load : Path → Except DocumentError Value) (p : Path) : Value :=
  (load p).toOption.getD .null

theorem loaded_of_eq_ok (h : load p = .ok v) : loaded load p = v := by
  rw [loaded, h]
  rfl

/-- Writing under a text is writing under the key of a dictionary. -/
theorem insert_string (k : String) (v : Value) : ∀ es : List (String × Value),
    Value.insert (.string k) v (es.map fun e => (.string e.1, e.2))
      = (Dict.upsert k v es).map fun e => (.string e.1, e.2)
  | [] => rfl
  | f :: es => by
    have ih := insert_string k v es
    by_cases hk : f.1 = k
    · simp [Value.insert, Value.same, Dict.upsert, hk]
    · simp [Value.insert, Value.same, Dict.upsert, hk, Ne.symm hk, ih]

/-- One document of a directory put into the mapping of those before it. -/
theorem foldlM_documents_ok (folder : Path) {pairs : List (Value × Value)} :
    ∀ {names : List OsText} {es : Dict String Value},
      (names.map fun n => (n, folder.join ⟨n⟩)).foldlM (fun pairs file => do
          let v ← load file.2
          pure (Value.insert (.string (Path.stem file.1)) v pairs))
        (es.entries.map fun e => (.string e.1, e.2)) = .ok pairs →
      (∀ n ∈ names, load (folder.join ⟨n⟩) = .ok (loaded load (folder.join ⟨n⟩)))
        ∧ pairs = (es.insertAll (names.map fun n =>
            (Path.stem n, loaded load (folder.join ⟨n⟩)))).entries.map fun e => (.string e.1, e.2)
  | [], es, h => by
    cases h
    exact ⟨fun _ hn => absurd hn List.not_mem_nil, rfl⟩
  | n :: names, es, h => by
    rw [List.map_cons, List.foldlM_cons] at h
    obtain ⟨pairs', hstep, hrest⟩ := bind_eq_ok_iff.1 h
    obtain ⟨v, hv, hpure⟩ := bind_eq_ok_iff.1 hstep
    have hone : Value.insert (.string (Path.stem n)) v
        (es.entries.map fun e => (.string e.1, e.2))
        = (es.insert (Path.stem n) v).entries.map fun e => (.string e.1, e.2) :=
      insert_string _ _ _
    cases hpure
    rw [hone] at hrest
    obtain ⟨hall, hpairs⟩ := foldlM_documents_ok folder hrest
    refine ⟨fun m hm => ?_, ?_⟩
    · rcases List.mem_cons.1 hm with rfl | hm
      · rw [hv, loaded_of_eq_ok hv]
      · exact hall m hm
    · rw [hpairs, List.map_cons, Dict.insertAll_cons, loaded_of_eq_ok hv]

theorem directoryMapping_eq_ok (h : directoryMapping w load folder = .ok u) :
    ∃ names, Lists w folder names
      ∧ (∀ n ∈ found w folder names,
        load (folder.join ⟨n⟩) = .ok (loaded load (folder.join ⟨n⟩)))
      ∧ u = mappingOf (found w folder names) fun n => loaded load (folder.join ⟨n⟩) := by
  obtain ⟨files, hfiles, hrest⟩ := bind_eq_ok_iff.1 h
  obtain ⟨pairs, hfold, hpure⟩ := bind_eq_ok_iff.1 hrest
  obtain ⟨names, hlists, rfl⟩ := filesIn_eq_ok hfiles
  obtain ⟨hall, rfl⟩ := @foldlM_documents_ok load folder pairs (found w folder names) .empty hfold
  cases hpure
  exact ⟨names, hlists, hall, rfl⟩

theorem directoryMapping_eq_error (h : directoryMapping w load folder = .error e) :
    Unlisted w folder e ∨ ∃ names pre n post, Lists w folder names
      ∧ found w folder names = pre ++ n :: post
      ∧ (∀ m ∈ pre, ∃ v, load (folder.join ⟨m⟩) = .ok v) ∧ load (folder.join ⟨n⟩) = .error e := by
  rcases hfiles : filesIn w.files folder with e' | files
  · rw [directoryMapping, hfiles] at h
    cases h
    exact .inl (filesIn_eq_error_iff.1 hfiles)
  · obtain ⟨names, hlists, rfl⟩ := filesIn_eq_ok hfiles
    have hfail : failure? (directoryMapping w load folder) = (found w folder names).findSome?
        fun n => failure? (load (folder.join ⟨n⟩)) := by
      rw [directoryMapping, hfiles]
      refine (failure?_bind_pure _ _).trans ?_
      rw [failure?_foldlM fun pairs file => failure?_bind_pure (load file.2) _, List.findSome?_map]
      rfl
    rw [h, failure?_error, eq_comm, List.findSome?_eq_some_iff] at hfail
    obtain ⟨pre, n, post, hfound, hn, hpre⟩ := hfail
    exact .inr ⟨names, pre, n, post, hlists, hfound,
      fun m hm => failure?_eq_none_iff.1 (hpre m hm), failure?_eq_some_iff.1 hn⟩

end Directory

section Values

theorem expand_tagged : expand w base load s (.tagged tag a) = match Directive.ofTag? tag with
    | some d => replacement w base load s d a
    | none => (expand w base load s a).map (.tagged tag) := by
  have differs : ∀ d : Directive, Directive.ofTag? tag = none → tag ≠ d.tag := by
    intro d hnone heq
    rw [heq, Directive.ofTag?_tag] at hnone
    cases hnone
  rcases hd : Directive.ofTag? tag with _ | d
  · rw [expand]
    · rfl
    · exact differs .document hd
    · exact differs .directory hd
    · exact differs .environment hd
  · rw [Directive.tag_of_ofTag? hd]
    cases d <;> rfl

mutual

theorem becomes_of_expand : ∀ {v u : Value}, expand w base load s v = .ok u →
    Becomes w base load s v u
  | .null, _, h | .bool _, _, h | .number _, _, h | .string _, _, h => by
    cases h
    exact .scalar trivial
  | .sequence vs, u, h => by
    rw [expand] at h
    obtain ⟨us, hus, hpure⟩ := bind_eq_ok_iff.1 h
    cases hpure
    exact becomes_of_expandItems hus
  | .mapping ps, u, h => by
    rw [expand] at h
    obtain ⟨qs, hqs, hpure⟩ := bind_eq_ok_iff.1 h
    cases hpure
    exact becomes_of_expandPairs hqs
  | .tagged tag a, u, h => by
    rw [expand_tagged] at h
    rcases hd : Directive.ofTag? tag with _ | d <;> simp only [hd] at h
    · obtain ⟨u', hu', rfl⟩ := map_eq_ok_iff.1 h
      exact .other hd (becomes_of_expand hu')
    · exact .replaced hd h

theorem becomes_of_expandItems : ∀ {vs us : List Value}, expandItems w base load s vs = .ok us →
    Becomes w base load s (.sequence vs) (.sequence us)
  | [], _, h => by
    cases h
    exact .nil
  | v :: vs, us, h => by
    rw [expandItems] at h
    obtain ⟨u, hu, hrest⟩ := bind_eq_ok_iff.1 h
    obtain ⟨us', hus', hpure⟩ := bind_eq_ok_iff.1 hrest
    cases hpure
    exact .item (becomes_of_expand hu) (becomes_of_expandItems hus')

theorem becomes_of_expandPairs : ∀ {ps qs : List (Value × Value)},
    expandPairs w base load s ps = .ok qs → Becomes w base load s (.mapping ps) (.mapping qs)
  | [], _, h => by
    cases h
    exact .empty
  | (k, v) :: ps, qs, h => by
    rw [expandPairs] at h
    obtain ⟨u, hu, hrest⟩ := bind_eq_ok_iff.1 h
    obtain ⟨qs', hqs', hpure⟩ := bind_eq_ok_iff.1 hrest
    cases hpure
    exact .pair (becomes_of_expand hu) (becomes_of_expandPairs hqs')

end

mutual

theorem endsAt_of_expand : ∀ {v : Value} {e : DocumentError}, expand w base load s v = .error e →
    ∃ d a, EndsAt w base load s v d a e
  | .null, _, h | .bool _, _, h | .number _, _, h | .string _, _, h => by cases h
  | .sequence vs, e, h => by
    rw [expand] at h
    obtain hvs | ⟨_, -, hpure⟩ := bind_eq_error_iff.1 h
    · exact endsAt_of_expandItems hvs
    · cases hpure
  | .mapping ps, e, h => by
    rw [expand] at h
    obtain hps | ⟨_, -, hpure⟩ := bind_eq_error_iff.1 h
    · exact endsAt_of_expandPairs hps
    · cases hpure
  | .tagged tag a, e, h => by
    rw [expand_tagged] at h
    rcases hd : Directive.ofTag? tag with _ | d <;> simp only [hd] at h
    · obtain ⟨d, b, hends⟩ := endsAt_of_expand (map_eq_error_iff.1 h)
      exact ⟨d, b, .under hd hends⟩
    · exact ⟨d, a, .here hd h⟩

theorem endsAt_of_expandItems : ∀ {vs : List Value} {e : DocumentError},
    expandItems w base load s vs = .error e → ∃ d a, EndsAt w base load s (.sequence vs) d a e
  | [], _, h => by cases h
  | v :: vs, e, h => by
    rw [expandItems] at h
    obtain hv | ⟨u, hv, hrest⟩ := bind_eq_error_iff.1 h
    · obtain ⟨d, a, hends⟩ := endsAt_of_expand hv
      exact ⟨d, a, .item hends⟩
    · obtain hvs | ⟨_, -, hpure⟩ := bind_eq_error_iff.1 hrest
      · obtain ⟨d, a, hends⟩ := endsAt_of_expandItems hvs
        exact ⟨d, a, .items (becomes_of_expand hv) hends⟩
      · cases hpure

theorem endsAt_of_expandPairs : ∀ {ps : List (Value × Value)} {e : DocumentError},
    expandPairs w base load s ps = .error e → ∃ d a, EndsAt w base load s (.mapping ps) d a e
  | [], _, h => by cases h
  | (k, v) :: ps, e, h => by
    rw [expandPairs] at h
    obtain hv | ⟨u, hv, hrest⟩ := bind_eq_error_iff.1 h
    · obtain ⟨d, a, hends⟩ := endsAt_of_expand hv
      exact ⟨d, a, .pair hends⟩
    · obtain hps | ⟨_, -, hpure⟩ := bind_eq_error_iff.1 hrest
      · obtain ⟨d, a, hends⟩ := endsAt_of_expandPairs hps
        exact ⟨d, a, .pairs (becomes_of_expand hv) hends⟩
      · cases hpure

end

end Values

section Faithful

variable {d : Directive}

/-- What a value in a document cites is loaded as what it stands for, and the listings of the
directories that it names leave out none of their documents. -/
structure Faithful (w : Workspace) (base : Path) (load : Path → Except DocumentError Value)
    (s : Path) (v : Value) : Prop where
  loads : ∀ d a p u, Holds v d a → Cites w base s d a (base.join p) → load p = .ok u →
    Yields w base (base.join p) u
  lists : ∀ text, Holds v .directory (.string text) → Unabridged w (target base s text)

theorem Faithful.of_holds {v' : Value} (h : Faithful w base load s v')
    (hv : ∀ d a, Holds v d a → Holds v' d a) : Faithful w base load s v :=
  ⟨fun d a p u hh => h.loads d a p u (hv d a hh), fun text hh => h.lists text (hv _ _ hh)⟩

theorem Faithful.of_complete (hcomplete : Complete w base s v)
    (hload : ∀ p u, CompleteAt w base (base.join p) → load p = .ok u →
      Yields w base (base.join p) u) : Faithful w base load s v :=
  ⟨fun _ _ p u hh hc => hload p u (hcomplete.step hh hc), hcomplete s v .refl⟩

theorem Faithful.replaced (hl : Faithful w base load s v) (hh : Holds v d a)
    (hd : Directive.ofTag? tag = some d) (h : replacement w base load s d a = .ok u) :
    Expands w base s (.tagged tag a) u := by
  cases d with
  | document =>
    obtain ⟨p, hp, hload⟩ := bind_eq_ok_iff.1 h
    obtain ⟨text, rfl, rfl⟩ := tagPath_eq_ok_iff.1 hp
    obtain ⟨v, hr, hv⟩ := hl.loads _ _ _ _ hh .document hload
    exact .document hd hr hv
  | directory =>
    obtain ⟨p, hp, hmapping⟩ := bind_eq_ok_iff.1 h
    obtain ⟨text, rfl, rfl⟩ := tagPath_eq_ok_iff.1 hp
    obtain ⟨names, hlists, hall, rfl⟩ := directoryMapping_eq_ok hmapping
    rw [found_eq (hl.lists text hh) hlists] at hall ⊢
    have hyields : ∀ n ∈ names, ∃ v, readValue w (documentIn base (target base s text) n) = .ok v
        ∧ Expands w base (documentIn base (target base s text) n) v
          (loaded load ((target base s text).join ⟨n⟩)) := fun n hn =>
      hl.loads _ _ _ _ hh (.member hlists hn) (hall n hn)
    choose! v hv using hyields
    exact .directory hd hlists (fun n hn => (hv n hn).1) fun n hn => (hv n hn).2
  | environment =>
    obtain ⟨name, text, rfl, hget, rfl⟩ := variableText_eq_ok h
    exact .environment hd hget

/-- If cited documents load as what they stand for, so does what cites them. -/
theorem Becomes.expands (h : Becomes w base load s v u) :
    Faithful w base load s v → Expands w base s v u := by
  induction h with
  | scalar hv => exact fun _ => .scalar hv
  | nil => exact fun _ => .nil
  | item _ _ ihv ihvs =>
    exact fun hl => .item (ihv (hl.of_holds fun _ _ => .item List.mem_cons_self))
      (ihvs (hl.of_holds fun _ _ => Holds.of_tail_items))
  | empty => exact fun _ => .empty
  | pair _ _ ihv ihps =>
    exact fun hl => .pair (ihv (hl.of_holds fun _ _ => .pair List.mem_cons_self))
      (ihps (hl.of_holds fun _ _ => Holds.of_tail_pairs))
  | other ht _ ih => exact fun hl => .other ht (ih (hl.of_holds fun _ _ => .under ht))
  | replaced ht h => exact fun hl => hl.replaced (.here ht) ht h

theorem expand_ok (hl : Faithful w base load s v) (h : expand w base load s v = .ok u) :
    Expands w base s v u :=
  (becomes_of_expand h).expands hl

theorem tagPath_faulty (hne : d ≠ .environment) (h : tagPath base s d.tag a = .error e) :
    Faulty w base s d a e := by
  obtain ⟨ha, rfl⟩ := tagPath_eq_error h
  exact .path hne ha

/-- A directive cannot be replaced because it is faulty, or because a document does not load: the
one that it names, or the first such of those found in the directory that it names. -/
theorem replacement_eq_error (h : replacement w base load s d a = .error e) :
    Faulty w base s d a e
      ∨ (∃ text, d = .document ∧ a = .string text ∧ load (target base s text) = .error e)
      ∨ ∃ text names pre n post, d = .directory ∧ a = .string text
        ∧ Lists w (target base s text) names
        ∧ found w (target base s text) names = pre ++ n :: post
        ∧ (∀ m ∈ pre, ∃ v, load ((target base s text).join ⟨m⟩) = .ok v)
        ∧ load ((target base s text).join ⟨n⟩) = .error e := by
  cases d with
  | document =>
    obtain hp | ⟨p, hp, hload⟩ := bind_eq_error_iff.1 h
    · exact .inl (tagPath_faulty Directive.noConfusion hp)
    · obtain ⟨text, rfl, rfl⟩ := tagPath_eq_ok_iff.1 hp
      exact .inr (.inl ⟨text, rfl, rfl, hload⟩)
  | directory =>
    obtain hp | ⟨p, hp, hmapping⟩ := bind_eq_error_iff.1 h
    · exact .inl (tagPath_faulty Directive.noConfusion hp)
    · obtain ⟨text, rfl, rfl⟩ := tagPath_eq_ok_iff.1 hp
      obtain hu | ⟨names, pre, n, post, hrest⟩ := directoryMapping_eq_error hmapping
      · exact .inl (.directory hu)
      · exact .inr (.inr ⟨text, names, pre, n, post, rfl, rfl, hrest⟩)
  | environment => exact .inl (variableText_eq_error h)

/-- Where an expansion ends early, a directive in the value is faulty or cites a document that does
not load. -/
theorem EndsAt.cites (h : EndsAt w base load s v d a e) : Holds v d a ∧ (Faulty w base s d a e
    ∨ ∃ p, Cites w base s d a (base.join p) ∧ load p = .error e) := by
  induction h with
  | here ht h =>
    refine ⟨.here ht, ?_⟩
    obtain hf | ⟨text, rfl, rfl, hload⟩ | ⟨text, names, pre, n, post, rfl, rfl, hl, hfound, -,
        hload⟩ := replacement_eq_error h
    · exact .inl hf
    · exact .inr ⟨_, .document, hload⟩
    · have hn : n ∈ found w (target base s text) names := by simp [hfound]
      exact .inr ⟨_, .member hl (mem_of_mem_found hn), hload⟩
  | under ht _ ih => exact ⟨.under ht ih.1, ih.2⟩
  | item _ ih => exact ⟨.item List.mem_cons_self ih.1, ih.2⟩
  | items _ _ ih => exact ⟨ih.1.of_tail_items, ih.2⟩
  | pair _ ih => exact ⟨.pair List.mem_cons_self ih.1, ih.2⟩
  | pairs _ _ ih => exact ⟨ih.1.of_tail_pairs, ih.2⟩

/-- If cited documents load as what they stand for, the walk through the value comes to the
directive, which is faulty or opens the document that does not load. -/
theorem EndsAt.opens (h : EndsAt w base load s v d a e) :
    Faithful w base load s v → Comes w base s v d a ∧ (Faulty w base s d a e
      ∨ ∃ p, Opens w base s d a (base.join p) ∧ load p = .error e) := by
  induction h with
  | here ht h =>
    intro hl
    refine ⟨.here ht, ?_⟩
    obtain hf | ⟨text, rfl, rfl, hload⟩ | ⟨text, names, pre, n, post, rfl, rfl, hlists, hfound,
        hpre, hload⟩ := replacement_eq_error h
    · exact .inl hf
    · exact .inr ⟨_, .document, hload⟩
    · rw [found_eq (hl.lists text (.here ht)) hlists] at hfound
      subst hfound
      refine .inr ⟨_, .member hlists fun m hm => ?_, hload⟩
      obtain ⟨u, hu⟩ := hpre m hm
      exact ⟨u, hl.loads _ _ _ _ (.here ht) (.member hlists (by simp [hm])) hu⟩
  | under ht _ ih =>
    intro hl
    obtain ⟨hc, hcases⟩ := ih (hl.of_holds fun _ _ => .under ht)
    exact ⟨.under ht hc, hcases⟩
  | item _ ih =>
    intro hl
    obtain ⟨hc, hcases⟩ := ih (hl.of_holds fun _ _ => .item List.mem_cons_self)
    exact ⟨.item hc, hcases⟩
  | items hv _ ih =>
    intro hl
    obtain ⟨hc, hcases⟩ := ih (hl.of_holds fun _ _ => Holds.of_tail_items)
    exact ⟨.items (hv.expands (hl.of_holds fun _ _ => .item List.mem_cons_self)) hc, hcases⟩
  | pair _ ih =>
    intro hl
    obtain ⟨hc, hcases⟩ := ih (hl.of_holds fun _ _ => .pair List.mem_cons_self)
    exact ⟨.pair hc, hcases⟩
  | pairs hv _ ih =>
    intro hl
    obtain ⟨hc, hcases⟩ := ih (hl.of_holds fun _ _ => Holds.of_tail_pairs)
    exact ⟨.pairs (hv.expands (hl.of_holds fun _ _ => .pair List.mem_cons_self)) hc, hcases⟩

theorem expand_error (hl : Faithful w base load s v) (h : expand w base load s v = .error e) :
    ∃ d a, Comes w base s v d a ∧ (Faulty w base s d a e
      ∨ ∃ p, Opens w base s d a (base.join p) ∧ load p = .error e) := by
  obtain ⟨d, a, hends⟩ := endsAt_of_expand h
  exact ⟨d, a, hends.opens hl⟩

end Faithful

/-- The error in which the walk through a document ends, with the documents given under expansion:
that of coming to one of them again, or the document's own, or that of a document it opens. -/
inductive Ends (w : Workspace) (base : Path) : List Path → Path → DocumentError → Prop
  | again {within p q} : p ∈ within → p.components = q.components →
      Ends w base within q (.circularInclude q)
  | stops {within q e} : (∀ p ∈ within, p.components ≠ q.components) → Stops w base q e →
      Ends w base within q e
  | enters {within q q' e} : (∀ p ∈ within, p.components ≠ q.components) →
      Enters w base q q' → Ends w base (q :: within) q' e → Ends w base within q e

section Load

variable {within : List Path} {fuel : Nat} {q : Path}

theorem readText_of_readValue (h : readValue w q = .ok v) :
    ∃ text, readText w.files q = .ok text := by
  obtain ⟨text, htext, -⟩ := bind_eq_ok_iff.1 h
  exact ⟨text, htext⟩

/-- A document is read where its path finds a file whose text is one. -/
theorem readValue_eq_ok_iff : readValue w q = .ok v
    ↔ ∃ P text, w.files.lookup q = .found P (.file (some text)) ∧ Value.ofText? text = some v := by
  constructor
  · intro h
    obtain ⟨text, htext, hv⟩ := bind_eq_ok_iff.1 h
    obtain ⟨P, hP⟩ := UnderExpansion.lookup_of_readText htext
    rcases hvalue : Value.ofText? text with _ | v' <;> rw [hvalue] at hv <;> cases hv
    exact ⟨P, text, hP, hvalue⟩
  · rintro ⟨P, text, hP, hv⟩
    simp only [readValue, readText, hP, hv, bind, Except.bind]

theorem loadWithin_succ (w : Workspace) (base : Path) (fuel : Nat) (within : List Path) (p : Path) :
    loadWithin w base (fuel + 1) within p
      = if ∃ q ∈ within, q.components = (base.join p).components then
          .error (.circularInclude (base.join p))
        else readValue w (base.join p)
          >>= expand w base (loadWithin w base fuel (base.join p :: within)) (base.join p) := by
  have hany : (within.any fun q => q.components = (base.join p).components) = true
      ↔ ∃ q ∈ within, q.components = (base.join p).components := by simp
  rw [loadWithin]
  by_cases hmem : ∃ q ∈ within, q.components = (base.join p).components
  · rw [if_pos hmem, if_pos (hany.2 hmem)]
  · rw [if_neg hmem, if_neg fun h => hmem (hany.1 h), readValue]
    rcases readText w.files (base.join p) with e | text
    · rfl
    · rcases hv : Value.ofText? text with _ | v <;> simp [expandText, hv, bind, Except.bind]

/-- With enough fuel for all documents that can be under expansion, a document is loaded as what it
stands for, or the walk through it ends in the error. -/
theorem loadWithin_outcome : ∀ {fuel : Nat} {within : List Path} {p : Path},
    pathBound w.files ≤ within.length + fuel → UnderExpansion w within →
      CompleteAt w base (base.join p) →
        (∀ u, loadWithin w base fuel within p = .ok u → Yields w base (base.join p) u)
          ∧ ∀ e, loadWithin w base fuel within p = .error e → Ends w base within (base.join p) e
  | 0, within, p, hfuel, hw, _ => by
    -- no fuel is left only when more documents are under expansion than there are paths to one
    have hlt := hw.length_lt
    omega
  | fuel + 1, within, p, hfuel, hw, hcomplete => by
    rw [loadWithin_succ]
    by_cases hmem : ∃ q ∈ within, q.components = (base.join p).components
    · rw [if_pos hmem]
      obtain ⟨q, hq, hcomponents⟩ := hmem
      refine ⟨fun u hu => (by cases hu), fun e he => ?_⟩
      cases he
      exact .again hq hcomponents
    · rw [if_neg hmem]
      have hnew : ∀ q ∈ within, q.components ≠ (base.join p).components := fun q hq heq =>
        hmem ⟨q, hq, heq⟩
      rcases hr : readValue w (base.join p) with e' | v
      · refine ⟨fun u hu => (by cases hu), fun e he => ?_⟩
        cases he
        exact .stops hnew (.unread hr)
      · obtain ⟨text, htext⟩ := readText_of_readValue hr
        have hw' := hw.cons htext hnew
        have hfuel' : pathBound w.files ≤ (base.join p :: within).length + fuel := by
          rw [List.length_cons]
          omega
        have hl : Faithful w base (loadWithin w base fuel (base.join p :: within))
            (base.join p) v := .of_complete (hcomplete v hr) fun p' u hcomplete' =>
          (loadWithin_outcome hfuel' hw' hcomplete').1 u
        refine ⟨fun u hu => ⟨v, hr, expand_ok hl hu⟩, fun e he => ?_⟩
        obtain ⟨d, a, hc, hfaulty | ⟨p', hopens, herror⟩⟩ := expand_error hl he
        · exact .stops hnew (.faulty hr hc hfaulty)
        · have hcomplete' := (hcomplete v hr).step (holds_of_comes hc) (cites_of_opens hopens)
          exact .enters hnew ⟨v, d, a, hr, hc, hopens⟩
            ((loadWithin_outcome hfuel' hw' hcomplete').2 e herror)

/-- Fuel beyond the bound changes nothing. -/
theorem loadWithin_add (n : Nat) : ∀ {fuel : Nat} {within : List Path} {p : Path},
    pathBound w.files ≤ within.length + fuel → UnderExpansion w within →
      loadWithin w base (fuel + n) within p = loadWithin w base fuel within p
  | 0, within, p, hfuel, hw => by
    have hlt := hw.length_lt
    omega
  | fuel + 1, within, p, hfuel, hw => by
    rw [Nat.add_right_comm, loadWithin_succ, loadWithin_succ]
    by_cases hmem : ∃ q ∈ within, q.components = (base.join p).components
    · rw [if_pos hmem, if_pos hmem]
    · rw [if_neg hmem, if_neg hmem]
      rcases hr : readValue w (base.join p) with e | v
      · rfl
      · obtain ⟨text, htext⟩ := readText_of_readValue hr
        have hw' := hw.cons htext fun q hq heq => hmem ⟨q, hq, heq⟩
        have hsame : loadWithin w base (fuel + n) (base.join p :: within)
            = loadWithin w base fuel (base.join p :: within) := by
          funext p'
          refine loadWithin_add n ?_ hw'
          rw [List.length_cons]
          omega
        rw [hsame]

theorem loadWithin_eq_load (w : Workspace) (base : Path) (n : Nat) :
    loadWithin w base (pathBound w.files + n) [] = Document.load w base := by
  funext p
  exact loadWithin_add n (Nat.le_add_left _ _) (.nil w)

theorem exists_load_eq (h : readValue w (base.join p) = .ok v) :
    ∃ load' : Path → Except DocumentError Value,
      Document.load w base p = expand w base load' (base.join p) v := by
  obtain ⟨n, hn⟩ := Nat.exists_eq_succ_of_ne_zero
    (Nat.ne_of_gt (UnderExpansion.length_lt (.nil w)))
  refine ⟨loadWithin w base n [base.join p], ?_⟩
  rw [Document.load, hn, loadWithin_succ, if_neg (by simp), h]
  rfl

theorem readValue_of_long {q : Path} (h : FileTree.pathLimit < q.bytes.length) :
    readValue w q = .error (.unreadable q) := by
  rw [readValue, readText, FileTree.lookup_of_long h]
  rfl

theorem load_of_long (h : FileTree.pathLimit < (base.join p).bytes.length) :
    Document.load w base p = .error (.unreadable (base.join p)) := by
  obtain ⟨n, hn⟩ := Nat.exists_eq_succ_of_ne_zero
    (Nat.ne_of_gt (UnderExpansion.length_lt (.nil w)))
  rw [Document.load, hn, loadWithin_succ, if_neg (by simp), readValue_of_long h]
  rfl

variable (hcomplete : CompleteAt w base (base.join p))

include hcomplete

theorem yields_of_load (h : Document.load w base p = .ok u) : Yields w base (base.join p) u :=
  (loadWithin_outcome (Nat.le_add_left _ _) (.nil w) hcomplete).1 u h

theorem ends_of_load (h : Document.load w base p = .error e) : Ends w base [] (base.join p) e :=
  (loadWithin_outcome (Nat.le_add_left _ _) (.nil w) hcomplete).2 e h

end Load

end Document

end SmartHome
