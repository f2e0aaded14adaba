import SmartHome.Home.Decode
import SmartHome.Proofs.Failure

/-!
# Decoding one field of a structure

The fields of a structure are read one after the other, each at most once (`fields_eq_ok_iff`). So
what a field is read as goes into its own part of the record and nowhere else, and the field can be
given another value: the structure is still decoded if the value is, and only that part of the
record changes (`ReadsFields.replace`). The device types that a home declares are such a part
(`homeDraft_replace`).
-/

namespace SmartHome

namespace Decode

open Yaml (Value)

/-- The pairs are read into the record one after the other, each as a known field that is not among
those before it. -/
inductive ReadsFields {σ : Type} (known : List String)
    (read : σ → String → Source → Except Fault σ) :
    List String → σ → List (Value × Value) → σ → Prop
  | nil {seen r} : ReadsFields known read seen r [] r
  | cons {seen name r r₁ r' k x ps} : (Source.value k).textAs "field identifier" = .ok name →
      name ∈ known → name ∉ seen → read r name (.value x) = .ok r₁ →
      ReadsFields known read (name :: seen) r₁ ps r' →
      ReadsFields known read seen r ((k, x) :: ps) r'

variable {σ α : Type} {known seen : List String} {read : σ → String → Source → Except Fault σ}
  {r r' : σ} {ps pre post : List (Value × Value)}

section Fields

theorem readsFields_of_foldlM
    {step : List String × σ → Source × Source → Except Fault (List String × σ)}
    (hstep : ∀ seen r p out, step (seen, r) p = .ok out ↔ ∃ name r₁,
      p.1.textAs "field identifier" = .ok name ∧ name ∈ known ∧ name ∉ seen
        ∧ read r name p.2 = .ok r₁ ∧ out = (name :: seen, r₁)) :
    ∀ {ps : List (Value × Value)} {seen : List String} {r r' : σ},
      (∃ seen', (ps.map fun p => (Source.value p.1, Source.value p.2)).foldlM step (seen, r)
        = .ok (seen', r')) ↔ ReadsFields known read seen r ps r'
  | [], seen, r, r' => by
    constructor
    · rintro ⟨seen', h⟩
      cases h
      exact .nil
    · rintro ⟨⟩
      exact ⟨seen, rfl⟩
  | (k, x) :: ps, seen, r, r' => by
    have ih := @readsFields_of_foldlM step hstep ps
    constructor
    · rintro ⟨seen', h⟩
      rw [List.map_cons, List.foldlM_cons] at h
      obtain ⟨out, hout, hrest⟩ := bind_eq_ok_iff.1 h
      obtain ⟨name, r₁, hname, hknown, hnew, hread, rfl⟩ := (hstep _ _ _ _).1 hout
      exact .cons hname hknown hnew hread (ih.1 ⟨seen', hrest⟩)
    · rintro (_ | ⟨hname, hknown, hnew, hread, hrest⟩)
      obtain ⟨seen', h⟩ := ih.2 hrest
      refine ⟨seen', ?_⟩
      rw [List.map_cons, List.foldlM_cons]
      exact bind_eq_ok_iff.2 ⟨_, (hstep _ _ _ _).2 ⟨_, _, hname, hknown, hnew, hread, rfl⟩, h⟩

theorem fields_eq_ok_iff {name : String} :
    (Source.value (.mapping ps)).fields name known .refused read r = .ok r'
      ↔ ReadsFields known read [] r ps r' := by
  rw [← readsFields_of_foldlM fun seen r p out => ?_]
  · simp only [Source.fields, Source.pairs, Source.untag, bind_eq_ok_iff]
    constructor
    · rintro ⟨pairs, hpairs, ⟨seen', r₁⟩, hfold, hpure⟩
      cases hpairs
      have heq : r₁ = r' := Except.ok.inj hpure
      exact ⟨seen', heq ▸ hfold⟩
    · rintro ⟨seen', hfold⟩
      exact ⟨_, rfl, _, hfold, rfl⟩
  · rcases hname : p.1.textAs "field identifier" with f | field
    · simp [bind, Except.bind]
    · by_cases hknown : field ∈ known
      · by_cases hseen : field ∈ seen
        · simp [hknown, hseen, bind, Except.bind, Source.fail]
        · rcases hread : read r field p.2 with f | r₁
          · simp [hknown, hseen, hread, bind, Except.bind]
          · simp [hknown, hseen, hread, bind, Except.bind, pure, Except.pure, eq_comm]
      · simp [hknown, bind, Except.bind, Source.fail]

end Fields

/-- The field is read as `parse` says and kept where `put` puts it; no other field is kept there. -/
structure FieldAt (known : List String) (read : σ → String → Source → Except Fault σ)
    (field : String) (parse : Source → Except Fault α) (put : α → σ → σ) : Prop where
  mem : field ∈ known
  reads : ∀ r x, read r field x = (parse x).map fun a => put a r
  other : ∀ name ∈ known, name ≠ field → ∀ a r x,
    read (put a r) name x = (read r name x).map (put a)
  again : ∀ a b r, put a (put b r) = put a r

section Replace

variable {field : String} {parse : Source → Except Fault α} {put : α → σ → σ} {x : Value}

/-- What the field is read as does not matter to the fields after it. -/
theorem ReadsFields.put_of_mem (h : ReadsFields known read seen r ps r')
    (hf : FieldAt known read field parse put) (hseen : field ∈ seen) (a : α) :
    ReadsFields known read seen (put a r) ps (put a r') := by
  induction h with
  | nil => exact .nil
  | @cons seen name r r₁ r' k x ps hname hknown hnew hread _ ih =>
    have hne : name ≠ field := by
      rintro rfl
      exact hnew hseen
    refine .cons hname hknown hnew ?_ (ih (List.mem_cons_of_mem _ hseen))
    rw [hf.other name hknown hne, hread]
    rfl

/-- The field can be given another value. -/
theorem ReadsFields.replace (hf : FieldAt known read field parse put) :
    ∀ {pre : List (Value × Value)} {seen : List String} {r : σ},
      ReadsFields known read seen r (pre ++ (.string field, x) :: post) r' →
        (∃ a, parse (.value x) = .ok a) ∧ ∀ y b, parse (.value y) = .ok b →
          ReadsFields known read seen r (pre ++ (.string field, y) :: post) (put b r')
  | [], seen, r, h => by
    obtain _ | ⟨hname, hknown, hnew, hread, hpost⟩ := h
    cases hname
    rw [hf.reads] at hread
    obtain ⟨a, ha, rfl⟩ := map_eq_ok_iff.1 hread
    refine ⟨⟨a, ha⟩, fun y b hb => ?_⟩
    have hagain := hpost.put_of_mem hf List.mem_cons_self b
    rw [hf.again] at hagain
    refine .cons rfl hknown hnew ?_ hagain
    rw [hf.reads, hb]
    rfl
  | p :: pre, seen, r, h => by
    obtain _ | ⟨hname, hknown, hnew, hread, hrest⟩ := h
    obtain ⟨hparse, hreplace⟩ := ReadsFields.replace hf hrest
    exact ⟨hparse, fun y b hb => .cons hname hknown hnew hread (hreplace y b hb)⟩

end Replace

section Home

theorem fieldAt_localTypes : FieldAt ["device_entities", "services", "device_type_registry"]
    (fun (h : HomeDraft) name v => match name with
      | "device_entities" => do
        pure { h with areas := ← v.dict Source.text fun area => area.list device }
      | "services" => do pure { h with services := ← v.list device }
      | _ => do pure { h with localTypes := ← v.optional declaredTypes })
    "device_type_registry" (fun v => v.optional declaredTypes)
    (fun types h => { h with localTypes := types }) where
  mem := by simp
  reads h v := by cases v.optional declaredTypes <;> rfl
  other name hname hne types h v := by
    simp only [List.mem_cons, List.not_mem_nil, or_false] at hname
    rcases hname with rfl | rfl | rfl
    · dsimp only
      cases v.dict Source.text fun area => area.list device <;> rfl
    · dsimp only
      cases v.list device <;> rfl
    · exact absurd rfl hne
  again _ _ _ := rfl

theorem homeDraft_replace {x : Value} {draft : HomeDraft}
    (h : homeDraft (.value (.mapping (pre ++ (.string "device_type_registry", x) :: post)))
      = .ok draft) :
    (∃ types, (Source.value x).optional declaredTypes = .ok types)
      ∧ ∀ y types, (Source.value y).optional declaredTypes = .ok types →
        homeDraft (.value (.mapping (pre ++ (.string "device_type_registry", y) :: post)))
          = .ok { draft with localTypes := types } := by
  obtain ⟨hparse, hreplace⟩ := (fields_eq_ok_iff.1 h).replace fieldAt_localTypes
  exact ⟨hparse, fun y types hy => fields_eq_ok_iff.2 (hreplace y types hy)⟩

end Home

end Decode

end SmartHome
