import Mathlib.Data.List.Forall2
import SmartHome.Proofs.Demand

/-!
# Values with their symbols replaced

A position in a value is the way down to it: which item of a list or which field of an object to go
into, again and again. Substitution gives a value that at every position has what `Stands` for the
node there, and nothing else does (`value_eq_ok_iff`): a text that is meant as a symbol gives way to
the symbol's value as a whole, lists keep their lengths, objects their names, and all else is the
same. Where a text has no value the first of them, in the order of the positions, is the error
(`failure?_value_eq_some_iff`). Both follow from what substitution does to the children of a value,
by induction on them.
-/

namespace SmartHome

namespace Json

/-- The items of a list, or the values of an object's fields. -/
def children : Json → List Json
  | array vs => vs
  | object fs => fs.map Prod.snd
  | _ => []

def at? : List ℕ → Json → Option Json
  | [], v => some v
  | i :: p, v => v.children[i]?.bind (at? p)

theorem at?_cons_eq_some_iff {i : ℕ} {p : List ℕ} {v x : Json} :
    v.at? (i :: p) = some x ↔ ∃ w, v.children[i]? = some w ∧ w.at? p = some x :=
  Option.bind_eq_some_iff

theorem sizeOf_lt_of_mem_children {v w : Json} (h : w ∈ v.children) : sizeOf w < sizeOf v := by
  cases v with
  | array vs =>
    have := List.sizeOf_lt_of_mem (show w ∈ vs from h)
    rw [array.sizeOf_spec]
    omega
  | object fs =>
    obtain ⟨⟨k, w⟩, hf, rfl⟩ := List.mem_map.1 h
    have := List.sizeOf_lt_of_mem hf
    rw [Prod.mk.sizeOf_spec] at this
    rw [object.sizeOf_spec]
    simp only
    omega
  | _ => cases h

theorem children_induction {P : Json → Prop} (h : ∀ v : Json, (∀ w ∈ v.children, P w) → P v)
    (v : Json) : P v :=
  h v fun w _ => children_induction h w
termination_by sizeOf v
decreasing_by exact sizeOf_lt_of_mem_children ‹_›

theorem tokens_eq_flatMap {v : Json} (hv : v.toText? = none) :
    v.tokens = v.children.flatMap tokens := by
  have hitems : ∀ vs, tokensOfItems vs = vs.flatMap tokens := by
    intro vs
    induction vs with
    | nil => rfl
    | cons v vs ih => rw [tokensOfItems, List.flatMap_cons, ih]
  have hfields : ∀ fs, tokensOfFields fs = (fs.map Prod.snd).flatMap tokens := by
    intro fs
    induction fs with
    | nil => rfl
    | cons f fs ih => rw [tokensOfFields, List.map_cons, List.flatMap_cons, ih]
  cases v with
  | string s => cases hv
  | array vs => rw [tokens, hitems, children]
  | object fs => rw [tokens, hfields, children]
  | _ => simp [tokens, children]

/-- The tokens of a value are the texts at its positions that are meant as symbols. -/
theorem mem_tokens_iff {v : Json} {s : String} : s ∈ v.tokens
    ↔ ∃ p, v.at? p = some (.string s) ∧ Symbol.isCandidate s = true := by
  induction v using children_induction with
  | h v ih =>
    rcases hv : v.toText? with _ | r
    · rw [tokens_eq_flatMap hv, List.mem_flatMap]
      constructor
      · rintro ⟨w, hw, hs⟩
        obtain ⟨p, hp, hs⟩ := (ih w hw).1 hs
        obtain ⟨i, hi⟩ := List.getElem?_of_mem hw
        exact ⟨i :: p, at?_cons_eq_some_iff.2 ⟨w, hi, hp⟩, hs⟩
      · rintro ⟨_ | ⟨i, p⟩, hp, hs⟩
        · cases hp
          cases hv
        · obtain ⟨w, hw, hp⟩ := at?_cons_eq_some_iff.1 hp
          have hm := List.mem_of_getElem? hw
          exact ⟨w, hm, (ih w hm).2 ⟨p, hp, hs⟩⟩
    · obtain rfl := toText?_eq_some_iff.1 hv
      rw [tokens]
      constructor
      · intro hs
        split_ifs at hs with hr
        · rw [List.mem_singleton.1 hs]
          exact ⟨[], rfl, hr⟩
        · cases hs
      · rintro ⟨_ | ⟨i, p⟩, hp, hs⟩
        · cases hp
          rw [if_pos hs]
          exact List.mem_singleton.2 rfl
        · obtain ⟨w, hw, -⟩ := at?_cons_eq_some_iff.1 hp
          cases hw

end Json

namespace Substitution

variable {resolver : Resolver} {v u : Json} {e : HomeError}

/-- What stands in the result where the value has a node, the children of the node apart. -/
inductive Stands (resolver : Resolver) : Json → Json → Prop
  | symbol {s w} (hs : Symbol.isCandidate s = true) (hw : Denotes resolver s w) :
    Stands resolver (.string s) w
  | text {s} (hs : Symbol.isCandidate s = false) : Stands resolver (.string s) (.string s)
  | null : Stands resolver .null .null
  | bool (b) : Stands resolver (.bool b) (.bool b)
  | number (n) : Stands resolver (.number n) (.number n)
  | array {vs us} (h : vs.length = us.length) : Stands resolver (.array vs) (.array us)
  | object {fs gs} (h : fs.map Prod.fst = gs.map Prod.fst) :
    Stands resolver (.object fs) (.object gs)

/-- At every position of the value the result has what stands for the node there. -/
def Substituted (resolver : Resolver) (v u : Json) : Prop :=
  ∀ p x, v.at? p = some x → ∃ y, u.at? p = some y ∧ Stands resolver x y

/-- At the position there is a text that is meant as a symbol and has no value. -/
def FailsAt (resolver : Resolver) (v : Json) (p : List ℕ) (e : HomeError) : Prop :=
  ∃ s, v.at? p = some (.string s) ∧ Symbol.isCandidate s = true
    ∧ Demand.Refused resolver (.symbol s) e

section Children

theorem items_eq_mapM (vs : List Json) : items resolver vs = vs.mapM (value resolver) := by
  induction vs with
  | nil => rfl
  | cons v vs ih => rw [items, List.mapM_cons, ih]

theorem fields_eq_mapM (fs : List (String × Json)) : fields resolver fs
    = fs.mapM fun f => (value resolver f.2).map (f.1, ·) := by
  induction fs with
  | nil => rfl
  | cons f fs ih =>
    rw [fields, List.mapM_cons, ih]
    cases value resolver f.2 <;> rfl

theorem value_string_eq_ok_iff {s : String} :
    value resolver (.string s) = .ok u ↔ Stands resolver (.string s) u := by
  rw [value]
  split_ifs with hs
  · rw [token_eq_ok_iff]
    constructor
    · exact .symbol hs
    · rintro (⟨-, hw⟩ | hn)
      · exact hw
      · rw [hs] at hn
        cases hn
  · constructor
    · rintro ⟨⟩
      exact .text (Bool.not_eq_true _ ▸ hs)
    · rintro (⟨hs', -⟩ | -)
      · exact absurd hs' hs
      · rfl

theorem map_value_eq_ok_iff {f g : String × Json} :
    (value resolver f.2).map (f.1, ·) = .ok g ↔ f.1 = g.1 ∧ value resolver f.2 = .ok g.2 := by
  rw [map_eq_ok_iff]
  constructor
  · rintro ⟨x, hx, rfl⟩
    exact ⟨rfl, hx⟩
  · rintro ⟨hk, hx⟩
    exact ⟨g.2, hx, Prod.ext hk rfl⟩

theorem forall₂_fields_iff {fs gs : List (String × Json)} :
    List.Forall₂ (fun f g => (value resolver f.2).map (f.1, ·) = .ok g) fs gs
      ↔ fs.map Prod.fst = gs.map Prod.fst ∧ List.Forall₂ (fun w x => value resolver w = .ok x)
        (fs.map Prod.snd) (gs.map Prod.snd) := by
  induction fs generalizing gs with
  | nil => cases gs <;> simp
  | cons f fs ih =>
    cases gs with
    | nil => simp
    | cons g gs =>
      rw [List.forall₂_cons, map_value_eq_ok_iff, ih]
      simp only [List.map_cons, List.cons.injEq, List.forall₂_cons]
      tauto

/-- But for texts, a value is substituted node by node. -/
theorem value_eq_ok_iff_children (hv : v.toText? = none) : value resolver v = .ok u
    ↔ Stands resolver v u
      ∧ List.Forall₂ (fun w x => value resolver w = .ok x) v.children u.children := by
  cases v with
  | string s => cases hv
  | array vs =>
    have harray : value resolver (.array vs) = vs.mapM (value resolver) >>= fun us =>
        pure (.array us) := by
      rw [value, items_eq_mapM]
    rw [harray, bind_eq_ok_iff]
    constructor
    · rintro ⟨us, hus, ⟨⟩⟩
      have h := mapM_eq_ok_iff.1 hus
      exact ⟨.array h.length_eq, h⟩
    · rintro ⟨⟨-⟩, h⟩
      exact ⟨_, mapM_eq_ok_iff.2 h, rfl⟩
  | object fs =>
    have hobject : value resolver (.object fs)
        = fs.mapM (fun f => (value resolver f.2).map (f.1, ·)) >>= fun gs => pure (.object gs) := by
      rw [value, fields_eq_mapM]
    rw [hobject, bind_eq_ok_iff]
    constructor
    · rintro ⟨gs, hgs, ⟨⟩⟩
      obtain ⟨hk, h⟩ := forall₂_fields_iff.1 (mapM_eq_ok_iff.1 hgs)
      exact ⟨.object hk, h⟩
    · rintro ⟨hs, h⟩
      cases hs with
      | object hk => exact ⟨_, mapM_eq_ok_iff.2 (forall₂_fields_iff.2 ⟨hk, h⟩), rfl⟩
  | _ =>
    simp only [value]
    constructor
    · rintro ⟨⟩
      exact ⟨by constructor, .nil⟩
    · rintro ⟨⟨-⟩, -⟩
      rfl

theorem failure?_value_children (hv : v.toText? = none) : failure? (value resolver v)
    = v.children.findSome? fun w => failure? (value resolver w) := by
  cases v with
  | string s => cases hv
  | array vs =>
    rw [value, items_eq_mapM]
    exact (failure?_bind_pure _ _).trans (failure?_mapM _ vs)
  | object fs =>
    rw [value, fields_eq_mapM]
    refine (failure?_bind_pure _ _).trans ((failure?_mapM _ fs).trans ?_)
    simp only [failure?_map, Json.children, List.findSome?_map, Function.comp_def]
  | _ =>
    simp only [value]
    rfl

end Children

section Positions

theorem Stands.length_children (hv : v.toText? = none) (h : Stands resolver v u) :
    v.children.length = u.children.length := by
  cases h with
  | symbol | text => cases hv
  | array h => exact h
  | object h => simpa [Json.children] using congrArg List.length h
  | _ => rfl

theorem substituted_string_iff {s : String} :
    Substituted resolver (.string s) u ↔ Stands resolver (.string s) u := by
  constructor
  · intro h
    obtain ⟨y, hy, hs⟩ := h [] _ rfl
    cases hy
    exact hs
  · intro hs p x hx
    rcases p with _ | ⟨i, p⟩
    · cases hx
      exact ⟨u, rfl, hs⟩
    · obtain ⟨w, hw, -⟩ := Json.at?_cons_eq_some_iff.1 hx
      cases hw

/-- A value but a text is substituted if what stands for it is, and so are its children. -/
theorem substituted_iff_children (hv : v.toText? = none) : Substituted resolver v u
    ↔ Stands resolver v u ∧ List.Forall₂ (Substituted resolver) v.children u.children := by
  constructor
  · intro h
    obtain ⟨y, hy, hs⟩ := h [] _ rfl
    cases hy
    refine ⟨hs, List.forall₂_iff_get.2 ⟨hs.length_children hv, fun i hi hi' p x hx => ?_⟩⟩
    obtain ⟨y, hy, hxy⟩ := h (i :: p) x
      (Json.at?_cons_eq_some_iff.2 ⟨_, List.getElem?_eq_getElem hi, hx⟩)
    obtain ⟨w, hw, hy⟩ := Json.at?_cons_eq_some_iff.1 hy
    cases (List.getElem?_eq_getElem hi').symm.trans hw
    exact ⟨y, hy, hxy⟩
  · rintro ⟨hs, hc⟩ p x hx
    rcases p with _ | ⟨i, p⟩
    · cases hx
      exact ⟨u, rfl, hs⟩
    · obtain ⟨w, hw, hx⟩ := Json.at?_cons_eq_some_iff.1 hx
      obtain ⟨hi, rfl⟩ := List.getElem?_eq_some_iff.1 hw
      obtain ⟨hl, hc⟩ := List.forall₂_iff_get.1 hc
      obtain ⟨y, hy, hxy⟩ := hc i hi (hl ▸ hi) p x hx
      exact ⟨y, Json.at?_cons_eq_some_iff.2 ⟨_, List.getElem?_eq_getElem (hl ▸ hi), hy⟩, hxy⟩

theorem value_eq_ok_iff : ∀ {v u : Json}, value resolver v = .ok u ↔ Substituted resolver v u := by
  intro v
  induction v using Json.children_induction with
  | h v ih =>
    intro u
    rcases hv : v.toText? with _ | s
    · rw [value_eq_ok_iff_children hv, substituted_iff_children hv]
      simp only [List.forall₂_iff_get]
      refine and_congr_right fun _ => and_congr_right fun _ => ?_
      exact forall₃_congr fun i hi _ => ih _ (List.getElem_mem hi)
    · obtain rfl := Json.toText?_eq_some_iff.1 hv
      rw [value_string_eq_ok_iff, substituted_string_iff]

end Positions

section Failing

variable {p : List ℕ}

/-- Of the texts that fail the one at the position comes first. -/
def FailsFirst (resolver : Resolver) (v : Json) (p : List ℕ) (e : HomeError) : Prop :=
  FailsAt resolver v p e ∧ ∀ q < p, ∀ e', ¬ FailsAt resolver v q e'

theorem exists_denotes_iff {s : String} :
    (∃ w, Denotes resolver s w) ↔ ∀ e, ¬ Demand.Refused resolver (.symbol s) e := by
  have hmet : (∃ w, Denotes resolver s w) ↔ (Demand.symbol s).refusal? resolver = none :=
    Demand.met_iff (q := .symbol s)
  simp only [hmet, Option.eq_none_iff_forall_ne_some, Demand.refused_iff, ne_eq]

theorem failsAt_cons_iff {i : ℕ} : FailsAt resolver v (i :: p) e
    ↔ ∃ w, v.children[i]? = some w ∧ FailsAt resolver w p e := by
  simp only [FailsAt, Json.at?_cons_eq_some_iff]
  constructor
  · rintro ⟨s, ⟨w, hw, hs⟩, h⟩
    exact ⟨w, hw, s, hs, h⟩
  · rintro ⟨w, hw, s, hs, h⟩
    exact ⟨s, ⟨w, hw, hs⟩, h⟩

theorem not_failsAt_nil (hv : v.toText? = none) : ¬ FailsAt resolver v [] e := by
  rintro ⟨s, hs, -⟩
  cases hs
  cases hv

theorem failsAt_string_iff {s : String} : FailsAt resolver (.string s) p e
    ↔ p = [] ∧ failure? (value resolver (.string s)) = some e := by
  have hvalue : failure? (value resolver (.string s)) = some e
      ↔ Symbol.isCandidate s = true ∧ Demand.Refused resolver (.symbol s) e := by
    rw [value, failure?_eq_some_iff]
    split_ifs with hs <;> simp [hs, token_eq_error_iff]
  rw [hvalue]
  rcases p with _ | ⟨i, p⟩
  · constructor
    · rintro ⟨_, ⟨⟩, h⟩
      exact ⟨rfl, h⟩
    · rintro ⟨-, h⟩
      exact ⟨s, rfl, h⟩
  · simp [failsAt_cons_iff, Json.children]

theorem failure?_value_eq_none_iff :
    failure? (value resolver v) = none ↔ ∀ p e, ¬ FailsAt resolver v p e := by
  induction v using Json.children_induction with
  | h v ih =>
    rcases hv : v.toText? with _ | s
    · rw [failure?_value_children hv, List.findSome?_eq_none_iff]
      constructor
      · rintro h (_ | ⟨i, p⟩) e he
        · exact not_failsAt_nil hv he
        · obtain ⟨w, hw, he⟩ := failsAt_cons_iff.1 he
          have hm := List.mem_of_getElem? hw
          exact (ih w hm).1 (h w hm) p e he
      · intro h w hm
        obtain ⟨i, hi⟩ := List.getElem?_of_mem hm
        exact (ih w hm).2 fun p e he => h (i :: p) e (failsAt_cons_iff.2 ⟨w, hi, he⟩)
    · obtain rfl := Json.toText?_eq_some_iff.1 hv
      simp only [Option.eq_none_iff_forall_ne_some, failsAt_string_iff, not_and]
      exact ⟨fun h _ e _ => h e, fun h e => h [] e rfl⟩

theorem failsFirst_cons_iff {i : ℕ} (hv : v.toText? = none) : FailsFirst resolver v (i :: p) e
    ↔ ∃ w, v.children[i]? = some w ∧ FailsFirst resolver w p e
      ∧ ∀ x ∈ v.children.take i, failure? (value resolver x) = none := by
  constructor
  · rintro ⟨hf, hfirst⟩
    obtain ⟨w, hw, hfw⟩ := failsAt_cons_iff.1 hf
    refine ⟨w, hw, ⟨hfw, fun q hq e' he => ?_⟩, fun x hx => ?_⟩
    · exact hfirst (i :: q) (List.cons_lt_cons_iff.2 (.inr ⟨rfl, hq⟩)) e'
        (failsAt_cons_iff.2 ⟨w, hw, he⟩)
    · obtain ⟨j, hj, hx⟩ := List.mem_take_iff_getElem.1 hx
      refine failure?_value_eq_none_iff.2 fun q e' he => ?_
      refine hfirst (j :: q) (List.cons_lt_cons_iff.2 (.inl (by omega))) e'
        (failsAt_cons_iff.2 ⟨x, ?_, he⟩)
      exact List.getElem?_eq_some_iff.2 ⟨by omega, hx⟩
  · rintro ⟨w, hw, ⟨hfw, hfirst⟩, hpre⟩
    refine ⟨failsAt_cons_iff.2 ⟨w, hw, hfw⟩, fun q hq e' he => ?_⟩
    -- what comes before is in a child further left, or further left in the same one
    rcases q with _ | ⟨j, q⟩
    · exact not_failsAt_nil hv he
    · obtain ⟨x, hx, he⟩ := failsAt_cons_iff.1 he
      rcases List.cons_lt_cons_iff.1 hq with hj | ⟨rfl, hlt⟩
      · have hm : x ∈ v.children.take i :=
          List.mem_of_getElem? ((List.getElem?_take_of_lt hj).trans hx)
        exact failure?_value_eq_none_iff.1 (hpre x hm) q e' he
      · cases hx.symm.trans hw
        exact hfirst q hlt e' he

theorem failure?_value_eq_some_iff :
    failure? (value resolver v) = some e ↔ ∃ p, FailsFirst resolver v p e := by
  induction v using Json.children_induction with
  | h v ih =>
    rcases hv : v.toText? with _ | s
    · rw [failure?_value_children hv, List.findSome?_eq_some_iff]
      constructor
      · rintro ⟨pre, w, post, hc, hw, hpre⟩
        obtain ⟨p, hp⟩ := (ih w (by simp [hc])).1 hw
        refine ⟨pre.length :: p, (failsFirst_cons_iff hv).2 ⟨w, by simp [hc], hp, ?_⟩⟩
        rw [hc, List.take_left]
        exact hpre
      · rintro ⟨_ | ⟨i, p⟩, hp⟩
        · exact absurd hp.1 (not_failsAt_nil hv)
        · obtain ⟨w, hw, hp, hpre⟩ := (failsFirst_cons_iff hv).1 hp
          obtain ⟨hi, rfl⟩ := List.getElem?_eq_some_iff.1 hw
          refine ⟨_, _, v.children.drop (i + 1), ?_, (ih _ (List.getElem_mem hi)).2 ⟨p, hp⟩, hpre⟩
          rw [List.getElem_cons_drop, List.take_append_drop]
    · obtain rfl := Json.toText?_eq_some_iff.1 hv
      simp [FailsFirst, failsAt_string_iff]

end Failing

/-- Substitution succeeds if every text that is meant as a symbol has a value, wherever it stands,
and gives the value in which these texts are replaced; else it fails as the first of them that has
none. Where there is no such text, the value stays as it is. -/
theorem value_outcome (resolver : Resolver) (v : Json) :
    ((∃ u, value resolver v = .ok u) ↔ ∀ p s, v.at? p = some (.string s) →
        Symbol.isCandidate s = true → ∃ w, Denotes resolver s w)
      ∧ (∀ u, value resolver v = .ok u ↔ Substituted resolver v u)
      ∧ (∀ e, value resolver v = .error e ↔ ∃ p, FailsFirst resolver v p e)
      ∧ ((∀ p s, v.at? p = some (.string s) → Symbol.isCandidate s = false) →
        value resolver v = .ok v) := by
  refine ⟨?_, fun u => value_eq_ok_iff, fun e => ?_, fun h => ?_⟩
  · rw [← failure?_eq_none_iff, failure?_value_eq_none_iff]
    simp only [exists_denotes_iff]
    constructor
    · intro h p s hp hs e he
      exact h p e ⟨s, hp, hs, he⟩
    · rintro h p e ⟨s, hp, hs, he⟩
      exact h p s hp hs e he
  · rw [← failure?_eq_some_iff, failure?_value_eq_some_iff]
  · refine value_eq_ok_iff.2 fun p x hx => ⟨x, hx, ?_⟩
    cases x with
    | string s => exact .text (h p s hx)
    | array => exact .array rfl
    | object => exact .object rfl
    | _ => constructor

/-- A lamp's colours: a symbol in a list, under a name that looks like one. -/
def lampColors (mode : String) : Json :=
  .object [("light.ColorMode.HS", .array [.string mode, .string "1.0.2"])]

/-- The one colour mode has a value that looks like a symbol in its turn. -/
def colorTable : SymbolTable :=
  SymbolTable.empty.register "light" "ColorMode" "HS" (.string "light.ColorMode.XY")

/-- The name of the field is left alone and the value is not looked at again; a colour without a
value fails, and the version is no symbol at all. -/
theorem value_outcome_colors :
    Substituted colorTable.resolve (lampColors "light.ColorMode.HS")
        (lampColors "light.ColorMode.XY")
      ∧ (∃ p, FailsFirst colorTable.resolve (lampColors "light.ColorMode.XY") p
        (.unresolved "light.ColorMode.XY" .unknown))
      ∧ ∀ resolver, value resolver (lampColors "hs") = .ok (lampColors "hs") := by
  refine ⟨((value_outcome _ _).2.1 _).1 rfl, ((value_outcome _ _).2.2.1 _).1 rfl,
    fun resolver => (value_outcome resolver _).2.2.2 fun p s hs => ?_⟩
  have htokens : (lampColors "hs").tokens = [] := by decide
  by_contra hc
  have hm := Json.mem_tokens_iff.2 ⟨p, hs, Bool.not_eq_false _ ▸ hc⟩
  rw [htokens] at hm
  cases hm

end Substitution

end SmartHome
