import Mathlib.Data.List.Forall2

/-!
# How a computation fails

The failure of a computation is its error, if it ends in one (`failure?`). A walk over a list fails
as the first of its steps that fails (`failure?_mapM`, `failure?_foldlM`), so the failure of a
nested walk is a search through what it visits, in the order of the visits; `FirstFailing` says
what such a search finds. A walk that succeeds does so step by step (`mapM_eq_ok_iff`).
-/

namespace SmartHome

universe u v w

variable {ε : Type u} {α β : Type v} {γ : Type w}

/-- The error in which a computation ends. -/
def failure? : Except ε α → Option ε
  | .error e => some e
  | .ok _ => none

section Failure

@[simp] theorem failure?_ok (a : α) : failure? (.ok a : Except ε α) = none := rfl

@[simp] theorem failure?_pure (a : α) : failure? (pure a : Except ε α) = none := rfl

@[simp] theorem failure?_error (e : ε) : failure? (.error e : Except ε α) = some e := rfl

theorem failure?_eq_some_iff {x : Except ε α} {e : ε} : failure? x = some e ↔ x = .error e := by
  cases x <;> simp [failure?]

theorem failure?_eq_none_iff {x : Except ε α} : failure? x = none ↔ ∃ a, x = .ok a := by
  cases x <;> simp [failure?]

@[simp] theorem failure?_map (x : Except ε α) (f : α → β) : failure? (x.map f) = failure? x := by
  cases x <;> rfl

@[simp] theorem failure?_bind_pure (x : Except ε α) (f : α → β) :
    failure? (x >>= fun a => pure (f a)) = failure? x := by
  cases x <;> rfl

/-- A step and what follows it fail as the step does, or else as what follows. -/
theorem failure?_bind {x : Except ε α} {f : α → Except ε β} {o : Option ε}
    (h : ∀ a, x = .ok a → failure? (f a) = o) : failure? (x >>= f) = (failure? x).or o := by
  rcases x with e | a
  · rfl
  · exact h a rfl

theorem bind_eq_ok_iff {x : Except ε α} {f : α → Except ε β} {b : β} :
    x >>= f = .ok b ↔ ∃ a, x = .ok a ∧ f a = .ok b := by
  cases x <;> simp [bind, Except.bind]

theorem bind_eq_error_iff {x : Except ε α} {f : α → Except ε β} {e : ε} :
    x >>= f = .error e ↔ x = .error e ∨ ∃ a, x = .ok a ∧ f a = .error e := by
  cases x <;> simp [bind, Except.bind]

theorem bind_congr_of_ok {x : Except ε α} {f g : α → Except ε β}
    (h : ∀ a, x = .ok a → f a = g a) : x >>= f = x >>= g := by
  rcases x with e | a
  · rfl
  · exact h a rfl

theorem map_eq_ok_iff {x : Except ε α} {f : α → β} {b : β} :
    x.map f = .ok b ↔ ∃ a, x = .ok a ∧ f a = b := by
  cases x <;> simp [Except.map]

theorem map_eq_error_iff {x : Except ε α} {f : α → β} {e : ε} :
    x.map f = .error e ↔ x = .error e := by
  cases x <;> simp [Except.map]

theorem mapError_eq_error_iff {δ : Type*} {x : Except ε α} {f : ε → δ} {e : δ} :
    x.mapError f = .error e ↔ ∃ e', x = .error e' ∧ f e' = e := by
  cases x <;> simp [Except.mapError]

theorem mapError_eq_ok_iff {δ : Type*} {x : Except ε α} {f : ε → δ} {a : α} :
    x.mapError f = .ok a ↔ x = .ok a := by
  cases x <;> simp [Except.mapError]

end Failure

section Walk

/-- A walk ends in the error of its first step that fails. -/
theorem failure?_mapM (f : γ → Except ε α) :
    ∀ l : List γ, failure? (l.mapM f) = l.findSome? fun x => failure? (f x)
  | [] => rfl
  | x :: l => by
    have ih := failure?_mapM f l
    rw [List.mapM_cons, List.findSome?_cons, ← ih]
    rcases f x with e | a
    · rfl
    · rcases l.mapM f with e | as <;> rfl

/-- So does a walk that carries a value along, if the value plays no part in the failures. -/
theorem failure?_foldlM {f : α → γ → Except ε α} {g : γ → Option ε}
    (h : ∀ a x, failure? (f a x) = g x) :
    ∀ (l : List γ) (a : α), failure? (l.foldlM f a) = l.findSome? g
  | [], _ => rfl
  | x :: l, a => by
    rw [List.foldlM_cons, List.findSome?_cons, ← h a x]
    rcases f a x with e | b
    · rfl
    · exact failure?_foldlM h l b

/-- What each step carries on to the steps done so far, the whole walk carries on to all of them. -/
theorem foldlM_done {f : α → γ → Except ε α} {P : List γ → α → Prop}
    (h : ∀ done a x b, P done a → f a x = .ok b → P (done ++ [x]) b) {l : List γ} {a b : α}
    (ha : P [] a) (hb : l.foldlM f a = .ok b) : P l b := by
  have hrun : ∀ (l done : List γ) (a : α), P done a → l.foldlM f a = .ok b → P (done ++ l) b := by
    intro l
    induction l with
    | nil =>
      rintro done a ha ⟨⟩
      rwa [List.append_nil]
    | cons x l ih =>
      intro done a ha hb
      rw [List.foldlM_cons, bind_eq_ok_iff] at hb
      obtain ⟨c, hc, hb⟩ := hb
      have hl := ih (done ++ [x]) c (h done a x c ha hc) hb
      rwa [List.append_assoc, List.singleton_append] at hl
  exact hrun l [] a ha hb

theorem mapM_eq_ok_iff {f : γ → Except ε α} :
    ∀ {l : List γ} {as : List α},
      l.mapM f = .ok as ↔ List.Forall₂ (fun x a => f x = .ok a) l as
  | [], as => by simp [pure, Except.pure, eq_comm]
  | x :: l, as => by
    simp only [List.mapM_cons, bind_eq_ok_iff, mapM_eq_ok_iff (l := l),
      List.forall₂_cons_left_iff]
    constructor
    · rintro ⟨a, ha, bs, hbs, h⟩
      cases h
      exact ⟨a, bs, ha, hbs, rfl⟩
    · rintro ⟨a, bs, ha, hbs, rfl⟩
      exact ⟨a, ha, bs, hbs, rfl⟩

theorem mapM_congr {f g : γ → Except ε α} :
    ∀ {l : List γ}, (∀ x ∈ l, f x = g x) → l.mapM f = l.mapM g
  | [], _ => rfl
  | x :: l, h => by
    rw [List.mapM_cons, List.mapM_cons, h x List.mem_cons_self,
      mapM_congr fun y hy => h y (List.mem_cons_of_mem _ hy)]

theorem map_eq_of_forall₂ {δ : Type*} {R : γ → α → Prop} {f : γ → δ} {g : α → δ}
    (hR : ∀ x a, R x a → g a = f x) {l : List γ} {as : List α} (h : List.Forall₂ R l as) :
    as.map g = l.map f := by
  induction h with
  | nil => rfl
  | cons hx _ ih => rw [List.map_cons, List.map_cons, hR _ _ hx, ih]

theorem exists_of_forall₂ {R : γ → α → Prop} {l : List γ} {as : List α} (h : List.Forall₂ R l as)
    {a : α} (ha : a ∈ as) : ∃ x ∈ l, R x a := by
  induction h with
  | nil => cases ha
  | cons hx _ ih =>
    rcases List.mem_cons.1 ha with rfl | ha
    · exact ⟨_, List.mem_cons_self, hx⟩
    · obtain ⟨x, hm, hx⟩ := ih ha
      exact ⟨x, List.mem_cons_of_mem _ hm, hx⟩

/-- Walks whose steps succeed alike do so as well. -/
theorem foldlM_eq_ok_congr {f g : α → γ → Except ε α} : ∀ {l : List γ} {a b : α},
    (∀ a, ∀ x ∈ l, ∀ b, f a x = .ok b ↔ g a x = .ok b) →
      (l.foldlM f a = .ok b ↔ l.foldlM g a = .ok b)
  | [], _, _, _ => Iff.rfl
  | x :: l, a, b, h => by
    rw [List.foldlM_cons, List.foldlM_cons, bind_eq_ok_iff, bind_eq_ok_iff]
    refine exists_congr fun c => and_congr (h a x List.mem_cons_self c) ?_
    exact foldlM_eq_ok_congr fun a y hy => h a y (List.mem_cons_of_mem _ hy)

/-- Walks with the same steps are the same. -/
theorem foldlM_congr {f g : α → γ → Except ε α} : ∀ {l : List γ} {a : α},
    (∀ a, ∀ x ∈ l, f a x = g a x) → l.foldlM f a = l.foldlM g a
  | [], _, _ => rfl
  | x :: l, a, h => by
    rw [List.foldlM_cons, List.foldlM_cons, h a x List.mem_cons_self]
    exact bind_congr_of_ok fun _ _ =>
      foldlM_congr fun b y hy => h b y (List.mem_cons_of_mem _ hy)

/-- A walk ends in the error of the step that fails after others have not. -/
theorem foldlM_eq_error_iff {f : α → γ → Except ε α} {e : ε} : ∀ {l : List γ} {a : α},
    l.foldlM f a = .error e ↔ ∃ pre x post b, l = pre ++ x :: post ∧ pre.foldlM f a = .ok b
      ∧ f b x = .error e
  | [], a => by simp [pure, Except.pure]
  | x :: l, a => by
    rw [List.foldlM_cons, bind_eq_error_iff]
    constructor
    · rintro (hx | ⟨b, hb, hl⟩)
      · exact ⟨[], x, l, a, rfl, rfl, hx⟩
      · obtain ⟨pre, y, post, c, rfl, hpre, hy⟩ := foldlM_eq_error_iff.1 hl
        refine ⟨x :: pre, y, post, c, rfl, ?_, hy⟩
        rw [List.foldlM_cons]
        exact bind_eq_ok_iff.2 ⟨b, hb, hpre⟩
    · rintro ⟨pre, y, post, c, hsplit, hpre, hy⟩
      rcases pre with _ | ⟨z, pre⟩
      · cases hsplit
        cases hpre
        exact .inl hy
      · cases hsplit
        rw [List.foldlM_cons] at hpre
        obtain ⟨b, hb, hpre⟩ := bind_eq_ok_iff.1 hpre
        exact .inr ⟨b, hb, foldlM_eq_error_iff.2 ⟨pre, y, post, c, rfl, hpre, hy⟩⟩

theorem findSome?_congr {f g : γ → Option ε} :
    ∀ {l : List γ}, (∀ x ∈ l, f x = g x) → l.findSome? f = l.findSome? g
  | [], _ => rfl
  | x :: l, h => by
    rw [List.findSome?_cons, List.findSome?_cons, h x List.mem_cons_self,
      findSome?_congr fun y hy => h y (List.mem_cons_of_mem _ hy)]

theorem findSome?_flatMap {δ : Type w} (f : γ → List δ) (g : δ → Option ε) :
    ∀ l : List γ, (l.flatMap f).findSome? g = l.findSome? fun x => (f x).findSome? g
  | [] => rfl
  | x :: l => by
    rw [List.flatMap_cons, List.findSome?_append, findSome?_flatMap f g l, List.findSome?_cons]
    cases (f x).findSome? g <;> rfl

end Walk

/-- The element is the first of the list that does not have the property. -/
def FirstFailing (P : γ → Prop) (l : List γ) (x : γ) : Prop :=
  ∃ pre post, l = pre ++ x :: post ∧ (∀ y ∈ pre, P y) ∧ ¬ P x

namespace FirstFailing

variable {P : γ → Prop} {l : List γ} {x : γ}

theorem mem (h : FirstFailing P l x) : x ∈ l := by
  obtain ⟨pre, post, rfl, -⟩ := h
  simp

theorem unique {y : γ} (hx : FirstFailing P l x) (hy : FirstFailing P l y) : x = y := by
  obtain ⟨pre, post, rfl, hpre, hPx⟩ := hx
  obtain ⟨pre', post', hsplit, hpre', hPy⟩ := hy
  rcases List.append_eq_append_iff.1 hsplit with ⟨mid, h1, h2⟩ | ⟨mid, h1, h2⟩
  · rcases mid with _ | ⟨m, mid⟩
    · cases h2
      rfl
    · cases h2
      exact absurd (hpre' x (by simp [h1])) hPx
  · rcases mid with _ | ⟨m, mid⟩
    · cases h2
      rfl
    · cases h2
      exact absurd (hpre y (by simp [h1])) hPy

theorem find?_iff {p : γ → Bool} (hP : ∀ y, P y ↔ p y = true) :
    l.find? (fun y => !p y) = some x ↔ FirstFailing P l x := by
  rw [List.find?_eq_some_iff_append]
  constructor
  · rintro ⟨hx, pre, post, rfl, hpre⟩
    exact ⟨pre, post, rfl, fun y hy => (hP y).2 (by simpa using hpre y hy), by simpa [hP] using hx⟩
  · rintro ⟨pre, post, rfl, hpre, hx⟩
    exact ⟨by simpa [hP] using hx, pre, post, rfl, fun y hy => by simpa using (hP y).1 (hpre y hy)⟩

theorem exists_iff : (∃ x, FirstFailing P l x) ↔ ¬ ∀ y ∈ l, P y := by
  classical
  have hfind : (∃ x, FirstFailing P l x) ↔ (l.find? fun y => !decide (P y)).isSome := by
    rw [Option.isSome_iff_exists]
    exact exists_congr fun x => (find?_iff fun y => (decide_eq_true_iff (p := P y)).symm).symm
  rw [hfind, List.find?_isSome]
  simp

/-- A search finds what it finds at the first element where there is anything to find. -/
theorem findSome?_iff {g : γ → Option ε} {e : ε} (hP : ∀ y ∈ l, (P y ↔ g y = none)) :
    l.findSome? g = some e ↔ ∃ x, FirstFailing P l x ∧ g x = some e := by
  rw [List.findSome?_eq_some_iff]
  constructor
  · rintro ⟨pre, x, post, rfl, hx, hpre⟩
    refine ⟨x, ⟨pre, post, rfl, fun y hy => (hP y (by simp [hy])).2 (hpre y hy), ?_⟩, hx⟩
    rw [hP x (by simp), hx]
    simp
  · rintro ⟨x, ⟨pre, post, rfl, hpre, -⟩, hx⟩
    exact ⟨pre, x, post, rfl, hx, fun y hy => (hP y (by simp [hy])).1 (hpre y hy)⟩

end FirstFailing

end SmartHome
