/-!
# Splitting text at a character

Texts are lists of characters or of bytes. `splitAll` gives the pieces between all occurrences of a
character, `splitFirst?` the two sides of the first one. Joining the pieces gives the text back
(`join_splitAll`), no piece holds the character (`not_mem_of_mem_splitAll`), pieces that do not hold
it are those of the text they join to (`splitAll_join`), and both sides of `splitFirst?` are pinned
by `splitFirst?_eq_some_iff`.
-/

namespace SmartHome

namespace Split

variable {α : Type}

/-- Pieces joined by a character. -/
def join (c : α) : List (List α) → List α
  | [] => []
  | [p] => p
  | p :: ps => p ++ c :: join c ps

theorem mem_join {c d : α} (h : d ≠ c) : ∀ {ps : List (List α)},
    d ∈ join c ps ↔ ∃ p ∈ ps, d ∈ p
  | [] => by simp [join]
  | [p] => by simp [join]
  | p :: q :: ps => by
    change d ∈ p ++ c :: join c (q :: ps) ↔ _
    rw [List.mem_append, List.mem_cons, mem_join h]
    simp [h]

variable [DecidableEq α]

/-- The pieces between the occurrences of a character. -/
def splitAll (c : α) : List α → List (List α)
  | [] => [[]]
  | d :: ds =>
    if d = c then [] :: splitAll c ds
    else match splitAll c ds with
      | [] => [[d]]
      | p :: ps => (d :: p) :: ps

/-- The text before and behind the first occurrence of a character. -/
def splitFirst? (c : α) : List α → Option (List α × List α)
  | [] => none
  | d :: ds =>
    if d = c then some ([], ds) else (splitFirst? c ds).map fun p => (d :: p.1, p.2)

theorem splitAll_ne_nil (c : α) (s : List α) : splitAll c s ≠ [] := by
  cases s with
  | nil => simp [splitAll]
  | cons d ds => simp only [splitAll]; split <;> (try split) <;> simp

theorem join_splitAll (c : α) (s : List α) : join c (splitAll c s) = s := by
  induction s with
  | nil => rfl
  | cons d ds ih =>
    rcases hp : splitAll c ds with _ | ⟨p, ps⟩
    · exact absurd hp (splitAll_ne_nil c ds)
    · rw [hp] at ih
      by_cases h : d = c
      · simp [splitAll, h, hp, join, ih]
      · rcases ps with _ | ⟨q, qs⟩ <;> simp_all [splitAll, join]

theorem not_mem_of_mem_splitAll {c : α} {s p : List α} (h : p ∈ splitAll c s) : c ∉ p := by
  induction s generalizing p with
  | nil =>
    rw [splitAll, List.mem_singleton] at h
    rw [h]
    exact List.not_mem_nil
  | cons d ds ih =>
    by_cases hd : d = c
    · rw [splitAll, if_pos hd] at h
      rcases List.mem_cons.1 h with rfl | h
      · exact List.not_mem_nil
      · exact ih h
    · rw [splitAll, if_neg hd] at h
      rcases hp : splitAll c ds with _ | ⟨q, qs⟩
      · exact absurd hp (splitAll_ne_nil c ds)
      · rw [hp] at h ih
        rcases List.mem_cons.1 h with rfl | h
        · have hq : c ∉ q := ih List.mem_cons_self
          simp [hq, Ne.symm hd]
        · exact ih (List.mem_cons_of_mem _ h)

/-- The pieces on either side of an occurrence of the character. -/
theorem splitAll_append (c : α) (a b : List α) :
    splitAll c (a ++ c :: b) = splitAll c a ++ splitAll c b := by
  induction a with
  | nil => simp [splitAll]
  | cons d ds ih =>
    rcases hp : splitAll c ds with _ | ⟨q, qs⟩
    · exact absurd hp (splitAll_ne_nil c ds)
    · by_cases hd : d = c <;> simp [splitAll, hd, ih, hp]

theorem splitAll_of_not_mem {c : α} {s : List α} (h : c ∉ s) : splitAll c s = [s] := by
  induction s with
  | nil => rfl
  | cons d ds ih =>
    obtain ⟨hd, hds⟩ := not_or.1 fun hor => h (List.mem_cons.2 hor)
    rw [splitAll, if_neg (Ne.symm hd), ih hds]

theorem splitAll_join {c : α} :
    ∀ {ps : List (List α)}, ps ≠ [] → (∀ p ∈ ps, c ∉ p) → splitAll c (join c ps) = ps
  | [], hne, _ => absurd rfl hne
  | [_], _, h => splitAll_of_not_mem (h _ List.mem_cons_self)
  | p :: q :: ps, _, h => by
    have hp : splitAll c p = [p] := splitAll_of_not_mem (h p List.mem_cons_self)
    have ih : splitAll c (join c (q :: ps)) = q :: ps :=
      splitAll_join (List.cons_ne_nil q ps) fun r hr => h r (List.mem_cons_of_mem _ hr)
    change splitAll c (p ++ c :: join c (q :: ps)) = p :: q :: ps
    rw [splitAll_append, hp, ih, List.singleton_append]

theorem splitFirst?_eq_some_iff {c : α} {s a b : List α} :
    splitFirst? c s = some (a, b) ↔ s = a ++ c :: b ∧ c ∉ a := by
  induction s generalizing a with
  | nil => simp [splitFirst?]
  | cons d ds ih =>
    by_cases h : d = c
    · subst h
      rcases a with _ | ⟨x, xs⟩
      · simp [splitFirst?, eq_comm]
      · simp only [splitFirst?, if_true, Option.some.injEq, Prod.mk.injEq, List.cons_append,
          List.cons.injEq, List.mem_cons, not_or]
        constructor
        · rintro ⟨h, -⟩; cases h
        · rintro ⟨⟨h, -⟩, h', -⟩; exact absurd h h'
    · rcases a with _ | ⟨x, xs⟩
      · simp [splitFirst?, h]
      · have hc : ¬ c = d := fun he => h he.symm
        simp only [splitFirst?, h, if_false, Option.map_eq_some_iff, Prod.exists, Prod.mk.injEq,
          List.cons_append, List.cons.injEq, List.mem_cons, not_or]
        constructor
        · rintro ⟨a', b', hs, ⟨rfl, rfl⟩, rfl⟩
          obtain ⟨h1, h2⟩ := ih.1 hs
          exact ⟨⟨rfl, h1⟩, hc, h2⟩
        · rintro ⟨⟨rfl, h1⟩, -, h2⟩
          exact ⟨xs, b, ih.2 ⟨h1, h2⟩, ⟨rfl, rfl⟩, rfl⟩

theorem splitFirst?_eq_none_iff {c : α} {s : List α} :
    splitFirst? c s = none ↔ c ∉ s := by
  induction s with
  | nil => simp [splitFirst?]
  | cons d ds ih =>
    by_cases h : d = c
    · simp [splitFirst?, h]
    · have hc : ¬ c = d := fun he => h he.symm
      simp [splitFirst?, h, hc, ih]

end Split

end SmartHome
