import Mathlib.Algebra.Order.Floor.Div
import Mathlib.Data.Nat.Dist
import SmartHome.Proofs.Motion

/-!
# How a move ends

A tick brings a moving cover nearer to its target by a step, and by what is left where that is less.
So the cover is known after any number of ticks: it is still underway as long as the steps made are
less than the distance, and from then on it rests at the target (`ticks_moveTo`). A move over a
distance takes as many ticks as the distance has steps, a last one that is not whole counted too
(`moveTo_arrives`).
-/

namespace SmartHome

namespace Cover

variable {c : Cover} {t : UInt8} {k : ℕ}

/-- A cover that can come about: operations and changes of the step, in any order, since a start. -/
inductive Reached : Cover → Prop
  | starts {c : Cover} (h : Starts c) : Reached c
  | performed {c : Cover} (o : Operation) (h : Reached c) : Reached (c.perform o)
  | stepped {c : Cover} (step : UInt8) (h : Reached c) : Reached (c.withStep step)

theorem Reached.coherent (h : Reached c) : c.Coherent := by
  induction h with
  | starts h => exact h.coherent
  | performed o _ ih => exact ih.perform o
  | stepped step _ ih => exact ih.withStep step

/-- The cover after a number of ticks. -/
def ticks (c : Cover) (k : ℕ) : Cover := c.after (List.replicate k .tick)

/-- How far a position is. -/
def distance (c : Cover) (t : UInt8) : ℕ := Nat.dist c.position.toNat t.toNat

/-- The number of ticks that a move to a position takes. -/
def duration (c : Cover) (t : UInt8) : ℕ := c.distance t ⌈/⌉ c.step.toNat

/-- A position moved toward another by some distance. -/
def toward (p t d : ℕ) : ℕ := if p < t then p + d else p - d

section Toward

variable {p d : ℕ}

theorem toward_zero (p t : ℕ) : toward p t 0 = p := by
  unfold toward
  split_ifs <;> rfl

theorem toward_dist (p t : ℕ) : toward p t (Nat.dist p t) = t := by
  unfold toward Nat.dist
  split_ifs <;> omega

theorem toward_le {t : ℕ} (hd : d ≤ Nat.dist p t) : toward p t d ≤ max p t := by
  unfold toward
  unfold Nat.dist at hd
  split_ifs <;> omega

theorem toward_eq_iff {t : ℕ} (hd : d ≤ Nat.dist p t) : toward p t d = t ↔ d = Nat.dist p t := by
  unfold toward
  unfold Nat.dist at hd ⊢
  split_ifs <;> omega

theorem toward_rises {t e : ℕ} (hpt : p < t) (hd : d < Nat.dist p t) (hde : d < e) :
    toward p t (min d (Nat.dist p t)) < toward p t (min e (Nat.dist p t))
      ∧ toward p t (min e (Nat.dist p t)) ≤ t := by
  unfold Nat.dist at hd ⊢
  simp only [toward, hpt, if_true]
  omega

theorem toward_falls {t e : ℕ} (hpt : t < p) (hd : d < Nat.dist p t) (hde : d < e) :
    toward p t (min e (Nat.dist p t)) < toward p t (min d (Nat.dist p t))
      ∧ t ≤ toward p t (min e (Nat.dist p t)) := by
  unfold Nat.dist at hd ⊢
  simp only [toward, not_lt.2 hpt.le, if_false]
  omega

end Toward

section Run

theorem ticks_succ (c : Cover) (k : ℕ) : c.ticks (k + 1) = (c.ticks k).tick.2 := by
  unfold ticks Cover.after
  rw [List.replicate_succ', List.foldl_append]
  rfl

theorem lt_duration_iff (hs : 1 ≤ c.step) : k < c.duration t ↔ k * c.step.toNat < c.distance t := by
  rw [UInt8.le_iff_toNat_le, UInt8.toNat_one] at hs
  rw [duration, ← not_le, ceilDiv_le_iff_le_mul hs, not_le, Nat.mul_comm]

/-- The cover some ticks after it set out for a position. -/
def underway (c : Cover) (t : UInt8) (k : ℕ) : Cover :=
  { c with
    position := .ofNat (toward c.position.toNat t.toNat (k * c.step.toNat))
    target := some t
    state := if c.position < t then .opening else .closing }

/-- The cover at rest in another position. -/
def arrived (c : Cover) (t : UInt8) : Cover := stop { c with position := t }

theorem toNat_position_underway (hk : k * c.step.toNat < c.distance t) :
    (c.underway t k).position.toNat = toward c.position.toNat t.toNat (k * c.step.toNat) := by
  have hle := toward_le hk.le
  have hp := c.position.toNat_lt
  have ht := t.toNat_lt
  refine UInt8.toNat_ofNat_of_lt' ?_
  show _ < 256
  omega

theorem toNat_advance_underway (hk : k * c.step.toNat < c.distance t) :
    (advance c.step (c.underway t k).position t).toNat
      = toward c.position.toNat t.toNat (min ((k + 1) * c.step.toNat) (c.distance t)) := by
  have ht := t.toNat_lt
  rw [toNat_advance]
  simp only [UInt8.lt_iff_toNat_lt, toNat_position_underway hk, Nat.succ_mul]
  unfold distance Nat.dist at hk ⊢
  unfold toward
  split_ifs <;> omega

/-- After a tick the cover is still underway, unless that was the last. -/
theorem tick_underway (hs : 1 ≤ c.step) (hk : k < c.duration t) : (c.underway t k).tick
    = (true, if k + 1 < c.duration t then c.underway t (k + 1) else c.arrived t) := by
  have hfar := (lt_duration_iff hs).1 hk
  have hposition := toNat_advance_underway hfar
  rw [tick_of_target (t := t) rfl]
  refine congrArg (Prod.mk true) ?_
  change (if advance c.step (c.underway t k).position t = t then c.arrived t
    else { c.underway t k with position := advance c.step (c.underway t k).position t }) = _
  -- there is a tick left just if the steps made with this one are still less than the distance
  by_cases hnear : k + 1 < c.duration t
  · have hleft := (lt_duration_iff hs).1 hnear
    rw [min_eq_left hleft.le, ← toNat_position_underway hleft, UInt8.toNat_inj] at hposition
    have hne : (c.underway t (k + 1)).position ≠ t := by
      rw [← UInt8.toNat_inj.ne, toNat_position_underway hleft]
      exact (toward_eq_iff hleft.le).not.2 hleft.ne
    rw [hposition, if_neg hne, if_pos hnear]
    rfl
  · have hleft := not_lt.1 ((lt_duration_iff hs).not.1 hnear)
    rw [min_eq_right hleft, distance, toward_dist, UInt8.toNat_inj] at hposition
    rw [if_pos hposition, if_neg hnear]

theorem distance_eq_zero_iff : c.distance t = 0 ↔ t = c.position := by
  unfold distance Nat.dist
  rw [← UInt8.toNat_inj]
  omega

theorem duration_pos_iff (hs : 1 ≤ c.step) : 0 < c.duration t ↔ t ≠ c.position := by
  rw [lt_duration_iff hs, Nat.zero_mul, Nat.pos_iff_ne_zero, Ne, distance_eq_zero_iff]

theorem underway_zero (c : Cover) (t : UInt8) : c.underway t 0
    = { c with target := some t, state := if c.position < t then .opening else .closing } := by
  unfold underway
  rw [Nat.zero_mul, toward_zero, UInt8.ofNat_toNat]

/-- The cover after any number of ticks of a move. -/
theorem ticks_moveTo (h : c.Coherent) (position : UInt8) (k : ℕ) : (c.moveTo position).ticks k
    = if k < c.duration (limit position) then c.underway (limit position) k
      else c.arrived (limit position) := by
  induction k with
  | zero =>
    change c.moveTo position = _
    unfold Cover.moveTo
    by_cases ht : limit position = c.position
    · rw [if_pos ht, if_neg ((duration_pos_iff h.step_pos).not.2 (not_not.2 ht)), ht]
      rfl
    · rw [if_neg ht, if_pos ((duration_pos_iff h.step_pos).2 ht), underway_zero]
  | succ k ih =>
    rw [ticks_succ, ih]
    split_ifs with hk hnear hnear
    · rw [tick_underway h.step_pos hk, if_pos hnear]
    · rw [tick_underway h.step_pos hk, if_neg hnear]
    · exact absurd (k.lt_succ_self.trans hnear) hk
    · rfl

end Run

section Arrival

/-- What the ticks of a move make of the cover: they are as many as the steps in the distance,
every one of them brings it nearer to the target and none beyond, it opens or closes all the way,
and the last one leaves it at rest. -/
structure Arrives (c : Cover) (t : UInt8) (run : ℕ → Cover) : Prop where
  tick_iff : ∀ k, (run k).tick.1 = true ↔ k < c.duration t
  toNat_position : ∀ k, (run k).position.toNat
    = toward c.position.toNat t.toNat (min (k * c.step.toNat) (c.distance t))
  rises : c.position < t → ∀ k < c.duration t,
    (run k).position < (run (k + 1)).position ∧ (run (k + 1)).position ≤ t
  falls : t < c.position → ∀ k < c.duration t,
    (run (k + 1)).position < (run k).position ∧ t ≤ (run (k + 1)).position
  moving : ∀ k < c.duration t, (run k).target = some t
    ∧ (run k).state = if c.position < t then .opening else .closing
  resting : ∀ k, c.duration t ≤ k → (run k).target = none ∧ (run k).position = t
    ∧ (run k).state = if t = 0 then .closed else .opened

theorem toNat_limit (p : UInt8) : (limit p).toNat = min p.toNat 100 := by
  unfold limit top
  split_ifs with hp
  · rw [UInt8.le_iff_toNat_le] at hp
    exact (min_eq_left hp).symm
  · rw [UInt8.not_le, UInt8.lt_iff_toNat_lt] at hp
    exact (min_eq_right hp.le).symm

theorem toNat_position_ticks (h : c.Coherent) (position : UInt8) (k : ℕ) :
    ((c.moveTo position).ticks k).position.toNat = toward c.position.toNat (limit position).toNat
      (min (k * c.step.toNat) (c.distance (limit position))) := by
  rw [ticks_moveTo h]
  split_ifs with hk
  · have hfar := (lt_duration_iff h.step_pos).1 hk
    rw [min_eq_left hfar.le, toNat_position_underway hfar]
  · have hnear := not_lt.1 ((lt_duration_iff h.step_pos).not.1 hk)
    rw [min_eq_right hnear, distance, toward_dist]
    rfl

theorem Coherent.arrives (h : c.Coherent) (position : UInt8) :
    Arrives c (limit position) (c.moveTo position).ticks := by
  have hs := h.step_pos
  -- the steps made before the last tick are less than the distance, and every step counts
  have hstep : ∀ k < c.duration (limit position), k * c.step.toNat < c.distance (limit position)
      ∧ k * c.step.toNat < (k + 1) * c.step.toNat := by
    intro k hk
    rw [UInt8.le_iff_toNat_le, UInt8.toNat_one] at hs
    exact ⟨(lt_duration_iff h.step_pos).1 hk, Nat.mul_lt_mul_of_pos_right k.lt_succ_self hs⟩
  refine ⟨fun k => ?_, toNat_position_ticks h position, fun hup k hk => ?_, fun hdown k hk => ?_,
    fun k hk => ?_, fun k hk => ?_⟩
  · rw [ticks_moveTo h]
    split_ifs with hk
    · simp [tick_underway hs hk, hk]
    · simp [arrived, Cover.stop, Cover.tick, hk]
  · obtain ⟨hfar, hmore⟩ := hstep k hk
    simp only [UInt8.lt_iff_toNat_lt, UInt8.le_iff_toNat_le, toNat_position_ticks h]
    exact toward_rises (UInt8.lt_iff_toNat_lt.1 hup) hfar hmore
  · obtain ⟨hfar, hmore⟩ := hstep k hk
    simp only [UInt8.lt_iff_toNat_lt, UInt8.le_iff_toNat_le, toNat_position_ticks h]
    exact toward_falls (UInt8.lt_iff_toNat_lt.1 hdown) hfar hmore
  · rw [ticks_moveTo h, if_pos hk]
    exact ⟨rfl, rfl⟩
  · rw [ticks_moveTo h, if_neg (not_lt.2 hk)]
    exact ⟨rfl, rfl, rfl⟩

/-- A move of a cover arrives at the position that is asked for, or at the top instead of one above
it. Exactly the ticks of its duration move the cover, a step nearer each and the last as much as is
left; it opens or closes until then, and it rests from then on. -/
theorem moveTo_arrives (h : Reached c) (position : UInt8) :
    (limit position).toNat = min position.toNat 100
      ∧ Arrives c (limit position) (c.moveTo position).ticks :=
  ⟨toNat_limit position, h.coherent.arrives position⟩

/-- An awning that is partly out, with a step that does not lead exactly to the top. -/
def awning : Cover := (((resting 0).withStep 40).after [.raise, .tick]).withStep 25

/-- It is sent beyond the top and arrives there, with three steps over a distance of sixty. -/
theorem moveTo_arrives_awning : Reached awning ∧ awning.duration (limit 250) = 3
    ∧ (limit 250).toNat = 100
    ∧ ((awning.moveTo 250).ticks 2).position.toNat = 90
    ∧ ((awning.moveTo 250).ticks 2).state = .opening
    ∧ ((awning.moveTo 250).ticks 2).tick.1 = true
    ∧ ((awning.moveTo 250).ticks 3).state = .opened
    ∧ ((awning.moveTo 250).ticks 3).tick.1 = false := by
  have hreached : Reached awning :=
    .stepped 25 (.performed .tick (.performed .raise (.starts (.stepped 40 (.resting 0)))))
  obtain ⟨hlimit, harrives⟩ := moveTo_arrives hreached 250
  have hduration : awning.duration (limit 250) = 3 := by decide
  refine ⟨hreached, hduration, hlimit, harrives.toNat_position 2, ?_, ?_, ?_, ?_⟩
  · exact (harrives.moving 2 (by decide)).2
  · exact (harrives.tick_iff 2).2 (by decide)
  · exact (harrives.resting 3 hduration.le).2.2
  · rw [← Bool.not_eq_true, harrives.tick_iff, hduration]
    exact Nat.lt_irrefl 3

end Arrival

end Cover

end SmartHome
