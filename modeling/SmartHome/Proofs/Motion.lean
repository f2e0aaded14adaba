import SmartHome.Proofs.Failure
import SmartHome.Simulator.Cover

/-!
# How a cover moves

A cover is coherent if its state says what its position and its target do: a target lies within
reach and elsewhere than the cover, which opens or closes according to the side on which the target
is; without a target the cover rests, closed at the bottom and open anywhere else. Every operation
leaves a coherent cover coherent (`Coherent.perform`), as a tick brings the cover nearer to its
target, by one at least and not beyond it (`advance_ne`, `advance_ahead`). So a cover is
coherent after any operations, and it moves exactly in the states that say so (`coherent_after`).
-/

namespace SmartHome

namespace Cover

variable {c : Cover} {t : UInt8}

/-- The state of the cover is that of its position and its target. -/
structure Coherent (c : Cover) : Prop where
  position_le : c.position ≤ 100
  step_pos : 1 ≤ c.step
  moving : ∀ t, c.target = some t → t ≤ 100 ∧ t ≠ c.position
    ∧ (c.state = .opening ↔ c.position < t) ∧ (c.state = .closing ↔ t < c.position)
  resting : c.target = none → (c.state = .closed ↔ c.position = 0)
    ∧ (c.state = .opened ↔ c.position ≠ 0)

/-- A cover before any operation: at rest or seeded from an entity, perhaps with another step. -/
inductive Starts : Cover → Prop
  | resting (position : UInt8) : Starts (resting position)
  | seeded {e : Entity} {c : Cover} (h : ofEntity e = .ok c) : Starts c
  | stepped {c : Cover} (step : UInt8) (h : Starts c) : Starts (c.withStep step)

/-- The cover after operations, one after the other. -/
def after (c : Cover) (operations : List Operation) : Cover := operations.foldl perform c

section Advance

/-- A step is added or taken away within the range of a byte, and not beyond the target. -/
theorem toNat_advance (step p t : UInt8) : (advance step p t).toNat
    = if p < t then min (min (p.toNat + step.toNat) 255) t.toNat
      else max (p.toNat - step.toNat) t.toNat := by
  have ht := t.toNat_lt
  unfold advance
  split_ifs with hlt hnear hnear
  · rw [UInt8.le_iff_toNat_le, UInt8.toNat_sub_of_le _ _ (UInt8.le_of_lt hlt)] at hnear
    rw [UInt8.lt_iff_toNat_lt] at hlt
    omega
  · rw [UInt8.le_iff_toNat_le, UInt8.toNat_sub_of_le _ _ (UInt8.le_of_lt hlt)] at hnear
    rw [UInt8.lt_iff_toNat_lt] at hlt
    rw [UInt8.toNat_add]
    omega
  · have hle := UInt8.not_lt.1 hlt
    rw [UInt8.le_iff_toNat_le, UInt8.toNat_sub_of_le _ _ hle] at hnear
    rw [UInt8.le_iff_toNat_le] at hle
    omega
  · have hle := UInt8.not_lt.1 hlt
    rw [UInt8.le_iff_toNat_le, UInt8.toNat_sub_of_le _ _ hle] at hnear
    rw [UInt8.le_iff_toNat_le] at hle
    have hstep : step ≤ p := by
      rw [UInt8.le_iff_toNat_le]
      omega
    rw [UInt8.toNat_sub_of_le _ _ hstep]
    omega

theorem advance_le {step p : UInt8} (hp : p ≤ 100) (ht : t ≤ 100) : advance step p t ≤ 100 := by
  have hadvance := toNat_advance step p t
  simp only [UInt8.le_iff_toNat_le, UInt8.lt_iff_toNat_lt] at hp ht hadvance ⊢
  split_ifs at hadvance <;> omega

/-- A tick takes the cover off its position. -/
theorem advance_ne {step p : UInt8} (hstep : 1 ≤ step) (hne : t ≠ p) : advance step p t ≠ p := by
  have hadvance := toNat_advance step p t
  have ht := t.toNat_lt
  rw [← UInt8.toNat_inj.ne] at hne ⊢
  rw [UInt8.le_iff_toNat_le, UInt8.toNat_one] at hstep
  simp only [UInt8.lt_iff_toNat_lt] at hadvance
  split_ifs at hadvance <;> omega

/-- A target that is not reached is still ahead, on the side where it was. -/
theorem advance_ahead {step p : UInt8} (hreached : advance step p t ≠ t) :
    (p < t ↔ advance step p t < t) ∧ (t < p ↔ t < advance step p t) := by
  have hadvance := toNat_advance step p t
  rw [← UInt8.toNat_inj.ne] at hreached
  simp only [UInt8.lt_iff_toNat_lt] at hadvance ⊢
  split_ifs at hadvance <;> omega

end Advance

section Steps

theorem limit_le (p : UInt8) : limit p ≤ 100 := by
  unfold limit top
  split_ifs with h
  · exact h
  · exact UInt8.le_refl 100

/-- A cover that halts within its range rests there. -/
theorem coherent_stop (hp : c.position ≤ 100) (hs : 1 ≤ c.step) : c.stop.Coherent where
  position_le := hp
  step_pos := hs
  moving := by
    rintro t ⟨⟩
  resting := by
    rintro -
    by_cases h0 : c.position = 0 <;> simp [Cover.stop, CoverState.atRest, h0]

theorem coherent_resting (p : UInt8) : (Cover.resting p).Coherent :=
  coherent_stop (c := Cover.resting p) (limit_le p) (UInt8.le_iff_toNat_le.2 (by decide : 1 ≤ 10))

theorem Coherent.withStep (h : c.Coherent) (step : UInt8) : (c.withStep step).Coherent where
  position_le := h.position_le
  step_pos := by
    simp only [Cover.withStep]
    split_ifs with hstep
    · exact UInt8.le_refl 1
    · rw [← UInt8.toNat_inj, UInt8.toNat_zero] at hstep
      rw [UInt8.le_iff_toNat_le, UInt8.toNat_one]
      omega
  moving := h.moving
  resting := h.resting

theorem Coherent.moveTo (h : c.Coherent) (position : UInt8) : (c.moveTo position).Coherent := by
  unfold Cover.moveTo
  by_cases ht : limit position = c.position
  · simp only [ht, if_true]
    exact coherent_stop h.position_le h.step_pos
  · simp only [ht, if_false]
    refine ⟨h.position_le, h.step_pos, ?_, by rintro ⟨⟩⟩
    rintro t ⟨⟩
    refine ⟨limit_le position, ht, ?_⟩
    by_cases hlt : c.position < limit position
    · have hge : ¬ limit position < c.position := UInt8.lt_asymm hlt
      simp [hlt, hge]
    · have hgt := UInt8.lt_of_le_of_ne (UInt8.not_lt.1 hlt) ht
      simp [hlt, hgt]

/-- A tick takes a moving cover on, and halts it where it reaches its target. -/
theorem tick_of_target (ht : c.target = some t) : c.tick
    = (true, if advance c.step c.position t = t then stop { c with position := t }
      else { c with position := advance c.step c.position t }) := by
  unfold Cover.tick
  simp only [ht]
  split_ifs with hreached
  · rw [hreached]
  · rfl

theorem Coherent.tick (h : c.Coherent) : c.tick.2.Coherent := by
  rcases ht : c.target with _ | t
  · simpa only [Cover.tick, ht] using h
  obtain ⟨htop, -, hopening, hclosing⟩ := h.moving t ht
  rw [tick_of_target ht]
  split_ifs with hreached
  · exact coherent_stop htop h.step_pos
  · obtain ⟨hup, hdown⟩ := advance_ahead hreached
    refine ⟨advance_le h.position_le htop, h.step_pos, fun u hu => ?_, fun hnone => ?_⟩
    · cases ht.symm.trans hu
      exact ⟨htop, Ne.symm hreached, hopening.trans hup, hclosing.trans hdown⟩
    · cases ht.symm.trans hnone

theorem Coherent.perform (h : c.Coherent) (o : Operation) : (c.perform o).Coherent := by
  cases o with
  | raise => exact h.moveTo top
  | lower => exact h.moveTo 0
  | moveTo position => exact h.moveTo position
  | stop => exact coherent_stop h.position_le h.step_pos
  | tick => exact h.tick

theorem Starts.coherent (h : Starts c) : c.Coherent := by
  induction h with
  | resting position => exact coherent_resting position
  | @seeded e c h =>
    obtain ⟨⟨⟩, -, h⟩ := bind_eq_ok_iff.1 h
    obtain ⟨position, -, h⟩ := bind_eq_ok_iff.1 h
    obtain ⟨deviceClass, -, h⟩ := bind_eq_ok_iff.1 h
    obtain ⟨features, -, h⟩ := bind_eq_ok_iff.1 h
    cases h
    -- what else is seeded from the entity has no part in the motion
    obtain ⟨hposition, hstep, hmoving, hresting⟩ := coherent_resting (position.getD 0)
    exact ⟨hposition, hstep, hmoving, hresting⟩
  | stepped step _ ih => exact ih.withStep step

theorem Coherent.after (h : c.Coherent) (operations : List Operation) :
    (c.after operations).Coherent := by
  induction operations generalizing c with
  | nil => exact h
  | cons o operations ih => exact ih (h.perform o)

end Steps

section Observations

theorem Coherent.tick_iff (h : c.Coherent) : c.tick.1 = true ↔ c.tick.2.position ≠ c.position := by
  rcases ht : c.target with _ | t
  · simp [Cover.tick, ht]
  · obtain ⟨-, hne, -⟩ := h.moving t ht
    rw [tick_of_target ht]
    refine iff_of_true rfl ?_
    split_ifs with hreached
    · exact hne
    · exact advance_ne h.step_pos hne

theorem Coherent.isMoving_iff (h : c.Coherent) :
    c.isMoving = true ↔ c.state = .opening ∨ c.state = .closing := by
  unfold isMoving
  rcases ht : c.target with _ | t
  · obtain ⟨hclosed, hopened⟩ := h.resting ht
    by_cases hp : c.position = 0
    · simp [hclosed.2 hp]
    · simp [hopened.2 hp]
  · obtain ⟨-, hne, hopening, hclosing⟩ := h.moving t ht
    rw [hopening, hclosing]
    exact iff_of_true rfl (UInt8.lt_or_lt_of_ne (Ne.symm hne))

end Observations

/-- After any operations on a cover, wherever it started, its position is in range, its step is one
at least, its target is in range and elsewhere, and its state is that of position and target. A tick
says that the cover was moving exactly if it changes the position, and the cover has a target
exactly in the states of a moving cover. -/
theorem coherent_after (h : Starts c) (operations : List Operation) :
    (c.after operations).Coherent
      ∧ ((c.after operations).tick.1 = true
        ↔ (c.after operations).tick.2.position ≠ (c.after operations).position)
      ∧ ((c.after operations).isMoving = true
        ↔ (c.after operations).state = .opening ∨ (c.after operations).state = .closing) := by
  have hcoherent := h.coherent.after operations
  exact ⟨hcoherent, hcoherent.tick_iff, hcoherent.isMoving_iff⟩

/-- Blinds that are almost open. -/
def shade : Entity := ⟨.cover, "shade", .ofList [("current_position", .number (.int 95))]⟩

/-- The blinds are sent up, halted by a move to where they are, and sent up again with a step that
leads beyond the top and out of the range of a byte. -/
theorem coherent_after_shade : ∃ c, ofEntity shade = .ok c ∧ Starts (c.withStep 200)
    ∧ ((c.withStep 200).after [.raise, .moveTo 95, .raise]).target = some 100
    ∧ ((c.withStep 200).after [.raise, .moveTo 95, .raise]).Coherent
    ∧ ((c.withStep 200).after [.raise, .moveTo 95, .raise]).tick.2.position = 100
    ∧ ((c.withStep 200).after [.raise, .moveTo 95, .raise]).isMoving = true := by
  obtain ⟨c, hc⟩ : ∃ c, ofEntity shade = .ok c := ⟨_, rfl⟩
  have hstarts : Starts (c.withStep 200) := .stepped 200 (.seeded hc)
  obtain ⟨hcoherent, -, hmoving⟩ := coherent_after hstarts [.raise, .moveTo 95, .raise]
  refine ⟨c, hc, hstarts, ?_, hcoherent, ?_, hmoving.2 (.inl ?_)⟩ <;> cases hc <;> rfl

end Cover

end SmartHome
