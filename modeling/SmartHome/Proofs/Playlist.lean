import SmartHome.Proofs.Failure
import SmartHome.Simulator.MediaPlayer

/-!
# Going through the playlist

The playlist is a cycle: a step forward takes a track to the next one and a step back to the one
before, modulo the length (`val_following`, `val_preceding`), and the words that this is computed
with stay within their range (`exact_steps`). So after any operations the track is the one that the
player started at, moved on by the steps forward and back by the steps back; whatever else was done
has no part in it (`track_after`).
-/

namespace SmartHome

namespace MediaPlayer

variable {p : MediaPlayer} {index : UInt64}

/-- The player after operations, one after the other. -/
def after (p : MediaPlayer) (operations : List Operation) : MediaPlayer :=
  operations.foldl perform p

/-- The index that an entity gives for the track; without one the first is played. -/
def indexIn (e : Entity) : UInt64 := ((e.get? "media_track").bind Json.toWord?).getD 0

/-- A player before any operation, and the index that it is started with. -/
inductive StartsAt : UInt64 → MediaPlayer → Prop
  | initial : StartsAt 0 initial
  | seeded {e : Entity} {p : MediaPlayer} (h : ofEntity e = .ok p) : StartsAt (indexIn e) p

section Steps

theorem val_trackAt (w : UInt64) : (trackAt w).val = w.toNat % trackCount := rfl

theorem toNat_place (t : Fin trackCount) : (place t).toNat = t.val :=
  UInt64.toNat_ofNat_of_lt' (Nat.lt_trans t.isLt (by decide))

theorem trackAt_place (t : Fin trackCount) : trackAt (place t) = t := by
  rw [Fin.ext_iff, val_trackAt, toNat_place]
  exact Nat.mod_eq_of_lt t.isLt

/-- The sums and the difference of words on the way to another track are those of the numbers. -/
theorem exact_steps (t : Fin trackCount) : (place t + 1).toNat = t.val + 1
    ∧ (place t + .ofNat trackCount).toNat = t.val + trackCount
    ∧ (place t + .ofNat trackCount - 1).toNat + 1 = t.val + trackCount := by
  have ht : t.val < 5 := t.isLt
  -- the length is added before one is taken away, so that there is something to take it from
  have hlength : (place t + .ofNat trackCount).toNat = t.val + trackCount := by
    rw [UInt64.toNat_add, toNat_place]
    show (t.val + 5) % 2 ^ 64 = t.val + 5
    omega
  have hone : (1 : UInt64) ≤ place t + .ofNat trackCount := by
    rw [UInt64.le_iff_toNat_le, hlength]
    show 1 ≤ t.val + 5
    omega
  refine ⟨?_, hlength, ?_⟩
  · rw [UInt64.toNat_add, toNat_place]
    show (t.val + 1) % 2 ^ 64 = t.val + 1
    omega
  · rw [UInt64.toNat_sub_of_le _ _ hone, hlength]
    rfl

theorem val_following (t : Fin trackCount) : (following t).val = (t.val + 1) % trackCount := by
  rw [following, val_trackAt, (exact_steps t).1]

theorem val_preceding (t : Fin trackCount) :
    (preceding t).val = (t.val + trackCount - 1) % trackCount := by
  obtain ⟨-, -, hback⟩ := exact_steps t
  rw [preceding, val_trackAt, ← hback, Nat.add_sub_cancel]

theorem preceding_following (t : Fin trackCount) : preceding (following t) = t := by
  have ht : t.val < 5 := t.isLt
  rw [Fin.ext_iff, val_preceding, val_following]
  unfold trackCount
  omega

theorem following_preceding (t : Fin trackCount) : following (preceding t) = t := by
  have ht : t.val < 5 := t.isLt
  rw [Fin.ext_iff, val_following, val_preceding]
  unfold trackCount
  omega

end Steps

section Operations

variable {o : Operation}

theorem track_of_ne (hn : o ≠ .nextTrack) (hp : o ≠ .previousTrack) :
    (p.perform o).track = p.track := by
  cases o with
  | nextTrack => exact absurd rfl hn
  | previousTrack => exact absurd rfl hp
  | _ => rfl

/-- How the track of a player can change: it is always one of the playlist, a step forward and a
step back undo each other and change nothing else, and no other operation has to do with it. -/
structure Cycles (p : MediaPlayer) : Prop where
  title_eq : playlist.toList[p.track.val]? = some p.title
  steps_exact : (place p.track + 1).toNat = p.track.val + 1
    ∧ (place p.track + .ofNat trackCount).toNat = p.track.val + trackCount
    ∧ (place p.track + .ofNat trackCount - 1).toNat + 1 = p.track.val + trackCount
  previous_next : (p.perform .nextTrack).perform .previousTrack = p
  next_previous : (p.perform .previousTrack).perform .nextTrack = p
  frame : ∀ o, o = .nextTrack ∨ o = .previousTrack →
    p.perform o = { p with track := (p.perform o).track }
  track_eq : ∀ o, o ≠ .nextTrack → o ≠ .previousTrack → (p.perform o).track = p.track

theorem cycles (p : MediaPlayer) : Cycles p where
  title_eq := by simp [title]
  steps_exact := exact_steps p.track
  previous_next := by
    show { p with track := preceding (following p.track) } = p
    rw [preceding_following]
  next_previous := by
    show { p with track := following (preceding p.track) } = p
    rw [following_preceding]
  frame := by
    rintro o (rfl | rfl) <;> rfl
  track_eq := fun _ => track_of_ne

end Operations

section Run

/-- The steps forward among operations, less the steps back. -/
def progress (operations : List Operation) : Int :=
  operations.count .nextTrack - operations.count .previousTrack

theorem progress_cons (o : Operation) (operations : List Operation) :
    progress (o :: operations) = progress [o] + progress operations := by
  simp only [progress, List.count_cons, List.count_nil]
  omega

theorem track_perform (p : MediaPlayer) (o : Operation) :
    ((p.perform o).track.val : Int) = (p.track.val + progress [o]) % trackCount := by
  have ht : p.track.val < 5 := p.track.isLt
  by_cases hn : o = .nextTrack
  · have hv := val_following p.track
    subst hn
    show ((following p.track).val : Int) = (p.track.val + 1) % 5
    unfold trackCount at hv
    omega
  by_cases hp : o = .previousTrack
  · have hv := val_preceding p.track
    subst hp
    show ((preceding p.track).val : Int) = (p.track.val + -1) % 5
    unfold trackCount at hv
    omega
  · have hnone : progress [o] = 0 := by simp [progress, hn, hp]
    rw [track_of_ne hn hp, hnone]
    show (p.track.val : Int) = (p.track.val + 0) % 5
    omega

theorem track_run (p : MediaPlayer) (operations : List Operation) :
    ((p.after operations).track.val : Int) = (p.track.val + progress operations) % trackCount := by
  induction operations generalizing p with
  | nil =>
    have ht : p.track.val < 5 := p.track.isLt
    show (p.track.val : Int) = (p.track.val + 0) % 5
    omega
  | cons o operations ih =>
    calc ((p.after (o :: operations)).track.val : Int)
        = ((p.perform o).track.val + progress operations) % trackCount := ih (p.perform o)
      _ = (p.track.val + progress [o] + progress operations) % trackCount := by
        rw [track_perform, Int.emod_add_emod]
      _ = (p.track.val + progress (o :: operations)) % trackCount := by
        rw [progress_cons o operations, Int.add_assoc]

theorem track_of_read {e : Entity} {track : Option (Fin trackCount)}
    (h : e.read "media_track" readTrack = .ok track) :
    track.getD initial.track = trackAt (indexIn e) := by
  unfold Entity.read at h
  unfold indexIn
  rcases hv : e.get? "media_track" with _ | v <;> rw [hv] at h
  · cases h
    rfl
  · unfold readTrack at h
    rcases hw : v.toWord? with _ | w <;> simp only [hw] at h <;> cases h
    rw [Option.bind_some, hw]
    rfl

theorem StartsAt.track_eq (h : StartsAt index p) : p.track = trackAt index := by
  cases h with
  | initial => rfl
  | seeded h =>
    obtain ⟨⟨⟩, -, h⟩ := bind_eq_ok_iff.1 h
    obtain ⟨state, -, h⟩ := bind_eq_ok_iff.1 h
    obtain ⟨volume, -, h⟩ := bind_eq_ok_iff.1 h
    obtain ⟨track, htrack, h⟩ := bind_eq_ok_iff.1 h
    obtain ⟨deviceClass, -, h⟩ := bind_eq_ok_iff.1 h
    obtain ⟨features, -, h⟩ := bind_eq_ok_iff.1 h
    cases h
    exact track_of_read htrack

/-- After any operations, a player is at the track to which the steps forward, less the steps back,
lead from the index that it was started with, in a playlist that is gone through again and again. -/
theorem track_after (h : StartsAt index p) (operations : List Operation) :
    ((p.after operations).track.val : Int) = (index.toNat + operations.count .nextTrack
        - operations.count .previousTrack) % trackCount
      ∧ Cycles (p.after operations) := by
  refine ⟨?_, cycles _⟩
  rw [track_run, h.track_eq, val_trackAt, Int.natCast_emod, Int.emod_add_emod, progress,
    Int.add_sub_assoc]

def radio : Entity :=
  ⟨.mediaPlayer, "radio", .ofList [("media_track", .number (.int 18446744073709551615))]⟩

/-- The word of the radio is a multiple of the length, so it starts with the first track. -/
theorem track_after_radio : ∃ p, ofEntity radio = .ok p ∧ StartsAt 18446744073709551615 p
    ∧ (p.after [.previousTrack, .mute true, .volumeDown, .previousTrack]).track.val = 3
    ∧ (p.after [.previousTrack, .mute true, .volumeDown, .previousTrack]).title = "Northbound" := by
  obtain ⟨p, hp⟩ : ∃ p, ofEntity radio = .ok p := ⟨_, rfl⟩
  have hstarts : StartsAt 18446744073709551615 p := .seeded hp
  obtain ⟨htrack, hcycles⟩ :=
    track_after hstarts [.previousTrack, .mute true, .volumeDown, .previousTrack]
  replace htrack : (p.after [.previousTrack, .mute true, .volumeDown, .previousTrack]).track.val
      = 3 := Int.ofNat_inj.1 htrack
  have htitle := hcycles.title_eq
  rw [htrack] at htitle
  exact ⟨p, hp, hstarts, htrack, (Option.some.inj htitle).symm⟩

end Run

end MediaPlayer

end SmartHome
