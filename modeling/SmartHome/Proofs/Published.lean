import SmartHome.Proofs.Arrival
import SmartHome.Proofs.Playlist

/-!
# Simulators seeded from what they publish

An attribute that is published is read back as what it was written from: a position within range, a
state by its name, a volume between zero and one, a track, a device class, feature flags. So a cover
with the usual step is seeded again as it would be after a halt (`ofEntity_attributes`). A player is
seeded again as it was, but it is not muted: whether it is, is published and not read
(`ofEntity_unmuted`).
-/

namespace SmartHome

section Reading

namespace Entity

variable {e : Entity} {α : Type} {name : String} {value? : Json → Except SeedProblem α}

theorem read_of_none (h : e.get? name = none) : e.read name value? = .ok none := by
  simp only [read, h]

theorem read_of_ok {v : Json} {a : α} (h : e.get? name = some v) (hv : value? v = .ok a) :
    e.read name value? = .ok (some a) := by
  simp only [read, h, hv]

theorem read_of_error {v : Json} {problem : SeedProblem} (h : e.get? name = some v)
    (hv : value? v = .error problem) : e.read name value? = .error (.invalid name problem) := by
  simp only [read, h, hv]

theorem read_eq_error_iff {error : SeedError} : e.read name value? = .error error
    ↔ ∃ v problem, e.get? name = some v ∧ value? v = .error problem
      ∧ error = .invalid name problem := by
  constructor
  · intro h
    unfold read at h
    split at h
    · cases h
    · rename_i v hv
      split at h <;> cases h
      exact ⟨v, _, hv, ‹_›, rfl⟩
  · rintro ⟨v, problem, hv, hp, rfl⟩
    exact read_of_error hv hp

theorem deviceClass_of_get? {s : Option String}
    (h : e.get? "device_class" = s.map Json.string) : e.deviceClass = .ok s := by
  cases s with
  | none => exact read_of_none h
  | some s => exact read_of_ok h rfl

theorem features_of_get? {w : UInt64} (h : e.get? "supported_features" = some (.ofWord w)) :
    e.features = .ok w := by
  have hread : e.read "supported_features" (fun v => orProblem .noInteger v.toWord?)
      = .ok (some w) := read_of_ok h (by rw [Json.toWord?_ofWord]; rfl)
  rw [features, hread]
  rfl

end Entity

theorem Cover.readPosition_ofWord {p : UInt8} (hp : p ≤ 100) :
    readPosition (.ofWord p.toUInt64) = .ok p := by
  have hle : p.toUInt64 ≤ 100 := by
    rw [UInt64.le_iff_toNat_le, UInt8.toNat_toUInt64]
    exact UInt8.le_iff_toNat_le.1 hp
  simp [readPosition, Json.toWord?_ofWord, hle]

theorem PlayerState.read_name (s : PlayerState) : read (.string s.name) = .ok s := by
  cases s <;> rfl

namespace Binary64

variable {x : Binary64}

/-- The double lies between zero and one. -/
def InUnit (x : Binary64) : Prop := zero.le x = true ∧ x.le one = true

instance : Decidable x.InUnit := inferInstanceAs (Decidable (_ ∧ _))

theorem InUnit.isFinite (h : x.InUnit) : x.isFinite = true := by
  obtain ⟨hlow, hhigh⟩ := h
  have hzero : zero.negative = false := by decide
  have hone : one.negative = false := by decide
  unfold Binary64.isFinite
  rw [decide_eq_true_iff]
  rcases hx : x.negative
  · simp only [le, hx, hone, Bool.false_eq_true, if_false, Bool.and_eq_true, decide_eq_true_eq]
      at hhigh
    exact Nat.lt_of_le_of_lt hhigh.2 (by decide)
  · -- of the negative doubles only the zero is no less than zero
    simp only [le, hx, hzero, Bool.false_eq_true, if_false, if_true, Bool.and_eq_true, isZero,
      decide_eq_true_eq] at hlow
    rw [hlow.2.2]
    decide

end Binary64

namespace MediaPlayer

theorem readVolume_ofBinary64 (x : Binary64) : readVolume (.ofBinary64 x)
    = if x.InUnit then .ok x else .error .noVolume := by
  unfold readVolume Json.ofBinary64
  by_cases hx : x.InUnit
  · have hfinite := hx.isFinite
    obtain ⟨hlow, hhigh⟩ := hx
    simp [hfinite, Binary64.InUnit, hlow, hhigh, Json.toBinary64?, Number.toBinary64]
  · rw [if_neg hx]
    by_cases hfinite : x.isFinite = true
    · simpa [hfinite, Json.toBinary64?, Number.toBinary64, Binary64.InUnit] using hx
    · simp [hfinite, Json.toBinary64?]

theorem readTrack_val (t : Fin trackCount) : readTrack (.number (.int t.val)) = .ok t := by
  have hword : Json.number (.int t.val) = .ofWord (place t) := by rw [Json.ofWord, toNat_place]
  rw [hword, readTrack, Json.toWord?_ofWord]
  show Except.ok (trackAt (place t)) = .ok t
  rw [trackAt_place]

end MediaPlayer

end Reading

section Covers

namespace Cover

variable {c : Cover}

theorem get?_attributes (c : Cover) :
    c.attributes.get? "current_position" = some (.ofWord c.position.toUInt64)
      ∧ c.attributes.get? "device_class" = c.deviceClass.map .string
      ∧ c.attributes.get? "supported_features" = some (.ofWord c.features) := by
  unfold attributes
  cases c.deviceClass <;> exact ⟨rfl, rfl, rfl⟩

theorem ofEntity_of_reads {e : Entity} {p : UInt8} {s : Option String} {w : UInt64}
    (hplatform : e.platform = .cover)
    (hposition : e.get? "current_position" = some (.ofWord p.toUInt64)) (hp : p ≤ 100)
    (hclass : e.get? "device_class" = s.map .string)
    (hfeatures : e.get? "supported_features" = some (.ofWord w)) :
    ofEntity e = .ok { resting p with deviceClass := s, features := w } := by
  have hrequire : e.requirePlatform .cover = .ok () := if_pos hplatform
  rw [ofEntity, hrequire, Entity.read_of_ok hposition (readPosition_ofWord hp),
    Entity.deviceClass_of_get? hclass, Entity.features_of_get? hfeatures]
  rfl

/-- A cover is seeded from what it publishes as one that rests, with the usual step. -/
theorem ofEntity_of_le (hp : c.position ≤ 100) (key : String) :
    ofEntity ⟨.cover, key, c.attributes⟩ = .ok { c.stop with step := usualStep } := by
  obtain ⟨hposition, hclass, hfeatures⟩ := get?_attributes c
  have hlimit : limit c.position = c.position := if_pos hp
  refine Eq.trans (ofEntity_of_reads rfl hposition hp hclass hfeatures) ?_
  rw [resting, hlimit]
  rfl

theorem Coherent.stop_eq_iff (h : c.Coherent) : c.stop = c ↔ c.target = none := by
  constructor
  · intro hstop
    rw [← hstop]
    rfl
  · intro ht
    obtain ⟨hclosed, hopened⟩ := h.resting ht
    have hstate : CoverState.atRest c.position = c.state := by
      unfold CoverState.atRest
      split_ifs with hp
      · exact (hclosed.2 hp).symm
      · exact (hopened.2 hp).symm
    rw [Cover.stop, hstate, ← ht]

/-- A cover with the usual step is seeded from what it publishes as if it had been halted: it rests
where it is, and nothing else is changed. So exactly a cover at rest comes out as it was. -/
theorem ofEntity_attributes (h : Reached c) (hs : c.step = usualStep) (key : String) :
    ofEntity ⟨.cover, key, c.attributes⟩ = .ok c.stop
      ∧ c.stop = { c with
        target := none
        state := if c.position = 0 then .closed else .opened }
      ∧ (ofEntity ⟨.cover, key, c.attributes⟩ = .ok c ↔ c.target = none) := by
  have hseeded : ofEntity ⟨.cover, key, c.attributes⟩ = .ok c.stop := by
    rw [ofEntity_of_le h.coherent.position_le, ← hs]
    rfl
  refine ⟨hseeded, rfl, ?_⟩
  rw [hseeded, Except.ok.injEq, h.coherent.stop_eq_iff]

/-- A curtain that is almost open, with all the flags that a word has room for. -/
def curtain : Entity :=
  ⟨.cover, "curtain", .ofList [("current_position", .number (.int 95)),
    ("device_class", .string "curtain"),
    ("supported_features", .number (.int 18446744073709551615))]⟩

/-- The curtain is published while it closes, and comes out at rest. -/
theorem ofEntity_attributes_curtain : ∃ c, ofEntity curtain = .ok c
    ∧ Reached (c.after [.lower, .tick]) ∧ (c.after [.lower, .tick]).step = usualStep
    ∧ (c.after [.lower, .tick]).target = some 0
    ∧ ofEntity ⟨.cover, "again", (c.after [.lower, .tick]).attributes⟩
      = .ok ⟨85, none, .opened, usualStep, some "curtain", 18446744073709551615⟩
    ∧ ofEntity ⟨.cover, "again", (c.after [.lower, .tick]).attributes⟩
      ≠ .ok (c.after [.lower, .tick]) := by
  obtain ⟨c, hc⟩ : ∃ c, ofEntity curtain = .ok c := ⟨_, rfl⟩
  have hreached : Reached (c.after [.lower, .tick]) :=
    .performed .tick (.performed .lower (.starts (.seeded hc)))
  have hstep : (c.after [.lower, .tick]).step = usualStep := by cases hc; rfl
  have htarget : (c.after [.lower, .tick]).target = some 0 := by cases hc; rfl
  obtain ⟨hseeded, -, hsame⟩ := ofEntity_attributes hreached hstep "again"
  refine ⟨c, hc, hreached, hstep, htarget, hseeded.trans ?_, hsame.not.2 ?_⟩
  · cases hc
    rfl
  · rw [htarget]
    rintro ⟨⟩

end Cover

end Covers

section Players

namespace MediaPlayer

variable {p : MediaPlayer}

theorem get?_attributes (p : MediaPlayer) :
    p.attributes.get? "state" = some (.string p.state.name)
      ∧ p.attributes.get? "volume_level" = some (.ofBinary64 p.volume)
      ∧ p.attributes.get? "media_track" = some (.number (.int p.track.val))
      ∧ p.attributes.get? "device_class" = p.deviceClass.map .string
      ∧ p.attributes.get? "supported_features" = some (.ofWord p.features) := by
  unfold attributes
  cases p.deviceClass <;> exact ⟨rfl, rfl, rfl, rfl, rfl⟩

theorem ofEntity_of_reads {e : Entity} (hplatform : e.platform = .mediaPlayer)
    (hstate : e.get? "state" = some (.string p.state.name))
    (hvolume : e.get? "volume_level" = some (.ofBinary64 p.volume))
    (htrack : e.get? "media_track" = some (.number (.int p.track.val)))
    (hclass : e.get? "device_class" = p.deviceClass.map .string)
    (hfeatures : e.get? "supported_features" = some (.ofWord p.features)) :
    ofEntity e = if p.volume.InUnit then .ok { p with muted := false }
      else .error (.invalid "volume_level" .noVolume) := by
  have hrequire : e.requirePlatform .mediaPlayer = .ok () := if_pos hplatform
  have hread := readVolume_ofBinary64 p.volume
  rw [ofEntity, hrequire, Entity.read_of_ok hstate p.state.read_name]
  split_ifs at hread ⊢ with hunit
  · rw [Entity.read_of_ok hvolume hread, Entity.read_of_ok htrack (readTrack_val p.track),
      Entity.deviceClass_of_get? hclass, Entity.features_of_get? hfeatures]
    rfl
  · rw [Entity.read_of_error hvolume hread]
    rfl

/-- A player can be seeded from what it publishes if its volume lies between zero and one, and else
the volume is complained about. It comes out as it was, except that it is never muted; so it comes
out the same just if it was not. -/
theorem ofEntity_unmuted (p : MediaPlayer) (key : String) :
    (ofEntity ⟨.mediaPlayer, key, p.attributes⟩
        = if p.volume.InUnit then .ok { p with muted := false }
          else .error (.invalid "volume_level" .noVolume))
      ∧ (ofEntity ⟨.mediaPlayer, key, p.attributes⟩ = .ok p
        ↔ p.volume.InUnit ∧ p.muted = false) := by
  obtain ⟨hstate, hvolume, htrack, hclass, hfeatures⟩ := get?_attributes p
  have hseeded : ofEntity ⟨.mediaPlayer, key, p.attributes⟩ = if p.volume.InUnit
      then .ok { p with muted := false } else .error (.invalid "volume_level" .noVolume) :=
    ofEntity_of_reads rfl hstate hvolume htrack hclass hfeatures
  refine ⟨hseeded, ?_⟩
  rw [hseeded]
  split_ifs with hunit
  · rw [Except.ok.injEq]
    constructor
    · intro hp
      exact ⟨hunit, by rw [← hp]⟩
    · rintro ⟨-, hmuted⟩
      rw [← hmuted]
  · simp [hunit]

/-- A player that was muted at full volume is not muted any more. -/
theorem not_muted_again : StartsAt 0 initial ∧ (initial.after [.mute true]).volume.InUnit
    ∧ (initial.after [.mute true]).muted = true
    ∧ ∃ q, ofEntity ⟨.mediaPlayer, "speaker", (initial.after [.mute true]).attributes⟩ = .ok q
      ∧ q.muted = false :=
  ⟨.initial, by decide, rfl, _, rfl, rfl⟩

end MediaPlayer

end Players

end SmartHome
