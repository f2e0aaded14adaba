import SmartHome.Proofs.Correspondence
import SmartHome.Proofs.Dictionary
import SmartHome.Simulator.Basic

/-!
# Which simulators a compiled home has

The covers and media players of a compiled home are simulated if a simulator can be seeded from each
of them; else the first that cannot be seeded gives the error. It is the error of one of the
attributes that a simulator is seeded from, but never of the feature flags: what expanding a device
leaves under their name is a word (`holdsFlags_of_build`). Of entities with one identifier the last
is simulated in the place of the first, so there is a simulator for each exactly if no two share an
identifier (`simulators_outcome`).
-/

namespace SmartHome

section Features

namespace Entity

variable {resolver : Resolver} {declared taken taken' : Attributes} {spec : AttributeSpec}

/-- Under the name of the feature flags there is a word, if anything. -/
def HoldsFlags (attributes : Attributes) : Prop :=
  ∀ v, attributes.get? featuresKey = some v → ∃ w : UInt64, v = .ofWord w

theorem holdsFlags_takeOver (ht : HoldsFlags taken)
    (h : takeOver resolver declared taken spec = .ok taken') : HoldsFlags taken' := by
  unfold takeOver at h
  rcases hd : declared.get? spec.deviceKey with _ | v <;> rw [hd] at h
  · cases h
    exact ht
  · obtain ⟨u, hu, rfl⟩ := map_eq_ok_iff.1 h
    intro x hx
    rw [Dict.get?_insert] at hx
    -- what is taken over under the name of the flags is the word that they come to
    by_cases hk : spec.entityKey = featuresKey
    · rw [if_pos hk] at hx
      rw [attributeValue, if_pos hk] at hu
      obtain ⟨w, -, rfl⟩ := map_eq_ok_iff.1 hu
      exact ⟨w, (Option.some.inj hx).symm⟩
    · rw [if_neg hk] at hx
      exact ht x hx

theorem holdsFlags_ofTemplate {d : Device} {p : Platform} {t : EntityTemplate} {e : Entity}
    (h : ofTemplate resolver d p t = .ok e) : HoldsFlags e.attributes := by
  obtain ⟨taken, htaken, he⟩ := bind_eq_ok_iff.1 h
  cases he
  refine foldlM_done (P := fun _ => HoldsFlags) (fun _ _ _ _ => holdsFlags_takeOver) ?_ htaken
  rintro v ⟨⟩

/-- Covers and media players are simulated. -/
def Animated (e : Entity) : Prop := e.platform = .cover ∨ e.platform = .mediaPlayer

instance (e : Entity) : Decidable e.Animated := inferInstanceAs (Decidable (_ ∨ _))

end Entity

namespace CompiledHome

variable {h : Home} {catalog : Registry} {resolver : Resolver} {c : CompiledHome}

/-- Every entity with its identifier, in the order in which they are compiled. -/
def entities (c : CompiledHome) : List (String × Entity) :=
  c.devices.flatMap fun d => d.entities.map fun e => (d.entityId e, e)

/-- The entities that are simulated. -/
def animated (c : CompiledHome) : List (String × Entity) := c.entities.filter (·.2.Animated)

theorem holdsFlags_of_build (hb : build h catalog resolver = .ok c) :
    ∀ x ∈ c.entities, Entity.HoldsFlags x.2.attributes := by
  intro x hx
  obtain ⟨cd, hcd, hx⟩ := List.mem_flatMap.1 hx
  obtain ⟨e, he, rfl⟩ := List.mem_map.1 hx
  obtain ⟨p, -, hp⟩ := exists_device_of_mem hb hcd
  obtain ⟨t, d, es, -, -, hes, rfl⟩ := CompiledDevice.ofDevice_eq_ok_iff.1 hp
  obtain ⟨template, -, hte⟩ := exists_of_forall₂ (mapM_eq_ok_iff.1 hes) he
  exact Entity.holdsFlags_ofTemplate hte

end CompiledHome

end Features

section Seeding

/-- A simulator of the entity's platform is seeded from the entity. -/
inductive Seeds (e : Entity) : Simulator → Prop
  | cover {c} (hp : e.platform = .cover) (h : Cover.ofEntity e = .ok c) : Seeds e (.cover c)
  | mediaPlayer {p} (hp : e.platform = .mediaPlayer) (h : MediaPlayer.ofEntity e = .ok p) :
    Seeds e (.mediaPlayer p)

/-- The entity is of a platform with simulators, but none can be seeded from it. -/
inductive Unseedable (e : Entity) : SeedError → Prop
  | cover {error} (hp : e.platform = .cover) (h : Cover.ofEntity e = .error error) :
    Unseedable e error
  | mediaPlayer {error} (hp : e.platform = .mediaPlayer)
      (h : MediaPlayer.ofEntity e = .error error) : Unseedable e error

variable {e : Entity} {s : Simulator} {error : SeedError} {names : List String}

theorem seeds_iff : Seeds e s ↔ Simulator.ofEntity? e = some (.ok s) := by
  unfold Simulator.ofEntity?
  constructor
  · rintro (⟨hp, h⟩ | ⟨hp, h⟩) <;> rw [hp, h] <;> rfl
  · intro h
    split at h
    · rename_i hp
      obtain ⟨c, hc, rfl⟩ := map_eq_ok_iff.1 (Option.some.inj h)
      exact .cover hp hc
    · rename_i hp
      obtain ⟨p, hq, rfl⟩ := map_eq_ok_iff.1 (Option.some.inj h)
      exact .mediaPlayer hp hq
    · cases h

theorem unseedable_iff : Unseedable e error ↔ Simulator.ofEntity? e = some (.error error) := by
  unfold Simulator.ofEntity?
  constructor
  · rintro (⟨hp, h⟩ | ⟨hp, h⟩) <;> rw [hp, h] <;> rfl
  · intro h
    split at h
    · rename_i hp
      exact .cover hp (map_eq_error_iff.1 (Option.some.inj h))
    · rename_i hp
      exact .mediaPlayer hp (map_eq_error_iff.1 (Option.some.inj h))
    · cases h

theorem ofEntity?_eq_none_iff : Simulator.ofEntity? e = none ↔ ¬ e.Animated := by
  unfold Simulator.ofEntity? Entity.Animated
  cases e.platform <;> simp

/-- What goes wrong when a simulator is seeded from the entity. -/
def seedFailure? (e : Entity) : Option SeedError := (Simulator.ofEntity? e).bind failure?

theorem seedFailure?_eq_some_iff : seedFailure? e = some error ↔ Unseedable e error := by
  rw [unseedable_iff, seedFailure?, Option.bind_eq_some_iff]
  constructor
  · rintro ⟨x, hx, hf⟩
    rw [hx, failure?_eq_some_iff.1 hf]
  · intro h
    exact ⟨_, h, rfl⟩

theorem seedFailure?_eq_none_iff (he : e.Animated) : seedFailure? e = none ↔ ∃ s, Seeds e s := by
  simp only [seeds_iff, seedFailure?]
  rcases hx : Simulator.ofEntity? e with _ | x
  · exact absurd he (ofEntity?_eq_none_iff.1 hx)
  · simp [failure?_eq_none_iff]

theorem Seeds.unique {s' : Simulator} (h : Seeds e s) (h' : Seeds e s') : s = s' := by
  rw [seeds_iff] at h h'
  rw [h] at h'
  cases h'
  rfl

/-- The computation fails only because of the value of one of the attributes. -/
def Blames {α : Type} (names : List String) (x : Except SeedError α) : Prop :=
  ∀ error, x = .error error → ∃ name ∈ names, ∃ problem, error = .invalid name problem

namespace Blames

variable {α β : Type} {x : Except SeedError α}

theorem ok (a : α) : Blames names (.ok a) := by
  intro error h
  cases h

theorem bind {f : α → Except SeedError β} (hx : Blames names x) (hf : ∀ a, Blames names (f a)) :
    Blames names (x >>= f) := by
  intro error h
  rcases bind_eq_error_iff.1 h with h | ⟨a, -, h⟩
  · exact hx error h
  · exact hf a error h

theorem read (name : String) (value? : Json → Except SeedProblem α) (hn : name ∈ names) :
    Blames names (e.read name value?) := by
  intro error h
  unfold Entity.read at h
  split at h
  · cases h
  · split at h
    · cases h
    · cases h
      exact ⟨name, hn, _, rfl⟩

theorem features (hf : Entity.HoldsFlags e.attributes) : Blames names e.features := by
  unfold Entity.features Entity.read Entity.get?
  rcases hv : e.attributes.get? "supported_features" with _ | v
  · exact ok _
  · obtain ⟨w, rfl⟩ := hf v hv
    simp only [Json.toWord?_ofWord, Entity.orProblem]
    exact ok _

end Blames

def seedNames : List String :=
  ["current_position", "state", "volume_level", "media_track", "device_class"]

theorem blames_cover (hp : e.platform = .cover) (hf : Entity.HoldsFlags e.attributes) :
    Blames seedNames (Cover.ofEntity e) := by
  unfold Cover.ofEntity Entity.requirePlatform
  rw [if_pos hp]
  refine (Blames.ok ()).bind fun _ => (Blames.read _ _ (by decide)).bind fun _ => ?_
  exact (Blames.read _ _ (by decide)).bind fun _ => (Blames.features hf).bind fun _ => Blames.ok _

theorem blames_mediaPlayer (hp : e.platform = .mediaPlayer)
    (hf : Entity.HoldsFlags e.attributes) : Blames seedNames (MediaPlayer.ofEntity e) := by
  unfold MediaPlayer.ofEntity Entity.requirePlatform
  rw [if_pos hp]
  refine (Blames.ok ()).bind fun _ => (Blames.read _ _ (by decide)).bind fun _ => ?_
  refine (Blames.read _ _ (by decide)).bind fun _ => (Blames.read _ _ (by decide)).bind fun _ => ?_
  exact (Blames.read _ _ (by decide)).bind fun _ => (Blames.features hf).bind fun _ => Blames.ok _

theorem Unseedable.blames (h : Unseedable e error) (hf : Entity.HoldsFlags e.attributes) :
    ∃ name ∈ seedNames, ∃ problem, error = .invalid name problem := by
  cases h with
  | cover hp h => exact blames_cover hp hf error h
  | mediaPlayer hp h => exact blames_mediaPlayer hp hf error h

end Seeding

section Seeded

/-- The simulator is seeded from the entity and stands under its identifier. -/
def SeededFrom (x : String × Entity) (y : String × Simulator) : Prop := y.1 = x.1 ∧ Seeds x.2 y.2

namespace Simulator

variable {l : List (String × Entity)} {d d' : Dict String Simulator} {x : String × Entity}

theorem addEntity_eq_ok_iff (hx : x.2.Animated) :
    addEntity d x = .ok d' ↔ ∃ s, Seeds x.2 s ∧ d.insert x.1 s = d' := by
  unfold addEntity
  simp only [seeds_iff]
  split
  · rename_i hn
    exact absurd hx (ofEntity?_eq_none_iff.1 hn)
  · rename_i y hy
    rw [hy, map_eq_ok_iff]
    simp

theorem failure?_addEntity (d : Dict String Simulator) (x : String × Entity) :
    failure? (addEntity d x) = seedFailure? x.2 := by
  unfold addEntity seedFailure?
  split <;> rename_i hx <;> rw [hx]
  · rfl
  · rw [failure?_map]
    rfl

theorem foldlM_addEntity_animated (l : List (String × Entity)) (d : Dict String Simulator) :
    l.foldlM addEntity d = (l.filter (·.2.Animated)).foldlM addEntity d := by
  rw [List.foldlM_filter]
  refine congrArg (fun f => l.foldlM f d) (funext fun d => funext fun x => ?_)
  by_cases hx : x.2.Animated
  · simp [hx]
  · simp [hx, addEntity, ofEntity?_eq_none_iff.2 hx, pure, Except.pure]

theorem foldlM_addEntity_eq_ok_iff : ∀ {l : List (String × Entity)} {d d' : Dict String Simulator},
    (∀ x ∈ l, x.2.Animated) → (l.foldlM addEntity d = .ok d'
      ↔ ∃ seeded, List.Forall₂ SeededFrom l seeded ∧ d.insertAll seeded = d')
  | [], d, d', _ => by simp [pure, Except.pure, Dict.insertAll]
  | x :: l, d, d', hl => by
    obtain ⟨hx, hl⟩ := List.forall_mem_cons.1 hl
    simp only [List.foldlM_cons, bind_eq_ok_iff, addEntity_eq_ok_iff hx,
      foldlM_addEntity_eq_ok_iff hl, List.forall₂_cons_left_iff]
    constructor
    · rintro ⟨next, ⟨s, hs, rfl⟩, seeded, hseeded, rfl⟩
      exact ⟨(x.1, s) :: seeded, ⟨_, _, ⟨rfl, hs⟩, hseeded, rfl⟩, rfl⟩
    · rintro ⟨_, ⟨⟨id, s⟩, seeded, ⟨rfl, hs⟩, hseeded, rfl⟩, rfl⟩
      exact ⟨_, ⟨s, hs, rfl⟩, seeded, hseeded, rfl⟩

theorem ofHome_eq_ok_iff {c : CompiledHome} : ofHome c = .ok d
    ↔ ∃ seeded, List.Forall₂ SeededFrom c.animated seeded ∧ Dict.ofList seeded = d := by
  unfold ofHome
  rw [foldlM_addEntity_animated]
  exact foldlM_addEntity_eq_ok_iff fun x hx => by simpa using List.of_mem_filter hx

theorem failure?_ofHome (c : CompiledHome) :
    failure? (ofHome c) = c.animated.findSome? fun x => seedFailure? x.2 := by
  unfold ofHome
  rw [foldlM_addEntity_animated]
  exact failure?_foldlM failure?_addEntity _ _

end Simulator

/-- Of the entities with one identifier the last is the one that is simulated under it. -/
theorem get?_ofList_seeded {l : List (String × Entity)} {seeded : List (String × Simulator)}
    (h : List.Forall₂ SeededFrom l seeded) (id : String) (s : Simulator) :
    (Dict.ofList seeded).get? id = some s ↔ ∃ e, LastWith (·.1 = id) l (id, e) ∧ Seeds e s := by
  have hid : ∀ x y, SeededFrom x y → (x.1 = id ↔ y.1 = id) := fun x y hxy => by rw [hxy.1]
  rw [Dict.get?_ofList_eq_some_iff]
  constructor
  · intro hs
    obtain ⟨⟨_, e⟩, he, rfl, hes⟩ := LastWith.of_forall₂ hid h hs
    exact ⟨e, he, hes⟩
  · rintro ⟨e, he, hes⟩
    obtain ⟨⟨_, s'⟩, hs', rfl, hes'⟩ :=
      LastWith.of_forall₂ (fun y x hyx => (hid x y hyx).symm) h.flip he
    rwa [hes.unique hes']

theorem forall₂_seededFrom_iff {l : List (String × Entity)} {seeded : List (String × Simulator)}
    (h : List.Forall₂ SeededFrom l seeded) :
    List.Forall₂ SeededFrom l (Dict.ofList seeded).entries ↔ (l.map Prod.fst).Nodup := by
  have hids : seeded.map Prod.fst = l.map Prod.fst := map_eq_of_forall₂ (fun _ _ hxy => hxy.1) h
  constructor
  · intro hd
    rw [← map_eq_of_forall₂ (fun _ _ hxy => hxy.1) hd]
    exact (Dict.ofList seeded).nodup
  · intro hn
    rwa [Dict.ofList_of_nodup (hids ▸ hn)]

theorem CompiledHome.seeds_iff {c : CompiledHome} {x : String × Entity} (hx : x ∈ c.animated) :
    (∃ s, Seeds x.2 s) ↔ seedFailure? x.2 = none :=
  (seedFailure?_eq_none_iff (by simpa using List.of_mem_filter hx)).symm

/-- The first entity that cannot be seeded decides the error. -/
theorem Simulator.ofHome_eq_error_iff {c : CompiledHome} {error : SeedError} :
    ofHome c = .error error
      ↔ ∃ x, FirstFailing (fun x => ∃ s, Seeds x.2 s) c.animated x ∧ Unseedable x.2 error := by
  rw [← failure?_eq_some_iff, failure?_ofHome,
    FirstFailing.findSome?_iff fun _ => CompiledHome.seeds_iff]
  simp only [seedFailure?_eq_some_iff]

namespace CompiledHome

variable {h : Home} {catalog : Registry} {resolver : Resolver} {c : CompiledHome}

theorem unseedable_of_build (hb : build h catalog resolver = .ok c) {x : String × Entity}
    (hx : x ∈ c.animated) {error : SeedError} (hu : Unseedable x.2 error) :
    ∃ name problem, error = .invalid name problem ∧ name ≠ Entity.featuresKey := by
  have hflags := holdsFlags_of_build hb x (List.mem_of_mem_filter hx)
  obtain ⟨name, hname, problem, rfl⟩ := hu.blames hflags
  refine ⟨name, problem, rfl, fun hf => ?_⟩
  rw [hf] at hname
  revert hname
  decide

/-- A compiled home has its simulators if one can be seeded from each cover and each media player;
else the first that cannot be seeded gives the error, which is never about the platform or about the
feature flags, as expansion leaves a word there. The identifiers stand in the order in which they
first occur, and of the entities with one identifier the last is simulated; so there is a simulator
for each entity, at its place, exactly if no two entities have one identifier. -/
theorem simulators_outcome (hb : build h catalog resolver = .ok c) :
    ((∃ d, Simulator.ofHome c = .ok d) ↔ ∀ x ∈ c.animated, ∃ s, Seeds x.2 s)
      ∧ (∀ error, Simulator.ofHome c = .error error ↔ ∃ x,
        FirstFailing (fun x => ∃ s, Seeds x.2 s) c.animated x ∧ Unseedable x.2 error)
      ∧ (∀ x ∈ c.entities, Entity.HoldsFlags x.2.attributes)
      ∧ (∀ error, Simulator.ofHome c = .error error →
        ∃ name problem, error = .invalid name problem ∧ name ≠ Entity.featuresKey)
      ∧ ∀ d, Simulator.ofHome c = .ok d →
        d.keys = (c.animated.map Prod.fst).eraseDups
        ∧ (∀ id s, d.get? id = some s
          ↔ ∃ e, LastWith (·.1 = id) c.animated (id, e) ∧ Seeds e s)
        ∧ (List.Forall₂ SeededFrom c.animated d.entries ↔ (c.animated.map Prod.fst).Nodup) := by
  refine ⟨?_, fun error => Simulator.ofHome_eq_error_iff, holdsFlags_of_build hb,
    fun error he => ?_, fun d hd => ?_⟩
  · rw [← failure?_eq_none_iff, Simulator.failure?_ofHome, List.findSome?_eq_none_iff]
    exact forall₂_congr fun x hx => (seeds_iff hx).symm
  · obtain ⟨x, hx, hu⟩ := Simulator.ofHome_eq_error_iff.1 he
    exact unseedable_of_build hb hx.mem hu
  · obtain ⟨seeded, hseeded, rfl⟩ := Simulator.ofHome_eq_ok_iff.1 hd
    refine ⟨?_, get?_ofList_seeded hseeded, forall₂_seededFrom_iff hseeded⟩
    rw [Dict.keys_ofList, map_eq_of_forall₂ (fun _ _ hxy => hxy.1) hseeded]

end CompiledHome

end Seeded

section Blinds

/-- Blinds with a player whose entity has the key of the cover's. -/
def blindsType : DeviceType where
  id := "blinds"
  description := "Blinds that play"
  entities := .ofList [(.cover, [⟨"main", [.renamed "current_position" "position",
      .direct "supported_features"]⟩]),
    (.mediaPlayer, [⟨"main", [.renamed "media_track" "track"]⟩])]
  kinds := .ofList [("position", .state), ("supported_features", .static), ("track", .state)]
  presets := [⟨"shut", .ofList [("position", .number (.int 0))]⟩]
  supports_templates := by decide
  supports_presets := by decide
  nodup_presets := by decide

def blinds (position track : Int) : Device where
  name := "Blinds"
  typeId := "blinds"
  info := none
  attributes := .ofList [("position", .number (.int position)), ("track", .number (.int track)),
    ("supported_features", .array [.number (.int 1), .number (.int 4)])]
  presetKeys := []

/-- An office with two blinds of one name, at two positions. -/
def blindsHome (position position' : Int) : Home where
  areas := ⟨[("Office", [blinds position 1, blinds position' 7])], by simp⟩
  services := []
  localTypes := some (.collect [blindsType])

/-- All four entities of the blinds have one identifier, under which the last of them is simulated;
and of the blinds the first whose position is none is complained about. -/
theorem simulators_outcome_blinds :
    (∃ c d, CompiledHome.build (blindsHome 40 70) .empty SymbolTable.empty.resolve = .ok c
        ∧ Simulator.ofHome c = .ok d ∧ c.animated.length = 4
        ∧ d.keys = [UniqueId.ofEntity (UniqueId.ofDevice (some "Office") "Blinds") "main"]
        ∧ (∀ s, d.get? (UniqueId.ofEntity (UniqueId.ofDevice (some "Office") "Blinds") "main")
          = some s ↔ s = .mediaPlayer { MediaPlayer.initial with track := 2 })
        ∧ ¬ List.Forall₂ SeededFrom c.animated d.entries)
      ∧ ∃ c, CompiledHome.build (blindsHome 140 (-1)) .empty SymbolTable.empty.resolve = .ok c
        ∧ Simulator.ofHome c = .error (.invalid "current_position" .noPosition) := by
  constructor
  · obtain ⟨c, hb⟩ : ∃ c, CompiledHome.build (blindsHome 40 70) .empty SymbolTable.empty.resolve
        = .ok c := failure?_eq_none_iff.1 rfl
    obtain ⟨d, hd⟩ : ∃ d, Simulator.ofHome c = .ok d := by
      cases hb
      exact failure?_eq_none_iff.1 rfl
    obtain ⟨-, -, -, -, hs⟩ := CompiledHome.simulators_outcome hb
    obtain ⟨hkeys, hget, hall⟩ := hs d hd
    generalize hid : UniqueId.ofEntity (UniqueId.ofDevice (some "Office") "Blinds") "main" = id
    obtain ⟨pre, hpre, hc⟩ : ∃ pre, pre.map Prod.fst = [id, id, id] ∧ c.animated = pre
        ++ [(id, ⟨.mediaPlayer, "main", .ofList [("media_track", .number (.int 7))]⟩)] := by
      subst hid
      cases hb
      exact ⟨[(_, _), (_, _), (_, _)], rfl, rfl⟩
    have hids : c.animated.map Prod.fst = [id, id, id, id] := by
      rw [hc, List.map_append, hpre]
      rfl
    refine ⟨c, d, hb, hd, ?_, ?_, fun s => ?_, ?_⟩
    · rw [← List.length_map Prod.fst, hids]
      rfl
    · rw [hkeys, hids]
      simp [List.eraseDups_cons]
    · rw [hget, hc]
      constructor
      · rintro ⟨e, he, hes⟩
        obtain hlast | ⟨hlast, -⟩ := LastWith.concat_iff.1 he
        · cases hlast
          exact hes.unique (seeds_iff.2 rfl)
        · exact absurd rfl hlast
      · rintro rfl
        exact ⟨_, LastWith.concat_iff.2 (.inl rfl), seeds_iff.2 rfl⟩
    · rw [hall, hids]
      simp
  · obtain ⟨c, hb⟩ : ∃ c, CompiledHome.build (blindsHome 140 (-1)) .empty
        SymbolTable.empty.resolve = .ok c := failure?_eq_none_iff.1 rfl
    obtain ⟨x, post, hc, hx⟩ : ∃ x post, c.animated = x :: post
        ∧ Unseedable x.2 (.invalid "current_position" .noPosition) := by
      cases hb
      exact ⟨_, _, rfl, .cover rfl rfl⟩
    refine ⟨c, hb, ((CompiledHome.simulators_outcome hb).2.1 _).2 ⟨x, ⟨[], post, hc, ?_, ?_⟩, hx⟩⟩
    · intro y hy
      cases hy
    · rintro ⟨s, hs⟩
      rw [seeds_iff] at hs
      rw [unseedable_iff, hs] at hx
      cases hx

end Blinds

end SmartHome
