import Mathlib.Data.List.Nodup
import SmartHome.Proofs.Published
import SmartHome.Proofs.Simulated
import SmartHome.Proofs.Substituted
import SmartHome.Proofs.SymbolGrammar
import SmartHome.Proofs.TakenOver
import SmartHome.Vocabulary

/-!
# States of players by the constants of the vocabulary

No enum of the vocabulary is listed twice, and none has a member twice, so the table has just the
constants that are listed (`get?_table_iff`). The states of media players that it names are seven
(`get?_playerState_iff`), of which a simulated player has five (`read_eq_error_iff_of_mem`). A state
is the first attribute that a player is seeded from, and a cover is not seeded from one
(`unseedable_state_iff`). So where all players have their states by these constants, the state is
what makes the simulation fail just if the first entity that cannot be seeded is a player in one of
the other two states (`ofHome_stateTokens`).
-/

namespace SmartHome

section Table

namespace Vocabulary

/-- The constants of an enum by their full names. -/
def Enumeration.constants (e : Enumeration) : List ((String × String × String) × Json) :=
  e.members.map fun m => ((e.domain, e.name, m.1), m.2)

theorem entries_registerAll (domain name : String) :
    ∀ (members : List (String × Json)) (t : SymbolTable),
      (t.registerAll domain name members).entries
        = t.entries.insertAll (members.map fun m => ((domain, name, m.1), m.2))
  | [], _ => rfl
  | m :: members, t => entries_registerAll domain name members (t.register domain name m.1 m.2)

theorem entries_foldl_registerAll : ∀ (es : List Enumeration) (t : SymbolTable),
    (es.foldl (fun t e => t.registerAll e.domain e.name e.members) t).entries
      = t.entries.insertAll (es.flatMap Enumeration.constants)
  | [], _ => rfl
  | e :: es, t => by
    rw [List.foldl_cons, entries_foldl_registerAll es, entries_registerAll, List.flatMap_cons,
      Dict.insertAll_append]
    rfl

theorem nodup_enums : (all.map fun e => (e.domain, e.name)).Nodup := by
  decide +kernel

theorem nodup_members : ∀ e ∈ all, (e.members.map Prod.fst).Nodup := by
  decide

/-- A constant is listed once: its enum is, and the enum has it once. -/
theorem nodup_constants : ((all.flatMap Enumeration.constants).map Prod.fst).Nodup := by
  rw [List.map_flatMap]
  refine List.nodup_flatMap.2 ⟨fun e he => ?_, ?_⟩
  · have hnames : e.constants.map Prod.fst
        = (e.members.map Prod.fst).map fun m => (e.domain, e.name, m) := by
      simp [Enumeration.constants]
    rw [hnames]
    refine (nodup_members e he).map fun m m' h => ?_
    exact congrArg (fun x => x.2.2) h
  · refine (List.pairwise_map.1 nodup_enums).imp fun {e e'} hne => ?_
    intro k hk hk'
    simp only [Enumeration.constants, List.map_map, List.mem_map, Function.comp_apply] at hk hk'
    obtain ⟨m, -, rfl⟩ := hk
    obtain ⟨m', -, h⟩ := hk'
    exact hne (Prod.ext (congrArg Prod.fst h).symm (congrArg (fun x => x.2.1) h).symm)

theorem get?_table_iff {domain name member : String} {v : Json} :
    table.get? domain name member = some v
      ↔ ∃ e ∈ all, e.domain = domain ∧ e.name = name ∧ (member, v) ∈ e.members := by
  have hentries : table.entries = ⟨all.flatMap Enumeration.constants, nodup_constants⟩ :=
    (entries_foldl_registerAll all .empty).trans (Dict.ofList_of_nodup nodup_constants)
  rw [SymbolTable.get?, Dict.get?_eq_some_iff, hentries, List.mem_flatMap]
  simp only [Enumeration.constants, List.mem_map, Prod.mk.injEq]
  constructor
  · rintro ⟨e, he, m, hm, ⟨hd, hn, rfl⟩, rfl⟩
    exact ⟨e, he, hd, hn, hm⟩
  · rintro ⟨e, he, hd, hn, hm⟩
    exact ⟨e, he, _, hm, ⟨hd, hn, rfl⟩, rfl⟩

end Vocabulary

end Table

section Tokens

/-- The states of media players in the vocabulary, each with its value. -/
def playerStates : List (String × String) :=
  [("OFF", "off"), ("ON", "on"), ("IDLE", "idle"), ("PLAYING", "playing"), ("PAUSED", "paused"),
    ("STANDBY", "standby"), ("BUFFERING", "buffering")]

/-- Those of them that a simulated player does not have. -/
def unsimulated : List (String × String) := [("STANDBY", "standby"), ("BUFFERING", "buffering")]

/-- The value is the text of a constant of the table, of this member of the states of players. -/
structure StateToken (member : String) (v : Json) : Prop where
  eq_string : v = .string ("media_player.MediaPlayerState." ++ member)
  exists_value : ∃ u, Vocabulary.table.get? "media_player" "MediaPlayerState" member = some u

variable {member member' s : String} {v : Json} {problem : SeedProblem}

theorem get?_playerState_iff :
    Vocabulary.table.get? "media_player" "MediaPlayerState" member = some v
      ↔ ∃ s, (member, s) ∈ playerStates ∧ v = .string s := by
  have hmem : Vocabulary.texts "media_player" "MediaPlayerState" playerStates ∈ Vocabulary.all :=
    by simp [Vocabulary.all, Vocabulary.modes, playerStates]
  have hmembers : (member, v) ∈ (Vocabulary.texts "media_player" "MediaPlayerState"
      playerStates).members ↔ ∃ s, (member, s) ∈ playerStates ∧ v = .string s := by
    simp only [Vocabulary.texts, List.mem_map, Prod.mk.injEq]
    constructor
    · rintro ⟨m, hm, rfl, rfl⟩
      exact ⟨m.2, hm, rfl⟩
    · rintro ⟨s, hs, rfl⟩
      exact ⟨_, hs, rfl, rfl⟩
  rw [Vocabulary.get?_table_iff, ← hmembers]
  constructor
  · rintro ⟨e, he, hd, hn, hm⟩
    -- there is no other enum of that name
    obtain rfl := List.inj_on_of_nodup_map Vocabulary.nodup_enums he hmem (Prod.ext hd hn)
    exact hm
  · intro h
    exact ⟨_, hmem, rfl, rfl, h⟩

namespace StateToken

theorem of_mem (h : (member, s) ∈ playerStates) :
    StateToken member (.string ("media_player.MediaPlayerState." ++ member)) :=
  ⟨rfl, _, get?_playerState_iff.2 ⟨s, h, rfl⟩⟩

theorem exists_mem (h : StateToken member v) : ∃ s, (member, s) ∈ playerStates := by
  obtain ⟨u, hu⟩ := h.exists_value
  obtain ⟨s, hs, -⟩ := get?_playerState_iff.1 hu
  exact ⟨s, hs⟩

theorem unique (h : StateToken member v) (h' : StateToken member' v) : member = member' := by
  have htexts := Json.string.inj (h.eq_string.symm.trans h'.eq_string)
  rw [← String.toList_inj, String.toList_append, String.toList_append] at htexts
  exact String.toList_inj.1 (List.append_cancel_left htexts)

/-- What is substituted for a token is the value of its member. -/
theorem value_eq (h : StateToken member v) (hm : (member, s) ∈ playerStates) :
    Substitution.value Vocabulary.table.resolve v = .ok (.string s) := by
  have hvalid : ∀ m ∈ playerStates, Symbol.isMember m.1.toList = true := by decide
  let y : Symbol := ⟨"media_player", "MediaPlayerState", member, by decide, by decide, hvalid _ hm⟩
  have htext : y.text = "media_player.MediaPlayerState." ++ member :=
    congrArg (· ++ member) (show "media_player" ++ "." ++ "MediaPlayerState" ++ "." = _ by decide)
  have hy : Vocabulary.table.resolve y = some (.string s) :=
    get?_playerState_iff.2 ⟨s, hm, rfl⟩
  rw [h.eq_string, ← htext, Substitution.value_string_eq_ok_iff]
  exact .symbol y.isCandidate_text ⟨y, Symbol.parse_eq_ok_iff.2 rfl, hy⟩

end StateToken

namespace PlayerState

theorem named_eq_error_iff : named s = .error problem
    ↔ (∀ state ∈ all, state.name ≠ s) ∧ problem = .unknownState s (all.map name) := by
  unfold named
  split
  · rename_i state hf
    have hname : state.name = s := by simpa using List.find?_some hf
    constructor
    · rintro ⟨⟩
    · rintro ⟨h, -⟩
      exact absurd hname (h state (List.mem_of_find?_eq_some hf))
  · rename_i hf
    have hnone : ∀ state ∈ all, state.name ≠ s := by simpa using List.find?_eq_none.1 hf
    constructor
    · rintro ⟨⟩
      exact ⟨hnone, rfl⟩
    · rintro ⟨-, rfl⟩
      rfl

theorem read_eq_error_iff_of_mem (h : (member, s) ∈ playerStates) :
    read (.string s) = .error problem ↔ (member, s) ∈ unsimulated
      ∧ problem = .unknownState s (all.map name) := by
  have hnamed : ∀ m ∈ playerStates, (∀ state ∈ all, state.name ≠ m.2) ↔ m ∈ unsimulated := by
    decide
  rw [read, named_eq_error_iff, hnamed _ h]

end PlayerState

end Tokens

section Feeding

/-- The value is what the device, after its presets, has for the entity's name: of the attributes
that the template has under this name and the device has, it is that of the last. -/
inductive Feeds (types : Registry) (resolver : Resolver) (c : CompiledHome) (name : String) :
    String × Entity → Json → Prop
  | intro {cd t p template e spec v} (hcd : cd ∈ c.devices)
      (ht : types.get? cd.device.typeId = some t) (htemplate : (p, template) ∈ t.templates)
      (he : Entity.ofTemplate resolver cd.device p template = .ok e)
      (hspec : LastWith (fun s => s.entityKey = name ∧ s.deviceKey ∈ cd.device.attributes.keys)
        template.specs spec)
      (hname : spec.entityKey = name) (hv : cd.device.attributes.get? spec.deviceKey = some v) :
    Feeds types resolver c name (cd.entityId e, e) v

variable {h : Home} {catalog types : Registry} {resolver : Resolver} {c : CompiledHome}
  {name : String} {x : String × Entity} {v u : Json}

theorem Feeds.get?_eq (hf : Feeds types resolver c name x v) (hn : name ≠ Entity.featuresKey)
    (hu : Substitution.value resolver v = .ok u) : x.2.get? name = some u := by
  obtain @⟨cd, t, p, template, e, spec, v, -, -, -, he, hspec, hname, hv⟩ := hf
  exact ((Entity.takesOver_ofTemplate he).get?_iff name u).2
    ⟨spec, v, hspec, hname, hv, .value hn hu⟩

/-- What an entity of a compiled home has comes from its device. -/
theorem exists_feeds (hb : CompiledHome.build h catalog resolver = .ok c) (hx : x ∈ c.entities)
    (hu : x.2.get? name = some u) : ∃ v, Feeds (h.mergedTypes catalog) resolver c name x v := by
  obtain ⟨cd, hcd, hx⟩ := List.mem_flatMap.1 hx
  obtain ⟨e, he, rfl⟩ := List.mem_map.1 hx
  obtain ⟨⟨area, d⟩, -, hp⟩ := CompiledHome.exists_device_of_mem hb hcd
  have htype := (CompiledDevice.represents_of_ofDevice hp).typeId_eq
  obtain ⟨t, d', es, ht, -, hes, rfl⟩ := CompiledDevice.ofDevice_eq_ok_iff.1 hp
  obtain ⟨⟨p, template⟩, htemplate, hte⟩ := exists_of_forall₂ (mapM_eq_ok_iff.1 hes) he
  obtain ⟨spec, v, hspec, hname, hv, -⟩ :=
    ((Entity.takesOver_ofTemplate hte).get?_iff name u).1 hu
  exact ⟨v, .intro hcd (htype ▸ ht) htemplate hte hspec hname hv⟩

end Feeding

section Seeding

variable {e : Entity} {problem : SeedProblem}

namespace Blames

variable {α : Type} {x : Except SeedError α} {names : List String} {name : String}

theorem features_of_mem (hn : "supported_features" ∈ names) : Blames names e.features := by
  unfold Entity.features
  exact (read _ _ hn).bind fun _ => ok _

theorem ne_error (names : List String) (hx : Blames names x) (hn : name ∉ names) :
    x ≠ .error (.invalid name problem) := by
  intro h
  obtain ⟨_, hname, _, heq⟩ := hx _ h
  cases heq
  exact hn hname

end Blames

theorem Cover.ofEntity_ne_error_state (hp : e.platform = .cover) :
    ofEntity e ≠ .error (.invalid "state" problem) := by
  unfold ofEntity Entity.requirePlatform
  rw [if_pos hp]
  refine Blames.ne_error ["current_position", "device_class", "supported_features"] ?_ (by decide)
  refine (Blames.ok ()).bind fun _ => (Blames.read _ _ (by decide)).bind fun _ => ?_
  refine (Blames.read _ _ (by decide)).bind fun _ => ?_
  exact (Blames.features_of_mem (by decide)).bind fun _ => Blames.ok _

theorem MediaPlayer.ofEntity_eq_error_state_iff (hp : e.platform = .mediaPlayer) :
    ofEntity e = .error (.invalid "state" problem)
      ↔ ∃ v, e.get? "state" = some v ∧ PlayerState.read v = .error problem := by
  have hrequire : e.requirePlatform .mediaPlayer = .ok () := if_pos hp
  rw [ofEntity, hrequire]
  constructor
  · intro h
    rcases bind_eq_error_iff.1 h with h | ⟨⟨⟩, -, h⟩
    · cases h
    rcases bind_eq_error_iff.1 h with h | ⟨_, -, h⟩
    · obtain ⟨v, _, hv, hread, heq⟩ := Entity.read_eq_error_iff.1 h
      cases heq
      exact ⟨v, hv, hread⟩
    -- once the state is read, only other attributes are complained about
    · refine absurd h (Blames.ne_error
        ["volume_level", "media_track", "device_class", "supported_features"] ?_ (by decide))
      refine (Blames.read _ _ (by decide)).bind fun _ => ?_
      refine (Blames.read _ _ (by decide)).bind fun _ => ?_
      refine (Blames.read _ _ (by decide)).bind fun _ => ?_
      exact (Blames.features_of_mem (by decide)).bind fun _ => Blames.ok _
  · rintro ⟨v, hv, hread⟩
    rw [Entity.read_of_error hv hread]
    rfl

/-- The state is what is wrong with an entity just if it is a player whose state is none. -/
theorem unseedable_state_iff : Unseedable e (.invalid "state" problem)
    ↔ e.platform = .mediaPlayer
      ∧ ∃ v, e.get? "state" = some v ∧ PlayerState.read v = .error problem := by
  constructor
  · rintro (⟨hp, h⟩ | ⟨hp, h⟩)
    · exact absurd h (Cover.ofEntity_ne_error_state hp)
    · exact ⟨hp, (MediaPlayer.ofEntity_eq_error_state_iff hp).1 h⟩
  · rintro ⟨hp, hstate⟩
    exact .mediaPlayer hp ((MediaPlayer.ofEntity_eq_error_state_iff hp).2 hstate)

end Seeding

section Agreement

variable {h : Home} {catalog types : Registry} {c : CompiledHome} {x : String × Entity}
  {member s : String} {v : Json} {problem : SeedProblem}

/-- The states of all media players come from constants of the table. -/
def TokenFed (types : Registry) (c : CompiledHome) : Prop :=
  ∀ x v, x.2.platform = .mediaPlayer → Feeds types Vocabulary.table.resolve c "state" x v →
    ∃ member, StateToken member v

/-- The entity is a media player, and the constant that its state comes from names no state of a
simulated player; the problem says so. -/
inductive Disagrees (types : Registry) (c : CompiledHome) (x : String × Entity) :
    SeedProblem → Prop
  | intro {v : Json} {member s : String} (hp : x.2.platform = .mediaPlayer)
      (hv : Feeds types Vocabulary.table.resolve c "state" x v) (ht : StateToken member v)
      (hs : (member, s) ∈ unsimulated) :
    Disagrees types c x (.unknownState s (PlayerState.all.map PlayerState.name))

theorem Feeds.state_eq (hf : Feeds types Vocabulary.table.resolve c "state" x v)
    (ht : StateToken member v) (hs : (member, s) ∈ playerStates) :
    x.2.get? "state" = some (.string s) :=
  hf.get?_eq (by decide) (ht.value_eq hs)

theorem TokenFed.unseedable_iff (hfed : TokenFed (h.mergedTypes catalog) c)
    (hb : CompiledHome.build h catalog Vocabulary.table.resolve = .ok c) (hx : x ∈ c.entities) :
    Unseedable x.2 (.invalid "state" problem) ↔ Disagrees (h.mergedTypes catalog) c x problem := by
  rw [unseedable_state_iff]
  constructor
  · rintro ⟨hp, u, hu, hread⟩
    obtain ⟨v, hv⟩ := exists_feeds hb hx hu
    obtain ⟨member, ht⟩ := hfed x v hp hv
    obtain ⟨s, hs⟩ := ht.exists_mem
    cases hu.symm.trans (hv.state_eq ht hs)
    obtain ⟨hun, rfl⟩ := (PlayerState.read_eq_error_iff_of_mem hs).1 hread
    exact .intro hp hv ht hun
  · rintro @⟨v, member, s, hp, hv, ht, hun⟩
    have hs : (member, s) ∈ playerStates := (show unsimulated ⊆ playerStates by decide) hun
    exact ⟨hp, _, hv.state_eq ht hs, (PlayerState.read_eq_error_iff_of_mem hs).2 ⟨hun, rfl⟩⟩

theorem TokenFed.ofHome_eq_error_iff (hfed : TokenFed (h.mergedTypes catalog) c)
    (hb : CompiledHome.build h catalog Vocabulary.table.resolve = .ok c) :
    Simulator.ofHome c = .error (.invalid "state" problem) ↔ ∃ x,
      FirstFailing (fun x => ∃ s, Seeds x.2 s) c.animated x
        ∧ Disagrees (h.mergedTypes catalog) c x problem := by
  rw [Simulator.ofHome_eq_error_iff]
  refine exists_congr fun x => and_congr_right fun hx => ?_
  exact hfed.unseedable_iff hb (List.mem_of_mem_filter hx.mem)

/-- Where the states of all media players come from constants of the table, the simulation fails
because of a state exactly if the first entity that cannot be seeded is a player whose constant is
one of the two that a simulated player does not have, and then the value of the constant is what is
reported. So with the other five constants it never fails because of a state. -/
theorem ofHome_stateTokens
    (hb : CompiledHome.build h catalog Vocabulary.table.resolve = .ok c)
    (hfed : TokenFed (h.mergedTypes catalog) c) :
    (∀ problem, Simulator.ofHome c = .error (.invalid "state" problem) ↔ ∃ x,
        FirstFailing (fun x => ∃ s, Seeds x.2 s) c.animated x
          ∧ Disagrees (h.mergedTypes catalog) c x problem)
      ∧ ((∀ x v, x.2.platform = .mediaPlayer →
          Feeds (h.mergedTypes catalog) Vocabulary.table.resolve c "state" x v →
          ∃ member ∈ ["OFF", "ON", "IDLE", "PLAYING", "PAUSED"], StateToken member v) →
        ∀ problem, Simulator.ofHome c ≠ .error (.invalid "state" problem)) := by
  refine ⟨fun problem => hfed.ofHome_eq_error_iff hb, fun hknown problem hp => ?_⟩
  obtain ⟨x, -, @⟨v, member, s, hplatform, hv, ht, hun⟩⟩ :=
    (hfed.ofHome_eq_error_iff hb).1 hp
  obtain ⟨member', hmember, ht'⟩ := hknown x v hplatform hv
  obtain rfl := ht.unique ht'
  have hother : ∀ m ∈ unsimulated, m.1 ∉ ["OFF", "ON", "IDLE", "PLAYING", "PAUSED"] := by decide
  exact hother _ hun hmember

end Agreement

section Speakers

/-- A speaker whose mode is the state of its player; it can be put to rest. -/
def speakerType : DeviceType where
  id := "speaker"
  description := "A speaker"
  entities := .ofList [(.mediaPlayer, [⟨"player", [.renamed "state" "mode"]⟩])]
  kinds := .ofList [("mode", .state)]
  presets := [⟨"rest", .ofList [("mode", .string "media_player.MediaPlayerState.PAUSED")]⟩]
  supports_templates := by decide
  supports_presets := by decide
  nodup_presets := by decide

def speaker (member : String) (presets : List String) : Device where
  name := "Speaker"
  typeId := "speaker"
  info := none
  attributes := .ofList [("mode", .string ("media_player.MediaPlayerState." ++ member))]
  presetKeys := presets

def speakerHome (presets : List String) : Home where
  areas := .empty
  services := [speaker "STANDBY" presets]
  localTypes := some (.collect [speakerType])

/-- The home with the speaker in a state. -/
def compiledSpeaker (d : Device) (s : String) : CompiledHome where
  areas := []
  devices := [⟨UniqueId.ofDevice none "Speaker", d, none,
    [⟨.mediaPlayer, "player", .ofList [("state", .string s)]⟩]⟩]

theorem build_speakerHome {presets : List String} {member s : String}
    (hd : (speaker "STANDBY" presets).applyPresets speakerType = .ok (speaker member presets))
    (hs : (member, s) ∈ playerStates) :
    CompiledHome.build (speakerHome presets) .empty Vocabulary.table.resolve
      = .ok (compiledSpeaker (speaker member presets) s) := by
  have he : Entity.ofTemplate Vocabulary.table.resolve (speaker member presets) .mediaPlayer
      ⟨"player", [.renamed "state" "mode"]⟩
      = .ok ⟨.mediaPlayer, "player", .ofList [("state", .string s)]⟩ := by
    have htaken : Entity.takeOver Vocabulary.table.resolve (speaker member presets).attributes
        .empty (.renamed "state" "mode") = .ok (.ofList [("state", .string s)]) := by
      show (Substitution.value _ _).map _ = _
      rw [(StateToken.of_mem hs).value_eq hs]
      rfl
    rw [Entity.ofTemplate, List.foldlM_cons, htaken]
    rfl
  refine CompiledHome.build_eq_ok_iff.2 ⟨rfl, rfl, .cons ?_ .nil⟩
  refine CompiledDevice.ofDevice_eq_ok_iff.2 ⟨speakerType, _, _, rfl, hd, ?_, rfl⟩
  exact mapM_eq_ok_iff.2 (.cons he .nil)

theorem feeds_compiledSpeaker {presets : List String} {member s : String} {x : String × Entity}
    {v : Json} (hf : Feeds (.collect [speakerType]) Vocabulary.table.resolve
      (compiledSpeaker (speaker member presets) s) "state" x v) :
    v = .string ("media_player.MediaPlayerState." ++ member) := by
  obtain ⟨hcd, ht, htemplate, -, hspec, -, hv⟩ := hf
  obtain rfl := List.mem_singleton.1 hcd
  cases ht
  cases List.mem_singleton.1 htemplate
  obtain rfl := List.mem_singleton.1 hspec.mem
  exact (Option.some.inj hv).symm

theorem tokenFed_compiledSpeaker {presets : List String} {member s : String}
    (hs : (member, s) ∈ playerStates) :
    TokenFed (.collect [speakerType]) (compiledSpeaker (speaker member presets) s) := by
  intro x v _ hv
  rw [feeds_compiledSpeaker hv]
  exact ⟨member, StateToken.of_mem hs⟩

/-- A speaker at rest is no obstacle, as it is paused by then. -/
theorem ofHome_stateTokens_rest : ∃ c,
    CompiledHome.build (speakerHome ["rest"]) .empty Vocabulary.table.resolve = .ok c
      ∧ TokenFed ((speakerHome ["rest"]).mergedTypes .empty) c
      ∧ ∀ problem, Simulator.ofHome c ≠ .error (.invalid "state" problem) := by
  have hs : ("PAUSED", "paused") ∈ playerStates := by decide
  have hrest : (speaker "STANDBY" ["rest"]).applyPresets speakerType
      = .ok (speaker "PAUSED" ["rest"]) := rfl
  have hb := build_speakerHome hrest hs
  have hfed : TokenFed ((speakerHome ["rest"]).mergedTypes .empty)
      (compiledSpeaker (speaker "PAUSED" ["rest"]) "paused") := tokenFed_compiledSpeaker hs
  refine ⟨_, hb, hfed, (ofHome_stateTokens hb hfed).2 fun x v _ hv => ⟨"PAUSED", by decide, ?_⟩⟩
  rw [feeds_compiledSpeaker hv]
  exact StateToken.of_mem hs

/-- A speaker on standby is one in a state of the vocabulary, but it cannot be simulated. -/
theorem ofHome_standby : ∃ c,
    CompiledHome.build (speakerHome []) .empty Vocabulary.table.resolve = .ok c
      ∧ TokenFed ((speakerHome []).mergedTypes .empty) c
      ∧ Simulator.ofHome c = .error (.invalid "state"
        (.unknownState "standby" ["off", "on", "idle", "playing", "paused"])) := by
  have hs : ("STANDBY", "standby") ∈ playerStates := by decide
  exact ⟨_, build_speakerHome rfl hs, tokenFed_compiledSpeaker hs, rfl⟩

end Speakers

end SmartHome
