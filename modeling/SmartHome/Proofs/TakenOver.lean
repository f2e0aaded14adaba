import SmartHome.Proofs.Compile

/-!
# What an entity takes over

Aliases let several attributes of a template have one name on the entity, and one attribute of the
device have several. Each attribute that is taken over adds to the entity or overwrites what was
there (`TakesOver.step`), so the first one with a name gives it its place and the last one its value
(`takesOver_ofTemplate`). What comes of a value depends on the entity's name for it alone: under the
name of the feature flags it has to be flags, whatever the device calls it. A value that nothing can
be made of ends the expansion where it is met, also if it would have been overwritten
(`ofDevice_exact`).
-/

namespace SmartHome

namespace Entity

/-- What an entity shows under a name for a value of the device's. -/
inductive Shows (resolver : Resolver) : String → Json → Json → Prop
  | flags {v w} (h : Substitution.flags resolver v = .ok w) :
    Shows resolver "supported_features" v (.ofWord w)
  | value {name v u} (hn : name ≠ "supported_features")
      (h : Substitution.value resolver v = .ok u) : Shows resolver name v u

inductive Withholds (resolver : Resolver) : String → Json → HomeError → Prop
  | flags {v e} (h : Substitution.flags resolver v = .error e) :
    Withholds resolver "supported_features" v e
  | value {name v e} (hn : name ≠ "supported_features")
      (h : Substitution.value resolver v = .error e) : Withholds resolver name v e

variable {resolver : Resolver} {device taken taken' : Attributes} {s : AttributeSpec}
  {specs : List AttributeSpec} {name : String} {v u : Json} {e : HomeError}

section Shows

theorem shows_iff : Shows resolver name v u ↔ attributeValue resolver name v = .ok u := by
  unfold attributeValue featuresKey
  constructor
  · rintro (h | ⟨hn, h⟩)
    · rw [if_pos rfl, h]
      rfl
    · rw [if_neg hn, h]
  · intro h
    split_ifs at h with hn
    · obtain ⟨w, hw, rfl⟩ := map_eq_ok_iff.1 h
      exact hn ▸ .flags hw
    · exact .value hn h

theorem withholds_iff :
    Withholds resolver name v e ↔ attributeValue resolver name v = .error e := by
  unfold attributeValue featuresKey
  constructor
  · rintro (h | ⟨hn, h⟩)
    · rw [if_pos rfl, h]
      rfl
    · rw [if_neg hn, h]
  · intro h
    split_ifs at h with hn
    · exact hn ▸ .flags (map_eq_error_iff.1 h)
    · exact .value hn h

end Shows

section Template

/-- The attributes are those that are taken over: each stands where the first of its name stands,
and has what the last of its name shows. -/
structure TakesOver (resolver : Resolver) (device : Attributes) (specs : List AttributeSpec)
    (taken : Attributes) : Prop where
  keys_eq : taken.keys
    = ((specs.filter fun s => device.contains s.deviceKey).map AttributeSpec.entityKey).eraseDups
  get?_iff : ∀ name u, taken.get? name = some u ↔ ∃ s v,
    LastWith (fun s => s.entityKey = name ∧ s.deviceKey ∈ device.keys) specs s
      ∧ s.entityKey = name ∧ device.get? s.deviceKey = some v ∧ Shows resolver name v u

theorem TakesOver.mem_keys_iff (h : TakesOver resolver device specs taken) : name ∈ taken.keys
    ↔ ∃ s ∈ specs, s.entityKey = name ∧ s.deviceKey ∈ device.keys := by
  simp only [h.keys_eq, List.mem_eraseDups, List.mem_map, List.mem_filter, Dict.contains_iff]
  constructor
  · rintro ⟨s, ⟨hs, hd⟩, hn⟩
    exact ⟨s, hs, hn, hd⟩
  · rintro ⟨s, hs, hn, hd⟩
    exact ⟨s, ⟨hs, hd⟩, hn⟩

theorem takesOver_nil (resolver : Resolver) (device : Attributes) :
    TakesOver resolver device [] .empty where
  keys_eq := rfl
  get?_iff name u := by
    constructor
    · rintro ⟨⟩
    · rintro ⟨s, v, h, -⟩
      exact absurd h LastWith.not_nil

theorem TakesOver.of_absent (h : TakesOver resolver device specs taken)
    (hs : device.get? s.deviceKey = none) : TakesOver resolver device (specs ++ [s]) taken where
  keys_eq := by
    have hc : ¬ device.contains s.deviceKey = true := fun hc =>
      Dict.get?_eq_none_iff.1 hs (Dict.contains_iff.1 hc)
    have hf : ([s].filter fun s => device.contains s.deviceKey) = [] := List.filter_cons_of_neg hc
    rw [List.filter_append, hf, List.append_nil, h.keys_eq]
  get?_iff name u := by
    rw [h.get?_iff]
    refine exists_congr fun s' => exists_congr fun v => ?_
    rw [LastWith.concat_iff]
    constructor
    · rintro ⟨hl, h⟩
      exact ⟨.inr ⟨fun hp => Dict.get?_eq_none_iff.1 hs hp.2, hl⟩, h⟩
    · rintro ⟨rfl | ⟨-, hl⟩, hn, hv, hu⟩
      · rw [hs] at hv
        cases hv
      · exact ⟨hl, hn, hv, hu⟩

/-- An attribute that the device has comes to stand behind the others, or in the place of the one
with its name. -/
theorem TakesOver.of_present (h : TakesOver resolver device specs taken)
    (hs : device.get? s.deviceKey = some v) (hu : Shows resolver s.entityKey v u) :
    TakesOver resolver device (specs ++ [s]) (taken.insert s.entityKey u) where
  keys_eq := by
    have hc : device.contains s.deviceKey = true :=
      Dict.contains_iff.2 (Dict.mem_keys_iff.2 ⟨v, hs⟩)
    have hf : ([s].filter fun s => device.contains s.deviceKey) = [s] := List.filter_cons_of_pos hc
    rw [Dict.keys_insert, List.filter_append, hf, List.map_append, List.map_singleton,
      Dict.eraseDups_concat, ← h.keys_eq]
    simp only [h.keys_eq, List.mem_eraseDups]
  get?_iff name u' := by
    rw [Dict.get?_insert]
    by_cases hn : s.entityKey = name
    -- under its own name `s` is the last one now, and what was there before is gone
    · subst hn
      rw [if_pos rfl, Option.some.injEq]
      constructor
      · rintro rfl
        exact ⟨s, v, LastWith.concat_iff.2 (.inl rfl), rfl, hs, hu⟩
      · rintro ⟨s', v', hl, -, hs', hu'⟩
        rcases LastWith.concat_iff.1 hl with rfl | ⟨hp, -⟩
        · rw [hs] at hs'
          cases hs'
          exact Except.ok.inj ((shows_iff.1 hu).symm.trans (shows_iff.1 hu'))
        · exact absurd ⟨rfl, Dict.mem_keys_iff.2 ⟨v, hs⟩⟩ hp
    · rw [if_neg hn, h.get?_iff]
      refine exists_congr fun s' => exists_congr fun v' => ?_
      rw [LastWith.concat_iff]
      constructor
      · rintro ⟨hl, h⟩
        exact ⟨.inr ⟨fun hp => hn hp.1, hl⟩, h⟩
      · rintro ⟨rfl | ⟨-, hl⟩, hn', h⟩
        · exact absurd hn' hn
        · exact ⟨hl, hn', h⟩

theorem TakesOver.step (h : TakesOver resolver device specs taken)
    (hs : takeOver resolver device taken s = .ok taken') :
    TakesOver resolver device (specs ++ [s]) taken' := by
  unfold takeOver at hs
  rcases hv : device.get? s.deviceKey with _ | v <;> rw [hv] at hs
  · cases hs
    exact h.of_absent hv
  · obtain ⟨u, hu, rfl⟩ := map_eq_ok_iff.1 hs
    exact h.of_present hv (shows_iff.2 hu)

theorem takesOver_ofTemplate {d : Device} {p : Platform} {t : EntityTemplate} {entity : Entity}
    (h : ofTemplate resolver d p t = .ok entity) :
    TakesOver resolver d.attributes t.specs entity.attributes := by
  obtain ⟨taken, htaken, he⟩ := bind_eq_ok_iff.1 h
  cases he
  exact foldlM_done (P := TakesOver resolver d.attributes) (fun _ _ _ _ h hs => h.step hs)
    (takesOver_nil resolver d.attributes) htaken

end Template

section Failing

variable {d : Device} {t : DeviceType}

/-- If the device has the attribute, the entity has something to show for it. -/
def Taken (resolver : Resolver) (device : Attributes) (s : AttributeSpec) : Prop :=
  ∀ v, device.get? s.deviceKey = some v → ∃ u, Shows resolver s.entityKey v u

def specsOf (t : DeviceType) : List AttributeSpec := t.templates.flatMap fun e => e.2.specs

def specFailure? (resolver : Resolver) (device : Attributes) (s : AttributeSpec) :
    Option HomeError :=
  (device.get? s.deviceKey).bind fun v => failure? (attributeValue resolver s.entityKey v)

theorem specFailure?_eq_none_iff :
    specFailure? resolver device s = none ↔ Taken resolver device s := by
  unfold specFailure? Taken
  simp only [Option.bind_eq_none_iff, failure?_eq_none_iff, shows_iff]

theorem specFailure?_eq_some_iff : specFailure? resolver device s = some e
    ↔ ∃ v, device.get? s.deviceKey = some v ∧ Withholds resolver s.entityKey v e := by
  unfold specFailure?
  simp only [Option.bind_eq_some_iff, failure?_eq_some_iff, withholds_iff]

theorem failure?_takeOver (taken : Attributes) (s : AttributeSpec) :
    failure? (takeOver resolver device taken s) = specFailure? resolver device s := by
  unfold takeOver specFailure?
  rcases device.get? s.deviceKey with _ | v
  · rfl
  · exact failure?_map _ _

theorem failure?_ofDevice_specs (resolver : Resolver) (d : Device) (t : DeviceType) :
    failure? (ofDevice resolver d t)
      = (specsOf t).findSome? (specFailure? resolver d.attributes) := by
  unfold ofDevice specsOf
  rw [failure?_mapM, findSome?_flatMap]
  refine findSome?_congr fun pt _ => ?_
  exact (failure?_bind_pure _ _).trans (failure?_foldlM failure?_takeOver pt.2.specs .empty)

end Failing

/-- An expanded device has an entity for each template. This has an attribute for each name under
which the template takes one over that the device has; it stands where the first of the name stands
and is what the last of the name shows. Expansion fails if nothing can be shown for some attribute
that is taken over, and as the first of these does. -/
theorem ofDevice_exact (resolver : Resolver) (d : Device) (t : DeviceType) :
    (∀ es, ofDevice resolver d t = .ok es → List.Forall₂ (fun pt e =>
        e.platform = pt.1 ∧ e.key = pt.2.key
          ∧ (∀ name, name ∈ e.attributes.keys
            ↔ ∃ s ∈ pt.2.specs, s.entityKey = name ∧ s.deviceKey ∈ d.attributes.keys)
          ∧ TakesOver resolver d.attributes pt.2.specs e.attributes) t.templates es)
      ∧ ((∃ error, ofDevice resolver d t = .error error) ↔ ∃ s ∈ specsOf t, ∃ v error,
        d.attributes.get? s.deviceKey = some v ∧ Withholds resolver s.entityKey v error)
      ∧ ∀ error, ofDevice resolver d t = .error error ↔ ∃ s v,
        FirstFailing (Taken resolver d.attributes) (specsOf t) s
          ∧ d.attributes.get? s.deviceKey = some v ∧ Withholds resolver s.entityKey v error := by
  refine ⟨fun es hes => ?_, ?_, fun error => ?_⟩
  · refine (mapM_eq_ok_iff.1 hes).imp fun pt e he => ?_
    obtain ⟨hp, hk⟩ := ofTemplate_frame he
    have ht := takesOver_ofTemplate he
    exact ⟨hp, hk, fun name => ht.mem_keys_iff, ht⟩
  · simp only [← failure?_eq_some_iff, failure?_ofDevice_specs, ← Option.isSome_iff_exists,
      List.findSome?_isSome_iff]
    simp only [Option.isSome_iff_exists, specFailure?_eq_some_iff]
    exact exists_congr fun s => and_congr_right fun _ => exists_comm
  · rw [← failure?_eq_some_iff, failure?_ofDevice_specs,
      FirstFailing.findSome?_iff fun _ _ => specFailure?_eq_none_iff.symm]
    simp only [specFailure?_eq_some_iff, exists_and_left]

/-- A light strip shows the device's flags as its features, and has two attributes for its mode: one
of them the device calls its features. -/
def stripType : DeviceType where
  id := "strip"
  description := "A light strip"
  entities := .ofList [(.light, [⟨"light", [.renamed "supported_features" "flags",
    .renamed "mode" "supported_features", .direct "level", .renamed "mode" "level",
    .direct "hue"]⟩])]
  kinds := .ofList [("flags", .static), ("supported_features", .static), ("level", .state),
    ("hue", .state)]
  presets := []
  supports_templates := by decide
  supports_presets := by decide
  nodup_presets := List.nodup_nil

def strip (features : String) : Device where
  name := "Strip"
  typeId := "strip"
  info := none
  attributes := .ofList [("level", .number (.int 128)), ("supported_features", .string features),
    ("flags", .array [.number (.int 4), .number (.int 8)])]
  presetKeys := []

/-- What the device calls its features is a mode, which need not be a number, and the level takes
its place; but a symbol that has no value is reported all the same. -/
theorem ofDevice_exact_strip :
    (∃ e, ofDevice SymbolTable.empty.resolve (strip "warm") stripType = .ok [e]
        ∧ e.platform = .light ∧ e.attributes.keys = ["supported_features", "mode", "level"]
        ∧ e.get? "supported_features" = some (.number (.int 12))
        ∧ e.get? "mode" = some (.number (.int 128)))
      ∧ ofDevice SymbolTable.empty.resolve (strip "light.ColorMode.HS") stripType
        = .error (.unresolved "light.ColorMode.HS" .unknown) := by
  constructor
  · obtain ⟨es, hes⟩ : ∃ es, ofDevice SymbolTable.empty.resolve (strip "warm") stripType = .ok es :=
      failure?_eq_none_iff.1 rfl
    obtain ⟨e, _, ⟨hp, -, -, ht⟩, hnil, rfl⟩ :=
      List.forall₂_cons_left_iff.1 ((ofDevice_exact _ _ _).1 es hes)
    obtain rfl := List.forall₂_nil_left_iff.1 hnil
    refine ⟨e, hes, hp, ht.keys_eq.trans (by decide), ?_, ?_⟩
    · exact (ht.get?_iff _ _).2 ⟨.renamed "supported_features" "flags", _,
        ⟨[], _, rfl, by decide⟩, rfl, rfl, .flags (w := 12) rfl⟩
    · exact (ht.get?_iff _ _).2 ⟨.renamed "mode" "level", _,
        ⟨[.renamed "supported_features" "flags", .renamed "mode" "supported_features",
          .direct "level"], [.direct "hue"], rfl, by decide⟩, rfl, rfl, .value (by decide) rfl⟩
  · refine ((ofDevice_exact _ _ _).2.2 _).2 ⟨.renamed "mode" "supported_features", _,
      ⟨[.renamed "supported_features" "flags"], _, rfl, ?_, fun h => ?_⟩, rfl,
      .value (by decide) rfl⟩
    · rw [List.forall_mem_singleton]
      exact specFailure?_eq_none_iff.1 rfl
    · cases specFailure?_eq_none_iff.2 h

end Entity

end SmartHome
