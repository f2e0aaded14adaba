import Mathlib.Logic.Function.Iterate
import SmartHome.Proofs.Correspondence
import SmartHome.Proofs.Rejection

/-!
# Presets applied in place

A device whose presets are applied in place becomes what `applyPresets` gives, and one for which
this fails is left as it is (`inPlace_eq`): every preset is looked up before the first attribute is
touched. Afterwards the names that stay, those that are no state, come first, and behind them what
the presets set in addition (`keys_afterPresets`), so the order of the attributes depends on the
names that stay and on nothing else. Once every name that the presets set stays or is state, nothing
changes any more (`afterPresets_of_settled`); this is so after the first time at the latest, whence
the second time can still move attributes and the third cannot.
-/

namespace SmartHome

namespace Device

variable {t : DeviceType} {d : Device} {ps : List Preset} {attributes : Attributes}

namespace Change

/-- The change succeeds, and does this to the attributes and nothing to the rest. -/
def Makes (x : Change Unit) (f : Attributes → Attributes) : Prop :=
  ∀ d, x.run.run d = (.ok (), { d with attributes := f d.attributes })

variable {x y : Change Unit} {f g : Attributes → Attributes}

theorem makes_attributes (f : Attributes → Attributes) : Makes (Change.attributes f) f :=
  fun _ => rfl

theorem Makes.andThen (hx : Makes x f) (hy : Makes y g) : Makes (x >>= fun _ => y) (g ∘ f) := by
  intro d
  rw [ExceptT.run_bind, StateT.run_bind, hx d]
  exact hy _

theorem makes_forM {α : Type} {step : α → Change Unit} {f : α → Attributes → Attributes}
    (h : ∀ a, Makes (step a) (f a)) :
    ∀ l : List α, Makes (l.forM step) fun attributes => l.foldl (fun as a => f a as) attributes
  | [] => fun _ => rfl
  | a :: l => (h a).andThen (makes_forM h l)

theorem makes_overwrite (t : DeviceType) (ps : List Preset) :
    Makes (overwrite t ps) (afterPresets t ps) :=
  (makes_forM (fun _ => makes_attributes _) _).andThen
    (makes_forM (fun _ => makes_forM (fun _ => makes_attributes _) _) _)

end Change

theorem inPlace_eq (d : Device) (t : DeviceType) : d.inPlace t = match d.applyPresets t with
    | .ok d' => (.ok (), d')
    | .error e => (.error e, d) := by
  have hget : d.inPlace t = (if d.presetKeys.isEmpty then pure () else
      MonadExcept.ofExcept (d.presetsFor t d.presetKeys) >>= Change.overwrite t :
      Change Unit).run.run d := rfl
  rw [hget]
  unfold applyPresets
  split_ifs with hk
  · rfl
  · rcases d.presetsFor t d.presetKeys with e | ps
    · rfl
    · exact Change.makes_overwrite t ps d

/-- The presets are those that the device selects, in the order in which it does. -/
def Selects (d : Device) (t : DeviceType) (ps : List Preset) : Prop :=
  List.Forall₂ (fun key p => t.preset? key = some p) d.presetKeys ps

theorem selects_iff : d.Selects t ps ↔ d.presetsFor t d.presetKeys = .ok ps :=
  presetsFor_eq_ok_iff.symm

theorem exists_selects (hk : ∀ key ∈ d.presetKeys, key ∈ t.presetKeys) : ∃ ps, d.Selects t ps := by
  simp only [selects_iff, ← failure?_eq_none_iff, failure?_presetsFor, List.findSome?_eq_none_iff]
  exact fun key hm => if_pos (hk key hm)

theorem inPlace_of_selects (hk : d.presetKeys ≠ []) (hs : d.Selects t ps)
    (attributes : Attributes) : ({ d with attributes } : Device).inPlace t
      = (.ok (), { d with attributes := afterPresets t ps attributes }) := by
  -- the attributes have no part in which presets are found
  have ha : ({ d with attributes } : Device).applyPresets t
      = .ok { d with attributes := afterPresets t ps attributes } :=
    applyPresets_eq_ok_iff.2 (.inr ⟨hk, ps, selects_iff.1 hs, rfl⟩)
  rw [inPlace_eq, ha]

section Order

/-- The names that are not state, in their order. -/
def staying (t : DeviceType) (attributes : Attributes) : List String :=
  attributes.keys.filter fun name => t.kind? name ≠ some .state

/-- The names that presets set, in the order in which they are set first. -/
def namesSet (ps : List Preset) : List String := (ps.flatMap (·.values.keys)).eraseDups

theorem mem_staying_iff {name : String} : name ∈ staying t attributes
    ↔ name ∈ attributes.keys ∧ t.kind? name ≠ some .state := by
  simp [staying]

theorem mem_namesSet_iff {name : String} :
    name ∈ namesSet ps ↔ ∃ p ∈ ps, name ∈ p.values.keys := by
  simp [namesSet, List.mem_eraseDups]

theorem keys_withoutState (t : DeviceType) (attributes : Attributes) :
    (withoutState t attributes).keys = staying t attributes := by
  unfold withoutState staying
  rw [Dict.keys_foldl_erase]
  simp only [DeviceType.mem_stateNames_iff, ne_eq]

theorem keys_afterPresets (t : DeviceType) (ps : List Preset) (attributes : Attributes) :
    (afterPresets t ps attributes).keys
      = staying t attributes ++ (namesSet ps).filter (· ∉ staying t attributes) := by
  unfold afterPresets namesSet
  rw [Dict.foldl_overlay, Dict.keys_insertAll_eraseDups, keys_withoutState, List.map_flatMap]
  rfl

/-- Every name that the presets set is there, or state. -/
def Settled (t : DeviceType) (ps : List Preset) (attributes : Attributes) : Prop :=
  ∀ name ∈ namesSet ps, t.kind? name ≠ some .state → name ∈ attributes.keys

theorem settled_afterPresets (t : DeviceType) (ps : List Preset) (attributes : Attributes) :
    Settled t ps (afterPresets t ps attributes) := by
  intro name hn hs
  rw [keys_afterPresets, List.mem_append, List.mem_filter, decide_eq_true_eq]
  by_cases hm : name ∈ staying t attributes
  · exact .inl hm
  · exact .inr ⟨hn, hm⟩

theorem staying_afterPresets (hs : Settled t ps attributes) :
    staying t (afterPresets t ps attributes) = staying t attributes := by
  have hstay : (staying t attributes).filter (fun name => t.kind? name ≠ some .state)
      = staying t attributes :=
    List.filter_eq_self.2 fun name hn => decide_eq_true (mem_staying_iff.1 hn).2
  have hnew : ((namesSet ps).filter (· ∉ staying t attributes)).filter
      (fun name => t.kind? name ≠ some .state) = [] := by
    refine List.filter_eq_nil_iff.2 fun name hn hk => ?_
    rw [List.mem_filter, decide_eq_true_eq] at hn
    rw [decide_eq_true_eq] at hk
    exact hn.2 (mem_staying_iff.2 ⟨hs name hn.1 hk, hk⟩)
  rw [staying, keys_afterPresets, List.filter_append, hstay, hnew, List.append_nil]

/-- Where nothing new is set but state, presets that are applied again change nothing. -/
theorem afterPresets_of_settled (hs : Settled t ps attributes) :
    afterPresets t ps (afterPresets t ps attributes) = afterPresets t ps attributes := by
  refine Dict.ext_get? ?_ (get?_afterPresets_again t ps attributes)
  rw [keys_afterPresets, staying_afterPresets hs, ← keys_afterPresets]

end Order

section Effect

/-- A device that selects no preset stays as it is, and so does one that selects a preset which its
type does not have: the first of these is reported. Any other loses its state, and then an attribute
is as the last preset that sets it has it, and else as it was; the names that are no state come
first, and behind them those that the presets set in addition. -/
theorem inPlace_effect (d : Device) (t : DeviceType) :
    (d.presetKeys = [] → d.inPlace t = (.ok (), d))
      ∧ ((∃ key ∈ d.presetKeys, key ∉ t.presetKeys) →
        ∃ key, FirstFailing (· ∈ t.presetKeys) d.presetKeys key
          ∧ d.inPlace t = (.error (.unknownPreset d.name t.id key t.presetKeys), d))
      ∧ (d.presetKeys ≠ [] → (∀ key ∈ d.presetKeys, key ∈ t.presetKeys) →
        ∃ ps attributes, d.Selects t ps ∧ d.inPlace t = (.ok (), { d with attributes })
          ∧ (∀ name p, LastWith (name ∈ ·.values.keys) ps p → name ∈ p.values.keys →
            attributes.get? name = p.values.get? name)
          ∧ (∀ name, (∀ p ∈ ps, name ∉ p.values.keys) → attributes.get? name
            = if t.kind? name = some .state then none else d.attributes.get? name)
          ∧ attributes.keys = staying t d.attributes
            ++ (namesSet ps).filter (· ∉ staying t d.attributes)) := by
  refine ⟨fun hk => ?_, fun ⟨key, hkey, hnot⟩ => ?_, fun hk hkeys => ?_⟩
  · have ha : d.applyPresets t = .ok d := applyPresets_eq_ok_iff.2 (.inl ⟨hk, rfl⟩)
    rw [inPlace_eq, ha]
  · obtain ⟨e, he⟩ : ∃ e, failure? (d.applyPresets t) = some e := by
      rw [failure?_applyPresets, ← Option.isSome_iff_exists, List.findSome?_isSome_iff]
      exact ⟨key, hkey, by rw [if_neg hnot, Option.isSome_some]⟩
    obtain ⟨first, hfirst, rfl⟩ := failure?_applyPresets_eq_some_iff.1 he
    exact ⟨first, hfirst, by rw [inPlace_eq, failure?_eq_some_iff.1 he]⟩
  · obtain ⟨ps, hps⟩ := exists_selects hkeys
    refine ⟨ps, _, hps, inPlace_of_selects hk hps _, fun name p hl hp => ?_, fun name hn => ?_,
      keys_afterPresets t ps d.attributes⟩
    · obtain ⟨v, hv⟩ := Dict.mem_keys_iff.1 hp
      rw [get?_afterPresets, written?_of_lastWith hl hp, hv, Option.some_or]
    · rw [get?_afterPresets, written?_eq_none hn, Option.none_or]

def nightPreset : Preset :=
  ⟨"night", .ofList [("motion", .bool false), ("resolution", .string "480p")]⟩

def alarmPreset : Preset := ⟨"alarm", .ofList [("person", .bool true), ("motion", .bool true)]⟩

/-- A camera whose presets both set its motion, and of which one sets its resolution behind it. -/
def hallCameraType : DeviceType :=
  { cameraType with
    kinds := .ofList [("label", .static), ("motion", .state), ("person", .state),
      ("resolution", .static)]
    presets := [nightPreset, alarmPreset]
    supports_templates := by decide
    supports_presets := by decide
    nodup_presets := by decide }

def hallCamera (presets : List String) : Device where
  name := "Camera"
  typeId := "camera"
  info := none
  attributes := .ofList [("person", .bool false), ("label", .string "Hall")]
  presetKeys := presets

/-- Of a preset that is selected twice the second time counts for the value and the first for the
place, and one that the type does not have keeps all others from being applied. -/
theorem inPlace_effect_hall :
    (hallCamera []).inPlace hallCameraType = (.ok (), hallCamera [])
      ∧ (hallCamera ["night", "asleep", "off"]).inPlace hallCameraType
        = (.error (.unknownPreset "Camera" "camera" "asleep" ["night", "alarm"]),
          hallCamera ["night", "asleep", "off"])
      ∧ ∃ attributes, (hallCamera ["night", "alarm", "night"]).inPlace hallCameraType
          = (.ok (), { hallCamera ["night", "alarm", "night"] with attributes })
        ∧ attributes.get? "motion" = some (.bool false)
        ∧ attributes.get? "label" = some (.string "Hall")
        ∧ attributes.keys = ["label", "motion", "resolution", "person"] := by
  refine ⟨(inPlace_effect _ _).1 rfl, ?_, ?_⟩
  · obtain ⟨key, hkey, hin⟩ :=
      (inPlace_effect (hallCamera ["night", "asleep", "off"]) hallCameraType).2.1 (by decide)
    have hfirst : FirstFailing (· ∈ hallCameraType.presetKeys)
        ["night", "asleep", "off"] "asleep" :=
      ⟨["night"], ["off"], rfl, by decide, by decide⟩
    rwa [hkey.unique hfirst] at hin
  · obtain ⟨ps, attributes, hs, hin, hset, hleft, hkeys⟩ :=
      (inPlace_effect (hallCamera ["night", "alarm", "night"]) hallCameraType).2.2 (by decide)
        (by decide)
    obtain rfl : [nightPreset, alarmPreset, nightPreset] = ps := Except.ok.inj (selects_iff.1 hs)
    refine ⟨attributes, hin, ?_, ?_, hkeys.trans (by decide)⟩
    · refine (hset "motion" nightPreset ?_ (by decide)).trans (by decide)
      exact ⟨[nightPreset, alarmPreset], [], rfl, by simp⟩
    · exact (hleft "label" (by decide)).trans (by decide)

end Effect

section Again

/-- The device after its presets were applied in place, whatever came of it. -/
def afterwards (t : DeviceType) (d : Device) : Device := (d.inPlace t).2

theorem afterwards_eq_or_selects (d : Device) (t : DeviceType) :
    afterwards t d = d ∨ d.presetKeys ≠ [] ∧ ∃ ps, d.Selects t ps := by
  rw [afterwards, inPlace_eq]
  rcases ha : d.applyPresets t with e | d'
  · exact .inl rfl
  · obtain ⟨-, rfl⟩ | ⟨hk, ps, hps, -⟩ := applyPresets_eq_ok_iff.1 ha
    · exact .inl rfl
    · exact .inr ⟨hk, ps, selects_iff.2 hps⟩

theorem iterate_afterwards (hk : d.presetKeys ≠ []) (hs : d.Selects t ps) (n : ℕ) :
    (afterwards t)^[n] d = { d with attributes := (afterPresets t ps)^[n] d.attributes } := by
  induction n with
  | zero => rfl
  | succ n ih =>
    rw [Function.iterate_succ_apply', Function.iterate_succ_apply', ih, afterwards,
      inPlace_of_selects hk hs]

theorem static_of_not_state (hs : d.Selects t ps) {p : Preset} (hp : p ∈ ps) {name : String}
    (hn : name ∈ p.values.keys) (hk : t.kind? name ≠ some .state) :
    t.kind? name = some .static := by
  obtain ⟨kind, hkind⟩ := Dict.mem_keys_iff.1
    (t.supports_presets p (mem_presets_of_presetsFor (selects_iff.1 hs) p hp) name hn)
  rcases kind with _ | _
  · exact hkind
  · exact absurd hkind hk

/-- A device that can apply its presets can do so again, and has the same values then; also the same
order, if the presets set no name in addition that is not state. The third time, the order is that
of the second in any case. -/
theorem inPlace_settles (d : Device) (t : DeviceType) :
    ((d.inPlace t).1 = .ok () →
      (∀ n, (((afterwards t)^[n] d).inPlace t).1 = .ok ())
        ∧ (afterwards t (afterwards t d)).Alike (afterwards t d)
        ∧ ((∀ ps, d.Selects t ps → ∀ p ∈ ps, ∀ name ∈ p.values.keys,
            t.kind? name = some .static → name ∈ d.attributes.keys) →
          afterwards t (afterwards t d) = afterwards t d))
      ∧ ∀ n, (afterwards t)^[n + 2] d = (afterwards t)^[2] d := by
  obtain hfix | ⟨hk, ps, hs⟩ := afterwards_eq_or_selects d t
  · have hn : ∀ n, (afterwards t)^[n] d = d := Function.iterate_fixed hfix
    refine ⟨fun hok => ⟨fun n => ?_, ?_, fun _ => ?_⟩, fun n => (hn _).trans (hn _).symm⟩
    · rwa [hn]
    · rw [hfix, hfix]
      exact ⟨rfl, rfl, rfl, rfl, fun _ => rfl⟩
    · rw [hfix, hfix]
  · have hn := iterate_afterwards hk hs
    have h1 : afterwards t d = _ := hn 1
    have h2 : afterwards t (afterwards t d) = _ := hn 2
    refine ⟨fun _ => ⟨fun n => ?_, ?_, fun hstatic => ?_⟩, fun n => ?_⟩
    · rw [hn, inPlace_of_selects hk hs]
    · rw [h2, h1]
      exact ⟨rfl, rfl, rfl, rfl, get?_afterPresets_again t ps d.attributes⟩
    · have hsettled : Settled t ps d.attributes := by
        intro name hm hstate
        obtain ⟨p, hp, hname⟩ := mem_namesSet_iff.1 hm
        exact hstatic ps hs p hp name hname (static_of_not_state hs hp hname hstate)
      rw [h2, h1, Function.iterate_succ_apply', Function.iterate_one,
        afterPresets_of_settled hsettled]
    -- the first time has set every name that there is to set
    · have hfix : afterPresets t ps ((afterPresets t ps)^[2] d.attributes)
          = (afterPresets t ps)^[2] d.attributes :=
        afterPresets_of_settled (settled_afterPresets t ps d.attributes)
      rw [hn, hn, Function.iterate_add_apply, Function.iterate_fixed hfix]

/-- The resolution comes to stand before the motion the second time, and stays there; in a camera
that has a resolution it is there already. -/
theorem inPlace_settles_hall :
    (afterwards hallCameraType (hallCamera ["night"])).attributes.keys
        = ["label", "motion", "resolution"]
      ∧ (∀ n, ((afterwards hallCameraType)^[n + 2] (hallCamera ["night"])).attributes.keys
        = ["label", "resolution", "motion"])
      ∧ afterwards hallCameraType (afterwards hallCameraType
          { hallCamera ["night"] with attributes := .ofList [("resolution", .string "720p")] })
        = afterwards hallCameraType
          { hallCamera ["night"] with attributes := .ofList [("resolution", .string "720p")] } := by
  refine ⟨by decide, fun n => ?_, ((inPlace_settles _ _).1 rfl).2.2 fun ps hs => ?_⟩
  · rw [(inPlace_settles _ _).2 n]
    decide
  · obtain rfl : [nightPreset] = ps := Except.ok.inj (selects_iff.1 hs)
    decide

end Again

end Device

end SmartHome
