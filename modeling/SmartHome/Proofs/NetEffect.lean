import Mathlib.Data.Set.Card
import SmartHome.CommandLine.Commands
import SmartHome.Proofs.Selected

/-!
# What selections come to

After any operations the selected preset of a device is that of the last operation that decides
about it, if this one selects one (`get?_after_iff`). Nothing else about the operations matters: all
selections are of different devices, so to apply them in another order changes the same devices
(`apply_congr`), and a command comes to the same with any choices of presets of which the last ones
for each device are the same (`last_decides`).
-/

namespace SmartHome

namespace Selections

section History

variable {s : Selections} {area : Option String} {device key : String}
  {operations : List Operation}

/-- The operation decides what is selected for a device. -/
def Decides (area : Option String) (device : String) : Operation → Prop
  | .set area' device' _ => (area', device') = (area, device)
  | .remove area' device' => (area', device') = (area, device)
  | .clear => True

theorem remove_eq (s : Selections) (area : Option String) (device : String) :
    s.remove area device = (s.get? area device, ⟨s.entries.erase (area, device)⟩) := by
  unfold remove
  rw [Dict.remove_eq]
  rfl

theorem get?_perform {o : Operation} : (s.perform o).get? area device = some key
    ↔ o = .set area device key ∨ ¬ Decides area device o ∧ s.get? area device = some key := by
  cases o with
  | set area' device' key' =>
    simp only [perform, set, get?, Decides]
    rw [Dict.get?_insert]
    split_ifs with h
    · obtain ⟨rfl, rfl⟩ := Prod.mk.inj h
      simp
    · have hne : ¬ (area' = area ∧ device' = device) := fun he => h (by rw [he.1, he.2])
      simp only [Operation.set.injEq, h]
      tauto
  | remove area' device' =>
    simp only [perform, remove_eq, get?, Decides]
    rw [Dict.get?_erase]
    split_ifs with h <;> simp [h]
  | clear =>
    simp [perform, Decides, get?, empty, Dict.get?_empty]

theorem after_concat (operations : List Operation) (o : Operation) :
    after (operations ++ [o]) = (after operations).perform o := by
  rw [after, after, List.foldl_append, List.foldl_cons, List.foldl_nil]

theorem get?_after_iff : (after operations).get? area device = some key
    ↔ LastWith (Decides area device) operations (.set area device key) := by
  induction operations using List.reverseRecOn with
  | nil => exact iff_of_false (fun h => by cases h) LastWith.not_nil
  | append_singleton operations o ih =>
    rw [after_concat, get?_perform, LastWith.concat_iff, ih]

/-- The size counts the devices with a selection. -/
theorem encard_selected (s : Selections) :
    {p : Option String × String | ∃ key, s.get? p.1 p.2 = some key}.encard = s.size := by
  have hkeys : {p : Option String × String | ∃ key, s.get? p.1 p.2 = some key}
      = ↑s.entries.keys.toFinset := by
    ext p
    rw [List.coe_toFinset]
    exact Dict.mem_keys_iff.symm
  have hn : s.entries.keys.Nodup := s.entries.nodup
  rw [hkeys, Set.encard_coe_eq_coe_finsetCard, List.toFinset_card_of_nodup hn]
  exact congrArg Nat.cast (List.length_map _)

end History

section Order

variable {h h₁ h₂ : Home} {s s' : Selections}

theorem isSome_select?_iff {e : (Option String × String) × String} :
    (select? h e).isSome ↔ e.1 ∈ h.addresses := by
  unfold select?
  rw [Home.updateDevice?_isSome, Option.isSome_iff_exists, Home.exists_device?_iff]

theorem applyAll_eq_ok_iff : ∀ {es : List ((Option String × String) × String)} {h : Home},
    (applyAll h es).2 = .ok () ↔ ∀ e ∈ es, e.1 ∈ h.addresses
  | [], h => by simp [applyAll]
  | e :: es, h => by
    rw [applyAll_cons, List.forall_mem_cons, ← isSome_select?_iff]
    rcases hs : select? h e with _ | h₁
    · simp
    · obtain ⟨-, -, ha, -⟩ := select?_spec hs
      simp [@applyAll_eq_ok_iff es, ha]

/-- Selections are applied to a home in which all selected devices are there. -/
theorem apply_eq_ok_iff : (s.apply h).2 = .ok () ↔ ∀ area device key,
    s.get? area device = some key → ∃ d, h.device? area device = some d := by
  unfold apply
  simp only [applyAll_eq_ok_iff, Home.exists_device?_iff]
  constructor
  · intro hs area device key hk
    exact hs _ (Dict.get?_eq_some_iff.1 hk)
  · intro hs e he
    exact hs _ _ _ (Dict.get?_eq_some_iff.2 he)

theorem getElem?_apply_congr (hg : ∀ area device, s.get? area device = s'.get? area device)
    (ha : s.apply h = (h₁, .ok ())) (ha' : s'.apply h = (h₂, .ok ())) (i : Nat) :
    h₁.devices[i]? = h₂.devices[i]? := by
  obtain ⟨-, -, hp⟩ := apply_frame ha
  obtain ⟨-, -, hp'⟩ := apply_frame ha'
  rcases hd : h.devices[i]? with _ | ⟨area, d⟩
  · have hnone : ∀ {h' : Home}, h'.addresses = h.addresses → h'.devices[i]? = none := by
      intro h' hh'
      have hi := h'.getElem?_addresses i
      rw [hh', h.getElem?_addresses, hd] at hi
      exact Option.map_eq_none_iff.1 hi.symm
    rw [hnone hp, hnone hp']
  · rcases hk : s.get? area d.name with _ | key
    · rw [getElem?_apply_of_not_selected ha hd (.inl hk),
        getElem?_apply_of_not_selected ha' hd (.inl ((hg _ _).symm.trans hk))]
    · rcases (Home.place_le hd).eq_or_lt with rfl | hlt
      · obtain ⟨d₁, hd₁, hs₁⟩ := getElem?_apply_of_get? ha hk
        obtain ⟨d₂, hd₂, hs₂⟩ := getElem?_apply_of_get? ha' ((hg _ _).symm.trans hk)
        cases hd₁.symm.trans hd₂
        rw [hs₁, hs₂]
      -- the one that is selected is another device with the address, in front of this one
      · have hi := (List.getElem?_eq_some_iff.1 hd).1
        have hx := List.getElem?_eq_getElem (hlt.trans hi)
        have hbehind : ∃ j < i, ∃ x, h.devices[j]? = some x ∧ (x.1, x.2.name) = (area, d.name) :=
          ⟨_, hlt, _, hx, Home.address_of_place hx⟩
        rw [getElem?_apply_of_not_selected ha hd (.inr hbehind),
          getElem?_apply_of_not_selected ha' hd (.inr hbehind)]

theorem apply_congr (hg : ∀ area device, s.get? area device = s'.get? area device)
    (ha : s.apply h = (h₁, .ok ())) (ha' : s'.apply h = (h₂, .ok ())) : h₁ = h₂ := by
  obtain ⟨hn, ht, -⟩ := apply_frame ha
  obtain ⟨hn', ht', -⟩ := apply_frame ha'
  refine Home.ext_devices (hn.trans hn'.symm) ?_ (ht.trans ht'.symm)
  exact List.ext_getElem? (getElem?_apply_congr hg ha ha')

/-- Equal selections, in whatever order, are applied alike. -/
theorem apply_eq_of_get? (hg : ∀ area device, s.get? area device = s'.get? area device)
    (h : Home) : ((s.apply h).2 = .ok () ↔ (s'.apply h).2 = .ok ())
      ∧ ((s.apply h).2 = .ok () → s.apply h = s'.apply h) := by
  have hiff : (s.apply h).2 = .ok () ↔ (s'.apply h).2 = .ok () := by
    rw [apply_eq_ok_iff, apply_eq_ok_iff]
    simp only [hg]
  refine ⟨hiff, fun hs => ?_⟩
  have hs' := hiff.1 hs
  have hhomes : (s.apply h).1 = (s'.apply h).1 :=
    apply_congr hg (Prod.ext rfl hs) (Prod.ext rfl hs')
  exact Prod.ext hhomes (hs.trans hs'.symm)

end Order

end Selections

namespace CommandLine

variable {w : Workspace} {a : Arguments} {presets presets' : List PresetChoice}

/-- The choice is the last one for its device. -/
def LastChoice (presets : List PresetChoice) (c : PresetChoice) : Prop :=
  LastWith (fun d => (d.area, d.device) = (c.area, c.device)) presets c

theorem get?_selections_iff {area : Option String} {device key : String} :
    (selections presets).get? area device = some key ↔ LastChoice presets ⟨area, device, key⟩ := by
  have hs : selections presets
      = Selections.after (presets.map fun c => .set c.area c.device c.key) := by
    rw [Selections.after, List.foldl_map]
    rfl
  rw [hs, Selections.get?_after_iff, LastWith.map_iff]
  constructor
  · rintro ⟨⟨_, _, _⟩, hc, heq⟩
    cases heq
    exact hc
  · intro hl
    exact ⟨_, hl, rfl⟩

theorem compiledHome_congr {s : Settings}
    (hl : ∀ c, LastChoice presets c ↔ LastChoice presets' c)
    (hp : ∀ h, Home.load w s.homeFile = .ok h →
      ∀ c ∈ presets, ∃ d, h.device? c.area c.device = some d) :
    compiledHome w s presets = compiledHome w s presets' := by
  have hg : ∀ area device,
      (selections presets).get? area device = (selections presets').get? area device := by
    intro area device
    refine Option.ext fun key => ?_
    rw [get?_selections_iff, get?_selections_iff, hl]
  unfold compiledHome
  refine bind_congr_of_ok fun catalog _ => bind_congr_of_ok fun h hh => ?_
  have hok : ((selections presets).apply h).2 = .ok () := by
    refine Selections.apply_eq_ok_iff.2 fun area device key hk => ?_
    exact hp h (mapError_eq_ok_iff.1 hh) _ (get?_selections_iff.1 hk).mem
  have happlied : (selections presets).applied h = (selections presets').applied h := by
    unfold Selections.applied
    rw [(Selections.apply_eq_of_get? hg h).2 hok]
  rw [happlied]

theorem run_congr (hl : ∀ c, LastChoice a.presets c ↔ LastChoice presets c)
    (hp : ∀ s h, settingsFor w a = .ok s → Home.load w s.homeFile = .ok h →
      ∀ c ∈ a.presets, ∃ d, h.device? c.area c.device = some d) :
    run w { a with presets := presets } = run w a := by
  have hs : settingsFor w { a with presets := presets } = settingsFor w a := rfl
  have hc : (settingsFor w a >>= fun s => compiledHome w s presets)
      = settingsFor w a >>= fun s => compiledHome w s a.presets :=
    bind_congr_of_ok fun s hs => (compiledHome_congr hl fun h => hp s h hs).symm
  unfold run
  rw [hs]
  cases a.command with
  | help => rfl
  | list => rfl
  | compile =>
    simp only [← bind_assoc, hc]
  | check =>
    simp only [← bind_assoc, hc]

end CommandLine

open CommandLine in
/-- Of all operations on selections only the last that decides about a device counts: it gives what
looking the device up and removing it give, and the size counts the devices of which it selects a
preset. Selections are applied to a home with all these devices, and those that do not differ for
any device are applied alike, so commands with such choices of presets of devices that are there
come to the same. -/
theorem Selections.last_decides :
    (∀ operations area device,
        (∀ key, (after operations).get? area device = some key
          ↔ LastWith (Decides area device) operations (.set area device key))
        ∧ ((after operations).remove area device).1 = (after operations).get? area device)
      ∧ (∀ operations, {p : Option String × String |
        ∃ key, (after operations).get? p.1 p.2 = some key}.encard = (after operations).size)
      ∧ (∀ operations h, ((after operations).apply h).2 = .ok () ↔ ∀ area device key,
        (after operations).get? area device = some key → ∃ d, h.device? area device = some d)
      ∧ (∀ operations operations', (∀ area device,
          (after operations).get? area device = (after operations').get? area device) →
        ∀ h, (((after operations).apply h).2 = .ok () ↔ ((after operations').apply h).2 = .ok ())
          ∧ (((after operations).apply h).2 = .ok () →
            ((after operations).apply h).1 = ((after operations').apply h).1
            ∧ ∀ catalog resolver,
              CompiledHome.build ((after operations).apply h).1 catalog resolver
                = CompiledHome.build ((after operations').apply h).1 catalog resolver))
      ∧ ∀ w a presets, (∀ c, LastChoice a.presets c ↔ LastChoice presets c) →
        (∀ s h, settingsFor w a = .ok s → Home.load w s.homeFile = .ok h →
          ∀ c ∈ a.presets, ∃ d, h.device? c.area c.device = some d) →
        run w { a with presets := presets } = run w a := by
  refine ⟨fun operations area device => ⟨fun key => get?_after_iff, ?_⟩,
    fun operations => encard_selected _, fun operations h => apply_eq_ok_iff,
    fun operations operations' hg h => ?_, fun w a presets => run_congr⟩
  · rw [remove_eq]
  · obtain ⟨hiff, happly⟩ := apply_eq_of_get? hg h
    refine ⟨hiff, fun hs => ⟨by rw [happly hs], fun catalog resolver => by rw [happly hs]⟩⟩

section Cameras

/-- The text of a home with two cameras of one name. -/
def camerasText : String :=
  "device_entities:\n  Porch:\n  - name: Camera\n    device_type: camera\n"
    ++ "services:\n- name: Camera\n  device_type: camera\n"

def cameraTypeText : String :=
  "device_type: camera\ndesc: A camera\nrestorable_attributes:\n- key: idle\n- key: person\n"

def cameraFiles : FileTree where
  workingDirectory := ["home"]
  entries := ⟨[(["home", "home.yaml"], .file (some camerasText)),
    (["home", "device_types", "camera.yaml"], .file (some cameraTypeText))], by decide⟩

/-- To check the home of the cameras; there is no preset of the first choice. -/
def cameraArguments : CommandLine.Arguments where
  command := .check
  homeFile := none
  typesDirectory := none
  presets := [⟨some "Porch", "Camera", "asleep"⟩, ⟨none, "Camera", "person"⟩,
    ⟨some "Porch", "Camera", "idle"⟩]

/-- Two rows of operations that leave the same selections in another order, and choices of which the
first does not count. -/
theorem last_decides_cameras :
    (∃ operations operations',
        (Selections.after operations).entries.keys = [(some "Porch", "Camera"), (none, "Camera")]
        ∧ (Selections.after operations').entries.keys = [(none, "Camera"), (some "Porch", "Camera")]
        ∧ ((Selections.after operations).apply cameraHome).2 = .ok ()
        ∧ ((Selections.after operations).apply cameraHome).1
          = ((Selections.after operations').apply cameraHome).1)
      ∧ CommandLine.run ⟨cameraFiles, .empty⟩ { cameraArguments with
          presets := [⟨none, "Camera", "person"⟩, ⟨some "Porch", "Camera", "idle"⟩] }
        = CommandLine.run ⟨cameraFiles, .empty⟩ cameraArguments
      ∧ (CommandLine.run ⟨cameraFiles, .empty⟩ cameraArguments).toOption
        = some "OK: 2 devices with 0 entities in 1 areas" := by
  obtain ⟨-, -, -, happlied, hrun⟩ := Selections.last_decides
  refine ⟨⟨[.set (some "Porch") "Camera" "idle", .set none "Camera" "person"],
    [.set (some "Porch") "Camera" "person", .set none "Camera" "person",
      .remove (some "Porch") "Camera", .set (some "Porch") "Camera" "idle"], rfl, rfl, rfl, ?_⟩,
    hrun ⟨cameraFiles, .empty⟩ cameraArguments _ (fun c => ?_) fun s h hs hh c hc => ?_,
    by decide +kernel⟩
  · refine ((happlied _ _ (fun area device => ?_) cameraHome).2 rfl).1
    have hfind : ∀ k, Dict.find k [((some "Porch", "Camera"), "idle"), ((none, "Camera"), "person")]
        = Dict.find k [((none, "Camera"), "person"), ((some "Porch", "Camera"), "idle")] := by
      intro k
      by_cases hk : (none, "Camera") = k
      · subst hk
        rfl
      · simp [Dict.find, hk]
    exact hfind (area, device)
  · refine LastWith.cons_iff.trans ⟨?_, .inl⟩
    rintro (hl | ⟨rfl, hl⟩)
    · exact hl
    · exact absurd rfl (hl ⟨some "Porch", "Camera", "idle"⟩ (by simp))
  · have hsettings : (CommandLine.settingsFor ⟨cameraFiles, .empty⟩ cameraArguments).toOption
        = some .default := by decide +kernel
    have haddresses : (Home.load ⟨cameraFiles, .empty⟩ Settings.default.homeFile).toOption.map
        Home.addresses = some [(some "Porch", "Camera"), (none, "Camera")] := by decide +kernel
    rw [hs] at hsettings
    cases hsettings
    rw [hh] at haddresses
    have hthere : ∀ c ∈ cameraArguments.presets, (c.area, c.device) ∈ h.addresses := by
      rw [Option.some.inj haddresses]
      decide
    exact Home.exists_device?_iff.2 (hthere c hc)

end Cameras

end SmartHome
