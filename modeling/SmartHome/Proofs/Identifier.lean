import SmartHome.Proofs.Bytes
import SmartHome.Proofs.Correspondence

/-!
# Identifiers keep devices and entities apart

In what is hashed for a device every text stands behind its length, so where it ends can be read off
(`measured_append_inj`), and devices with different addresses have different contents
(`content_inj`). A digest is as long as any other (`length_digest`) and so is its text, so the
hyphen behind it stands at a fixed place and an entity's identifier falls apart into the device's
and the key (`ofEntity_inj`), whatever hyphens are in the names. As far as the digest collides on no
two of the contents, equal identifiers mean equal devices and keys (`identifiers_apart`).
-/

namespace SmartHome

namespace Sha256

theorem length_bigEndian : ∀ count n : Nat, (bigEndian count n).length = count
  | 0, _ => rfl
  | count + 1, n => by rw [bigEndian, List.length_append, length_bigEndian count]; rfl

/-- Numbers that fit into the bytes are told apart by them. -/
theorem bigEndian_inj : ∀ {count n m : Nat}, n < 256 ^ count → m < 256 ^ count →
    bigEndian count n = bigEndian count m → n = m
  | 0, n, m, hn, hm, _ => by omega
  | count + 1, n, m, hn, hm, h => by
    obtain ⟨hhigh, hlow⟩ := List.append_inj h (by rw [length_bigEndian, length_bigEndian])
    have hdiv : n / 256 = m / 256 := by
      refine bigEndian_inj ?_ ?_ hhigh <;> omega
    have hmod : n % 256 = m % 256 := by
      have hbyte := congrArg UInt8.toNat (List.singleton_inj.1 hlow)
      simpa using hbyte
    omega

theorem length_digest (message : List UInt8) : (digest message).length = 32 := by
  simp [digest, length_bigEndian]

theorem digitChar_inj : ∀ a < 16, ∀ b < 16, Nat.digitChar a = Nat.digitChar b → a = b := by
  decide

theorem hex_inj {bytes bytes' : List UInt8} (h : hex bytes = hex bytes') : bytes = bytes' := by
  replace h := String.ofList_injective h
  induction bytes generalizing bytes' with
  | nil =>
    cases bytes' with
    | nil => rfl
    | cons => cases h
  | cons b bytes ih =>
    cases bytes' with
    | nil => cases h
    | cons b' bytes' =>
      simp only [List.flatMap_cons, List.cons_append, List.nil_append, List.cons.injEq] at h
      obtain ⟨hhigh, hlow, hrest⟩ := h
      have hb := b.toNat_lt
      have hb' := b'.toNat_lt
      have hdiv := digitChar_inj _ (by omega) _ (by omega) hhigh
      have hmod := digitChar_inj _ (by omega) _ (by omega) hlow
      have hbyte : b = b' := UInt8.toNat_inj.1 (by omega)
      rw [hbyte, ih hrest]

theorem length_hex (bytes : List UInt8) : (hex bytes).toList.length = 2 * bytes.length := by
  rw [hex, String.toList_ofList, List.length_flatMap]
  simp [Nat.mul_comm]

/-- Two messages with one digest. -/
def Collision (message message' : List UInt8) : Prop :=
  message ≠ message' ∧ digest message = digest message'

end Sha256

namespace UniqueId

/-- The lengths of the texts of an address fit into eight bytes. -/
def Measurable (area : Option String) (device : String) : Prop :=
  (∀ a ∈ area, a.utf8ByteSize < 2 ^ 64) ∧ device.utf8ByteSize < 2 ^ 64

variable {area area' : Option String} {device device' : String}

/-- Where a text ends behind its length is seen whatever follows. -/
theorem measured_append_inj {s t : String} {rest rest' : List UInt8} (hs : s.utf8ByteSize < 2 ^ 64)
    (ht : t.utf8ByteSize < 2 ^ 64) (h : measured s ++ rest = measured t ++ rest') :
    s = t ∧ rest = rest' := by
  unfold measured at h
  rw [List.append_assoc, List.append_assoc] at h
  obtain ⟨hlengths, h⟩ := List.append_inj h (by
    rw [Sha256.length_bigEndian, Sha256.length_bigEndian])
  have hsize : s.utf8ByteSize = t.utf8ByteSize := Sha256.bigEndian_inj hs ht hlengths
  obtain ⟨hbytes, hrest⟩ := List.append_inj h (by rw [length_toUTF8, length_toUTF8, hsize])
  exact ⟨toUTF8_inj hbytes, hrest⟩

theorem measured_inj {s t : String} (hs : s.utf8ByteSize < 2 ^ 64) (ht : t.utf8ByteSize < 2 ^ 64)
    (h : measured s = measured t) : s = t := by
  rw [← List.append_nil (measured s), ← List.append_nil (measured t)] at h
  exact (measured_append_inj hs ht h).1

/-- The first byte tells a service from a device in an area, also in one without a name. -/
theorem content_inj (hm : Measurable area device) (hm' : Measurable area' device')
    (h : content area device = content area' device') : (area, device) = (area', device') := by
  rcases area with _ | a <;> rcases area' with _ | a'
  · rw [measured_inj hm.2 hm'.2 (List.cons.inj h).2]
  · cases (List.cons.inj h).1
  · cases (List.cons.inj h).1
  · obtain ⟨ha, hrest⟩ := measured_append_inj (hm.1 a rfl) (hm'.1 a' rfl) (List.cons.inj h).2
    rw [ha, measured_inj hm.2 hm'.2 hrest]

theorem ofDevice_inj (hm : Measurable area device) (hm' : Measurable area' device')
    (hc : ¬ Sha256.Collision (content area device) (content area' device'))
    (h : ofDevice area device = ofDevice area' device') : (area, device) = (area', device') := by
  refine content_inj hm hm' ?_
  by_contra hne
  exact hc ⟨hne, Sha256.hex_inj h⟩

theorem length_ofDevice (area : Option String) (device : String) :
    (ofDevice area device).toList.length = 64 := by
  rw [ofDevice, Sha256.length_hex, Sha256.length_digest]

/-- The hyphen behind identifiers of one length stands at one place. -/
theorem ofEntity_inj {id id' key key' : String} (hl : id.toList.length = id'.toList.length)
    (h : ofEntity id key = ofEntity id' key') : id = id' ∧ key = key' := by
  have hs := congrArg String.toList h
  unfold ofEntity at hs
  simp only [String.toList_append, List.append_assoc] at hs
  obtain ⟨hid, hkey⟩ := List.append_inj hs hl
  exact ⟨String.toList_inj.1 hid, String.toList_inj.1 (List.append_cancel_left hkey)⟩

end UniqueId

namespace CompiledHome

open UniqueId

variable {h : Home} {catalog : Registry} {resolver : Resolver} {c : CompiledHome}

theorem uniqueId_eq (hb : build h catalog resolver = .ok c) {cd : CompiledDevice}
    (hcd : cd ∈ c.devices) : cd.uniqueId = UniqueId.ofDevice cd.area cd.device.name := by
  obtain ⟨p, -, hp⟩ := exists_device_of_mem hb hcd
  have hr := CompiledDevice.represents_of_ofDevice hp
  rw [hr.uniqueId_eq, hr.area_eq, hr.name_eq]

/-- Devices with different addresses have different contents to be hashed; unless the digest
collides on them, they have different identifiers; and so have two entities of a compiled home,
exactly if their devices have different addresses or they have different keys. -/
theorem identifiers_apart :
    (∀ area device area' device', Measurable area device → Measurable area' device' →
        (content area device = content area' device' ↔ (area, device) = (area', device')))
      ∧ (∀ area device area' device', Measurable area device → Measurable area' device' →
        ¬ Sha256.Collision (content area device) (content area' device') →
        (UniqueId.ofDevice area device = UniqueId.ofDevice area' device'
          ↔ (area, device) = (area', device')))
      ∧ ∀ h catalog resolver c, build h catalog resolver = .ok c →
        ∀ cd ∈ c.devices, ∀ cd' ∈ c.devices,
        Measurable cd.area cd.device.name → Measurable cd'.area cd'.device.name →
        ¬ Sha256.Collision (content cd.area cd.device.name) (content cd'.area cd'.device.name) →
        ∀ e ∈ cd.entities, ∀ e' ∈ cd'.entities, (cd.entityId e = cd'.entityId e'
          ↔ (cd.area, cd.device.name) = (cd'.area, cd'.device.name) ∧ e.key = e'.key) := by
  refine ⟨fun area device area' device' hm hm' => ⟨content_inj hm hm', fun heq => ?_⟩,
    fun area device area' device' hm hm' hc => ⟨ofDevice_inj hm hm' hc, fun heq => ?_⟩,
    fun h catalog resolver c hb cd hcd cd' hcd' hm hm' hc e _ e' _ => ?_⟩
  · rw [(Prod.mk.inj heq).1, (Prod.mk.inj heq).2]
  · rw [(Prod.mk.inj heq).1, (Prod.mk.inj heq).2]
  · unfold CompiledDevice.entityId
    rw [uniqueId_eq hb hcd, uniqueId_eq hb hcd']
    constructor
    · intro heq
      obtain ⟨hid, hkey⟩ := ofEntity_inj (by rw [length_ofDevice, length_ofDevice]) heq
      exact ⟨ofDevice_inj hm hm' hc hid, hkey⟩
    · rintro ⟨haddress, hkey⟩
      rw [(Prod.mk.inj haddress).1, (Prod.mk.inj haddress).2, hkey]

theorem device?_eq_some {area : Option String} {name : String} {cd : CompiledDevice}
    (hd : c.device? area name = some cd) :
    cd ∈ c.devices ∧ cd.area = area ∧ cd.device.name = name := by
  unfold device? at hd
  exact ⟨List.mem_of_find?_eq_some hd, by simpa using List.find?_some hd⟩

/-- A hyphen may stand at the end of an area or at the beginning of a device, and the camera in the
area without a name is not the one in no area. -/
theorem identifiers_apart_cameras :
    content (some "Hall-") "Camera" ≠ content (some "Hall") "-Camera"
      ∧ UniqueId.ofDevice (some "Hall-") "Camera" ≠ UniqueId.ofDevice (some "Hall") "-Camera"
      ∧ ∃ c cd cd', build cameraHome .empty SymbolTable.empty.resolve = .ok c
        ∧ c.device? (some "") "Camera" = some cd ∧ c.device? none "Camera" = some cd'
        ∧ cd.entities.map Entity.key = ["motion", "camera"]
        ∧ cd'.entities.map Entity.key = ["motion", "camera"]
        ∧ ∀ e ∈ cd.entities, ∀ e' ∈ cd'.entities, cd.entityId e ≠ cd'.entityId e' := by
  have hhall : Measurable (some "Hall") "-Camera" := by
    refine ⟨fun a ha => ?_, by decide⟩
    cases ha
    decide
  have hhall' : Measurable (some "Hall-") "Camera" := by
    refine ⟨fun a ha => ?_, by decide⟩
    cases ha
    decide
  have hnameless : Measurable (some "") "Camera" := by
    refine ⟨fun a ha => ?_, by decide⟩
    cases ha
    decide
  have hservice : Measurable none "Camera" := by
    refine ⟨fun a ha => ?_, by decide⟩
    cases ha
  have hhalls : ¬ Sha256.Collision (content (some "Hall-") "Camera")
      (content (some "Hall") "-Camera") := by
    rintro ⟨-, hc⟩
    revert hc
    decide +kernel
  have hcameras : ¬ Sha256.Collision (content (some "") "Camera") (content none "Camera") := by
    rintro ⟨-, hc⟩
    revert hc
    decide +kernel
  refine ⟨fun heq => ?_, fun heq => ?_, ?_⟩
  · exact absurd ((identifiers_apart.1 _ _ _ _ hhall' hhall).1 heq) (by decide)
  · exact absurd ((identifiers_apart.2.1 _ _ _ _ hhall' hhall hhalls).1 heq) (by decide)
  · obtain ⟨c, hb⟩ : ∃ c, build cameraHome .empty SymbolTable.empty.resolve = .ok c :=
      failure?_eq_none_iff.1 rfl
    obtain ⟨cd, hcd, hkeys⟩ : ∃ cd, c.device? (some "") "Camera" = some cd
        ∧ cd.entities.map Entity.key = ["motion", "camera"] := by
      cases hb
      exact ⟨_, rfl, rfl⟩
    obtain ⟨cd', hcd', hkeys'⟩ : ∃ cd', c.device? none "Camera" = some cd'
        ∧ cd'.entities.map Entity.key = ["motion", "camera"] := by
      cases hb
      exact ⟨_, rfl, rfl⟩
    refine ⟨c, cd, cd', hb, hcd, hcd', hkeys, hkeys', fun e he e' he' heq => ?_⟩
    obtain ⟨hm, ha, hn⟩ := device?_eq_some hcd
    obtain ⟨hm', ha', hn'⟩ := device?_eq_some hcd'
    have hids := identifiers_apart.2.2 _ _ _ _ hb cd hm cd' hm'
    rw [ha, hn, ha', hn'] at hids
    have haddress := ((hids hnameless hservice hcameras e he e' he').1 heq).1
    exact absurd haddress (by decide)

end CompiledHome

end SmartHome
