import SmartHome.Digest.Sha256

/-!
# Unique identifiers

A device is identified by a digest of its area and its name. The digest's input marks whether there
is an area, and every text in it stands behind its length, so no two devices share an input; an
entity's identifier is that of its device with the entity's key behind a hyphen.
-/

namespace SmartHome

namespace UniqueId

/-- A text behind its length in bytes. -/
def measured (s : String) : List UInt8 :=
  Sha256.bigEndian 8 s.utf8ByteSize ++ s.toUTF8.toList

/-- What identifies a device. -/
def content (area : Option String) (device : String) : List UInt8 :=
  match area with
  | some area => 1 :: measured area ++ measured device
  | none => 0 :: measured device

/-- The identifier of a device in an area, or of a service. -/
def ofDevice (area : Option String) (device : String) : String :=
  Sha256.hex (Sha256.digest (content area device))

/-- The identifier of an entity of a device. -/
def ofEntity (deviceId key : String) : String := deviceId ++ "-" ++ key

end UniqueId

end SmartHome
