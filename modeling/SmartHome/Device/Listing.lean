import SmartHome.Device.Registry
import SmartHome.Text.Sorted
import SmartHome.Yaml.Written

/-!
# Listings of a registry

A listing has an entry for each device type, sorted by identifier: its description and the sorted
names of its supported attributes. It does not depend on the order in which types and attributes
were declared, nor on what else the types hold. The text of a listing is a function of its entries.
-/

namespace SmartHome

/-- What a listing says about a device type. -/
structure ListingEntry where
  id : String
  description : String
  attributes : List String
  deriving DecidableEq

namespace ListingEntry

def ofType (t : DeviceType) : ListingEntry where
  id := t.id
  description := t.description
  attributes := Sorted.sort (fun name => name) t.attributeNames

/-- The blanks in front of the lines of a text in an entry. -/
def depth : Nat := 4

/-- The entry as an item of a list; what is empty is left out. -/
def render (e : ListingEntry) : String :=
  "- device_type: " ++ Yaml.Written.text depth e.id
    ++ (if e.description.isEmpty then ""
      else "  desc: " ++ Yaml.Written.text depth e.description)
    ++ (if e.attributes.isEmpty then ""
      else "  supported_attributes:\n"
        ++ String.join (e.attributes.map fun name => "  - " ++ Yaml.Written.text depth name))

end ListingEntry

/-- The text of a listing. -/
def renderListing (entries : List ListingEntry) : String :=
  "---\n" ++ if entries.isEmpty then "[]\n" else String.join (entries.map ListingEntry.render)

namespace Registry

/-- The entries of the registry's listing. -/
def entries (r : Registry) : List ListingEntry :=
  Sorted.sort ListingEntry.id (r.list.map ListingEntry.ofType)

def listing (r : Registry) : String := renderListing r.entries

end Registry

end SmartHome
