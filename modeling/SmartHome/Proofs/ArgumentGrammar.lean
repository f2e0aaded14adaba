import Mathlib.Data.List.Perm.Basic
import SmartHome.CommandLine.Arguments
import SmartHome.Proofs.Failure

/-!
# The grammar of the command line

A preset is selected by the text that its selection is written as, and by no other
(`parse?_eq_some_iff`); which devices can be selected that way is a matter of two characters, that
part the key from the device and the area from the rest (`parse?_joined`).

The arguments behind the command are items of three kinds, one after the other. Reading an item is
one step (`Reads`), and reading arguments is to take such steps until nothing is left
(`parseRest_eq_ok_iff`), which comes to collecting what the items say (`readsAll_iff`). An option
has the argument behind it for its value, whatever that looks like, so there is one way only to fall
into items (`items_unique`), and the order of the items matters only among those of one kind
(`parse_itemwise`).
-/

namespace SmartHome

namespace CommandLine

namespace PresetChoice

/-- The devices that a text can name, by area and name: a slash parts the two, and an equals sign
ends them. -/
def Addressable : Option String → String → Prop
  | some area, device => '=' ∉ area.toList ∧ '/' ∉ area.toList ∧ '=' ∉ device.toList
  | none, device => device ≠ "" ∧ '=' ∉ device.toList ∧ '/' ∉ device.toList

instance : ∀ area device, Decidable (Addressable area device)
  | some _, _ => inferInstanceAs (Decidable (_ ∧ _))
  | none, _ => inferInstanceAs (Decidable (_ ∧ _))

/-- Some key is selected for a device that can be named. -/
def Selectable (c : PresetChoice) : Prop := c.key ≠ "" ∧ Addressable c.area c.device

/-- The text of a device: its name, behind its area if it has one. -/
def target : Option String → String → String
  | some area, device => area ++ "/" ++ device
  | none, device => device

variable {s : String} {c : PresetChoice} {area : Option String} {device : String}
  {t : List Char}

section Target

theorem text_eq (c : PresetChoice) : c.text = target c.area c.device ++ "=" ++ c.key := by
  rcases c with ⟨_ | area, device, key⟩ <;> rfl

/-- The device of a text in front of the equals sign. -/
def targetOf (t : List Char) : Option String × String :=
  match Split.splitFirst? '/' t with
  | some (area, device) => (some (.ofList area), .ofList device)
  | none => (none, .ofList t)

theorem targetOf_target (h : Addressable area device) :
    targetOf (target area device).toList = (area, device) := by
  unfold targetOf
  rcases area with _ | area
  · have hnone : Split.splitFirst? '/' (target none device).toList = none :=
      Split.splitFirst?_eq_none_iff.2 h.2.2
    rw [hnone]
    simp [target]
  · have hsome : Split.splitFirst? '/' (target (some area) device).toList
        = some (area.toList, device.toList) := by
      refine Split.splitFirst?_eq_some_iff.2 ⟨?_, h.2.1⟩
      simp [target, String.toList_append]
    rw [hsome]
    simp

theorem target_targetOf (t : List Char) :
    target (targetOf t).1 (targetOf t).2 = .ofList t := by
  unfold targetOf
  split
  · rename_i area device hs
    rw [← String.toList_inj, (Split.splitFirst?_eq_some_iff.1 hs).1]
    simp [target, String.toList_append]
  · rfl

theorem addressable_targetOf (hne : t ≠ []) (heq : '=' ∉ t) :
    Addressable (targetOf t).1 (targetOf t).2 := by
  unfold targetOf
  split
  · rename_i area device hs
    obtain ⟨rfl, harea⟩ := Split.splitFirst?_eq_some_iff.1 hs
    simp only [List.mem_append, List.mem_cons, not_or] at heq
    simpa only [Addressable, String.toList_ofList] using ⟨heq.1, harea, heq.2.2⟩
  · rename_i hs
    have hslash := Split.splitFirst?_eq_none_iff.1 hs
    refine ⟨fun hempty => hne ?_, by rwa [String.toList_ofList], by rwa [String.toList_ofList]⟩
    rw [← String.toList_ofList (l := t)]
    exact String.toList_eq_nil_iff.2 hempty

theorem equals_not_mem_target (h : Addressable area device) :
    '=' ∉ (target area device).toList := by
  rcases area with _ | area
  · exact h.2.1
  · simp [target, String.toList_append, h.1, h.2.2]

theorem target_ne_empty (h : Addressable area device) : (target area device).toList ≠ [] := by
  rcases area with _ | area
  · exact fun hn => h.1 (String.toList_eq_nil_iff.1 hn)
  · simp [target, String.toList_append]

end Target

section Inverse

theorem parse?_eq : parse? s = (Split.splitFirst? '=' s.toList).bind fun p =>
    if p.1.isEmpty || p.2.isEmpty then none
    else some ⟨(targetOf p.1).1, (targetOf p.1).2, .ofList p.2⟩ := by
  unfold parse? targetOf
  rcases Split.splitFirst? '=' s.toList with _ | ⟨t, key⟩
  · rfl
  · rw [Option.bind_some]
    show (if t.isEmpty || key.isEmpty then none else _) = _
    split_ifs
    · rfl
    · rcases Split.splitFirst? '/' t with _ | ⟨area, device⟩ <;> rfl

theorem parse?_text (h : c.Selectable) : parse? c.text = some c := by
  obtain ⟨hkey, haddress⟩ := h
  have hsplit : Split.splitFirst? '=' c.text.toList
      = some ((target c.area c.device).toList, c.key.toList) := by
    refine Split.splitFirst?_eq_some_iff.2 ⟨?_, equals_not_mem_target haddress⟩
    simp [text_eq, String.toList_append]
  have hkey' : c.key.toList ≠ [] := fun hn => hkey (String.toList_eq_nil_iff.1 hn)
  rw [parse?_eq, hsplit, Option.bind_some, targetOf_target haddress]
  simp [hkey', target_ne_empty haddress]

theorem selectable_of_parse? (h : parse? s = some c) : c.Selectable ∧ c.text = s := by
  rw [parse?_eq] at h
  obtain ⟨⟨t, key⟩, hsplit, h⟩ := Option.bind_eq_some_iff.1 h
  obtain ⟨hs, heq⟩ := Split.splitFirst?_eq_some_iff.1 hsplit
  split_ifs at h with hempty
  cases h
  simp only [Bool.or_eq_true, List.isEmpty_iff, not_or] at hempty
  refine ⟨⟨fun hn => hempty.2 ?_, addressable_targetOf hempty.1 heq⟩, ?_⟩
  · rw [← String.toList_ofList (l := key)]
    exact String.toList_eq_nil_iff.2 hn
  · rw [← String.toList_inj, hs, text_eq, target_targetOf]
    simp [String.toList_append]

theorem parse?_eq_some_iff : parse? s = some c ↔ c.Selectable ∧ c.text = s := by
  constructor
  · exact selectable_of_parse?
  · rintro ⟨h, rfl⟩
    exact parse?_text h

end Inverse

/-- What is read as a selection is written as the text that it was read from, with the area, if
there is one, in front of a slash, and the key behind an equals sign. A selection is read from some
text if its key is not empty and its device can be named, and then from its own text; so the other
devices are those that nothing can be selected for. -/
theorem parse?_joined :
    (∀ s c, parse? s = some c → c.text = s)
      ∧ (∀ c, (∃ s, parse? s = some c) ↔ c.key ≠ "" ∧ Addressable c.area c.device)
      ∧ (∀ c : PresetChoice, c.key ≠ "" → Addressable c.area c.device → parse? c.text = some c)
      ∧ ∀ area device, (∃ s key, parse? s = some ⟨area, device, key⟩)
        ↔ Addressable area device := by
  refine ⟨fun s c h => (parse?_eq_some_iff.1 h).2, fun c => ?_,
    fun c hkey haddress => parse?_text ⟨hkey, haddress⟩, fun area device => ?_⟩
  · constructor
    · rintro ⟨s, h⟩
      exact (parse?_eq_some_iff.1 h).1
    · intro h
      exact ⟨c.text, parse?_text h⟩
  · constructor
    · rintro ⟨s, key, h⟩
      exact (parse?_eq_some_iff.1 h).1.2
    · intro h
      have hkey : "on" ≠ "" := by decide
      exact ⟨_, "on", parse?_text ⟨hkey, h⟩⟩

/-- Behind its area a device may have a slash in its name, and an area may have none; without an
area there is no way to say the name. -/
theorem parse?_joined_speaker :
    (parse? "/TV/left=mode=a/b" = some ⟨some "", "TV/left", "mode=a/b"⟩
        ∧ (⟨some "", "TV/left", "mode=a/b"⟩ : PresetChoice).text = "/TV/left=mode=a/b")
      ∧ ¬ ∃ s key, parse? s = some ⟨none, "TV/left", key⟩ := by
  obtain ⟨hback, -, hforth, haddress⟩ := parse?_joined
  refine ⟨?_, (haddress none "TV/left").not.2 (by decide)⟩
  have h := hforth ⟨some "", "TV/left", "mode=a/b"⟩ (by decide) (by decide)
  exact ⟨h, hback _ _ h⟩

end PresetChoice

/-- An option with its value, or the home. -/
inductive Item where
  | directory (path : String)
  | preset (text : String)
  | home (path : String)

namespace Item

/-- The arguments of an item. -/
def words : Item → List String
  | directory path => ["--device-types", path]
  | preset text => ["--preset", text]
  | home path => [path]

def directories : Item → List Path
  | directory path => [⟨path⟩]
  | _ => []

def choices : Item → List PresetChoice
  | preset text => (PresetChoice.parse? text).toList
  | _ => []

def homes : Item → List Path
  | home path => [⟨path⟩]
  | _ => []

/-- A preset has a text that can be read, and the home is not written like an option; a directory
can be any text. -/
def Valid : Item → Prop
  | directory _ => True
  | preset text => ∃ c, PresetChoice.parse? text = some c
  | home path => ¬ "--".toList <+: path.toList

end Item

namespace Command

/-- The words for the commands. -/
def vocabulary : List (String × Command) :=
  [("compile", compile), ("check", check), ("dump", list), ("help", help), ("--help", help),
    ("-h", help)]

theorem ofWord?_eq_some_iff {word : String} {command : Command} :
    ofWord? word = some command ↔ (word, command) ∈ vocabulary := by
  unfold ofWord? vocabulary
  split <;> simp_all [eq_comm]

end Command

namespace Arguments

/-- The items are such as can stand behind a command: at most one is a home, and none if the device
types are to be listed. -/
structure Fits (command : Command) (items : List Item) : Prop where
  valid : ∀ i ∈ items, i.Valid
  single : (items.flatMap Item.homes).length ≤ 1
  homeless : command = .list → items.flatMap Item.homes = []

/-- What items say: the home, the last directory and all presets in their order. -/
def ofItems (command : Command) (items : List Item) : Arguments where
  command := command
  homeFile := (items.flatMap Item.homes).head?
  typesDirectory := (items.flatMap Item.directories).getLast?
  presets := items.flatMap Item.choices

/-- Reading an item adds what it says to the arguments. -/
inductive Reads : Arguments → Item → Arguments → Prop
  | directory {a path} : Reads a (.directory path) { a with typesDirectory := some ⟨path⟩ }
  | preset {a text c} (h : PresetChoice.parse? text = some c) :
    Reads a (.preset text) { a with presets := a.presets ++ [c] }
  | home {a path} (hp : isOption path = false) (hn : a.homeFile = none)
      (hc : a.command ≠ .list) : Reads a (.home path) { a with homeFile := some ⟨path⟩ }

inductive ReadsAll : Arguments → List Item → Arguments → Prop
  | nil {a} : ReadsAll a [] a
  | cons {a i b items c} (h : Reads a i b) (hs : ReadsAll b items c) : ReadsAll a (i :: items) c

variable {a b : Arguments} {i : Item} {items items' : List Item} {words : List String}
  {command : Command}

section Steps

theorem isOption_eq_false_iff {s : String} : isOption s = false ↔ ¬ "--".toList <+: s.toList := by
  rw [← List.isPrefixOf_iff_prefix, Bool.not_eq_true]
  rfl

theorem parseRest_of_reads (h : Reads a i b) (rest : List String) :
    parseRest a (i.words ++ rest) = parseRest b rest := by
  cases h with
  | directory => simp [Item.words, parseRest, typesOption]
  | preset h => simp [Item.words, parseRest, typesOption, presetOption, h]
  | @home path hp hn hc =>
    have htypes : path ≠ typesOption := by
      rintro rfl
      exact absurd hp (by decide)
    have hpreset : path ≠ presetOption := by
      rintro rfl
      exact absurd hp (by decide)
    rw [Item.words, List.singleton_append, parseRest.eq_def]
    simp [htypes, hpreset, hp, hn, hc]

theorem exists_readsAll : parseRest a words = .ok b →
    ∃ items, words = items.flatMap Item.words ∧ ReadsAll a items b := by
  fun_induction parseRest a words with
  | case1 a =>
    rintro ⟨⟩
    exact ⟨[], rfl, .nil⟩
  | case3 a path rest ih =>
    intro h
    obtain ⟨items, rfl, hi⟩ := ih h
    exact ⟨.directory path :: items, rfl, .cons .directory hi⟩
  | case5 a text rest choice hc _ ih =>
    intro h
    obtain ⟨items, rfl, hi⟩ := ih h
    exact ⟨.preset text :: items, rfl, .cons (.preset hc) hi⟩
  | case8 a path rest _ _ hp hfree ih =>
    intro h
    obtain ⟨items, rfl, hi⟩ := ih h
    exact ⟨.home path :: items, rfl, .cons (.home (Bool.not_eq_true _ ▸ hp) hfree.1 hfree.2) hi⟩
  | _ => rintro ⟨⟩

theorem parseRest_eq_ok_iff : parseRest a words = .ok b
    ↔ ∃ items, words = items.flatMap Item.words ∧ ReadsAll a items b := by
  constructor
  · exact exists_readsAll
  · rintro ⟨items, rfl, h⟩
    induction h with
    | nil => rfl
    | cons hi _ ih => rw [List.flatMap_cons, parseRest_of_reads hi, ih]

/-- The arguments with what the items say. -/
def add (a : Arguments) (items : List Item) : Arguments where
  command := a.command
  homeFile := a.homeFile.or (items.flatMap Item.homes).head?
  typesDirectory := (items.flatMap Item.directories).getLast?.or a.typesDirectory
  presets := a.presets ++ items.flatMap Item.choices

/-- How many homes can still be read. -/
def room (a : Arguments) : ℕ := if a.homeFile = none ∧ a.command ≠ .list then 1 else 0

/-- The items can be read after what the arguments hold already. -/
structure Accepts (a : Arguments) (items : List Item) : Prop where
  valid : ∀ i ∈ items, i.Valid
  le_room : (items.flatMap Item.homes).length ≤ a.room

theorem add_nil (a : Arguments) : a.add [] = a := by
  simp [add]

theorem add_cons (a : Arguments) (i : Item) (items : List Item) :
    a.add (i :: items) = (a.add [i]).add items := by
  simp [add, List.head?_append, List.getLast?_append, Option.or_assoc]

theorem add_directory {path : String} :
    a.add [.directory path] = { a with typesDirectory := some ⟨path⟩ } := by
  simp [add, Item.homes, Item.directories, Item.choices]

theorem add_preset {text : String} {c : PresetChoice} (h : PresetChoice.parse? text = some c) :
    a.add [.preset text] = { a with presets := a.presets ++ [c] } := by
  simp [add, Item.homes, Item.directories, Item.choices, h]

theorem add_home {path : String} (h : a.homeFile = none) :
    a.add [.home path] = { a with homeFile := some ⟨path⟩ } := by
  simp [add, Item.homes, Item.directories, Item.choices, h]

theorem room_pos_iff : 0 < a.room ↔ a.homeFile = none ∧ a.command ≠ .list := by
  unfold room
  split_ifs with h <;> simp [h]

theorem accepts_nil (a : Arguments) : a.Accepts [] where
  valid := by simp
  le_room := Nat.zero_le _

theorem room_add (h : i.homes.length ≤ a.room) :
    (a.add [i]).room + i.homes.length = a.room := by
  cases i with
  | home path =>
    -- a home that is read takes the only room there is
    have hle : a.room ≤ 1 := by unfold room; split_ifs <;> simp
    have hfull : (a.add [.home path]).room = 0 := by
      rcases a with ⟨command, _ | home, directory, presets⟩ <;> simp [add, room, Item.homes]
    rw [hfull, Nat.zero_add]
    exact Nat.le_antisymm h hle
  | _ => simp [add, room, Item.homes]

theorem accepts_cons_iff : a.Accepts (i :: items)
    ↔ (i.Valid ∧ i.homes.length ≤ a.room) ∧ (a.add [i]).Accepts items := by
  constructor
  · rintro ⟨hvalid, hroom⟩
    rw [List.flatMap_cons, List.length_append] at hroom
    obtain ⟨hi, hitems⟩ := List.forall_mem_cons.1 hvalid
    have hone : i.homes.length ≤ a.room := by omega
    have hleft := room_add hone
    exact ⟨⟨hi, hone⟩, hitems, by omega⟩
  · rintro ⟨⟨hi, hone⟩, hitems, hroom⟩
    have hleft := room_add hone
    refine ⟨List.forall_mem_cons.2 ⟨hi, hitems⟩, ?_⟩
    rw [List.flatMap_cons, List.length_append]
    omega

theorem reads_iff : Reads a i b ↔ (i.Valid ∧ i.homes.length ≤ a.room) ∧ a.add [i] = b := by
  constructor
  · rintro (_ | ⟨hc⟩ | ⟨hp, hn, hc⟩)
    · exact ⟨⟨trivial, Nat.zero_le _⟩, add_directory⟩
    · exact ⟨⟨⟨_, hc⟩, Nat.zero_le _⟩, add_preset hc⟩
    · exact ⟨⟨isOption_eq_false_iff.1 hp, room_pos_iff.2 ⟨hn, hc⟩⟩, add_home hn⟩
  · rintro ⟨⟨hvalid, hroom⟩, rfl⟩
    cases i with
    | directory path =>
      rw [add_directory]
      exact .directory
    | preset text =>
      obtain ⟨c, hc⟩ := hvalid
      rw [add_preset hc]
      exact .preset hc
    | home path =>
      obtain ⟨hn, hc⟩ := room_pos_iff.1 hroom
      rw [add_home hn]
      exact .home (isOption_eq_false_iff.2 hvalid) hn hc

/-- Items are read after arguments that accept them, and add what they say. -/
theorem readsAll_iff : ReadsAll a items b ↔ a.Accepts items ∧ a.add items = b := by
  induction items generalizing a with
  | nil =>
    rw [add_nil]
    constructor
    · rintro ⟨⟩
      exact ⟨accepts_nil _, rfl⟩
    · rintro ⟨-, rfl⟩
      exact .nil
  | cons i items ih =>
    rw [accepts_cons_iff, add_cons a i items, and_assoc, ← ih]
    constructor
    · rintro (_ | ⟨hi, hs⟩)
      obtain ⟨hfirst, rfl⟩ := reads_iff.1 hi
      exact ⟨hfirst, hs⟩
    · rintro ⟨hfirst, hs⟩
      exact .cons (reads_iff.2 ⟨hfirst, rfl⟩) hs

end Steps

section Commands

/-- The arguments of a command before anything else is read. -/
def start (command : Command) : Arguments := ⟨command, none, none, []⟩

theorem le_room_start_iff {n : ℕ} :
    n ≤ (start command).room ↔ n ≤ 1 ∧ (command = .list → n = 0) := by
  unfold room start
  by_cases hc : command = .list
  · rw [if_neg fun h => h.2 hc]
    simp only [hc, true_implies]
    omega
  · simp [hc]

theorem accepts_start_iff : (start command).Accepts items ↔ Fits command items := by
  constructor
  · rintro ⟨hvalid, hroom⟩
    obtain ⟨hsingle, hnone⟩ := le_room_start_iff.1 hroom
    exact ⟨hvalid, hsingle, fun hc => List.length_eq_zero_iff.1 (hnone hc)⟩
  · rintro ⟨hvalid, hsingle, hnone⟩
    exact ⟨hvalid, le_room_start_iff.2 ⟨hsingle, fun hc => List.length_eq_zero_iff.2 (hnone hc)⟩⟩

theorem add_start (command : Command) (items : List Item) :
    (start command).add items = ofItems command items := by
  simp [add, start, ofItems]

theorem parseRest_start_eq_ok_iff : parseRest (start command) words = .ok a
    ↔ ∃ items, words = items.flatMap Item.words ∧ Fits command items
      ∧ a = ofItems command items := by
  simp only [parseRest_eq_ok_iff, readsAll_iff, accepts_start_iff, add_start, eq_comm (b := a)]

theorem parse_cons (word : String) (words : List String) : parse (word :: words)
    = match Command.ofWord? word with
      | some command => parseRest (start command) words
      | none => .error (.unknownCommand word) := rfl

theorem parse_eq_ok_iff {args : List String} : parse args = .ok a
    ↔ args = [] ∧ a = start .help ∨ ∃ word command items, (word, command) ∈ Command.vocabulary
      ∧ args = word :: items.flatMap Item.words ∧ Fits command items
      ∧ a = ofItems command items := by
  rcases args with _ | ⟨word, words⟩
  · simp [parse, start, eq_comm]
  · constructor
    · intro h
      rw [parse_cons] at h
      split at h
      · rename_i command hword
        obtain ⟨items, rfl, hitems⟩ := parseRest_start_eq_ok_iff.1 h
        exact .inr ⟨word, command, items, Command.ofWord?_eq_some_iff.1 hword, rfl, hitems⟩
      · cases h
    · rintro (⟨h, -⟩ | ⟨word', command, items, hword, h, hitems⟩)
      · cases h
      · obtain ⟨rfl, rfl⟩ := List.cons.inj h
        rw [parse_cons, Command.ofWord?_eq_some_iff.2 hword]
        exact parseRest_start_eq_ok_iff.2 ⟨items, rfl, hitems⟩

end Commands

section Order

theorem words_append_inj {i' : Item} {rest rest' : List String} (hi : i.Valid) (hi' : i'.Valid)
    (h : i.words ++ rest = i'.words ++ rest') : i = i' ∧ rest = rest' := by
  -- the first argument of an item tells its kind
  have hhome : ∀ {path}, (Item.home path).Valid →
      "--device-types" ≠ path ∧ "--preset" ≠ path := by
    intro path hvalid
    constructor <;> rintro rfl <;> exact hvalid (by decide)
  cases i with
  | directory path =>
    cases i' with
    | directory path' => simpa [Item.words] using h
    | preset text' => simp [Item.words] at h
    | home path' => exact absurd (List.cons.inj h).1 (hhome hi').1
  | preset text =>
    cases i' with
    | directory path' => simp [Item.words] at h
    | preset text' => simpa [Item.words] using h
    | home path' => exact absurd (List.cons.inj h).1 (hhome hi').2
  | home path =>
    cases i' with
    | directory path' => exact absurd (List.cons.inj h).1.symm (hhome hi).1
    | preset text' => exact absurd (List.cons.inj h).1.symm (hhome hi).2
    | home path' => simpa [Item.words] using h

/-- There is one way only in which arguments fall into items. -/
theorem items_unique : ∀ {items items' : List Item}, (∀ i ∈ items, i.Valid) →
    (∀ i ∈ items', i.Valid) → items.flatMap Item.words = items'.flatMap Item.words → items = items'
  | [], [], _, _, _ => rfl
  | [], i :: items, _, _, h => by cases i <;> simp [Item.words] at h
  | i :: items, [], _, _, h => by cases i <;> simp [Item.words] at h
  | i :: items, i' :: items', hv, hv', h => by
    obtain ⟨hi, hitems⟩ := List.forall_mem_cons.1 hv
    obtain ⟨hi', hitems'⟩ := List.forall_mem_cons.1 hv'
    rw [List.flatMap_cons, List.flatMap_cons] at h
    obtain ⟨rfl, hrest⟩ := words_append_inj hi hi' h
    rw [items_unique hitems hitems' hrest]

theorem eq_of_perm {α : Type*} {l l' : List α} (h : l.Perm l') (hl : l.length ≤ 1) : l = l' := by
  rcases l with _ | ⟨x, _ | ⟨y, l⟩⟩
  · exact h.nil_eq
  · exact (List.perm_singleton.1 h.symm).symm
  · simp at hl

theorem Fits.homes_eq (hf : Fits command items) (h : items.Perm items') :
    items.flatMap Item.homes = items'.flatMap Item.homes :=
  eq_of_perm (h.flatMap_right Item.homes) hf.single

theorem Fits.perm (hf : Fits command items) (h : items.Perm items') : Fits command items' where
  valid := fun i hi => hf.valid i (h.mem_iff.2 hi)
  single := hf.homes_eq h ▸ hf.single
  homeless := hf.homes_eq h ▸ hf.homeless

/-- Arguments can be read if there are none, or if the first is the word for a command and the
others are items that can stand behind it; they mean what the items say. They fall into items in one
way only, so the value of an option is never an option itself. In another order the items can be
read just as well: then the presets are in another order, and another directory may be the last. -/
theorem parse_itemwise :
    (∀ args a, parse args = .ok a ↔ args = [] ∧ a = ⟨.help, none, none, []⟩
        ∨ ∃ word command items, (word, command) ∈ Command.vocabulary
          ∧ args = word :: items.flatMap Item.words ∧ Fits command items
          ∧ a = ofItems command items)
      ∧ (∀ items items' : List Item, (∀ i ∈ items, i.Valid) → (∀ i ∈ items', i.Valid) →
        items.flatMap Item.words = items'.flatMap Item.words → items = items')
      ∧ ∀ word command items items' a, (word, command) ∈ Command.vocabulary → Fits command items →
        parse (word :: items.flatMap Item.words) = .ok a → items.Perm items' →
        ∃ a', parse (word :: items'.flatMap Item.words) = .ok a'
          ∧ a' = { a with
            presets := items'.flatMap Item.choices
            typesDirectory := (items'.flatMap Item.directories).getLast? }
          ∧ a'.presets.Perm a.presets
          ∧ (items'.flatMap Item.directories).Perm (items.flatMap Item.directories) := by
  refine ⟨fun args a => parse_eq_ok_iff, fun items items' => items_unique,
    fun word command items items' a hword hf h hperm => ?_⟩
  have hread : ∀ l, Fits command l → parse (word :: l.flatMap Item.words)
      = .ok (ofItems command l) := fun l hl =>
    parse_eq_ok_iff.2 (.inr ⟨word, command, l, hword, rfl, hl, rfl⟩)
  obtain rfl : ofItems command items = a := Except.ok.inj ((hread items hf).symm.trans h)
  refine ⟨ofItems command items', hread items' (hf.perm hperm), ?_,
    (hperm.flatMap_right Item.choices).symm, (hperm.flatMap_right Item.directories).symm⟩
  simp only [ofItems, hf.homes_eq hperm]

/-- The values are written like the options; the other way round, another directory is the last. -/
theorem parse_itemwise_check :
    ∃ items : List Item, Fits .check items
      ∧ parse ["check", "--device-types", "--preset", "home.yaml", "--preset",
          "--device-types=on", "--device-types", "types"]
        = .ok ⟨.check, some ⟨"home.yaml"⟩, some ⟨"types"⟩, [⟨none, "--device-types", "on"⟩]⟩
      ∧ parse ("check" :: items.reverse.flatMap Item.words)
        = .ok ⟨.check, some ⟨"home.yaml"⟩, some ⟨"--preset"⟩,
          [⟨none, "--device-types", "on"⟩]⟩ := by
  obtain ⟨hread, -, hperm⟩ := parse_itemwise
  have hchoice : PresetChoice.parse? "--device-types=on"
      = some ⟨none, "--device-types", "on"⟩ := rfl
  have hword : ("check", Command.check) ∈ Command.vocabulary := by decide
  have hfits : Fits .check [.directory "--preset", .home "home.yaml",
      .preset "--device-types=on", .directory "types"] :=
    ⟨by simp [Item.Valid, hchoice], by decide, by rintro ⟨⟩⟩
  have hfirst : parse ["check", "--device-types", "--preset", "home.yaml", "--preset",
        "--device-types=on", "--device-types", "types"]
      = .ok ⟨.check, some ⟨"home.yaml"⟩, some ⟨"types"⟩, [⟨none, "--device-types", "on"⟩]⟩ :=
    (hread _ _).2 (.inr ⟨_, _, _, hword, rfl, hfits, rfl⟩)
  obtain ⟨a, ha, rfl, -⟩ := hperm _ _ _ _ _ hword hfits hfirst (List.reverse_perm _).symm
  exact ⟨_, hfits, hfirst, ha⟩

end Order

end Arguments

end CommandLine

end SmartHome
