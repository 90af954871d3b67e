import ResourceManager.Config.Store
import ResourceManager.Proofs.Bookkeeping
import ResourceManager.Proofs.ConfigRenaming
import ResourceManager.Proofs.Refilling

/-!
# Variables in a configuration file

What a variable holds is put into the text of a configuration file before the text is read.  This
module is about files that refer to a variable in slots: by strings that are the values of entries.

A value of plain characters stays in its slot.  If the file is a configuration for one such value,
it is one for all of them, and it is the same one but for the settings that the references are
written in, which are the value as it is (`Config.load_of_variable`).  `Environment.Writes` says
which settings these are: those whose entry in the file is the value, whatever the value is.

The proof loads the file with a marker in the variable, a text that nothing else in the file reads
as.  Where the marker turns up afterwards is where the references were, and any other value takes
its places.

Any other character leaves the slot, is read as another one, or is refused.  A value with a quote
can end the string and bring settings of its own (`Config.load_of_quote`).
-/

set_option autoImplicit false

namespace ResourceManager

/-! ## The text around a reference -/

namespace Environment

variable (e : Environment) {name other : String}

/-- What a variable is set to is what is found of it. -/
theorem lookup?_set (v : String) : (e.set name v).lookup? name = some v := by
  rw [lookup?, set, setBytes, List.lookup_cons, beq_self_eq_true]
  simp only [Option.bind_eq_bind, Option.bind_some, Utf8.decode?_encode, Option.pure_def,
    String.ofList_toList]

/-- The other variables keep what they hold. -/
theorem lookup?_set_of_ne (h : other ≠ name) (v : String) :
    (e.set name v).lookup? other = e.lookup? other := by
  rw [lookup?, lookup?, set, setBytes, List.lookup_cons, beq_false_of_ne h]
  show (((e.entries.filter (·.1 != name)).lookup other).bind _) = _
  rw [Json.lookup_filter_ne, if_neg h]
  rfl

end Environment

namespace Template

/-- Whether a part refers to a variable. -/
def Part.refersTo (name : String) : Part → Bool
  | .char _ => false
  | .reference n _ _ => String.ofList n == name

/-- The text of parts around the values of a variable: the front, and what stands behind each
value. -/
def around (e : Environment) (name : String) : List Part → List Char × List (List Char)
  | [] => ([], [])
  | p :: parts =>
    let rest := around e name parts
    if p.refersTo name then ([], rest.1 :: rest.2) else (p.value e ++ rest.1, rest.2)

variable (e : Environment) {name : String}

theorem value_set_of_refersTo {p : Part} (h : p.refersTo name = true) (v : String) :
    p.value (e.set name v) = v.toList := by
  cases p with
  | char c => cases h
  | reference n default written =>
    have hname : String.ofList n = name := beq_iff_eq.mp h
    simp only [Part.value, hname, e.lookup?_set]

theorem value_set {p : Part} (h : p.refersTo name = false) (v : String) :
    p.value (e.set name v) = p.value e := by
  cases p with
  | char c => rfl
  | reference n default written =>
    simp only [Part.value, e.lookup?_set_of_ne (beq_eq_false_iff_ne.mp h)]

theorem flatMap_value_set (v : String) (parts : List Part) :
    parts.flatMap (Part.value (e.set name v)) =
      Toml.Token.fill v.toList (around e name parts).1 (around e name parts).2 := by
  induction parts with
  | nil => rfl
  | cons p parts ih =>
    rw [List.flatMap_cons, ih, around]
    cases hname : p.refersTo name with
    | true =>
      rw [value_set_of_refersTo e hname, if_pos rfl, Toml.Token.fill_cons]
      rfl
    | false =>
      rw [value_set e hname, if_neg Bool.false_ne_true, Toml.Token.fill, Toml.Token.fill,
        List.append_assoc]

end Template

namespace Environment

variable (e : Environment) (name : String) (text : List Char)

/-- A text up to the first value of a variable. -/
def front : List Char := (Template.around e name (Template.parts text)).1

/-- What stands in a text behind each value of a variable. -/
def pieces : List (List Char) := (Template.around e name (Template.parts text)).2

/-- Whether a text refers to a variable only in slots. -/
def RefersInSlots : Prop :=
  Toml.Token.AreSlots (Toml.withoutMark (e.front name text)) (e.pieces name text)

/-- Whether a setting is written as a reference to a variable: its entry is what the variable holds,
whatever that is, and the entry is taken up. -/
def Writes (s : Setting) : Prop :=
  ∀ v, Toml.IsPlain v → ∃ t, Toml.parse? ((e.set name v).expand text) = some t ∧
    s.inFile? t = some (.string v) ∧ s.IsTaken t

variable {name}

/-- The text with a value for the variable. -/
theorem expand_set (v : String) : (e.set name v).expand text =
    Toml.Token.fill v.toList (e.front name text) (e.pieces name text) :=
  Template.flatMap_value_set e v _

end Environment

/-! ## Values in slots -/

namespace Config

/-- Whether a text can mark the settings that slots are written in: it may stand in one, no string
of the file reads as it does, and it names neither a cloud nor the default location. -/
structure IsMarker (w : String) (text : List Char) : Prop where
  plain : Toml.IsPlain w
  fresh : Toml.IsFresh w text
  location : w ≠ defaultLocation
  cloud : ∀ k : Cloud, k.name ≠ w

variable {front text : List Char} {pieces : List (List Char)} {u v w : String}

theorem exists_isMarker (text : List Char) : ∃ w, IsMarker w text := by
  obtain ⟨w, hplain, hnot, hfresh⟩ :=
    Toml.exists_isFresh text (defaultLocation :: Cloud.all.map Cloud.name)
  rw [List.mem_cons, not_or] at hnot
  refine ⟨w, hplain, hfresh, hnot.1, fun k hk ↦ hnot.2 (List.mem_map.mpr ⟨k, ?_, hk⟩)⟩
  cases k <;> decide

theorem IsMarker.replacing_location (hw : IsMarker w text) (v : String) :
    Toml.replacing w v defaultLocation = defaultLocation :=
  if_neg fun h ↦ hw.location h.symm

theorem IsMarker.replacing_cloud (hw : IsMarker w text) (v : String) {s : String} {k : Cloud}
    (h : Cloud.ofName? s = some k) : Cloud.ofName? (Toml.replacing w v s) = some k := by
  have hs : s ≠ w := fun hs ↦ hw.cloud k ((Cloud.name_of_ofName? h).trans hs)
  rw [Toml.replacing, if_neg hs, h]

theorem ofName?_of_replacing (hu : ∀ k : Cloud, k.name ≠ u) {s : String} {k : Cloud}
    (h : Cloud.ofName? (Toml.replacing w u s) = some k) : Cloud.ofName? s = some k := by
  rw [Toml.replacing] at h
  split at h
  · exact absurd (Cloud.name_of_ofName? h) (hu k)
  · exact h

section Slots

variable (hslots : Toml.Token.AreSlots (Toml.withoutMark front) pieces) (hu : Toml.IsPlain u)
  (hw : IsMarker w (Toml.Token.fill u.toList front pieces))
include hslots hu hw

/-- A text is a configuration with a marker in its slots if it is one with a value in them that
names no cloud. -/
theorem exists_ofText?_marker (hcloud : ∀ k : Cloud, k.name ≠ u) {c : Config}
    (h : ofText? (Toml.Token.fill u.toList front pieces) = some c) :
    ∃ marked, ofText? (Toml.Token.fill w.toList front pieces) = some marked := by
  rw [ofText?, Toml.parse?_fill hslots hu hw.plain hu hw.fresh] at h
  rw [ofText?]
  cases htree : Toml.parse? (Toml.Token.fill w.toList front pieces) with
  | none =>
    rw [htree] at h
    cases h
  | some t =>
    rw [htree] at h
    exact exists_decode?_of_rename (hw.replacing_location u)
      (fun s k ↦ ofName?_of_replacing hcloud) h

/-- With a value instead of the marker it is the same configuration with the value in it. -/
theorem ofText?_fill (hv : Toml.IsPlain v) {marked : Config}
    (h : ofText? (Toml.Token.fill w.toList front pieces) = some marked) :
    ofText? (Toml.Token.fill v.toList front pieces) =
      some (marked.rename (Toml.replacing w v)) := by
  rw [ofText?, Toml.parse?_fill hslots hu hw.plain hv hw.fresh]
  rw [ofText?] at h
  cases htree : Toml.parse? (Toml.Token.fill w.toList front pieces) with
  | none =>
    rw [htree] at h
    cases h
  | some t =>
    rw [htree] at h
    exact decode?_rename (hw.replacing_location v) (fun s k ↦ hw.replacing_cloud v) h

end Slots

/-! ## Loading -/

/-- Whether a configuration is another one with a value for the settings that are written as a
reference.  There are no other profiles, and nothing else is changed, added or left out. -/
structure FilledBy (written : Setting → Prop) (v : String) (c filled : Config) : Prop where
  names : filled.names = c.names
  cloud : ∀ name, (filled.profile? name).map (·.cloud) = (c.profile? name).map (·.cloud)
  poll : ∀ name, (filled.profile? name).map (·.poll) = (c.profile? name).map (·.poll)
  value : ∀ s, written s → s.text? filled = some v
  kept : ∀ s, ¬ written s → s.text? filled = s.text? c

/-- If the marker stands where the references are, it may be replaced by any two values. -/
theorem FilledBy.rename {written : Setting → Prop} {marked : Config}
    (h : ∀ s : Setting, written s ↔ s.text? marked = some w) (u v : String) :
    FilledBy written v (marked.rename (Toml.replacing w u))
      (marked.rename (Toml.replacing w v)) where
  names := by simp only [Config.names, Config.rename, List.map_map, Function.comp_def]
  cloud name := by
    rw [profile?_rename, profile?_rename, Option.map_map, Option.map_map]
    rfl
  poll name := by
    rw [profile?_rename, profile?_rename, Option.map_map, Option.map_map]
    rfl
  value s hs := by
    rw [Setting.text?_rename, (h s).mp hs]
    exact congrArg some (if_pos rfl)
  kept s hs := by
    rw [Setting.text?_rename, Setting.text?_rename]
    cases hx : s.text? marked with
    | none => rfl
    | some x =>
      have hne : x ≠ w := fun hxw ↦ hs ((h s).mpr (hxw ▸ hx))
      exact congrArg some ((if_neg hne).trans (if_neg hne).symm)

/-- There is one such configuration: the fields of `FilledBy` leave nothing open. -/
theorem FilledBy.unique {written : Setting → Prop} {c filled filled' : Config}
    (h : FilledBy written v c filled) (h' : FilledBy written v c filled')
    (hordered : filled.profiles.Pairwise (·.1 < ·.1))
    (hordered' : filled'.profiles.Pairwise (·.1 < ·.1)) : filled = filled' := by
  have htext : ∀ s : Setting, s.text? filled = s.text? filled' := by
    intro s
    by_cases hs : written s
    · rw [h.value s hs, h'.value s hs]
    · rw [h.kept s hs, h'.kept s hs]
  have hprofile : ∀ name, filled.profile? name = filled'.profile? name := by
    intro name
    have hcloud := (h.cloud name).trans (h'.cloud name).symm
    have hpoll := (h.poll name).trans (h'.poll name).symm
    have htexts := fun key ↦ htext (.ofProfile name key)
    simp only [Setting.text?] at htexts
    cases hp : filled.profile? name <;> cases hq : filled'.profile? name <;>
      rw [hp, hq] at hcloud hpoll htexts
    case some.some p q =>
      exact congrArg some (Profile.eq_of_texts (Option.some_inj.mp hcloud)
        (Option.some_inj.mp hpoll) htexts)
    all_goals cases hcloud
  obtain ⟨default, profiles⟩ := filled
  obtain ⟨default', profiles'⟩ := filled'
  obtain rfl : default = default' := htext .defaultProfile
  exact congrArg (Config.mk default) (Json.eq_of_lookup_eq hordered hordered' hprofile)

variable {e : Environment} {f : Files} {path name : String} {content : Bytes}

theorem load_eq_ok_iff (hfile : f.read (Files.partsOf path) = .ok (some content))
    (htext : Utf8.decode? content = some text) {c : Config} :
    load e f path = .ok c ↔ ofText? (e.expand text) = some c := by
  rw [load, hfile]
  show ofFile e path content = .ok c ↔ _
  rw [ofFile, htext]
  cases hread : ofText? (e.expand text) <;> simp [hread]

theorem exists_table_of_parse? {text : List Char} {t : Toml} (h : Toml.parse? text = some t) :
    ∃ entries, t = .table entries := by
  obtain ⟨_, -, hentries⟩ := Option.bind_eq_some_iff.mp h
  obtain ⟨entries, -, htable⟩ := Option.bind_eq_some_iff.mp hentries
  exact ⟨_, (Option.some_inj.mp htable).symm⟩

/-- The settings that are written as references are those that are the marker when the variable
holds it. -/
theorem writes_iff (hslots : e.RefersInSlots name text) (hu : Toml.IsPlain u)
    (hw : IsMarker w ((e.set name u).expand text)) {marked : Config}
    (h : ofText? ((e.set name w).expand text) = some marked) (s : Setting) :
    e.Writes name text s ↔ s.text? marked = some w := by
  rw [e.expand_set] at hw h
  obtain ⟨t, ht, hdecode⟩ := Option.bind_eq_some_iff.mp h
  obtain ⟨entries, rfl⟩ := exists_table_of_parse? ht
  rw [Setting.text?_iff hdecode hw.location]
  constructor
  · intro hwrites
    obtain ⟨t', ht', hentry, htaken⟩ := hwrites w hw.plain
    rw [e.expand_set, ht] at ht'
    cases ht'
    exact ⟨hentry, htaken⟩
  · rintro ⟨hentry, htaken⟩ v hv
    refine ⟨(Toml.table entries).rename (Toml.replacing w v), ?_, ?_, ?_⟩
    · rw [e.expand_set, Toml.parse?_fill hslots hu hw.plain hv hw.fresh, ht, Option.map_some]
    · rw [Setting.inFile?_rename, hentry, Option.map_some, Toml.rename]
      exact congrArg (some ∘ Toml.string) (if_pos rfl)
    · exact (Setting.isTaken_rename _ _ s).mpr htaken

/-- **A variable fills the settings that are written as references to it, and no others.**  The file
refers to it only in slots, and can be loaded with one plain value.  Then it can be loaded with each
of them: what is written as a reference is the value, and everything else is as it was. -/
theorem load_of_variable (hfile : f.read (Files.partsOf path) = .ok (some content))
    (htext : Utf8.decode? content = some text) (hslots : e.RefersInSlots name text)
    (hu : Toml.IsPlain u) (hcloud : ∀ k : Cloud, k.name ≠ u) {c : Config}
    (hload : load (e.set name u) f path = .ok c) (hv : Toml.IsPlain v) :
    ∃ filled, load (e.set name v) f path = .ok filled ∧
      FilledBy (e.Writes name text) v c filled := by
  obtain ⟨w, hmarker⟩ := exists_isMarker ((e.set name u).expand text)
  have hw := hmarker
  rw [e.expand_set] at hw
  rw [load_eq_ok_iff hfile htext, e.expand_set] at hload
  obtain ⟨marked, hmarked⟩ := exists_ofText?_marker hslots hu hw hcloud hload
  obtain rfl : marked.rename (Toml.replacing w u) = c :=
    Option.some_inj.mp ((ofText?_fill hslots hu hw hu hmarked).symm.trans hload)
  refine ⟨marked.rename (Toml.replacing w v), ?_, .rename (fun s ↦ ?_) u v⟩
  · rw [load_eq_ok_iff hfile htext, e.expand_set, ofText?_fill hslots hu hw hv hmarked]
  · exact writes_iff hslots hu hmarker ((congrArg ofText? (e.expand_set text w)).trans hmarked) s

/-! ### A file of a team -/

/-- A file in which the default profile and a resource group are the name of a team. -/
def teamText : List Char :=
  ("default_profile = \"$\x7bTEAM\x7d\"\n\n[profiles.p]\nresource_group = \"$\x7bTEAM\x7d\"\n" ++
    "subscription_id = \"s\"\naccess_token = \"t\"\n").toList

def teamFiles : Files :=
  Files.empty.put ["config.toml"] (.file (Utf8.encode teamText))

/-- What the file is for a team. -/
def teamConfig (team : String) : Config :=
  ⟨some team, [("p", { Profile.new "s" (.accessToken "t") with resourceGroup := some team })]⟩

theorem team_slots : Environment.empty.RefersInSlots "TEAM" teamText := by
  have haround : Template.around .empty "TEAM" (Template.parts teamText) =
      ("default_profile = \"".toList, ["\"\n\n[profiles.p]\nresource_group = \"".toList,
        "\"\nsubscription_id = \"s\"\naccess_token = \"t\"\n".toList]) := by
    decide +kernel
  rw [Environment.RefersInSlots, Environment.front, Environment.pieces, haround]
  refine .cons ⟨[.blank [' ']], [.blank [' '], .atom "default_profile".toList], by decide, rfl⟩
    (by decide) (.cons ?_ (by decide) (.nil _))
  exact ⟨[.blank [' ']], [.blank [' '], .atom "resource_group".toList, .lineBreak, .closeSquare,
    .atom ['p'], .dot, .atom "profiles".toList, .openSquare, .lineBreak, .lineBreak], by decide,
    rfl⟩

theorem team_load (team : String)
    (h : ofText? ((Environment.empty.set "TEAM" team).expand teamText) = some (teamConfig team)) :
    load (Environment.empty.set "TEAM" team) teamFiles "/config.toml" = .ok (teamConfig team) :=
  (load_eq_ok_iff rfl (Utf8.decode?_encode _)).mpr h

theorem isPlain_of_all (h : v.toList.all Toml.Token.isPlain = true) : Toml.IsPlain v :=
  List.all_eq_true.mp h

theorem team_marker : IsMarker "x" ((Environment.empty.set "TEAM" "blue").expand teamText) where
  plain := isPlain_of_all (by decide)
  fresh tokens hscan := by
    have hall : (Toml.Token.scan? (Toml.withoutMark
        ((Environment.empty.set "TEAM" "blue").expand teamText))).all
          (·.all fun t ↦ !t.reads "x") = true := by
      decide +kernel
    rw [hscan] at hall
    simpa using hall
  location := by decide
  cloud k := by cases k <;> decide

theorem team_writes_iff (s : Setting) : Environment.empty.Writes "TEAM" teamText s ↔
    s.text? (teamConfig "x") = some "x" :=
  writes_iff team_slots (isPlain_of_all (by decide)) team_marker (by decide +kernel) s

/-- The two settings are written as references, the subscription is not, and for another team the
file is what it should be. -/
theorem load_of_variable_sample :
    Environment.empty.Writes "TEAM" teamText .defaultProfile ∧
      Environment.empty.Writes "TEAM" teamText (.ofProfile "p" "resource_group") ∧
      ¬ Environment.empty.Writes "TEAM" teamText (.ofProfile "p" "subscription_id") ∧
      load (Environment.empty.set "TEAM" "blue") teamFiles "/config.toml" =
        .ok (teamConfig "blue") ∧
      load (Environment.empty.set "TEAM" "red") teamFiles "/config.toml" = .ok (teamConfig "red") ∧
      FilledBy (Environment.empty.Writes "TEAM" teamText) "red" (teamConfig "blue")
        (teamConfig "red") := by
  have hblue := team_load "blue" (by decide +kernel)
  have hred := team_load "red" (by decide +kernel)
  obtain ⟨filled, hload, hfilled⟩ := @load_of_variable teamText "blue" "red" .empty teamFiles
    "/config.toml" "TEAM" _ rfl (Utf8.decode?_encode _) team_slots (isPlain_of_all (by decide))
    (fun k ↦ by cases k <;> decide) (teamConfig "blue") hblue (isPlain_of_all (by decide))
  obtain rfl : filled = teamConfig "red" := Except.ok.inj (hload.symm.trans hred)
  refine ⟨(team_writes_iff _).mpr rfl, (team_writes_iff _).mpr rfl, fun h ↦ ?_, hblue, hred,
    hfilled⟩
  exact absurd ((team_writes_iff _).mp h) (by decide)

/-! ### A value that is not plain -/

/-- A file of one profile, whose subscription is a reference. -/
def sampleText : List Char :=
  "[profiles.p]\nsubscription_id = \"$\x7bSUB\x7d\"\naccess_token = \"t\"\n".toList

def sampleFiles : Files :=
  Files.empty.put ["config.toml"] (.file (Utf8.encode sampleText))

/-- What the file is with a subscription in a location. -/
def sampleConfig (subscription location : String) : Config :=
  ⟨none, [("p", { Profile.new subscription (.accessToken "t") with location := location })]⟩

theorem sample_load (s : String) (c : Config)
    (h : ofText? ((Environment.empty.set "SUB" s).expand sampleText) = some c) :
    load (Environment.empty.set "SUB" s) sampleFiles "/config.toml" = .ok c :=
  (load_eq_ok_iff rfl (Utf8.decode?_encode _)).mpr h

/-- A value with a quote can end the string it is put into and bring a setting of its own. -/
theorem load_of_quote :
    load (Environment.empty.set "SUB" "s") sampleFiles "/config.toml" =
        .ok (sampleConfig "s" defaultLocation) ∧
      load (Environment.empty.set "SUB" "s\"\nlocation = \"elsewhere") sampleFiles "/config.toml" =
        .ok (sampleConfig "s" "elsewhere") ∧
      "s" ≠ "s\"\nlocation = \"elsewhere" ∧ defaultLocation ≠ "elsewhere" :=
  ⟨sample_load _ _ (by decide +kernel), sample_load _ _ (by decide +kernel), by decide, by decide⟩

end Config
end ResourceManager
