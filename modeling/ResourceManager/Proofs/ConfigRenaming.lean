import ResourceManager.Proofs.ConfigReading
import ResourceManager.Proofs.Records
import ResourceManager.Proofs.Renaming

/-!
# Texts in settings are opaque to configurations

A configuration is read from a tree, and it takes over the texts of its settings as they are.  With
other texts in the tree it is the same configuration with other texts in it
(`Config.decode?_rename`), and it was one already with the texts before
(`Config.exists_decode?_of_rename`).

Two texts are known by name: those of clouds, which are read as what they name, and that of the
default location, which stands in where there is none.  A renaming has to leave them alone.

The condition on clouds comes in two directions, and each of the two theorems needs one.  Where a
text is put in, every text that names a cloud has to go on naming it; where one is taken back, a
text that names a cloud has to have named it before.  So the text that is taken back must be no name
of a cloud, while the one that is put in may be one.

The last part is about the settings themselves, as `ResourceManager.Proofs.ConfigReading` finds them
in a configuration and in its file: their texts are renamed, and which of them are taken up is not a
matter of texts.
-/

set_option autoImplicit false

namespace ResourceManager

variable (g : String → String)

/-! ## Values

Values are read by what they are: a text, a number, a table or something else.  Renaming changes the
text and leaves the kind. -/

namespace Toml

variable {g}

/-- Where a text is asked for, there is another one. -/
theorem string?_rename (t : Toml) :
    Datum.string? (t.rename g) = (Datum.string? t).map g := by
  cases t <;> rfl

/-- Where a number is asked for, nothing has changed. -/
theorem natural?_rename (t : Toml) : Datum.natural? (t.rename g) = Datum.natural? t := by
  cases t <;> rfl

mutual

/-- Whether the integers in a value fit is no matter of its texts. -/
theorem hasOnlyWords_rename : ∀ t : Toml, hasOnlyWords (t.rename g) = hasOnlyWords t
  | .string _ | .integer _ | .float _ | .boolean _ | .datetime _ => rfl
  | .array items => by rw [rename, hasOnlyWords, hasOnlyWords, itemsHaveOnlyWords_rename items]
  | .table entries => by
    rw [rename, hasOnlyWords, hasOnlyWords, entriesHaveOnlyWords_rename entries]

theorem itemsHaveOnlyWords_rename :
    ∀ items : List Toml, itemsHaveOnlyWords (renameItems g items) = itemsHaveOnlyWords items
  | [] => rfl
  | item :: rest => by
    rw [renameItems, itemsHaveOnlyWords, itemsHaveOnlyWords, hasOnlyWords_rename item,
      itemsHaveOnlyWords_rename rest]

theorem entriesHaveOnlyWords_rename : ∀ entries : List (String × Toml),
    entriesHaveOnlyWords (renameEntries g entries) = entriesHaveOnlyWords entries
  | [] => rfl
  | (key, value) :: rest => by
    rw [renameEntries, entriesHaveOnlyWords, entriesHaveOnlyWords, hasOnlyWords_rename value,
      entriesHaveOnlyWords_rename rest]

end

/-- Dates are laid out as texts that nobody asks for; nothing else is laid out in texts. -/
theorem layout?_rename {t : Toml} (ht : ∀ written, t ≠ .datetime written) :
    Datum.layout? (t.rename g) = (Datum.layout? t).map (Layout.map (rename g)) := by
  cases t with
  | datetime written => exact absurd rfl (ht written)
  | array items => exact congrArg (some ∘ Layout.positional) (renameItems_eq_map g items)
  | table entries => exact congrArg (some ∘ Layout.named) (renameEntries_eq_map g entries)
  | _ => rfl

/-- An entry for a text may be missing, and a missing one stays so. -/
theorem optional?_string?_rename (slot : Option Toml) :
    Datum.optional? Datum.string? (slot.map (rename g)) =
      (Datum.optional? Datum.string? slot).map (Option.map g) := by
  cases slot with
  | none => rfl
  | some t => cases t <;> rfl

/-- Neither adds renaming anything to a container, nor does it take anything away. -/
theorem isEmptyContainer_rename (t : Toml) :
    isEmptyContainer (t.rename g) = isEmptyContainer t := by
  cases t with
  | array items => cases items <;> rfl
  | table entries => cases entries <;> rfl
  | _ => rfl

/-- What is no text is an alternative by the names of its entries. -/
theorem alternative?_rename (t : Toml) :
    (∃ s, t = .string s) ∨ Datum.alternative? (t.rename g) = Datum.alternative? t := by
  cases t with
  | string s => exact .inl ⟨s, rfl⟩
  | table entries =>
    refine .inr ?_
    obtain _ | ⟨⟨name, value⟩, _ | ⟨_, _⟩⟩ := entries
    · rfl
    · show (if isEmptyContainer (value.rename g) then some name else none) = _
      rw [isEmptyContainer_rename]
      rfl
    · rfl
  | _ => exact .inr rfl

end Toml

/-! ## Profiles with other texts in them

A profile has settings that are texts, a cloud, and settings for polling.  The texts change, the
cloud must not, and the settings for polling are numbers. -/

/-- Settings for polling are numbers throughout. -/
theorem PollSetting.decode?_rename (t : Toml) : decode? (t.rename g) = decode? t := by
  have hinterval : ∀ slot : Option Toml,
      Datum.withDefault? Datum.natural? PollPolicy.defaultSeconds (slot.map (Toml.rename g)) =
        Datum.withDefault? Datum.natural? PollPolicy.defaultSeconds slot := by
    intro slot
    cases slot with
    | none => rfl
    | some t => exact Toml.natural?_rename t
  have htimeout : ∀ slot : Option Toml,
      Datum.optional? Datum.natural? (slot.map (Toml.rename g)) =
        Datum.optional? Datum.natural? slot := by
    intro slot
    cases slot with
    | none => rfl
    | some t => exact congrArg (Option.map some) (Toml.natural?_rename t)
  by_cases hdate : ∃ written, t = .datetime written
  · obtain ⟨written, rfl⟩ := hdate
    rfl
  · rw [decode?, decode?, Toml.layout?_rename fun written h ↦ hdate ⟨written, h⟩]
    cases Datum.layout? t with
    | none => rfl
    | some l =>
      simp only [Option.map_some, Option.bind_eq_bind, Option.bind_some, Layout.slots?_map]
      cases l.slots? [⟨"interval_secs", .defaulted⟩, ⟨"timeout_secs", .defaulted⟩] with
      | none => rfl
      | some slots =>
        obtain _ | ⟨interval, _ | ⟨timeout, _ | ⟨_, _⟩⟩⟩ := slots
        · rfl
        · rfl
        · simp only [Option.map_some, Option.bind_some, List.map_cons, List.map_nil, hinterval,
            htimeout]
        · rfl

namespace Credentials

def rename : Credentials → Credentials
  | clientSecret tenantId clientId secret => clientSecret (g tenantId) (g clientId) (g secret)
  | accessToken token => accessToken (g token)

end Credentials

namespace Profile

def rename (p : Profile) : Profile :=
  { p with
    subscriptionId := g p.subscriptionId
    resourceGroup := p.resourceGroup.map g
    location := g p.location
    credentials := p.credentials.rename g
    userAgent := p.userAgent.map g }

variable {g}

/-- Credentials are found by names, and each has to be there once. -/
theorem textOf?_rename (members : List (String × Toml)) (name : String) :
    textOf? (members.map fun m ↦ (m.1, m.2.rename g)) name = (textOf? members name).map g := by
  rw [textOf?, textOf?, Layout.filter_map (Toml.rename g) members (· == name)]
  cases members.filter (·.1 == name) with
  | nil => rfl
  | cons m rest =>
    cases rest with
    | nil => exact Toml.string?_rename m.2
    | cons _ _ => rfl

/-- So which kind of credentials there is does not change, and their texts do. -/
theorem credentials?_rename (members : List (String × Toml)) :
    credentials? (members.map fun m ↦ (m.1, m.2.rename g)) =
      (credentials? members).map (Credentials.rename g) := by
  simp only [credentials?, textOf?_rename]
  cases textOf? members "tenant_id" <;> cases textOf? members "client_id" <;>
    cases textOf? members "client_secret" <;> cases textOf? members "access_token" <;> rfl

/-! ### Renaming what is read -/

variable (members : List (String × Toml))

/-- What is found by the name of a field. -/
theorem slot?_rename (name : String) : slot? (Toml.renameEntries g members) name =
    (slot? members name).map (Option.map (Toml.rename g)) := by
  rw [Toml.renameEntries_eq_map]
  exact Layout.slotNamed?_map (Toml.rename g) members ⟨name, .defaulted⟩

/-- What has no name of a field is left over as before. -/
theorem others_rename : others (Toml.renameEntries g members) =
    Toml.renameEntries g (others members) := by
  rw [Toml.renameEntries_eq_map, Toml.renameEntries_eq_map]
  exact Layout.filter_map (Toml.rename g) members fun name ↦ !fields.any (·.name == name)

/-- And it can be passed over as before. -/
theorem ignorable_rename : (Toml.renameEntries g members).all (Datum.isIgnorable ·.2) =
    members.all (Datum.isIgnorable ·.2) := by
  rw [Toml.renameEntries_eq_map, List.all_map]
  exact congrArg members.all (funext fun m ↦ Toml.hasOnlyWords_rename m.2)

/-- A text that has to be there. -/
theorem required_rename (name : String) :
    ((slot? (Toml.renameEntries g members) name).bind id).bind Datum.string? =
      (((slot? members name).bind id).bind Datum.string?).map g := by
  rw [slot?_rename]
  rcases slot? members name with _ | _ | t
  · rfl
  · rfl
  · exact Toml.string?_rename t

/-- A text that may be missing. -/
theorem optional_rename (name : String) :
    (slot? (Toml.renameEntries g members) name).bind (Datum.optional? Datum.string?) =
      ((slot? members name).bind (Datum.optional? Datum.string?)).map (Option.map g) := by
  rw [slot?_rename]
  cases slot? members name with
  | none => rfl
  | some slot => exact Toml.optional?_string?_rename slot

/-- A text with a default, which has to be one that renaming leaves alone. -/
theorem defaulted_rename {default : String} (hg : g default = default) (name : String) :
    (slot? (Toml.renameEntries g members) name).bind (Datum.withDefault? Datum.string? default) =
      ((slot? members name).bind (Datum.withDefault? Datum.string? default)).map g := by
  rw [slot?_rename]
  rcases slot? members name with _ | _ | t
  · rfl
  · exact congrArg some hg.symm
  · exact Toml.string?_rename t

/-- The settings for polling are what they were. -/
theorem poll_rename (name : String) :
    (slot? (Toml.renameEntries g members) name).bind (Datum.optional? PollSetting.decode?) =
      (slot? members name).bind (Datum.optional? PollSetting.decode?) := by
  rw [slot?_rename]
  rcases slot? members name with _ | _ | t
  · rfl
  · rfl
  · exact congrArg (Option.map some) (PollSetting.decode?_rename g t)

/-- A cloud is what it was, or it is that of another text. -/
theorem cloud_rename (name : String) :
    (∃ s, (slot? members name).bind (Datum.withDefault? Cloud.decode? .publicCloud) =
        Cloud.ofName? s ∧
      (slot? (Toml.renameEntries g members) name).bind
        (Datum.withDefault? Cloud.decode? .publicCloud) = Cloud.ofName? (g s)) ∨
    (slot? (Toml.renameEntries g members) name).bind
        (Datum.withDefault? Cloud.decode? .publicCloud) =
      (slot? members name).bind (Datum.withDefault? Cloud.decode? .publicCloud) := by
  rw [slot?_rename]
  rcases slot? members name with _ | _ | t
  · exact .inr rfl
  · exact .inr rfl
  · rcases Toml.alternative?_rename (g := g) t with ⟨s, rfl⟩ | hsame
    · exact .inl ⟨s, rfl, rfl⟩
    · exact .inr (congrArg (·.bind Cloud.ofName?) hsame)

variable {members} {p : Profile}

/-- A profile is still one with other texts in it, if those that name a cloud are the same. -/
theorem Reads.rename (hlocation : g defaultLocation = defaultLocation)
    (hcloud : ∀ s k, Cloud.ofName? s = some k → Cloud.ofName? (g s) = some k)
    (h : Reads members p) : Reads (Toml.renameEntries g members) (p.rename g) where
  ignorable := by rw [others_rename, ignorable_rename, h.ignorable]
  subscriptionId := by rw [required_rename, h.subscriptionId]; rfl
  resourceGroup := by rw [optional_rename, h.resourceGroup]; rfl
  location := by rw [defaulted_rename members hlocation, h.location]; rfl
  cloud := by
    rcases cloud_rename (g := g) members "cloud" with ⟨s, hs, hs'⟩ | hsame
    · exact hs'.trans (hcloud s _ (hs.symm.trans h.cloud))
    · exact hsame.trans h.cloud
  credentials := by
    rw [others_rename, Toml.renameEntries_eq_map, credentials?_rename, h.credentials]
    rfl
  poll := by rw [poll_rename, h.poll]; rfl
  userAgent := by rw [optional_rename, h.userAgent]; rfl

/-- If it is one with other texts in it, it was one before. -/
theorem Reads.exists_of_rename (hlocation : g defaultLocation = defaultLocation)
    (hcloud : ∀ s k, Cloud.ofName? (g s) = some k → Cloud.ofName? s = some k)
    (h : Reads (Toml.renameEntries g members) p) : ∃ p', Reads members p' := by
  have hcredentials := h.credentials
  rw [others_rename, Toml.renameEntries_eq_map, credentials?_rename] at hcredentials
  obtain ⟨sub, hsub, -⟩ := Option.map_eq_some_iff.mp
    ((required_rename members _).symm.trans h.subscriptionId)
  obtain ⟨group, hgroup, -⟩ := Option.map_eq_some_iff.mp
    ((optional_rename members _).symm.trans h.resourceGroup)
  obtain ⟨location, hloc, -⟩ := Option.map_eq_some_iff.mp
    ((defaulted_rename members hlocation _).symm.trans h.location)
  obtain ⟨credentials, hcreds, -⟩ := Option.map_eq_some_iff.mp hcredentials
  obtain ⟨agent, hagent, -⟩ := Option.map_eq_some_iff.mp
    ((optional_rename members _).symm.trans h.userAgent)
  exact ⟨⟨sub, group, location, p.cloud, credentials, p.poll, agent⟩, {
    ignorable := by rw [← ignorable_rename (g := g), ← others_rename, h.ignorable]
    subscriptionId := hsub
    resourceGroup := hgroup
    location := hloc
    cloud := by
      rcases cloud_rename (g := g) members "cloud" with ⟨s, hs, hs'⟩ | hsame
      · exact hs.trans (hcloud s _ (hs'.symm.trans h.cloud))
      · exact hsame.symm.trans h.cloud
    credentials := hcreds
    poll := (poll_rename members _).symm.trans h.poll
    userAgent := hagent }⟩

theorem decode?_rename (hlocation : g defaultLocation = defaultLocation)
    (hcloud : ∀ s k, Cloud.ofName? s = some k → Cloud.ofName? (g s) = some k) {t : Toml}
    (h : decode? t = some p) : decode? (t.rename g) = some (p.rename g) := by
  cases t with
  | table members =>
    exact (decode?_table_iff _ _).mpr (((decode?_table_iff _ _).mp h).rename hlocation hcloud)
  | _ => cases h

/-- And a value that is a profile with other texts was one before. -/
theorem exists_decode?_of_rename (hlocation : g defaultLocation = defaultLocation)
    (hcloud : ∀ s k, Cloud.ofName? (g s) = some k → Cloud.ofName? s = some k) {t : Toml}
    (h : decode? (t.rename g) = some p) : ∃ p', decode? t = some p' := by
  cases t with
  | table members =>
    obtain ⟨p', hp'⟩ := ((decode?_table_iff _ _).mp h).exists_of_rename hlocation hcloud
    exact ⟨p', (decode?_table_iff _ _).mpr hp'⟩
  | _ => cases h

end Profile

/-! ## Configurations with other texts in them

Profiles are sorted by their names, and names are no values; so the order does not change. -/

namespace Json

/-- Where an entry goes depends on its name only. -/
theorem insertMember_map {α β : Type} (h : α → β) (name : String) (value : α)
    (members : List (String × α)) : insertMember name (h value) (members.map fun m ↦ (m.1, h m.2)) =
      (insertMember name value members).map fun m ↦ (m.1, h m.2) := by
  induction members with
  | nil => rfl
  | cons m members ih =>
    rw [List.map_cons, insertMember, insertMember]
    split
    · rfl
    split
    · rfl
    · rw [ih, List.map_cons]

/-- So sorting entries does not look at what they are. -/
theorem sortMembers_map {α β : Type} (h : α → β) (members : List (String × α)) :
    sortMembers (members.map fun m ↦ (m.1, h m.2)) =
      (sortMembers members).map fun m ↦ (m.1, h m.2) := by
  have hfold : ∀ sorted : List (String × α),
      (members.map fun m ↦ (m.1, h m.2)).foldl (fun sorted m ↦ insertMember m.1 m.2 sorted)
        (sorted.map fun m ↦ (m.1, h m.2)) =
      (members.foldl (fun sorted m ↦ insertMember m.1 m.2 sorted) sorted).map
        fun m ↦ (m.1, h m.2) := by
    induction members with
    | nil => exact fun _ ↦ rfl
    | cons m members ih =>
      intro sorted
      have hinsert := insertMember_map h m.1 m.2 sorted
      rw [List.map_cons, List.foldl_cons, List.foldl_cons, ← ih, ← hinsert]
  exact hfold []

end Json

namespace Config

/-- A configuration with other texts in its settings; the names of profiles are no settings. -/
def rename (c : Config) : Config :=
  ⟨c.defaultProfile.map g, c.profiles.map fun p ↦ (p.1, p.2.rename g)⟩

variable {g}

variable (hlocation : g defaultLocation = defaultLocation)
include hlocation

/-! ### Other texts instead -/

section Rename

variable (hcloud : ∀ s k, Cloud.ofName? s = some k → Cloud.ofName? (g s) = some k)
include hcloud

/-- All profiles of a table, each with other texts in it. -/
theorem members?_rename {members : List (String × Toml)} : ∀ {ps : List (String × Profile)},
    members.mapM (fun m ↦ (Profile.decode? m.2).map (m.1, ·)) = some ps →
      (Toml.renameEntries g members).mapM (fun m ↦ (Profile.decode? m.2).map (m.1, ·)) =
        some (ps.map fun p ↦ (p.1, p.2.rename g)) := by
  induction members with
  | nil =>
    intro ps h
    cases h
    rfl
  | cons m members ih =>
    intro ps h
    simp only [List.mapM_cons, Option.bind_eq_bind, Option.bind_eq_some_iff, Option.map_eq_some_iff,
      Option.pure_def, Option.some.injEq] at h
    obtain ⟨_, ⟨p, hp, rfl⟩, rest, hrest, rfl⟩ := h
    simp [Toml.renameEntries, Profile.decode?_rename hlocation hcloud hp, ih hrest]

/-- They are sorted behind that, which makes no difference. -/
theorem profiles?_rename {t : Toml} {ps : List (String × Profile)} (h : profiles? t = some ps) :
    profiles? (t.rename g) = some (ps.map fun p ↦ (p.1, p.2.rename g)) := by
  cases t with
  | table members =>
    obtain ⟨found, hfound, hsort⟩ := Option.bind_eq_some_iff.mp h
    have hrename := members?_rename hlocation hcloud hfound
    refine Option.bind_eq_some_iff.mpr ⟨_, hrename, ?_⟩
    rw [Json.sortMembers_map, Option.some_inj.mp hsort]
    rfl
  | _ => cases h

theorem decode?_rename {t : Toml} {c : Config} (h : decode? t = some c) :
    decode? (t.rename g) = some (c.rename g) := by
  -- a date is laid out in a text of its own, which is no setting
  by_cases hdate : ∃ written, t = .datetime written
  · obtain ⟨written, rfl⟩ := hdate
    cases h
    rfl
  obtain ⟨l, name, profiles, hl, hslots, hname, hprofiles⟩ := (decode?_eq_some_iff t c).mp h
  refine (decode?_eq_some_iff _ _).mpr
    ⟨l.map (Toml.rename g), name.map (Toml.rename g), profiles.map (Toml.rename g), ?_, ?_, ?_, ?_⟩
  · rw [Toml.layout?_rename fun written ht ↦ hdate ⟨written, ht⟩, hl]
    rfl
  · rw [Layout.slots?_map, hslots]
    rfl
  · rw [Toml.optional?_string?_rename, hname]
    rfl
  · cases profiles with
    | none => exact congrArg (some ∘ List.map _) (Option.some_inj.mp hprofiles)
    | some t => exact profiles?_rename hlocation hcloud hprofiles

end Rename

/-! ### The text that was there -/

section Before

variable (hcloud : ∀ s k, Cloud.ofName? (g s) = some k → Cloud.ofName? s = some k)
include hcloud

/-- If all of them can be read with other texts, they could be read before. -/
theorem exists_members?_of_rename {members : List (String × Toml)} :
    ∀ {ps : List (String × Profile)}, (Toml.renameEntries g members).mapM
        (fun m ↦ (Profile.decode? m.2).map (m.1, ·)) = some ps →
      ∃ ps', members.mapM (fun m ↦ (Profile.decode? m.2).map (m.1, ·)) = some ps' := by
  induction members with
  | nil => exact fun _ ↦ ⟨[], rfl⟩
  | cons m members ih =>
    intro ps h
    simp only [Toml.renameEntries, List.mapM_cons, Option.bind_eq_bind, Option.bind_eq_some_iff,
      Option.map_eq_some_iff, Option.pure_def, Option.some.injEq] at h
    obtain ⟨_, ⟨p, hp, rfl⟩, rest, hrest, rfl⟩ := h
    obtain ⟨p', hp'⟩ := Profile.exists_decode?_of_rename hlocation hcloud hp
    obtain ⟨rest', hrest'⟩ := ih hrest
    exact ⟨(m.1, p') :: rest', by simp [hp', hrest']⟩

theorem exists_profiles?_of_rename {t : Toml} {ps : List (String × Profile)}
    (h : profiles? (t.rename g) = some ps) : ∃ ps', profiles? t = some ps' := by
  cases t with
  | table members =>
    obtain ⟨found, hfound, -⟩ := Option.bind_eq_some_iff.mp h
    obtain ⟨found', hfound'⟩ := exists_members?_of_rename hlocation hcloud hfound
    exact ⟨_, Option.bind_eq_some_iff.mpr ⟨found', hfound', rfl⟩⟩
  | _ => cases h

theorem exists_decode?_of_rename {t : Toml} {c : Config} (h : decode? (t.rename g) = some c) :
    ∃ c', decode? t = some c' := by
  by_cases hdate : ∃ written, t = .datetime written
  · obtain ⟨written, rfl⟩ := hdate
    exact ⟨c, h⟩
  obtain ⟨l', name', profiles', hl', hslots', hname', hprofiles'⟩ := (decode?_eq_some_iff _ c).mp h
  rw [Toml.layout?_rename fun written ht ↦ hdate ⟨written, ht⟩] at hl'
  obtain ⟨l, hl, rfl⟩ := Option.map_eq_some_iff.mp hl'
  rw [Layout.slots?_map] at hslots'
  obtain ⟨slots, hslots, heq⟩ := Option.map_eq_some_iff.mp hslots'
  obtain ⟨name, rest, rfl, rfl, hrest⟩ := List.map_eq_cons_iff.mp heq
  obtain ⟨profiles, rfl, rfl⟩ := List.map_eq_singleton_iff.mp hrest
  rw [Toml.optional?_string?_rename] at hname'
  obtain ⟨defaultProfile, hname, -⟩ := Option.map_eq_some_iff.mp hname'
  obtain ⟨ps, hprofiles⟩ : ∃ ps, Datum.withDefault? profiles? [] profiles = some ps := by
    cases profiles with
    | none => exact ⟨[], rfl⟩
    | some t => exact exists_profiles?_of_rename hlocation hcloud hprofiles'
  exact ⟨⟨defaultProfile, ps⟩,
    (decode?_eq_some_iff t _).mpr ⟨l, name, profiles, hl, hslots, hname, hprofiles⟩⟩

end Before

end Config

/-! ## The texts of a configuration

A setting has a text in the configuration and an entry in the file, and renaming acts on both. -/

/-- The settings of a profile, each by its name. -/
theorem Profile.text?_rename (p : Profile) (key : String) :
    (p.rename g).text? key = (p.text? key).map g := by
  obtain ⟨_, _, _, _, credentials, _, _⟩ := p
  cases credentials <;> simp only [Profile.text?, rename, Credentials.rename, Credentials.text?] <;>
    (repeat' split) <;> rfl

/-- A profile is found by its name, which stays. -/
theorem Config.profile?_rename (c : Config) (name : String) :
    (c.rename g).profile? name = (c.profile? name).map (Profile.rename g) := by
  obtain ⟨_, profiles⟩ := c
  show (profiles.map fun p ↦ (p.1, p.2.rename g)).lookup name = (profiles.lookup name).map _
  induction profiles with
  | nil => rfl
  | cons p profiles ih =>
    rw [List.map_cons, List.lookup_cons, List.lookup_cons]
    split
    · rfl
    · exact ih

namespace Toml

/-- A field of a table is found by its name, and may have another text. -/
theorem field?_rename (t : Toml) (name : String) :
    (t.rename g).field? name = (t.field? name).map (rename g) := by
  cases t with
  | table entries =>
    rw [rename, field?, field?, renameEntries_eq_map, Layout.slotNamed?_map]
    rcases Layout.slotNamed? entries ⟨name, .defaulted⟩ with _ | _ | _ <;> rfl
  | _ => rfl

/-- Of several entries with one name the last is the same. -/
theorem lastField?_rename (t : Toml) (name : String) :
    (t.rename g).lastField? name = (t.lastField? name).map (rename g) := by
  cases t with
  | table entries =>
    rw [rename, lastField?, lastField?, renameEntries_eq_map,
      Layout.filter_map (rename g) entries (· == name), List.getLast?_map]
    cases (entries.filter (·.1 == name)).getLast? <;> rfl
  | _ => rfl

end Toml

namespace Setting

theorem text?_rename (c : Config) (s : Setting) :
    s.text? (c.rename g) = (s.text? c).map g := by
  cases s with
  | defaultProfile => rfl
  | ofProfile name key =>
    rw [text?, text?, Config.profile?_rename]
    cases c.profile? name with
    | none => rfl
    | some p => exact p.text?_rename g key

theorem inFile?_rename (t : Toml) (s : Setting) :
    s.inFile? (t.rename g) = (s.inFile? t).map (Toml.rename g) := by
  cases s with
  | defaultProfile => exact Toml.field?_rename g t _
  | ofProfile name key =>
    rw [inFile?, inFile?, Toml.field?_rename]
    cases t.field? "profiles" with
    | none => rfl
    | some profiles =>
      rw [Option.map_some, Option.bind_some, Option.bind_some, Toml.lastField?_rename]
      cases profiles.lastField? name with
      | none => rfl
      | some members => exact Toml.field?_rename g members key

/-- Which entries are taken up goes by which are texts, whatever the texts are. -/
theorem isTaken_rename (t : Toml) (s : Setting) : s.IsTaken (t.rename g) ↔ s.IsTaken t := by
  cases s with
  | defaultProfile => rfl
  | ofProfile name key =>
    have htext : ∀ key, (∃ x, (ofProfile name key).inFile? (t.rename g) = some (.string x)) ↔
        ∃ x, (ofProfile name key).inFile? t = some (.string x) := by
      intro key
      rw [inFile?_rename]
      rcases (ofProfile name key).inFile? t with _ | u
      · rfl
      · cases u <;> simp [Toml.rename]
    simp only [IsTaken, Profile.TakesUp, Profile.NamesApplication, htext]

end Setting

end ResourceManager
