import ResourceManager.Config.Text

/-!
# What configurations are read from

A profile is read from what is laid out by names, such as a table.  `Profile.Reads` says what the
entries have to be for the profile, one field at a time, and `Profile.decode?_named_iff` that this
is all there is to it; `Profile.decode?_table_iff` is its case for tables.

A configuration is texts, with a cloud and a poll setting for each profile.  `Setting` names the
texts, `Setting.valueOf?` says where each stands in the tree of a file, and `Setting.text?_iff` that
a text is there exactly when its entry is, and is taken up: of the credentials of a profile only
one kind is, so that an entry of the other kind is not looked at.

The decoder is written in the order in which fields are read, and an error in any of them is the
same to it.  As a structure with a field for each entry, `Profile.Reads` can be taken apart, changed
in one place and put together again, which is what the laws on renamed files and on fields that do
not count are made of.
-/

set_option autoImplicit false

namespace ResourceManager

namespace Toml

/-- The value under a name that is there once. -/
def field? (t : Toml) (name : String) : Option Toml :=
  match t with
  | .table entries => (Layout.slotNamed? entries ⟨name, .defaulted⟩).bind id
  | _ => none

/-- The value under a name.  The text of a file has no name twice; in a tree that has, the last one
is what a profile is read from. -/
def lastField? (t : Toml) (name : String) : Option Toml :=
  match t with
  | .table entries => (entries.filter (·.1 == name)).getLast?.map (·.2)
  | _ => none

theorem string?_iff (t : Toml) (s : String) : Datum.string? t = some s ↔ t = .string s := by
  cases t <;> simp [Datum.string?]

end Toml

/-! ## Profiles -/

namespace Credentials

/-- The text of a field. -/
def text? (key : String) : Credentials → Option String
  | clientSecret tenantId clientId secret =>
    if key = "tenant_id" then some tenantId
    else if key = "client_id" then some clientId
    else if key = "client_secret" then some secret
    else none
  | accessToken token => if key = "access_token" then some token else none

end Credentials

namespace Profile

/-- The text of a field. -/
def text? (p : Profile) (key : String) : Option String :=
  if key = "subscription_id" then some p.subscriptionId
  else if key = "resource_group" then p.resourceGroup
  else if key = "location" then some p.location
  else if key = "user_agent" then p.userAgent
  else p.credentials.text? key

section Members

variable {α : Type}

/-- The entries that are not fields of every profile. -/
def others (members : List (String × α)) : List (String × α) :=
  members.filter fun m ↦ !fields.any (·.name == m.1)

/-- Under a name the other entries are all the entries, unless it is that of a field. -/
theorem filter_others (members : List (String × α)) (name : String) :
    (others members).filter (·.1 == name) =
      if fields.any (·.name == name) then [] else members.filter (·.1 == name) := by
  have hname : (fun m : String × α ↦ m.1 == name && !fields.any (·.name == m.1)) =
      fun m ↦ !fields.any (·.name == name) && m.1 == name := by
    funext m
    by_cases hm : m.1 = name
    · rw [hm, Bool.and_comm]
    · rw [beq_false_of_ne hm, Bool.false_and, Bool.and_false]
  rw [others, List.filter_filter, hname]
  cases fields.any (·.name == name) <;> simp

/-- The entry of a field. -/
def slot? (members : List (String × α)) (name : String) : Option (Option α) :=
  Layout.slotNamed? members ⟨name, .defaulted⟩

theorem slotNamed?_required (members : List (String × α)) (name : String) (x : Option α) :
    Layout.slotNamed? members ⟨name, .required⟩ = some x ↔
      ∃ a, x = some a ∧ slot? members name = some (some a) := by
  rw [slot?, Layout.slotNamed?, Layout.slotNamed?]
  cases members.filter (·.1 == name) with
  | nil => simp
  | cons m rest =>
    cases rest with
    | nil => exact ⟨fun h ↦ ⟨m.2, (Option.some_inj.mp h).symm, rfl⟩, by rintro ⟨a, rfl, h⟩; exact h⟩
    | cons _ _ => simp

theorem slots?_eq_some_iff (members : List (String × α)) (slots : List (Option α)) :
    (Layout.named members).slots? fields = some slots ↔
      ∃ subscriptionId resourceGroup location cloud poll userAgent,
        slots = [some subscriptionId, resourceGroup, location, cloud, poll, userAgent] ∧
        slot? members "subscription_id" = some (some subscriptionId) ∧
        slot? members "resource_group" = some resourceGroup ∧
        slot? members "location" = some location ∧ slot? members "cloud" = some cloud ∧
        slot? members "poll" = some poll ∧ slot? members "user_agent" = some userAgent := by
  constructor
  · intro h
    simp only [Layout.slots?, fields, List.mapM_cons, List.mapM_nil, Option.bind_eq_bind,
      Option.bind_eq_some_iff, Option.pure_def, Option.some.injEq] at h
    obtain ⟨sub, h1, _, ⟨group, h2, _, ⟨loc, h3, _, ⟨cloud, h4, _, ⟨poll, h5, _, ⟨agent, h6, _,
      rfl, rfl⟩, rfl⟩, rfl⟩, rfl⟩, rfl⟩, rfl⟩ := h
    obtain ⟨a, rfl, hsub⟩ := (slotNamed?_required members _ _).mp h1
    exact ⟨a, group, loc, cloud, poll, agent, rfl, hsub, h2, h3, h4, h5, h6⟩
  · rintro ⟨a, group, loc, cloud, poll, agent, rfl, h1, h2, h3, h4, h5, h6⟩
    have h1' := (slotNamed?_required members "subscription_id" _).mpr ⟨a, rfl, h1⟩
    rw [slot?] at h2 h3 h4 h5 h6
    simp only [Layout.slots?, fields, List.mapM_cons, List.mapM_nil, Option.bind_eq_bind, h1', h2,
      h3, h4, h5, h6, Option.bind_some, Option.pure_def]

variable [Datum α]

/-- What the entries of a table have to be for a profile. -/
structure Reads (members : List (String × α)) (p : Profile) : Prop where
  ignorable : (others members).all (Datum.isIgnorable ·.2) = true
  subscriptionId : ((slot? members "subscription_id").bind id).bind Datum.string? =
    some p.subscriptionId
  resourceGroup : (slot? members "resource_group").bind (Datum.optional? Datum.string?) =
    some p.resourceGroup
  location : (slot? members "location").bind (Datum.withDefault? Datum.string? defaultLocation) =
    some p.location
  cloud : (slot? members "cloud").bind (Datum.withDefault? Cloud.decode? .publicCloud) =
    some p.cloud
  credentials : credentials? (others members) = some p.credentials
  poll : (slot? members "poll").bind (Datum.optional? PollSetting.decode?) = some p.poll
  userAgent : (slot? members "user_agent").bind (Datum.optional? Datum.string?) = some p.userAgent

/-- A profile is read from what is laid out by names exactly if the entries are what they have to
be. -/
theorem decode?_named_iff {a : α} {members : List (String × α)}
    (hlayout : Datum.layout? a = some (.named members)) (p : Profile) :
    decode? a = some p ↔ Reads members p := by
  constructor
  · intro h
    rw [decode?, hlayout, Option.bind_eq_bind, Option.bind_some] at h
    simp only at h
    split at h
    · cases h
    rename_i hignorable
    cases hslots : (Layout.named members).slots? fields with
    | none =>
      rw [hslots] at h
      cases h
    | some slots =>
      -- one entry for each field; the readings below are of these
      obtain ⟨subscriptionId, resourceGroup, location, cloud, poll, userAgent, rfl, h1, h2, h3, h4,
        h5, h6⟩ := (slots?_eq_some_iff members slots).mp hslots
      rw [hslots] at h
      simp only [Option.bind_eq_bind, Option.bind_some, Option.bind_eq_some_iff, Option.pure_def,
        Option.some.injEq] at h
      obtain ⟨s, hs, group, hgroup, loc, hloc, c, hc, creds, hcreds, po, hpo, agent, hagent,
        rfl⟩ := h
      exact {
        ignorable := by
          rw [others]
          simpa only [Bool.not_eq_true', Bool.not_eq_false] using hignorable
        subscriptionId := by rw [h1]; exact hs
        resourceGroup := by rw [h2]; exact hgroup
        location := by rw [h3]; exact hloc
        cloud := by rw [h4]; exact hc
        credentials := hcreds
        poll := by rw [h5]; exact hpo
        userAgent := by rw [h6]; exact hagent }
  · intro h
    obtain ⟨sub, h1', hs⟩ := Option.bind_eq_some_iff.mp h.subscriptionId
    obtain ⟨slot, h1, hslot⟩ := Option.bind_eq_some_iff.mp h1'
    obtain rfl : slot = some sub := hslot
    obtain ⟨group, h2, hgroup⟩ := Option.bind_eq_some_iff.mp h.resourceGroup
    obtain ⟨loc, h3, hloc⟩ := Option.bind_eq_some_iff.mp h.location
    obtain ⟨cloud, h4, hcloud⟩ := Option.bind_eq_some_iff.mp h.cloud
    obtain ⟨poll, h5, hpoll⟩ := Option.bind_eq_some_iff.mp h.poll
    obtain ⟨agent, h6, hagent⟩ := Option.bind_eq_some_iff.mp h.userAgent
    have hslots := (slots?_eq_some_iff members _).mpr
      ⟨sub, group, loc, cloud, poll, agent, rfl, h1, h2, h3, h4, h5, h6⟩
    have hignorable := h.ignorable
    have hcredentials := h.credentials
    rw [others] at hignorable hcredentials
    rw [decode?, hlayout, Option.bind_eq_bind, Option.bind_some]
    simp only [hignorable, hslots, hs, hgroup, hloc, hcloud, hpoll, hagent, hcredentials,
      Option.bind_eq_bind, Option.bind_some, Bool.not_true, Bool.false_eq_true, if_false,
      Option.pure_def]

end Members

theorem decode?_table_iff (members : List (String × Toml)) (p : Profile) :
    decode? (Toml.table members) = some p ↔ Reads members p :=
  decode?_named_iff rfl p

/-! ### Texts and their entries

A text may be required, may be left out, or may have a default.  With a default there are two ways
to have the text, and only one of them is an entry, so the default itself is excluded here.
-/

/-- The texts that are read on their own. -/
def textNames : List String := ["subscription_id", "resource_group", "location", "user_agent"]

/-- The texts that are the credentials of an application when all of them are there. -/
def applicationNames : List String := ["tenant_id", "client_id", "client_secret"]

/-- Whether the entries of a profile have the texts of an application. -/
def NamesApplication (entry : String → Option Toml) : Prop :=
  ∀ key ∈ applicationNames, ∃ s, entry key = some (.string s)

/-- Whether the entry of a name is a text of the profile.  An application goes before a token, and
what there is of it counts for nothing when a part is missing. -/
def TakesUp (entry : String → Option Toml) (key : String) : Prop :=
  key ∈ textNames ∨ key ∈ applicationNames ∧ NamesApplication entry ∨
    key = "access_token" ∧ ¬ NamesApplication entry

/-- A profile is its texts, its cloud and its poll setting. -/
theorem eq_of_texts {p q : Profile} (hcloud : p.cloud = q.cloud) (hpoll : p.poll = q.poll)
    (htext : ∀ key, p.text? key = q.text? key) : p = q := by
  obtain ⟨sub, group, location, cloud, credentials, poll, agent⟩ := p
  obtain ⟨sub', group', location', cloud', credentials', poll', agent'⟩ := q
  obtain rfl : sub = sub' := Option.some_inj.mp (htext "subscription_id")
  obtain rfl : group = group' := htext "resource_group"
  obtain rfl : location = location' := Option.some_inj.mp (htext "location")
  obtain rfl : agent = agent' := htext "user_agent"
  obtain rfl : cloud = cloud' := hcloud
  obtain rfl : poll = poll' := hpoll
  have htenant : credentials.text? "tenant_id" = credentials'.text? "tenant_id" :=
    htext "tenant_id"
  have hclient : credentials.text? "client_id" = credentials'.text? "client_id" :=
    htext "client_id"
  have hsecret : credentials.text? "client_secret" = credentials'.text? "client_secret" :=
    htext "client_secret"
  have htoken : credentials.text? "access_token" = credentials'.text? "access_token" :=
    htext "access_token"
  cases credentials <;> cases credentials' <;>
    simp_all [Credentials.text?]

section Entries

variable {members : List (String × Toml)} {p : Profile} {key w : String}

/-- The entry that a text of a profile is read from. -/
def valueOf? (members : List (String × Toml)) (key : String) : Option Toml :=
  (Toml.table members).field? key

theorem text_of_required {s : String}
    (h : ((slot? members key).bind id).bind Datum.string? = some s) :
    s = w ↔ valueOf? members key = some (.string w) := by
  obtain ⟨t, ht, hread⟩ := Option.bind_eq_some_iff.mp h
  rw [Toml.string?_iff] at hread
  show s = w ↔ (slot? members key).bind id = _
  rw [ht, hread, Option.some_inj, Toml.string.injEq]

theorem text_of_optional {s : Option String}
    (h : (slot? members key).bind (Datum.optional? Datum.string?) = some s) :
    s = some w ↔ valueOf? members key = some (.string w) := by
  obtain ⟨slot, hslot, hread⟩ := Option.bind_eq_some_iff.mp h
  show s = some w ↔ (slot? members key).bind id = _
  rw [hslot, Option.bind_some]
  cases slot with
  | none => simp [← Option.some_inj.mp hread]
  | some t =>
    obtain ⟨x, hx, rfl⟩ := Option.map_eq_some_iff.mp hread
    rw [Toml.string?_iff] at hx
    rw [id, hx, Option.some_inj, Option.some_inj, Toml.string.injEq]

theorem text_of_defaulted {s default : String} (hw : w ≠ default)
    (h : (slot? members key).bind (Datum.withDefault? Datum.string? default) = some s) :
    s = w ↔ valueOf? members key = some (.string w) := by
  obtain ⟨slot, hslot, hread⟩ := Option.bind_eq_some_iff.mp h
  show s = w ↔ (slot? members key).bind id = _
  rw [hslot, Option.bind_some]
  cases slot with
  | none =>
    rw [← Option.some_inj.mp hread]
    simp [hw.symm]
  | some t =>
    have hx := (Toml.string?_iff t s).mp hread
    rw [id, hx, Option.some_inj, Toml.string.injEq]

/-- Credentials are read from the entries that are not fields of every profile, but that leaves out
none of theirs. -/
theorem textOf?_others_eq_some_iff (hkey : fields.any (·.name == key) = false) :
    textOf? (others members) key = some w ↔ valueOf? members key = some (.string w) := by
  show _ ↔ (slot? members key).bind id = _
  rw [textOf?, filter_others, hkey, if_neg Bool.false_ne_true, slot?, Layout.slotNamed?]
  generalize members.filter (·.1 == key) = found
  obtain _ | ⟨m, _ | ⟨_, _⟩⟩ := found <;> simp [Toml.string?_iff]

theorem text?_of_credentials? {c : Credentials} (h : credentials? (others members) = some c)
    (hkey : key ∉ textNames) : c.text? key = some w ↔
      valueOf? members key = some (.string w) ∧ TakesUp (valueOf? members) key := by
  have htenant := fun s ↦ @textOf?_others_eq_some_iff members "tenant_id" s rfl
  have hclient := fun s ↦ @textOf?_others_eq_some_iff members "client_id" s rfl
  have hsecret := fun s ↦ @textOf?_others_eq_some_iff members "client_secret" s rfl
  have htoken := fun s ↦ @textOf?_others_eq_some_iff members "access_token" s rfl
  have hall : NamesApplication (valueOf? members) ↔
      (∃ s, valueOf? members "tenant_id" = some (.string s)) ∧
        (∃ s, valueOf? members "client_id" = some (.string s)) ∧
        ∃ s, valueOf? members "client_secret" = some (.string s) := by
    simp [NamesApplication, applicationNames]
  rw [credentials?] at h
  split at h
  · rename_i tenantId clientId secret hfound hfound' hfound''
    rw [htenant] at hfound
    rw [hclient] at hfound'
    rw [hsecret] at hfound''
    have happ := hall.mpr ⟨⟨_, hfound⟩, ⟨_, hfound'⟩, ⟨_, hfound''⟩⟩
    cases h
    rw [Credentials.text?]
    split
    · rename_i hname
      simp [TakesUp, applicationNames, happ, hname, hfound]
    split
    · rename_i hname
      simp [TakesUp, applicationNames, happ, hname, hfound']
    split
    · rename_i hname
      simp [TakesUp, applicationNames, happ, hname, hfound'']
    · rename_i htenant hclient hsecret
      simp [TakesUp, applicationNames, hkey, happ, htenant, hclient, hsecret]
  · rename_i hfew
    obtain ⟨token, hfound, rfl⟩ := Option.map_eq_some_iff.mp h
    have happ : ¬ NamesApplication (valueOf? members) := by
      intro happ
      obtain ⟨⟨_, h⟩, ⟨_, h'⟩, ⟨_, h''⟩⟩ := hall.mp happ
      exact hfew _ _ _ ((htenant _).mpr h) ((hclient _).mpr h') ((hsecret _).mpr h'')
    rw [htoken] at hfound
    rw [Credentials.text?]
    split
    · rename_i hname
      simp [TakesUp, happ, hname, hfound]
    · rename_i hname
      simp [TakesUp, hkey, happ, hname]

/-- **A text of a profile is that of its entry**, and it is there if the profile takes the entry up.
The location that stands in for a missing entry is the one text that has none. -/
theorem Reads.text?_iff (h : Reads members p) (hw : w ≠ defaultLocation) : p.text? key = some w ↔
    valueOf? members key = some (.string w) ∧ TakesUp (valueOf? members) key := by
  have htaken : key ∈ textNames → (valueOf? members key = some (.string w) ↔
      valueOf? members key = some (.string w) ∧ TakesUp (valueOf? members) key) := fun hname ↦
    ⟨fun hentry ↦ ⟨hentry, .inl hname⟩, And.left⟩
  rw [Profile.text?]
  split
  · rename_i hkey
    subst hkey
    rw [Option.some_inj, text_of_required h.subscriptionId, ← htaken (by decide)]
  split
  · rename_i hkey
    subst hkey
    rw [text_of_optional h.resourceGroup, ← htaken (by decide)]
  split
  · rename_i hkey
    subst hkey
    rw [Option.some_inj, text_of_defaulted hw h.location, ← htaken (by decide)]
  split
  · rename_i hkey
    subst hkey
    rw [text_of_optional h.userAgent, ← htaken (by decide)]
  · rename_i hsub hgroup hlocation hagent
    exact text?_of_credentials? h.credentials (by simp [textNames, hsub, hgroup, hlocation, hagent])

end Entries
end Profile

/-! ## Configurations

Profiles are read from all tables under their name and kept in the order of names, the last one of a
name in the place of those before it.  The text of a file has each name once, but a tree need not.
-/

namespace Json

variable {α : Type}

theorem lookup_cons_eq_ite (name : String) (m : String × α) (members : List (String × α)) :
    (m :: members).lookup name = if name = m.1 then some m.2 else members.lookup name := by
  rw [List.lookup_cons]
  by_cases h : name = m.1
  · rw [beq_iff_eq.mpr h, if_pos h]
  · rw [beq_false_of_ne h, if_neg h]

theorem lookup_insertMember (name other : String) (value : α) (members : List (String × α)) :
    (insertMember name value members).lookup other =
      if other = name then some value else members.lookup other := by
  induction members with
  | nil => exact lookup_cons_eq_ite other (name, value) []
  | cons m members ih =>
    rw [insertMember]
    split
    · exact lookup_cons_eq_ite other (name, value) _
    split
    · rename_i hm
      rw [lookup_cons_eq_ite, lookup_cons_eq_ite, ← hm]
      by_cases h : other = name
      · rw [if_pos h, if_pos h]
      · rw [if_neg h, if_neg h, if_neg h]
    · rename_i hm
      rw [lookup_cons_eq_ite, lookup_cons_eq_ite, ih]
      by_cases h : other = m.1
      · rw [if_pos h, if_neg fun hname ↦ hm (hname.symm.trans h), if_pos h]
      · rw [if_neg h, if_neg h]

theorem lookup_filter_ne (name other : String) (members : List (String × α)) :
    (members.filter (·.1 != name)).lookup other =
      if other = name then none else members.lookup other := by
  induction members with
  | nil => simp
  | cons m members ih =>
    rw [List.filter_cons, lookup_cons_eq_ite other m]
    by_cases hm : m.1 = name
    · rw [if_neg (by simp [hm]), ih, hm]
      by_cases h : other = name
      · rw [if_pos h, if_pos h]
      · rw [if_neg h, if_neg h, if_neg h]
    · rw [if_pos (bne_iff_ne.mpr hm), lookup_cons_eq_ite, ih]
      by_cases h : other = m.1
      · rw [if_pos h, if_neg fun hname ↦ hm (h.symm.trans hname), if_pos h]
      · rw [if_neg h, if_neg h]

/-- Of several members of one name the last counts. -/
theorem lookup_sortMembers (name : String) (members : List (String × α)) :
    (sortMembers members).lookup name =
      (members.filter (·.1 == name)).getLast?.map (·.2) := by
  have hfold : ∀ sorted : List (String × α),
      (members.foldl (fun sorted m ↦ insertMember m.1 m.2 sorted) sorted).lookup name =
        ((members.filter (·.1 == name)).getLast?.map (·.2)).or (sorted.lookup name) := by
    induction members with
    | nil => exact fun _ ↦ rfl
    | cons m members ih =>
      intro sorted
      rw [List.foldl_cons, ih, lookup_insertMember, List.filter_cons]
      by_cases h : m.1 = name
      · rw [if_pos h.symm, if_pos (beq_iff_eq.mpr h), List.getLast?_cons]
        cases (members.filter (·.1 == name)).getLast? <;> rfl
      · rw [if_neg fun hname ↦ h hname.symm, if_neg fun hname ↦ h (beq_iff_eq.mp hname)]
  exact (hfold []).trans (Option.or_none)

end Json

namespace Config

theorem decode?_eq_some_iff (t : Toml) (c : Config) : decode? t = some c ↔
    ∃ l defaultProfile profiles, Datum.layout? t = some l ∧
      l.slots? [⟨"default_profile", .defaulted⟩, ⟨"profiles", .defaulted⟩] =
        some [defaultProfile, profiles] ∧
      Datum.optional? Datum.string? defaultProfile = some c.defaultProfile ∧
      Datum.withDefault? profiles? [] profiles = some c.profiles := by
  rw [decode?]
  constructor
  · intro h
    simp only [Option.bind_eq_bind, Option.bind_eq_some_iff] at h
    obtain ⟨l, hl, slots, hslots, h⟩ := h
    split at h
    · simp only [Option.bind_eq_some_iff, Option.pure_def, Option.some.injEq] at h
      obtain ⟨name, hname, profiles, hprofiles, rfl⟩ := h
      exact ⟨l, _, _, hl, hslots, hname, hprofiles⟩
    · cases h
  · rintro ⟨l, defaultProfile, profiles, hl, hslots, hname, hprofiles⟩
    simp only [Option.bind_eq_bind, hl, hslots, hname, hprofiles, Option.bind_some, Option.pure_def]

/-- Profiles of one name are those of the tables of that name. -/
theorem mapM_filter (name : String) {members : List (String × Toml)} :
    ∀ {ps : List (String × Profile)},
      members.mapM (fun m ↦ (Profile.decode? m.2).map (m.1, ·)) = some ps →
        (members.filter (·.1 == name)).mapM (fun m ↦ (Profile.decode? m.2).map (m.1, ·)) =
          some (ps.filter (·.1 == name)) := by
  induction members with
  | nil =>
    intro ps h
    cases h
    rfl
  | cons m members ih =>
    intro ps h
    simp only [List.mapM_cons, Option.bind_eq_bind, Option.bind_eq_some_iff, Option.map_eq_some_iff,
      Option.pure_def, Option.some.injEq] at h
    obtain ⟨_, ⟨p, hp, rfl⟩, rest, hrest, rfl⟩ := h
    rw [List.filter_cons, List.filter_cons]
    split
    · simp [hp, ih hrest]
    · exact ih hrest

theorem map_decode?_of_mapM {members : List (String × Toml)} : ∀ {ps : List (String × Profile)},
    members.mapM (fun m ↦ (Profile.decode? m.2).map (m.1, ·)) = some ps →
      members.map (fun m ↦ Profile.decode? m.2) = ps.map fun p ↦ some p.2 := by
  induction members with
  | nil =>
    intro ps h
    cases h
    rfl
  | cons m members ih =>
    intro ps h
    simp only [List.mapM_cons, Option.bind_eq_bind, Option.bind_eq_some_iff, Option.map_eq_some_iff,
      Option.pure_def, Option.some.injEq] at h
    obtain ⟨_, ⟨p, hp, rfl⟩, rest, hrest, rfl⟩ := h
    rw [List.map_cons, List.map_cons, hp, ih hrest]

/-- A profile is read from the table of its name, and each table of a name is read as one. -/
theorem map_lastField?_of_profiles? {t : Toml} {ps : List (String × Profile)}
    (h : profiles? t = some ps) (name : String) :
    (t.lastField? name).map Profile.decode? = (ps.lookup name).map some := by
  cases t with
  | table members =>
    obtain ⟨found, hfound, hsort⟩ := Option.bind_eq_some_iff.mp h
    have hlast := congrArg List.getLast? (map_decode?_of_mapM (mapM_filter name hfound))
    rw [List.getLast?_map, List.getLast?_map] at hlast
    rw [← Option.some_inj.mp hsort, Json.lookup_sortMembers, Option.map_map]
    exact (Option.map_map ..).trans hlast
  | _ => cases h

end Config

/-! ## Texts of configurations

A text of a configuration has an address: the name of a profile and the key of a field, or that of
the default.  The same address finds its entry in the tree of the file.
-/

/-- A text of a configuration: the name of the default profile, or a text of a profile. -/
inductive Setting where
  | defaultProfile
  | ofProfile (name key : String)

namespace Setting

/-- The text, if the configuration has it. -/
def text? (c : Config) : Setting → Option String
  | defaultProfile => c.defaultProfile
  | ofProfile name key => (c.profile? name).bind (·.text? key)

/-- The entry for it in the tree of a file. -/
def inFile? (t : Toml) : Setting → Option Toml
  | defaultProfile => t.field? "default_profile"
  | ofProfile name key => ((t.field? "profiles").bind (·.lastField? name)).bind (·.field? key)

/-- Whether its entry is taken up. -/
def IsTaken (t : Toml) : Setting → Prop
  | defaultProfile => True
  | ofProfile name key => Profile.TakesUp (fun key ↦ (ofProfile name key).inFile? t) key

section Reading

variable {entries : List (String × Toml)} {c : Config}
  (h : Config.decode? (Toml.table entries) = some c)
include h

theorem fields_of_decode? :
    Datum.optional? Datum.string? ((Toml.table entries).field? "default_profile") =
        some c.defaultProfile ∧
      Datum.withDefault? Config.profiles? [] ((Toml.table entries).field? "profiles") =
        some c.profiles := by
  obtain ⟨_, name, profiles, hl, hslots, hname, hprofiles⟩ := (Config.decode?_eq_some_iff _ c).mp h
  cases hl
  simp only [Layout.slots?, List.mapM_cons, List.mapM_nil, Option.bind_eq_bind,
    Option.bind_eq_some_iff, Option.pure_def, Option.some.injEq] at hslots
  obtain ⟨_, hslot, _, ⟨_, hslot', _, rfl, rfl⟩, heq⟩ := hslots
  cases heq
  rw [Toml.field?, Toml.field?, hslot, hslot']
  exact ⟨hname, hprofiles⟩

theorem map_table_of_decode? (name : String) :
    (((Toml.table entries).field? "profiles").bind (·.lastField? name)).map Profile.decode? =
      (c.profile? name).map some := by
  have hread := (fields_of_decode? h).2
  rw [Config.profile?]
  cases hprofiles : (Toml.table entries).field? "profiles" with
  | none =>
    rw [hprofiles] at hread
    rw [← Option.some_inj.mp hread]
    rfl
  | some t =>
    rw [hprofiles] at hread
    exact Config.map_lastField?_of_profiles? hread name

/-- **A text of a configuration is that of its entry**, and it is there if the entry is taken up. -/
theorem text?_iff {w : String} (hw : w ≠ defaultLocation) (s : Setting) : s.text? c = some w ↔
    s.inFile? (.table entries) = some (.string w) ∧ s.IsTaken (.table entries) := by
  cases s with
  | defaultProfile =>
    have hread := (fields_of_decode? h).1
    show c.defaultProfile = some w ↔ (Toml.table entries).field? "default_profile" = _ ∧ True
    rw [and_true]
    cases hslot : (Toml.table entries).field? "default_profile" with
    | none =>
      rw [hslot] at hread
      simp [← Option.some_inj.mp hread]
    | some u =>
      rw [hslot] at hread
      obtain ⟨x, hx, hname⟩ := Option.map_eq_some_iff.mp hread
      rw [Toml.string?_iff] at hx
      rw [← hname, hx, Option.some_inj, Option.some_inj, Toml.string.injEq]
  | ofProfile name key =>
    have htable := map_table_of_decode? h name
    simp only [text?, IsTaken, inFile?]
    generalize ((Toml.table entries).field? "profiles").bind (·.lastField? name) = found at htable ⊢
    cases found with
    | none =>
      rw [Option.map_eq_none_iff.mp htable.symm]
      simp
    | some t =>
      obtain ⟨p, hp, hdecode⟩ := Option.map_eq_some_iff.mp htable.symm
      rw [hp]
      cases t with
      | table members => exact ((Profile.decode?_table_iff _ p).mp hdecode.symm).text?_iff hw
      | _ => cases hdecode

end Reading
end Setting
end ResourceManager
