import ResourceManager.Proofs.ConfigReading
import ResourceManager.Proofs.Records

/-!
# Which tables are profiles

A profile is read from an object of a JSON value or from a table of a configuration file, each name
in it once.

* `Profile.Accepted` lists the values that the ten fields of a profile may have, and
  `Profile.Describes` is the profile they make.  The three texts of an application go before a
  token, and a token takes over as soon as one of the three is no text.
* `Datum.Tables` is what has to be known of the kind of data, `Profile.decode?_tables_iff` and
  `Profile.isSome_decode?_tables_iff` are the laws for all kinds: nothing but the ten fields counts,
  as long as what is ignored may be ignored.
* In JSON everything may be ignored.  In a configuration file an integer past 64 bits may not be,
  anywhere inside a field that is not read on its own (`Toml.Contains`), the four fields of
  credentials among them: a profile with such an integer is not read at all
  (`Profile.unread_of_long_integer`).
-/

set_option autoImplicit false

namespace ResourceManager

variable {α β : Type}

/-! ## Kinds of data

JSON values and tables of a configuration file are read by one decoder.  They differ in how a cloud
may be given other than as a text, and in what may be ignored.
-/

/-- What profiles need of a kind of data, given its tables and its texts. -/
structure Datum.Tables [Datum α] (table : List (String × α) → α) (text : String → α) : Prop where
  layout?_table : ∀ members, Datum.layout? (table members) = some (.named members)
  string?_iff : ∀ a s, Datum.string? a = some s ↔ a = text s
  alternative?_iff : ∀ a s, (∀ members, a ≠ table members) →
    (Datum.alternative? a = some s ↔ a = text s)

theorem Json.tables : Datum.Tables Json.object Json.string where
  layout?_table _ := rfl
  string?_iff a s := by cases a <;> simp [Datum.string?, Json.string?]
  alternative?_iff a s ha := by
    cases a with
    | object members => exact absurd rfl (ha members)
    | _ => simp [Datum.alternative?]

theorem Toml.tables : Datum.Tables Toml.table Toml.string where
  layout?_table _ := rfl
  string?_iff a s := by cases a <;> simp [Datum.string?]
  alternative?_iff a s ha := by
    cases a with
    | table members => exact absurd rfl (ha members)
    | _ => simp [Datum.alternative?]

/-- What is given in the place of a value that may be missing or null. -/
inductive Datum.Optionally [Datum α] (R : α → β → Prop) : Option α → Option β → Prop
  | missing : Optionally R none none
  | null {a : α} (h : Datum.isNull a = true) : Optionally R (some a) none
  | value {a : α} {b : β} (hnull : Datum.isNull a = false) (h : R a b) :
    Optionally R (some a) (some b)

theorem Datum.optional?_eq_some_iff [Datum α] {read : α → Option β} {slot : Option α}
    {b : Option β} : Datum.optional? read slot = some b ↔
      Optionally (fun a b ↦ read a = some b) slot b := by
  constructor
  · intro h
    cases slot with
    | none =>
      cases h
      exact .missing
    | some a =>
      rw [Datum.optional?] at h
      split at h
      · rename_i hnull
        cases h
        exact .null hnull
      · rename_i hnull
        obtain ⟨b, hb, rfl⟩ := Option.map_eq_some_iff.mp h
        exact .value (eq_false_of_ne_true hnull) hb
  · rintro (_ | hnull | ⟨hnull, hb⟩)
    · rfl
    · rw [Datum.optional?, if_pos hnull]
    · rw [Datum.optional?, if_neg (ne_true_of_eq_false hnull), hb, Option.map_some]

/-! ## Integers in configuration files

Fields that are not read on their own are first kept for the credentials, and what is kept there has
integers of 64 bits.  An integer is looked for everywhere in such a field.
-/

namespace Toml

/-- Whether an integer stands somewhere in a value. -/
inductive Contains (n : Int) : Toml → Prop
  | integer : Contains n (.integer n)
  | item {items : List Toml} {t : Toml} (hmem : t ∈ items) (h : Contains n t) :
    Contains n (.array items)
  | entry {entries : List (String × Toml)} {key : String} {t : Toml} (hmem : (key, t) ∈ entries)
    (h : Contains n t) : Contains n (.table entries)

/-- Whether an integer fits 64 bits, with a sign or without. -/
def IsWord (n : Int) : Prop := -(Nat.pow 2 63 : Nat) ≤ n ∧ n < Nat.pow 2 64

theorem fitsWord_iff (n : Int) : fitsWord n = true ↔ IsWord n := by
  simp [fitsWord, IsWord]

mutual

theorem hasOnlyWords_iff : ∀ t : Toml, hasOnlyWords t = true ↔ ∀ n, Contains n t → IsWord n
  | .integer n => by
    rw [hasOnlyWords, fitsWord_iff]
    constructor
    · rintro h _ ⟨⟩
      exact h
    · exact fun h ↦ h n .integer
  | .array items => by
    rw [hasOnlyWords, itemsHaveOnlyWords_iff items]
    constructor
    · rintro h n (_ | ⟨hmem, hn⟩)
      exact h _ hmem n hn
    · exact fun h t ht n hn ↦ h n (.item ht hn)
  | .table entries => by
    rw [hasOnlyWords, entriesHaveOnlyWords_iff entries]
    constructor
    · rintro h n (_ | _ | ⟨hmem, hn⟩)
      exact h _ hmem n hn
    · exact fun h e he n hn ↦ h n (.entry he hn)
  | .string _ | .float _ | .boolean _ | .datetime _ => by
    rw [hasOnlyWords]
    · simp only [true_iff]
      rintro n ⟨⟩
    all_goals simp

theorem itemsHaveOnlyWords_iff : ∀ items : List Toml,
    itemsHaveOnlyWords items = true ↔ ∀ t ∈ items, ∀ n, Contains n t → IsWord n
  | [] => by simp [itemsHaveOnlyWords]
  | t :: rest => by
    rw [itemsHaveOnlyWords, Bool.and_eq_true, hasOnlyWords_iff t, itemsHaveOnlyWords_iff rest,
      List.forall_mem_cons]

theorem entriesHaveOnlyWords_iff : ∀ entries : List (String × Toml),
    entriesHaveOnlyWords entries = true ↔ ∀ e ∈ entries, ∀ n, Contains n e.2 → IsWord n
  | [] => by simp [entriesHaveOnlyWords]
  | (key, t) :: rest => by
    rw [entriesHaveOnlyWords, Bool.and_eq_true, hasOnlyWords_iff t, entriesHaveOnlyWords_iff rest,
      List.forall_mem_cons]

end

end Toml

/-! ## The fields of a profile

`Accepted` and `Describes` are stated with what is found under a name, and with the texts of the
kind of data; neither mentions the decoder.
-/

namespace Profile

/-- The fields that are read on their own. -/
def plainNames : List String :=
  ["subscription_id", "resource_group", "location", "cloud", "poll", "user_agent"]

/-- The fields that credentials are made of. -/
def credentialNames : List String := ["tenant_id", "client_id", "client_secret", "access_token"]

section Grammar

variable (text : String → α) (members : List (String × α))

def HasText (name s : String) : Prop := members.lookup name = some (text s)

/-- Whether the credentials of an application are all there. -/
def HasApplication : Prop :=
  ∀ name ∈ ["tenant_id", "client_id", "client_secret"], ∃ s, HasText text members name s

/-- The credentials in a table. -/
inductive Proves : Credentials → Prop
  | clientSecret {tenantId clientId secret : String}
    (htenant : HasText text members "tenant_id" tenantId)
    (hclient : HasText text members "client_id" clientId)
    (hsecret : HasText text members "client_secret" secret) :
    Proves (.clientSecret tenantId clientId secret)
  | accessToken {token : String} (hfew : ¬ HasApplication text members)
    (htoken : HasText text members "access_token" token) : Proves (.accessToken token)

variable [Datum α]

/-- The profile in a table. -/
structure Describes (p : Profile) : Prop where
  subscriptionId : HasText text members "subscription_id" p.subscriptionId
  resourceGroup : Datum.Optionally (fun a s ↦ a = text s) (members.lookup "resource_group")
    p.resourceGroup
  location : members.lookup "location" = none ∧ p.location = "westus2" ∨
    HasText text members "location" p.location
  cloud : members.lookup "cloud" = none ∧ p.cloud = .publicCloud ∨
    HasText text members "cloud" p.cloud.name
  credentials : Proves text members p.credentials
  poll : Datum.Optionally (fun a s ↦ PollSetting.decode? a = some s) (members.lookup "poll") p.poll
  userAgent : Datum.Optionally (fun a s ↦ a = text s) (members.lookup "user_agent") p.userAgent

/-- Which values the fields of a profile may have. -/
structure Accepted : Prop where
  subscriptionId : ∃ s, HasText text members "subscription_id" s
  resourceGroup : ∀ a, members.lookup "resource_group" = some a → Datum.isNull a = false →
    ∃ s, a = text s
  location : ∀ a, members.lookup "location" = some a → ∃ s, a = text s
  cloud : ∀ a, members.lookup "cloud" = some a →
    a = text "public" ∨ a = text "china" ∨ a = text "usgovernment"
  credentials : HasApplication text members ∨ ∃ s, HasText text members "access_token" s
  poll : ∀ a, members.lookup "poll" = some a → Datum.isNull a = false →
    ∃ s : PollSetting, PollSetting.decode? a = some s
  userAgent : ∀ a, members.lookup "user_agent" = some a → Datum.isNull a = false → ∃ s, a = text s

end Grammar

variable {text : String → α} {members members' : List (String × α)}

/-! ### Acceptance is that there is a profile -/

theorem hasApplication_iff : HasApplication text members ↔
    ∃ tenantId clientId secret, HasText text members "tenant_id" tenantId ∧
      HasText text members "client_id" clientId ∧ HasText text members "client_secret" secret := by
  simp [HasApplication]

theorem exists_proves_iff : (∃ c, Proves text members c) ↔
    HasApplication text members ∨ ∃ s, HasText text members "access_token" s := by
  constructor
  · rintro ⟨_, ⟨htenant, hclient, hsecret⟩ | ⟨_, htoken⟩⟩
    · exact .inl (hasApplication_iff.mpr ⟨_, _, _, htenant, hclient, hsecret⟩)
    · exact .inr ⟨_, htoken⟩
  · intro h
    by_cases happ : HasApplication text members
    · obtain ⟨_, _, _, htenant, hclient, hsecret⟩ := hasApplication_iff.mp happ
      exact ⟨_, .clientSecret htenant hclient hsecret⟩
    · obtain ⟨_, htoken⟩ := h.resolve_left happ
      exact ⟨_, .accessToken happ htoken⟩

/-- A value with a default may be missing, else it is one of those that can be given. -/
theorem exists_default_iff {slot : Option α} {default : β} {value : β → α} :
    (∃ b, slot = none ∧ b = default ∨ slot = some (value b)) ↔
      ∀ a, slot = some a → ∃ b, a = value b := by
  cases slot with
  | none => simp
  | some a => simp

theorem exists_cloud_iff {a : α} : (∃ c : Cloud, a = text c.name) ↔
    a = text "public" ∨ a = text "china" ∨ a = text "usgovernment" := by
  constructor
  · rintro ⟨_ | _ | _, rfl⟩
    exacts [.inl rfl, .inr (.inl rfl), .inr (.inr rfl)]
  · rintro (rfl | rfl | rfl)
    exacts [⟨.publicCloud, rfl⟩, ⟨.china, rfl⟩, ⟨.usGovernment, rfl⟩]

variable [Datum α]

theorem exists_optionally_iff {R : α → β → Prop} {slot : Option α} :
    (∃ b, Datum.Optionally R slot b) ↔
      ∀ a, slot = some a → Datum.isNull a = false → ∃ b, R a b := by
  constructor
  · rintro ⟨_, _ | hnull | ⟨_, h⟩⟩ a ha hvalue
    · cases ha
    · cases ha
      exact absurd hnull (ne_true_of_eq_false hvalue)
    · cases ha
      exact ⟨_, h⟩
  · intro h
    cases slot with
    | none => exact ⟨none, .missing⟩
    | some a =>
      cases hnull : Datum.isNull a with
      | true => exact ⟨none, .null hnull⟩
      | false =>
        obtain ⟨b, hb⟩ := h a rfl hnull
        exact ⟨some b, .value hnull hb⟩

/-- The values of the fields are allowed exactly if there is a profile of these values. -/
theorem accepted_iff : Accepted text members ↔ ∃ p, Describes text members p := by
  constructor
  · intro h
    obtain ⟨sub, hsub⟩ := h.subscriptionId
    obtain ⟨group, hgroup⟩ := exists_optionally_iff.mpr h.resourceGroup
    obtain ⟨loc, hloc⟩ : ∃ loc, members.lookup "location" = none ∧ loc = defaultLocation ∨
        HasText text members "location" loc := exists_default_iff.mpr h.location
    obtain ⟨c, hc⟩ : ∃ c : Cloud, members.lookup "cloud" = none ∧ c = .publicCloud ∨
        HasText text members "cloud" c.name :=
      exists_default_iff.mpr fun a ha ↦ exists_cloud_iff.mpr (h.cloud a ha)
    obtain ⟨creds, hcreds⟩ := exists_proves_iff.mpr h.credentials
    obtain ⟨po, hpo⟩ := exists_optionally_iff.mpr h.poll
    obtain ⟨agent, hagent⟩ := exists_optionally_iff.mpr h.userAgent
    exact ⟨⟨sub, group, loc, c, creds, po, agent⟩, hsub, hgroup, hloc, hc, hcreds, hpo, hagent⟩
  · rintro ⟨p, h⟩
    exact {
      subscriptionId := ⟨_, h.subscriptionId⟩
      resourceGroup := exists_optionally_iff.mp ⟨_, h.resourceGroup⟩
      location := exists_default_iff.mp ⟨_, h.location⟩
      cloud := fun a ha ↦ exists_cloud_iff.mp (exists_default_iff.mp ⟨_, h.cloud⟩ a ha)
      credentials := exists_proves_iff.mp ⟨_, h.credentials⟩
      poll := exists_optionally_iff.mp ⟨_, h.poll⟩
      userAgent := exists_optionally_iff.mp ⟨_, h.userAgent⟩ }

/-! ### Other fields do not count -/

section SameFields

variable
  (hsame : ∀ name ∈ plainNames ++ credentialNames, members'.lookup name = members.lookup name)
include hsame

omit [Datum α] in
theorem hasText_congr {name s : String} (hname : name ∈ plainNames ++ credentialNames) :
    HasText text members' name s ↔ HasText text members name s := by
  rw [HasText, HasText, hsame name hname]

omit [Datum α] in
theorem Proves.of_lookup_eq {c : Credentials} (h : Proves text members c) :
    Proves text members' c := by
  have htext : ∀ name ∈ credentialNames, ∀ s,
      HasText text members' name s ↔ HasText text members name s :=
    fun _ hname _ ↦ hasText_congr hsame (List.mem_append_right _ hname)
  have htenant := htext "tenant_id" (by decide)
  have hclient := htext "client_id" (by decide)
  have hsecret := htext "client_secret" (by decide)
  cases h with
  | clientSecret h h' h'' =>
    exact .clientSecret ((htenant _).mpr h) ((hclient _).mpr h') ((hsecret _).mpr h'')
  | accessToken hfew h =>
    refine .accessToken (fun happ ↦ hfew ?_) ((htext "access_token" (by decide) _).mpr h)
    rw [hasApplication_iff] at happ ⊢
    simpa only [htenant, hclient, hsecret] using happ

/-- Tables with the same fields describe the same profiles. -/
theorem Describes.of_lookup_eq {p : Profile} (h : Describes text members p) :
    Describes text members' p where
  subscriptionId := (hasText_congr hsame (by decide)).mpr h.subscriptionId
  resourceGroup := by
    rw [hsame "resource_group" (by decide)]
    exact h.resourceGroup
  location := by
    rw [hsame "location" (by decide), hasText_congr hsame (by decide)]
    exact h.location
  cloud := by
    rw [hsame "cloud" (by decide), hasText_congr hsame (by decide)]
    exact h.cloud
  credentials := h.credentials.of_lookup_eq hsame
  poll := by
    rw [hsame "poll" (by decide)]
    exact h.poll
  userAgent := by
    rw [hsame "user_agent" (by decide)]
    exact h.userAgent

theorem describes_congr {p : Profile} :
    Describes text members' p ↔ Describes text members p :=
  ⟨.of_lookup_eq fun name hname ↦ (hsame name hname).symm, .of_lookup_eq hsame⟩

end SameFields

/-! ### What is read

Each reading of the decoder is one of the conditions, field by field.  Names that occur once are
needed here: the decoder refuses a field that is there twice, and looking it up finds the first.
-/

omit [Datum α] in
theorem slot?_eq_lookup (hnames : (members.map (·.1)).Nodup) (name : String) :
    slot? members name = some (members.lookup name) := by
  rw [slot?, Layout.slotNamed?, filter_name_eq_lookup hnames]
  cases members.lookup name <;> rfl

theorem textOf?_others (hnames : (members.map (·.1)).Nodup) {name : String}
    (hname : name ∈ credentialNames) :
    textOf? (others members) name = (members.lookup name).bind Datum.string? := by
  have hfield : fields.any (·.name == name) = false := by
    simp only [credentialNames, List.mem_cons, List.not_mem_nil, or_false] at hname
    obtain rfl | rfl | rfl | rfl := hname <;> decide
  rw [textOf?, filter_others, hfield, if_neg Bool.false_ne_true, filter_name_eq_lookup hnames]
  cases members.lookup name <;> rfl

omit [Datum α] in
/-- A field with a default is missing, or it is read. -/
theorem withDefault?_eq_some_iff {read : α → Option β} {default b : β} {slot : Option α} :
    Datum.withDefault? read default slot = some b ↔
      slot = none ∧ b = default ∨ ∃ a, slot = some a ∧ read a = some b := by
  cases slot with
  | none => simp [Datum.withDefault?, eq_comm]
  | some a => simp [Datum.withDefault?]

section Tables

variable {table : List (String × α) → α} (ht : Datum.Tables table text)
  (hnames : (members.map (·.1)).Nodup)
include ht hnames

theorem textOf?_others_iff {name : String} (hname : name ∈ credentialNames) (s : String) :
    textOf? (others members) name = some s ↔ HasText text members name s := by
  rw [textOf?_others hnames hname, Option.bind_eq_some_iff, HasText]
  simp [ht.string?_iff]

theorem credentials?_others_iff {c : Credentials} :
    credentials? (others members) = some c ↔ Proves text members c := by
  have htext : ∀ name ∈ credentialNames, ∀ s,
      textOf? (others members) name = some s ↔ HasText text members name s :=
    fun _ hname ↦ textOf?_others_iff ht hnames hname
  have htenant := htext "tenant_id" (by decide)
  have hclient := htext "client_id" (by decide)
  have hsecret := htext "client_secret" (by decide)
  have htoken := htext "access_token" (by decide)
  rw [credentials?]
  constructor
  · intro h
    split at h
    · rename_i hfound hfound' hfound''
      cases h
      exact .clientSecret ((htenant _).mp hfound) ((hclient _).mp hfound')
        ((hsecret _).mp hfound'')
    · rename_i hfew
      obtain ⟨token, hfound, rfl⟩ := Option.map_eq_some_iff.mp h
      refine .accessToken (fun happ ↦ ?_) ((htoken token).mp hfound)
      obtain ⟨_, _, _, h, h', h''⟩ := hasApplication_iff.mp happ
      exact hfew _ _ _ ((htenant _).mpr h) ((hclient _).mpr h') ((hsecret _).mpr h'')
  · rintro (⟨h, h', h''⟩ | ⟨hfew, h⟩)
    · rw [(htenant _).mpr h, (hclient _).mpr h', (hsecret _).mpr h'']
    · split
      · rename_i hfound hfound' hfound''
        exact absurd (hasApplication_iff.mpr ⟨_, _, _, (htenant _).mp hfound,
          (hclient _).mp hfound', (hsecret _).mp hfound''⟩) hfew
      · rw [(htoken _).mpr h, Option.map_some]

/-- A field that has to be there is a text. -/
theorem required_iff (name s : String) :
    ((slot? members name).bind id).bind Datum.string? = some s ↔ HasText text members name s := by
  rw [slot?_eq_lookup hnames, Option.bind_some, id, Option.bind_eq_some_iff, HasText]
  simp [ht.string?_iff]

theorem optionalText_iff (name : String) (s : Option String) :
    (slot? members name).bind (Datum.optional? Datum.string?) = some s ↔
      Datum.Optionally (fun a s ↦ a = text s) (members.lookup name) s := by
  rw [slot?_eq_lookup hnames, Option.bind_some, Datum.optional?_eq_some_iff]
  simp only [ht.string?_iff]

theorem defaultText_iff (name default s : String) :
    (slot? members name).bind (Datum.withDefault? Datum.string? default) = some s ↔
      members.lookup name = none ∧ s = default ∨ HasText text members name s := by
  rw [slot?_eq_lookup hnames, Option.bind_some, withDefault?_eq_some_iff, HasText]
  simp [ht.string?_iff]

theorem cloud_iff (hcloud : ∀ inner, members.lookup "cloud" ≠ some (table inner)) (c : Cloud) :
    (slot? members "cloud").bind (Datum.withDefault? Cloud.decode? .publicCloud) = some c ↔
      members.lookup "cloud" = none ∧ c = .publicCloud ∨ HasText text members "cloud" c.name := by
  have hread : ∀ a, members.lookup "cloud" = some a →
      (Cloud.decode? a = some c ↔ a = text c.name) := by
    intro a ha
    have hplain : ∀ inner, a ≠ table inner := fun inner h ↦ hcloud inner (h ▸ ha)
    rw [Cloud.decode?, Option.bind_eq_some_iff]
    constructor
    · rintro ⟨s, hs, hc⟩
      rw [Cloud.name_of_ofName? hc]
      exact (ht.alternative?_iff a s hplain).mp hs
    · intro h
      exact ⟨c.name, (ht.alternative?_iff a c.name hplain).mpr h, c.ofName?_name⟩
  rw [slot?_eq_lookup hnames, Option.bind_some, withDefault?_eq_some_iff, HasText]
  refine or_congr_right ⟨?_, fun h ↦ ⟨_, h, (hread _ h).mpr rfl⟩⟩
  rintro ⟨a, ha, hc⟩
  rw [ha, (hread a ha).mp hc]

/-- Reading goes by the ten fields, and by whether the others may be ignored. -/
theorem reads_iff (hcloud : ∀ inner, members.lookup "cloud" ≠ some (table inner)) {p : Profile} :
    Reads members p ↔
      Describes text members p ∧ (others members).all (Datum.isIgnorable ·.2) = true := by
  have hpoll : (slot? members "poll").bind (Datum.optional? PollSetting.decode?) = some p.poll ↔
      Datum.Optionally (fun a s ↦ PollSetting.decode? a = some s) (members.lookup "poll")
        p.poll := by
    rw [slot?_eq_lookup hnames, Option.bind_some, Datum.optional?_eq_some_iff]
  constructor
  · intro h
    refine ⟨?_, h.ignorable⟩
    exact {
      subscriptionId := (required_iff ht hnames _ _).mp h.subscriptionId
      resourceGroup := (optionalText_iff ht hnames _ _).mp h.resourceGroup
      location := (defaultText_iff ht hnames _ _ _).mp h.location
      cloud := (cloud_iff ht hnames hcloud _).mp h.cloud
      credentials := (credentials?_others_iff ht hnames).mp h.credentials
      poll := hpoll.mp h.poll
      userAgent := (optionalText_iff ht hnames _ _).mp h.userAgent }
  · rintro ⟨h, hignorable⟩
    exact {
      ignorable := hignorable
      subscriptionId := (required_iff ht hnames _ _).mpr h.subscriptionId
      resourceGroup := (optionalText_iff ht hnames _ _).mpr h.resourceGroup
      location := (defaultText_iff ht hnames _ _ _).mpr h.location
      cloud := (cloud_iff ht hnames hcloud _).mpr h.cloud
      credentials := (credentials?_others_iff ht hnames).mpr h.credentials
      poll := hpoll.mpr h.poll
      userAgent := (optionalText_iff ht hnames _ _).mpr h.userAgent }

end Tables

/-! ### Laws for all kinds of data -/

/-- Whether each name is there once, and in the place of the cloud there is no table. -/
structure IsSimple (table : List (String × α) → α) (members : List (String × α)) : Prop where
  nodup : (members.map (·.1)).Nodup
  cloud : ∀ inner, members.lookup "cloud" ≠ some (table inner)

section Simple

variable {table : List (String × α) → α} (ht : Datum.Tables table text)
  (hm : IsSimple table members)
include ht hm

theorem decode?_tables_iff {p : Profile} : decode? (table members) = some p ↔
    Describes text members p ∧ (others members).all (Datum.isIgnorable ·.2) = true :=
  (decode?_named_iff (ht.layout?_table members) p).trans (reads_iff ht hm.nodup hm.cloud)

theorem isSome_decode?_tables_iff : (decode? (table members)).isSome = true ↔
    Accepted text members ∧ (others members).all (Datum.isIgnorable ·.2) = true := by
  rw [Option.isSome_iff_exists, accepted_iff]
  simp only [decode?_tables_iff ht hm, exists_and_right]

theorem decode?_tables_congr (hnames : (members'.map (·.1)).Nodup)
    (hsame : ∀ name ∈ plainNames ++ credentialNames, members'.lookup name = members.lookup name)
    (hignorable : (others members').all (Datum.isIgnorable ·.2) = true ↔
      (others members).all (Datum.isIgnorable ·.2) = true) :
    decode? (table members') = decode? (table members) := by
  have hm' : IsSimple table members' := by
    refine ⟨hnames, ?_⟩
    rw [hsame "cloud" (by decide)]
    exact hm.cloud
  refine Option.ext fun p ↦ ?_
  rw [decode?_tables_iff ht hm', decode?_tables_iff ht hm, describes_congr hsame, hignorable]

end Simple

/-! ### What may be ignored -/

omit [Datum α] in
theorem mem_others_iff {members : List (String × α)} {m : String × α} :
    m ∈ others members ↔ m ∈ members ∧ m.1 ∉ plainNames := by
  have hfield : fields.any (·.name == m.1) = true ↔ m.1 ∈ plainNames := by
    simp only [List.any_eq_true, beq_iff_eq]
    exact List.mem_map.symm
  rw [others, List.mem_filter, ← hfield, Bool.not_eq_true', Bool.not_eq_true]

/-- Whether all integers are of 64 bits in the fields that are not read on their own. -/
def HoldsWords (entries : List (String × Toml)) : Prop :=
  ∀ e ∈ entries, e.1 ∉ plainNames → ∀ n, Toml.Contains n e.2 → Toml.IsWord n

theorem all_isIgnorable_iff (entries : List (String × Toml)) :
    (others entries).all (Datum.isIgnorable ·.2) = true ↔ HoldsWords entries := by
  rw [List.all_eq_true]
  constructor
  · intro h e he hname
    exact (Toml.hasOnlyWords_iff e.2).mp (h e (mem_others_iff.mpr ⟨he, hname⟩))
  · intro h e he
    obtain ⟨hmem, hname⟩ := mem_others_iff.mp he
    exact (Toml.hasOnlyWords_iff e.2).mpr (h e hmem hname)

/-! ### Objects and tables -/

/-- **Which tables are profiles, and which profiles they are.**  An object of a JSON value and a
table of a configuration file, each name in it once and no object or table in the place of the
cloud, are read exactly if the values of the ten fields are those that they may have, and as the
profile that these values make; what else there is does not count.  In a configuration file this
goes for tables without integers past 64 bits in the fields that are not read on their own, and no
other table is read. -/
theorem decode?_iff_grammar {members : List (String × Json)} {entries : List (String × Toml)}
    (hmembers : IsSimple Json.object members) (hentries : IsSimple Toml.table entries) :
    (((decode? (Json.object members)).isSome = true ↔ Accepted Json.string members) ∧
        (∀ p, decode? (Json.object members) = some p ↔ Describes Json.string members p) ∧
        ∀ members' : List (String × Json), (members'.map (·.1)).Nodup →
          (∀ name ∈ plainNames ++ credentialNames, members'.lookup name = members.lookup name) →
            decode? (Json.object members') = decode? (Json.object members)) ∧
      ((decode? (Toml.table entries)).isSome = true ↔
          Accepted Toml.string entries ∧ HoldsWords entries) ∧
        (∀ p, decode? (Toml.table entries) = some p ↔
          Describes Toml.string entries p ∧ HoldsWords entries) ∧
        ∀ entries' : List (String × Toml), (entries'.map (·.1)).Nodup →
          (∀ name ∈ plainNames ++ credentialNames, entries'.lookup name = entries.lookup name) →
            (HoldsWords entries' ↔ HoldsWords entries) →
              decode? (Toml.table entries') = decode? (Toml.table entries) := by
  have hall : ∀ members : List (String × Json),
      (others members).all (Datum.isIgnorable ·.2) = true :=
    fun _ ↦ List.all_eq_true.mpr fun _ _ ↦ rfl
  refine ⟨⟨?_, fun p ↦ ?_, fun members' h hsame ↦ ?_⟩, ?_, fun p ↦ ?_,
    fun entries' h hsame hwords ↦ ?_⟩
  · rw [isSome_decode?_tables_iff Json.tables hmembers, and_iff_left (hall members)]
  · rw [decode?_tables_iff Json.tables hmembers, and_iff_left (hall members)]
  · exact decode?_tables_congr Json.tables hmembers h hsame
      (iff_of_true (hall members') (hall members))
  · rw [isSome_decode?_tables_iff Toml.tables hentries, all_isIgnorable_iff]
  · rw [decode?_tables_iff Toml.tables hentries, all_isIgnorable_iff]
  · refine decode?_tables_congr Toml.tables hentries h hsame ?_
    rw [all_isIgnorable_iff, all_isIgnorable_iff, hwords]

/-- An object with a token of the wrong kind beside the credentials of an application. -/
def sampleObject : List (String × Json) :=
  [("access_token", .bool true), ("client_id", .string "c"), ("client_secret", .string "k"),
    ("cloud", .string "china"), ("extra", .array [.null]), ("resource_group", .null),
    ("subscription_id", .string "s"), ("tenant_id", .string "t")]

/-- A table with a token, one text of an application, and an integer that nobody asks for. -/
def sampleTable (n : Int) : List (String × Toml) :=
  [("access_token", .string "t"), ("extra", .array [.integer n]), ("subscription_id", .string "s"),
    ("tenant_id", .string "t")]

theorem describes_sampleTable (n : Int) :
    Describes Toml.string (sampleTable n) (.new "s" (.accessToken "t")) where
  subscriptionId := rfl
  resourceGroup := .missing
  location := .inl ⟨rfl, rfl⟩
  cloud := .inl ⟨rfl, rfl⟩
  credentials := by
    refine .accessToken (fun h ↦ ?_) rfl
    obtain ⟨_, hclient⟩ := h "client_id" (by simp)
    cases hclient
  poll := .missing
  userAgent := .missing

theorem decode?_of_samples :
    decode? (Json.object sampleObject) =
        some { Profile.new "s" (.clientSecret "t" "c" "k") with cloud := .china } ∧
      decode? (Toml.table (sampleTable 7)) = some (.new "s" (.accessToken "t")) := by
  have hobject : IsSimple Json.object sampleObject := ⟨by decide, by rintro _ ⟨⟩⟩
  have htable : IsSimple Toml.table (sampleTable 7) := ⟨by decide, by rintro _ ⟨⟩⟩
  obtain ⟨⟨-, hread, -⟩, -, hread', -⟩ := decode?_iff_grammar hobject htable
  refine ⟨(hread _).mpr ?_, (hread' _).mpr ⟨describes_sampleTable 7, ?_⟩⟩
  · exact {
      subscriptionId := rfl
      resourceGroup := .null rfl
      location := .inl ⟨rfl, rfl⟩
      cloud := .inr rfl
      credentials := .clientSecret rfl rfl rfl
      poll := .missing
      userAgent := .missing }
  · exact (all_isIgnorable_iff _).mp (by decide)

/-- A field that nobody asks for takes a profile away when it holds an integer past 64 bits, and the
whole file with it; outside profiles such an integer is ignored. -/
theorem unread_of_long_integer :
    Accepted Toml.string (sampleTable 99999999999999999999) ∧
      decode? (Toml.table (sampleTable 99999999999999999999)) = none ∧
      Config.ofText? ("[profiles.p]\nsubscription_id = \"s\"\naccess_token = \"t\"\n" ++
        "extra = 99999999999999999999\n").toList = none ∧
      Config.ofText? ("extra = 99999999999999999999\n[profiles.p]\nsubscription_id = \"s\"\n" ++
        "access_token = \"t\"\n").toList =
          some ⟨none, [("p", .new "s" (.accessToken "t"))]⟩ :=
  ⟨accepted_iff.mpr ⟨_, describes_sampleTable _⟩, by decide +kernel, by decide +kernel,
    by decide +kernel⟩

end Profile
end ResourceManager
