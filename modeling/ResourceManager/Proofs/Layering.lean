import ResourceManager.Config.Settings

/-!
# Settings in layers

The settings of a profile lie below those of the environment: a variable that is set hides what the
profile has for it, whatever that is, and nothing else.

* `Config.Selects` says which profile is used, `Profile.needs` which values settings cannot be
  without, and `Need.Unmet` when such a value cannot be had: the profile refers to a keyring, and no
  variable hides the reference.
* `Settings.LaidOver` gives every setting, and `Settings.Hindered` the first thing in the way of it.
  `Settings.resolve_layers` says that resolution is what they say.
* `Settings.resolve_of_ofEnvironment` compares resolution with settings from the environment alone.

There are two kinds of failure in resolution, and they depend on the order in which things are done.
The values of a profile are resolved one after the other, and of several that cannot be had only the
first is told; a cloud that the environment names wrongly is told after all of them.  `Need` makes
the values a list, so that the first failure is the first in a list, and so are the values that the
profile gives whether it holds a secret or a token.
-/

set_option autoImplicit false

namespace ResourceManager

/-! ## Values under variables

A need is a value with the variable that lies over it.  Whether it can be had depends on these two
alone, so a statement about one need holds for every field.
-/

/-- What a variable says, else what is stored below it. -/
def Environment.overlay (e : Environment) (variableName stored : String) : String :=
  (e.value? variableName).getD stored

theorem Environment.overlay_of_set {e : Environment} {variableName value : String}
    (h : e.value? variableName = some value) (stored : String) :
    e.overlay variableName stored = value := by
  rw [overlay, h, Option.getD_some]

/-- A value that settings need: the variable that lies over it, what the profile has for it, and
which part of the credentials it is, if it is one. -/
structure Need where
  variableName : String
  stored : String
  part : Option String

namespace Need

variable (e : Environment)

/-- The value cannot be had: it is in a keyring under this key. -/
def Unmet (n : Need) (key : String) : Prop :=
  e.value? n.variableName = none ∧ n.stored = "keyring:" ++ key

/-- The value can be had. -/
def Met (n : Need) : Prop := ∀ key, ¬ n.Unmet e key

/-- What is said of a value in a keyring. -/
def error (n : Need) (key : String) : ConfigError :=
  match n.part with
  | some part => .unresolved part (.keyringReference key)
  | none => .keyringReference key

/-- The value, or what keeps it from being had. -/
def resolve (n : Need) : Except ConfigError String :=
  match n.part with
  | some part => Credentials.resolvePart e part n.variableName n.stored
  | none => Credentials.resolveValue e n.variableName n.stored

/-- The first of some values that cannot be had, and what is said of it. -/
def FirstUnmet (needs : List Need) (x : ConfigError) : Prop :=
  ∃ before need behind key, needs = before ++ need :: behind ∧ (∀ n ∈ before, n.Met e) ∧
    need.Unmet e key ∧ x = need.error key

end Need

namespace Credentials

theorem keyringKey?_eq_some {value key : String} :
    keyringKey? value = some key ↔ value = "keyring:" ++ key := by
  rw [keyringKey?]
  constructor
  · intro h
    split at h
    · rename_i hprefix
      obtain ⟨rest, hrest⟩ := List.isPrefixOf_iff_prefix.mp hprefix
      rw [← hrest] at h
      have hkey : String.ofList rest = key := Option.some_inj.mp h
      rw [← hkey, ← String.toList_inj, String.toList_append, String.toList_ofList (l := rest),
        ← hrest]
      rfl
    · cases h
  · rintro rfl
    have hprefix : keyringMark.toList.isPrefixOf ("keyring:" ++ key).toList = true := by
      rw [String.toList_append]
      exact List.isPrefixOf_iff_prefix.mpr (List.prefix_append _ _)
    rw [if_pos hprefix, String.toList_append]
    exact congrArg some String.ofList_toList

/-- The values of credentials, each under its variable. -/
def needs : Credentials → List Need
  | clientSecret tenantId clientId secret =>
    [⟨"AZURE_TENANT_ID", tenantId, some "tenant id"⟩,
      ⟨"AZURE_CLIENT_ID", clientId, some "client id"⟩,
      ⟨"AZURE_CLIENT_SECRET", secret, some "client secret"⟩]
  | accessToken token => [⟨"AZURE_ACCESS_TOKEN", token, some "access token"⟩]

/-- Credentials of the same kind, with the environment laid over them. -/
def under (e : Environment) : Credentials → Credentials
  | clientSecret tenantId clientId secret =>
    clientSecret (e.overlay "AZURE_TENANT_ID" tenantId) (e.overlay "AZURE_CLIENT_ID" clientId)
      (e.overlay "AZURE_CLIENT_SECRET" secret)
  | accessToken token => accessToken (e.overlay "AZURE_ACCESS_TOKEN" token)

/-- Whether credentials are a token, not a secret. -/
def isToken : Credentials → Bool
  | clientSecret _ _ _ => false
  | accessToken _ => true

/-- The variables of credentials of the other kind. -/
def foreignVariables : Credentials → List String
  | clientSecret _ _ _ => ["AZURE_ACCESS_TOKEN"]
  | accessToken _ => ["AZURE_TENANT_ID", "AZURE_CLIENT_ID", "AZURE_CLIENT_SECRET"]

end Credentials

namespace Need

variable {e : Environment} {n : Need} {needs : List Need} {key : String} {x : ConfigError}

theorem resolveValue_of_met (h : n.Met e) :
    Credentials.resolveValue e n.variableName n.stored =
      .ok (e.overlay n.variableName n.stored) := by
  rw [Credentials.resolveValue, Environment.overlay]
  cases hvalue : e.value? n.variableName with
  | some value => rfl
  | none =>
    cases hkey : Credentials.keyringKey? n.stored with
    | none => rfl
    | some key => exact absurd ⟨hvalue, Credentials.keyringKey?_eq_some.mp hkey⟩ (h key)

theorem resolveValue_of_unmet (h : n.Unmet e key) :
    Credentials.resolveValue e n.variableName n.stored = .error (.keyringReference key) := by
  rw [Credentials.resolveValue, h.1, Credentials.keyringKey?_eq_some.mpr h.2]

theorem resolve_of_met (h : n.Met e) : n.resolve e = .ok (e.overlay n.variableName n.stored) := by
  rw [resolve]
  cases n.part with
  | some part =>
    show Credentials.resolvePart e part n.variableName n.stored = _
    rw [Credentials.resolvePart, resolveValue_of_met h]
  | none => exact resolveValue_of_met h

theorem resolve_of_unmet (h : n.Unmet e key) : n.resolve e = .error (n.error key) := by
  rw [resolve, error]
  cases n.part with
  | some part =>
    show Credentials.resolvePart e part n.variableName n.stored = _
    rw [Credentials.resolvePart, resolveValue_of_unmet h]
  | none => exact resolveValue_of_unmet h

theorem met_of_set {value : String} (h : e.value? n.variableName = some value) : n.Met e :=
  fun _ hunmet ↦ Option.some_ne_none value (h.symm.trans hunmet.1)

theorem met_or_unmet (e : Environment) (n : Need) : n.Met e ∨ ∃ key, n.Unmet e key := by
  by_cases h : ∃ key, n.Unmet e key
  · exact .inr h
  · exact .inl fun key hkey ↦ h ⟨key, hkey⟩

/-! ## One value after the other -/

theorem mapM_resolve_of_met (h : ∀ n ∈ needs, n.Met e) :
    needs.mapM (resolve e) = .ok (needs.map fun n ↦ e.overlay n.variableName n.stored) := by
  induction needs with
  | nil => rfl
  | cons n needs ih =>
    rw [List.mapM_cons, resolve_of_met (h n List.mem_cons_self),
      ih fun m hm ↦ h m (List.mem_cons_of_mem _ hm)]
    rfl

theorem mapM_resolve_of_firstUnmet (h : FirstUnmet e needs x) :
    needs.mapM (resolve e) = .error x := by
  obtain ⟨before, need, behind, key, rfl, hbefore, hunmet, rfl⟩ := h
  rw [List.mapM_append, mapM_resolve_of_met hbefore, List.mapM_cons, resolve_of_unmet hunmet]
  rfl

/-- All values can be had, or there is a first one that cannot. -/
theorem met_or_firstUnmet (e : Environment) (needs : List Need) :
    (∀ n ∈ needs, n.Met e) ∨ ∃ x, FirstUnmet e needs x := by
  induction needs with
  | nil => exact .inl fun n hn ↦ absurd hn List.not_mem_nil
  | cons n needs ih =>
    rcases met_or_unmet e n with hmet | ⟨key, hunmet⟩
    · rcases ih with hall | ⟨x, before, need, behind, key, rfl, hbefore, hunmet, hx⟩
      · refine .inl fun m hm ↦ ?_
        rcases List.mem_cons.mp hm with rfl | hm
        · exact hmet
        · exact hall m hm
      · refine .inr ⟨x, n :: before, need, behind, key, rfl, fun m hm ↦ ?_, hunmet, hx⟩
        rcases List.mem_cons.mp hm with rfl | hm
        · exact hmet
        · exact hbefore m hm
    · exact .inr ⟨_, [], n, needs, key, rfl, fun m hm ↦ absurd hm List.not_mem_nil, hunmet, rfl⟩

end Need

/-- Credentials are resolved value by value. -/
theorem Credentials.resolve_eq (e : Environment) (c : Credentials) :
    c.resolve e = (c.needs.mapM (Need.resolve e)).map fun _ ↦ c.under e := by
  have hneed : ∀ variableName stored part,
      resolvePart e part variableName stored = .ok (e.overlay variableName stored) ∨
        ∃ x, resolvePart e part variableName stored = .error x := by
    intro variableName stored part
    rcases Need.met_or_unmet e ⟨variableName, stored, some part⟩ with h | ⟨key, h⟩
    · exact .inl (Need.resolve_of_met h)
    · exact .inr ⟨_, Need.resolve_of_unmet h⟩
  cases c with
  | accessToken token =>
    simp only [resolve, needs, List.mapM_cons, Need.resolve]
    rcases hneed "AZURE_ACCESS_TOKEN" token "access token" with h | ⟨x, h⟩
    · rw [h]
      rfl
    · rw [h]
      rfl
  | clientSecret tenantId clientId secret =>
    simp only [resolve, needs, List.mapM_cons, Need.resolve]
    rcases hneed "AZURE_TENANT_ID" tenantId "tenant id" with h | ⟨x, h⟩
    · rw [h]
      rcases hneed "AZURE_CLIENT_ID" clientId "client id" with h | ⟨x, h⟩
      · rw [h]
        rcases hneed "AZURE_CLIENT_SECRET" secret "client secret" with h | ⟨x, h⟩
        · rw [h]
          rfl
        · rw [h]
          rfl
      · rw [h]
        rfl
    · rw [h]
      rfl

/-! ## Clouds

A cloud has several names, in any case of letters, and no name is that of two clouds.  So a setting
is determined by the name that a variable holds.
-/

namespace Cloud

/-- A name is that of one cloud. -/
theorem eq_of_mem_aliases {name : String} {c d : Cloud} (hc : name ∈ c.aliases)
    (hd : name ∈ d.aliases) : c = d := by
  have hdisjoint : ∀ c d : Cloud, c ≠ d → ∀ name ∈ c.aliases, name ∉ d.aliases := by
    intro c d
    cases c <;> cases d <;> decide
  exact Decidable.byContradiction fun hne ↦ hdisjoint c d hne name hc hd

theorem parse_eq_ok {name : String} {c : Cloud} :
    parse name = .ok c ↔ Text.lowerAscii name ∈ c.aliases := by
  have hfind : ofAlias? name = some c ↔ Text.lowerAscii name ∈ c.aliases := by
    rw [ofAlias?]
    have hfound : ∀ {d : Cloud}, (all.find? fun d ↦ d.aliases.contains (Text.lowerAscii name)) =
        some d → Text.lowerAscii name ∈ d.aliases := fun h ↦ List.contains_iff_mem.mp
      (@List.find?_some _ (fun d : Cloud ↦ d.aliases.contains (Text.lowerAscii name)) _ _ h)
    constructor
    · exact hfound
    · intro h
      cases hd : all.find? fun d ↦ d.aliases.contains (Text.lowerAscii name) with
      | some d => rw [eq_of_mem_aliases h (hfound hd)]
      | none =>
        have hall : c ∈ all := by cases c <;> decide
        exact absurd (List.contains_iff_mem.mpr h) (List.find?_eq_none.mp hd c hall)
  rw [← hfind, parse]
  cases ofAlias? name with
  | some d => simp
  | none => simp

theorem parse_eq_error {name : String} {x : ConfigError} :
    parse name = .error x ↔ (∀ c : Cloud, Text.lowerAscii name ∉ c.aliases) ∧
      x = .unknownCloud (Text.lowerAscii name) := by
  cases hparse : parse name with
  | ok c =>
    refine iff_of_false nofun fun h ↦ h.1 c (parse_eq_ok.mp hparse)
  | error y =>
    have hnone : ∀ c : Cloud, Text.lowerAscii name ∉ c.aliases := fun c hc ↦ by
      rw [parse_eq_ok.mpr hc] at hparse
      cases hparse
    have hy : y = .unknownCloud (Text.lowerAscii name) := by
      rw [parse] at hparse
      split at hparse
      · cases hparse
      · exact (Except.error.inj hparse).symm
    rw [hy, Except.error.injEq]
    exact ⟨fun h ↦ ⟨hnone, h.symm⟩, fun h ↦ h.2.symm⟩

end Cloud

/-! ## Profiles -/

/-- The profile that a configuration selects, there or not: the one that is asked for, else the
default, else the first. -/
inductive Config.Selects (c : Config) : Option String → String → Prop
  | asked (name : String) : Selects c (some name) name
  | default {name : String} (h : c.defaultProfile = some name) : Selects c none name
  | first {name : String} {others : List String} (hdefault : c.defaultProfile = none)
      (hnames : c.names = name :: others) : Selects c none name

/-- The values that settings from a profile need: the subscription first, then the credentials. -/
def Profile.needs (p : Profile) : List Need :=
  ⟨"AZURE_SUBSCRIPTION_ID", p.subscriptionId, none⟩ :: p.credentials.needs

namespace Settings

variable {e e' : Environment} {c : Config} {p : Profile} {s : Settings} {path name : String}
  {explicit : Option String} {x : ConfigError}

/-- The environment names a cloud, if it names anything as one. -/
def NamesCloud (e : Environment) : Prop :=
  ∀ name, e.value? "AZURE_ENVIRONMENT" = some name →
    ∃ cloud : Cloud, Text.lowerAscii name ∈ cloud.aliases

/-- The settings of a profile with an environment laid over them: each setting is that of its own
variable, if that is set, else that of the profile. -/
structure LaidOver (e : Environment) (p : Profile) (s : Settings) : Prop where
  subscriptionId : s.subscriptionId = e.overlay "AZURE_SUBSCRIPTION_ID" p.subscriptionId
  resourceGroup : s.resourceGroup = (e.value? "AZURE_BASE_GROUP_NAME").or p.resourceGroup
  location : s.location = e.overlay "AZURE_LOCATION_DEFAULT" p.location
  cloudNamed : ∀ name, e.value? "AZURE_ENVIRONMENT" = some name →
    Text.lowerAscii name ∈ s.cloud.aliases
  cloudKept : e.value? "AZURE_ENVIRONMENT" = none → s.cloud = p.cloud
  credentials : s.credentials = p.credentials.under e
  poll : s.poll = (p.poll.map PollSetting.toPolicy).getD .default
  userAgent : s.userAgent = p.userAgent
  endpoint : s.endpoint = none
  authority : s.authority = none

/-- What is in the way of settings first. -/
inductive Hindered (e : Environment) (c : Config) (path : String) (explicit : Option String) :
    ConfigError → Prop
  /-- No profile is asked for, and there is none. -/
  | noProfiles (hexplicit : explicit = none) (hdefault : c.defaultProfile = none)
      (hnone : c.profiles = []) : Hindered e c path explicit (.noProfiles path)
  /-- There is no such profile. -/
  | notFound {name : String} (hselects : c.Selects explicit name) (hnone : c.profile? name = none) :
      Hindered e c path explicit (.profileNotFound name)
  /-- A value is in a keyring. -/
  | unmet {name : String} {p : Profile} {x : ConfigError} (hselects : c.Selects explicit name)
      (hprofile : c.profile? name = some p) (hunmet : Need.FirstUnmet e p.needs x) :
      Hindered e c path explicit x
  /-- The environment names as a cloud what is none. -/
  | unknownCloud {name cloud : String} {p : Profile} (hselects : c.Selects explicit name)
      (hprofile : c.profile? name = some p) (hmet : ∀ n ∈ p.needs, n.Met e)
      (hset : e.value? "AZURE_ENVIRONMENT" = some cloud)
      (hunknown : ∀ k : Cloud, Text.lowerAscii cloud ∉ k.aliases) :
      Hindered e c path explicit (.unknownCloud (Text.lowerAscii cloud))

/-! ## From a profile

Resolution reads the values first and the cloud last.  The settings are fixed by then but for the
cloud, so they are a function of it (`Settings.laid`).
-/

/-- The settings of a profile in a cloud, with an environment laid over all others. -/
def laid (e : Environment) (p : Profile) (cloud : Cloud) : Settings where
  subscriptionId := e.overlay "AZURE_SUBSCRIPTION_ID" p.subscriptionId
  resourceGroup := (e.value? "AZURE_BASE_GROUP_NAME").or p.resourceGroup
  location := e.overlay "AZURE_LOCATION_DEFAULT" p.location
  cloud := cloud
  credentials := p.credentials.under e
  poll := (p.poll.map PollSetting.toPolicy).getD .default
  userAgent := p.userAgent
  endpoint := none
  authority := none

/-- The values come first, the cloud last. -/
theorem ofProfile_eq (e : Environment) (p : Profile) :
    ofProfile e p =
      p.needs.mapM (Need.resolve e) >>= fun _ ↦ (cloudOr e p.cloud).map (laid e p) := by
  have hsubscription : Credentials.resolveValue e subscriptionVariable p.subscriptionId =
      Need.resolve e ⟨"AZURE_SUBSCRIPTION_ID", p.subscriptionId, none⟩ := rfl
  rw [ofProfile, Profile.needs, List.mapM_cons, Credentials.resolve_eq, hsubscription]
  rcases Need.met_or_unmet e ⟨"AZURE_SUBSCRIPTION_ID", p.subscriptionId, none⟩ with h | ⟨key, h⟩
  · rw [Need.resolve_of_met h]
    cases p.credentials.needs.mapM (Need.resolve e) with
    | error x => rfl
    | ok values =>
      cases cloudOr e p.cloud with
      | error x => rfl
      | ok cloud => rfl
  · rw [Need.resolve_of_unmet h]
    rfl

theorem ofProfile_of_met (h : ∀ n ∈ p.needs, n.Met e) :
    ofProfile e p = (cloudOr e p.cloud).map (laid e p) := by
  rw [ofProfile_eq, Need.mapM_resolve_of_met h]
  rfl

theorem ofProfile_of_firstUnmet (h : Need.FirstUnmet e p.needs x) : ofProfile e p = .error x := by
  rw [ofProfile_eq, Need.mapM_resolve_of_firstUnmet h]
  rfl

theorem cloudOr_eq_ok {cloud k : Cloud} :
    cloudOr e cloud = .ok k ↔
      (∀ name, e.value? "AZURE_ENVIRONMENT" = some name → Text.lowerAscii name ∈ k.aliases) ∧
        (e.value? "AZURE_ENVIRONMENT" = none → k = cloud) := by
  rw [cloudOr, cloudVariable]
  cases e.value? "AZURE_ENVIRONMENT" with
  | some name => simp [Cloud.parse_eq_ok]
  | none => simp [eq_comm]

theorem cloudOr_eq_error {cloud : Cloud} :
    cloudOr e cloud = .error x ↔ ∃ name, e.value? "AZURE_ENVIRONMENT" = some name ∧
      (∀ k : Cloud, Text.lowerAscii name ∉ k.aliases) ∧
      x = .unknownCloud (Text.lowerAscii name) := by
  rw [cloudOr, cloudVariable]
  cases e.value? "AZURE_ENVIRONMENT" with
  | some name => simp [Cloud.parse_eq_error]
  | none => simp

theorem exists_cloudOr (cloud : Cloud) (h : NamesCloud e) : ∃ k, cloudOr e cloud = .ok k := by
  cases hcloud : cloudOr e cloud with
  | ok k => exact ⟨k, rfl⟩
  | error x =>
    obtain ⟨name, hname, hunknown, -⟩ := cloudOr_eq_error.mp hcloud
    obtain ⟨k, hk⟩ := h name hname
    exact absurd hk (hunknown k)

/-- With all values at hand, the settings are those that lie over the profile. -/
theorem ofProfile_eq_ok (h : ∀ n ∈ p.needs, n.Met e) :
    ofProfile e p = .ok s ↔ LaidOver e p s := by
  rw [ofProfile_of_met h]
  constructor
  · intro hs
    cases hcloud : cloudOr e p.cloud with
    | error x =>
      rw [hcloud] at hs
      cases hs
    | ok k =>
      rw [hcloud] at hs
      cases hs
      obtain ⟨hnamed, hkept⟩ := cloudOr_eq_ok.mp hcloud
      exact ⟨rfl, rfl, rfl, hnamed, hkept, rfl, rfl, rfl, rfl, rfl⟩
  · intro hs
    rw [cloudOr_eq_ok.mpr ⟨hs.cloudNamed, hs.cloudKept⟩]
    obtain ⟨subscriptionId, resourceGroup, location, cloud, credentials, poll, userAgent, endpoint,
      authority⟩ := s
    obtain ⟨rfl, rfl, rfl, -, -, rfl, rfl, rfl, rfl, rfl⟩ := hs
    rfl

/-! ## From a configuration

`Settings.Unhindered` and `Settings.Hindered` cover all cases and exclude each other, because
resolution has one outcome.  Both halves of the law follow from what resolution does in each case.
-/

theorem resolve_of_profile (hselects : c.Selects explicit name)
    (hprofile : c.profile? name = some p) : resolve e c path explicit = ofProfile e p := by
  have hname : c.resolveProfile path explicit = .ok name := by
    cases hselects with
    | asked => rw [Config.resolveProfile, hprofile]; rfl
    | default h => rw [Config.resolveProfile, h]
    | first hdefault hnames => rw [Config.resolveProfile, hdefault, hnames]
  simp only [resolve, hname, bind, Except.bind, hprofile]

theorem resolve_of_notFound (hselects : c.Selects explicit name) (hnone : c.profile? name = none) :
    resolve e c path explicit = .error (.profileNotFound name) := by
  cases hselects with
  | asked =>
    rw [resolve, Config.resolveProfile, hnone]
    rfl
  | default h =>
    simp only [resolve, Config.resolveProfile, h, bind, Except.bind, hnone]
    rfl
  | first hdefault hnames =>
    simp only [resolve, Config.resolveProfile, hdefault, hnames, bind, Except.bind, hnone]
    rfl

theorem resolve_of_noProfiles (hdefault : c.defaultProfile = none) (hnone : c.profiles = []) :
    resolve e c path none = .error (.noProfiles path) := by
  have hnames : c.names = [] := by rw [Config.names, hnone]; rfl
  rw [resolve, Config.resolveProfile, hdefault, hnames]
  rfl

/-- Either a profile is selected, or there is none. -/
theorem selects_or_noProfiles (c : Config) (explicit : Option String) :
    (∃ name, c.Selects explicit name) ∨
      explicit = none ∧ c.defaultProfile = none ∧ c.profiles = [] := by
  cases explicit with
  | some name => exact .inl ⟨name, .asked name⟩
  | none =>
    cases hdefault : c.defaultProfile with
    | some name => exact .inl ⟨name, .default hdefault⟩
    | none =>
      cases hprofiles : c.profiles with
      | nil => exact .inr ⟨rfl, rfl, rfl⟩
      | cons entry others =>
        exact .inl ⟨entry.1, .first hdefault (by rw [Config.names, hprofiles]; rfl)⟩

/-- The conditions for settings: a profile is selected and there, every value that is needed can be
had, and the environment names no cloud that there is not. -/
def Unhindered (e : Environment) (c : Config) (explicit : Option String) : Prop :=
  ∃ name p, c.Selects explicit name ∧ c.profile? name = some p ∧ (∀ n ∈ p.needs, n.Met e) ∧
    NamesCloud e

theorem Unhindered.resolve (h : Unhindered e c explicit) (path : String) :
    ∃ s, resolve e c path explicit = .ok s := by
  obtain ⟨name, p, hselects, hprofile, hmet, hcloud⟩ := h
  obtain ⟨k, hk⟩ := exists_cloudOr p.cloud hcloud
  refine ⟨laid e p k, ?_⟩
  rw [resolve_of_profile hselects hprofile, ofProfile_of_met hmet, hk]
  rfl

theorem Hindered.resolve (h : Hindered e c path explicit x) :
    resolve e c path explicit = .error x := by
  cases h with
  | noProfiles hexplicit hdefault hnone =>
    rw [hexplicit]
    exact resolve_of_noProfiles hdefault hnone
  | notFound hselects hnone => exact resolve_of_notFound hselects hnone
  | unmet hselects hprofile hunmet =>
    rw [resolve_of_profile hselects hprofile]
    exact ofProfile_of_firstUnmet hunmet
  | unknownCloud hselects hprofile hmet hset hunknown =>
    rw [resolve_of_profile hselects hprofile, ofProfile_of_met hmet,
      cloudOr_eq_error.mpr ⟨_, hset, hunknown, rfl⟩]
    rfl

/-- Nothing is in the way of settings, or something is first. -/
theorem unhindered_or_hindered (e : Environment) (c : Config) (path : String)
    (explicit : Option String) :
    Unhindered e c explicit ∨ ∃ x, Hindered e c path explicit x := by
  rcases selects_or_noProfiles c explicit with ⟨name, hselects⟩ | ⟨hexplicit, hdefault, hnone⟩
  · cases hprofile : c.profile? name with
    | none => exact .inr ⟨_, .notFound hselects hprofile⟩
    | some p =>
      rcases Need.met_or_firstUnmet e p.needs with hmet | ⟨x, hunmet⟩
      · cases hcloud : cloudOr e p.cloud with
        | error x =>
          obtain ⟨cloud, hset, hunknown, -⟩ := cloudOr_eq_error.mp hcloud
          exact .inr ⟨_, .unknownCloud hselects hprofile hmet hset hunknown⟩
        | ok k =>
          exact .inl ⟨name, p, hselects, hprofile, hmet,
            fun name hname ↦ ⟨k, (cloudOr_eq_ok.mp hcloud).1 name hname⟩⟩
      · exact .inr ⟨x, .unmet hselects hprofile hunmet⟩
  · exact .inr ⟨_, .noProfiles hexplicit hdefault hnone⟩

/-- Two environments resolve alike if they agree on the variables that a profile goes by. -/
theorem ofProfile_congr (h : ∀ u ∉ p.credentials.foreignVariables, e'.value? u = e.value? u) :
    ofProfile e' p = ofProfile e p := by
  have hvalue : ∀ u stored, u ∉ p.credentials.foreignVariables →
      Credentials.resolveValue e' u stored = Credentials.resolveValue e u stored :=
    fun u stored hu ↦ by rw [Credentials.resolveValue, Credentials.resolveValue, h u hu]
  have hcredentials : p.credentials.resolve e' = p.credentials.resolve e := by
    cases hkind : p.credentials with
    | clientSecret tenantId clientId secret =>
      simp only [hkind, Credentials.foreignVariables] at hvalue
      simp only [Credentials.resolve, Credentials.resolvePart,
        hvalue "AZURE_TENANT_ID" _ (by decide), hvalue "AZURE_CLIENT_ID" _ (by decide),
        hvalue "AZURE_CLIENT_SECRET" _ (by decide)]
    | accessToken token =>
      simp only [hkind, Credentials.foreignVariables] at hvalue
      simp only [Credentials.resolve, Credentials.resolvePart,
        hvalue "AZURE_ACCESS_TOKEN" _ (by decide)]
  have hcommon : ∀ u ∈ [subscriptionVariable, groupVariable, locationVariable, cloudVariable],
      u ∉ p.credentials.foreignVariables := by
    cases p.credentials <;> rw [Credentials.foreignVariables] <;> decide
  rw [ofProfile, ofProfile, hvalue subscriptionVariable _ (hcommon _ (by decide)), hcredentials,
    cloudOr, cloudOr, h groupVariable (hcommon _ (by decide)),
    h locationVariable (hcommon _ (by decide)), h cloudVariable (hcommon _ (by decide))]

/-- **Settings are resolved in layers.**  There are settings if and only if a profile is selected
and there, every value that it must give is hidden by a variable or in no keyring, and the
environment names no unknown cloud.  They are then those of the profile with the environment laid
over them, each under its own variable; else the error is what is in the way first.  The variables
of credentials of the other kind have no part in it. -/
theorem resolve_layers (e : Environment) (c : Config) (path : String) (explicit : Option String) :
    ((∃ s, resolve e c path explicit = .ok s) ↔ Unhindered e c explicit) ∧
    (∀ s, resolve e c path explicit = .ok s →
      ∃ name p, c.Selects explicit name ∧ c.profile? name = some p ∧ LaidOver e p s) ∧
    (∀ x, resolve e c path explicit = .error x ↔ Hindered e c path explicit x) ∧
    ∀ name p e', c.Selects explicit name → c.profile? name = some p →
      (∀ u ∉ p.credentials.foreignVariables, e'.value? u = e.value? u) →
        resolve e' c path explicit = resolve e c path explicit := by
  have hcases := unhindered_or_hindered e c path explicit
  refine ⟨⟨?_, fun h ↦ h.resolve path⟩, ?_, fun x ↦ ⟨?_, fun h ↦ h.resolve⟩, ?_⟩
  · rintro ⟨s, hs⟩
    rcases hcases with h | ⟨x, h⟩
    · exact h
    · rw [h.resolve] at hs
      cases hs
  · intro s hs
    rcases hcases with ⟨name, p, hselects, hprofile, hmet, -⟩ | ⟨x, h⟩
    · rw [resolve_of_profile hselects hprofile, ofProfile_eq_ok hmet] at hs
      exact ⟨name, p, hselects, hprofile, hs⟩
    · rw [h.resolve] at hs
      cases hs
  · intro hx
    rcases hcases with h | ⟨y, h⟩
    · obtain ⟨s, hs⟩ := h.resolve path
      rw [hs] at hx
      cases hx
    · rw [h.resolve] at hx
      cases hx
      exact h
  · intro name p e' hselects hprofile hagree
    rw [resolve_of_profile hselects hprofile, resolve_of_profile hselects hprofile,
      ofProfile_congr hagree]

/-! ## From the environment alone

Without a profile the environment has to give the subscription and credentials itself.  Laid over a
profile with credentials of the same kind, it hides every value that could be in a keyring.
-/

/-- The environment holds credentials; a token comes before a secret. -/
inductive Holds (e : Environment) : Credentials → Prop
  | token {token : String} (htoken : e.value? "AZURE_ACCESS_TOKEN" = some token) :
      Holds e (.accessToken token)
  | secret {tenantId clientId secret : String} (htoken : e.value? "AZURE_ACCESS_TOKEN" = none)
      (htenant : e.value? "AZURE_TENANT_ID" = some tenantId)
      (hclient : e.value? "AZURE_CLIENT_ID" = some clientId)
      (hsecret : e.value? "AZURE_CLIENT_SECRET" = some secret) :
      Holds e (.clientSecret tenantId clientId secret)

/-- Settings that the environment gives without a profile. -/
structure Given (e : Environment) (s : Settings) : Prop where
  subscriptionId : e.value? "AZURE_SUBSCRIPTION_ID" = some s.subscriptionId
  credentials : Holds e s.credentials
  resourceGroup : s.resourceGroup = e.value? "AZURE_BASE_GROUP_NAME"
  location : s.location = e.overlay "AZURE_LOCATION_DEFAULT" defaultLocation
  cloudNamed : ∀ name, e.value? "AZURE_ENVIRONMENT" = some name →
    Text.lowerAscii name ∈ s.cloud.aliases

theorem required_eq_ok {variableName value : String} :
    required e variableName name = .ok value ↔ e.value? variableName = some value := by
  rw [required]
  cases e.value? variableName with
  | some found => simp
  | none => simp

theorem holds_of_credentialsOf {k : Credentials} (h : credentialsOf e = .ok k) : Holds e k := by
  rw [credentialsOf, tokenVariable] at h
  cases htoken : e.value? "AZURE_ACCESS_TOKEN" with
  | some token =>
    rw [htoken] at h
    cases h
    exact .token htoken
  | none =>
    rw [htoken] at h
    cases htenant : required e "AZURE_TENANT_ID" "tenant_id" with
    | error x =>
      rw [htenant] at h
      cases h
    | ok tenantId =>
      cases hclient : required e "AZURE_CLIENT_ID" "client_id" with
      | error x =>
        rw [htenant, hclient] at h
        cases h
      | ok clientId =>
        cases hsecret : required e "AZURE_CLIENT_SECRET" "client_secret" with
        | error x =>
          rw [htenant, hclient, hsecret] at h
          cases h
        | ok secret =>
          rw [htenant, hclient, hsecret] at h
          cases h
          exact .secret htoken (required_eq_ok.mp htenant) (required_eq_ok.mp hclient)
            (required_eq_ok.mp hsecret)

theorem given_of_ofEnvironment (h : ofEnvironment e = .ok s) : Given e s := by
  rw [ofEnvironment] at h
  cases hsubscription : required e subscriptionVariable "subscription_id" with
  | error x =>
    rw [hsubscription] at h
    cases h
  | ok subscriptionId =>
    cases hcredentials : credentialsOf e with
    | error x =>
      rw [hsubscription, hcredentials] at h
      cases h
    | ok credentials =>
      cases hcloud : cloudOr e .publicCloud with
      | error x =>
        rw [hsubscription, hcredentials, hcloud] at h
        cases h
      | ok cloud =>
        rw [hsubscription, hcredentials, hcloud] at h
        cases h
        exact ⟨required_eq_ok.mp hsubscription, holds_of_credentialsOf hcredentials, rfl, rfl,
          (cloudOr_eq_ok.mp hcloud).1⟩

/-- Credentials that the environment holds hide those of the same kind. -/
theorem Holds.hides {held k : Credentials} (h : Holds e held) (hkind : k.isToken = held.isToken) :
    (∀ n ∈ k.needs, n.Met e) ∧ k.under e = held := by
  cases h with
  | @token token htoken =>
    cases k with
    | clientSecret => cases hkind
    | accessToken stored =>
      refine ⟨fun n hn ↦ ?_, ?_⟩
      · rw [List.mem_singleton.mp hn]
        exact Need.met_of_set htoken
      · rw [Credentials.under, Environment.overlay_of_set htoken]
  | @secret tenantId clientId secret htoken htenant hclient hsecret =>
    cases k with
    | accessToken => cases hkind
    | clientSecret =>
      refine ⟨fun n hn ↦ ?_, ?_⟩
      · rw [Credentials.needs, List.mem_cons, List.mem_cons, List.mem_singleton] at hn
        rcases hn with rfl | rfl | rfl
        · exact Need.met_of_set htenant
        · exact Need.met_of_set hclient
        · exact Need.met_of_set hsecret
      · rw [Credentials.under, Environment.overlay_of_set htenant,
          Environment.overlay_of_set hclient, Environment.overlay_of_set hsecret]

/-- **An environment that gives settings alone gives them over a profile.**  Where the profile in
use has credentials of the kind that the environment holds, it has settings too, wherever its own
values are kept; they have the subscription and the credentials of the environment, and the group,
the location and the cloud that variables are set to. -/
theorem resolve_of_ofEnvironment {e : Environment} {c : Config} {explicit : Option String}
    {name : String} {p : Profile} {alone : Settings} (path : String)
    (halone : ofEnvironment e = .ok alone) (hselects : c.Selects explicit name)
    (hprofile : c.profile? name = some p)
    (hkind : p.credentials.isToken = alone.credentials.isToken) :
    ∃ s, resolve e c path explicit = .ok s ∧
      s.subscriptionId = alone.subscriptionId ∧ s.credentials = alone.credentials ∧
      (∀ group, e.value? "AZURE_BASE_GROUP_NAME" = some group →
        s.resourceGroup = some group ∧ alone.resourceGroup = some group) ∧
      (∀ location, e.value? "AZURE_LOCATION_DEFAULT" = some location →
        s.location = location ∧ alone.location = location) ∧
      ∀ cloud, e.value? "AZURE_ENVIRONMENT" = some cloud →
        s.cloud = alone.cloud ∧ Text.lowerAscii cloud ∈ s.cloud.aliases := by
  have hgiven := given_of_ofEnvironment halone
  obtain ⟨hcredentials, hunder⟩ := hgiven.credentials.hides hkind
  have hmet : ∀ n ∈ p.needs, n.Met e := by
    intro n hn
    rcases List.mem_cons.mp hn with rfl | hn
    · exact Need.met_of_set hgiven.subscriptionId
    · exact hcredentials n hn
  have hunhindered : Unhindered e c explicit :=
    ⟨name, p, hselects, hprofile, hmet, fun cloud hset ↦ ⟨_, hgiven.cloudNamed cloud hset⟩⟩
  obtain ⟨s, hs⟩ := hunhindered.resolve path
  have hover : LaidOver e p s :=
    (ofProfile_eq_ok hmet).mp ((resolve_of_profile hselects hprofile).symm.trans hs)
  refine ⟨s, hs, ?_, ?_, fun group hset ↦ ⟨?_, ?_⟩, fun location hset ↦ ⟨?_, ?_⟩,
    fun cloud hset ↦ ⟨?_, ?_⟩⟩
  · rw [hover.subscriptionId, Environment.overlay_of_set hgiven.subscriptionId]
  · rw [hover.credentials, hunder]
  · rw [hover.resourceGroup, hset, Option.some_or]
  · rw [hgiven.resourceGroup, hset]
  · rw [hover.location, Environment.overlay_of_set hset]
  · rw [hgiven.location, Environment.overlay_of_set hset]
  · exact Cloud.eq_of_mem_aliases (hover.cloudNamed cloud hset) (hgiven.cloudNamed cloud hset)
  · exact hover.cloudNamed cloud hset

/-- A profile with all its values in a keyring, and settings of its own. -/
def referringProfile : Profile where
  subscriptionId := "keyring:subscription"
  resourceGroup := some "group"
  location := "here"
  cloud := .china
  credentials := .clientSecret "keyring:tenant" "keyring:" "keyring:keyring:secret"
  poll := none
  userAgent := some "agent"

/-- An environment that holds a secret and names a group, but no location. -/
def secretEnvironment : Environment :=
  ((((((Environment.empty.set "AZURE_SUBSCRIPTION_ID" "sub").set "AZURE_TENANT_ID" "keyring:t").set
    "AZURE_CLIENT_ID" "c").set "AZURE_CLIENT_SECRET" "s").set "AZURE_BASE_GROUP_NAME" "other").set
    "AZURE_LOCATION_DEFAULT" "").set "AZURE_ENVIRONMENT" "AzureUSGovernment"

theorem resolve_of_hidden_references :
    referringProfile.needs.length = 4 ∧
      ∃ s, resolve secretEnvironment ⟨none, [("work", referringProfile)]⟩ "/config" none = .ok s ∧
        s.subscriptionId = "sub" ∧ s.credentials = .clientSecret "keyring:t" "c" "s" ∧
        s.resourceGroup = some "other" ∧ s.cloud = .usGovernment := by
  have halone : ofEnvironment secretEnvironment = .ok
      { new "sub" (.clientSecret "keyring:t" "c" "s") with
        resourceGroup := some "other", cloud := .usGovernment } := by rfl
  obtain ⟨s, hs, hsubscription, hcredentials, hgroup, -, hcloud⟩ :=
    resolve_of_ofEnvironment (c := ⟨none, [("work", referringProfile)]⟩) "/config" halone
      (.first rfl rfl) rfl rfl
  exact ⟨rfl, s, hs, hsubscription, hcredentials, (hgroup "other" rfl).1,
    (hcloud "AzureUSGovernment" rfl).1⟩

end Settings
end ResourceManager
