import Mathlib.Data.List.Nodup
import ResourceManager.Proofs.ConfigReading
import ResourceManager.Proofs.Records

/-!
# Keeping profiles

Profiles are set and removed, and one that is there may be made the default.  `Config.Changed` is
any number of such changes.

* `Config.Kept` is what every change keeps: the profiles are in order, and the default is one of
  them.
* Under a name there is what the last change of that name has left (`Config.Changed.profile?_eq`),
  and a default that is not assigned goes with its profile
  (`Config.Changed.defaultProfile_eq_some`).  Both see of the changes only what was done under each
  name, so the order of changes under different names does not count
  (`Config.Changed.eq_of_about_eq`).
* The profile to use when nothing is said is the first of the names in the order of their bytes
  (`Config.isLeast_iff`), in which profiles are kept.

`Config.bookkeeping` puts this together for all that can become of an empty configuration.
-/

set_option autoImplicit false

namespace ResourceManager

/-! ## Profiles in order -/

namespace Json

variable {α : Type}

theorem mem_iff_lookup {members : List (String × α)} (h : (members.map (·.1)).Nodup)
    (m : String × α) : m ∈ members ↔ members.lookup m.1 = some m.2 := by
  have hfound : m ∈ members ↔ m ∈ members.filter (·.1 == m.1) := by simp
  rw [hfound, filter_name_eq_lookup h]
  simp [Option.map_eq_some_iff, Prod.ext_iff]

/-- Members in order are known by what is found under each name. -/
theorem eq_of_lookup_eq {members members' : List (String × α)}
    (h : members.Pairwise (·.1 < ·.1)) (h' : members'.Pairwise (·.1 < ·.1))
    (hlookup : ∀ name, members.lookup name = members'.lookup name) : members = members' := by
  have hperm : members.Perm members' := by
    refine (List.perm_ext_iff_of_nodup (List.Nodup.of_map _ (nodup_of_sorted h))
      (List.Nodup.of_map _ (nodup_of_sorted h'))).mpr fun m ↦ ?_
    rw [mem_iff_lookup (nodup_of_sorted h), mem_iff_lookup (nodup_of_sorted h'), hlookup]
  rw [← sortMembers_eq hperm h', sortMembers_eq (.refl members) h]

end Json

/-! ## Changes

A change is data, and a run is a list of changes.  So what has happened under a name is a part of
the list (`ConfigChange.about`), and two runs can be compared name by name.
-/

/-- What is done to a configuration. -/
inductive ConfigChange where
  | set (name : String) (p : Profile)
  | remove (name : String)
  | setDefault (name : Option String)

namespace ConfigChange

/-- The name under which a profile is set or removed. -/
def name? : ConfigChange → Option String
  | set name _ | remove name => some name
  | setDefault _ => none

/-- The profile under that name afterwards. -/
def profile? : ConfigChange → Option Profile
  | set _ p => some p
  | remove _ | setDefault _ => none

/-- What is done under a name, in order. -/
def about (name : String) (changes : List ConfigChange) : List ConfigChange :=
  changes.filter (·.name? = some name)

/-- The profile last set under a name, unless it has been removed since. -/
def lastSet (name : String) (changes : List ConfigChange) : Option Profile :=
  (about name changes).getLast?.bind profile?

/-- Whether the default is not assigned. -/
def LeaveDefault (changes : List ConfigChange) : Prop :=
  ∀ name, setDefault name ∉ changes

theorem LeaveDefault.tail {change : ConfigChange} {changes : List ConfigChange}
    (h : LeaveDefault (change :: changes)) : LeaveDefault changes :=
  fun name hname ↦ h name (List.mem_cons_of_mem _ hname)

theorem about_cons (name : String) (change : ConfigChange) (changes : List ConfigChange) :
    about name (change :: changes) =
      if change.name? = some name then change :: about name changes else about name changes := by
  rw [about, List.filter_cons]
  simp only [decide_eq_true_eq, about]

theorem remove_mem_about {name : String} {changes : List ConfigChange} :
    remove name ∈ about name changes ↔ remove name ∈ changes := by
  simp [about, name?]

end ConfigChange

namespace Config

open ConfigChange

/-- One change.  Only a profile that is there is made the default. -/
inductive Step (c : Config) : ConfigChange → Config → Prop
  | set (name : String) (p : Profile) : Step c (.set name p) (c.setProfile name p)
  | remove (name : String) : Step c (.remove name) (c.takeProfile name).2
  | noDefault : Step c (.setDefault none) { c with defaultProfile := none }
  | setDefault {name : String} (h : (c.profile? name).isSome = true) :
      Step c (.setDefault (some name)) { c with defaultProfile := some name }

/-- Changes one after the other. -/
inductive Changed : Config → List ConfigChange → Config → Prop
  | start (c : Config) : Changed c [] c
  | next {c d e : Config} {change : ConfigChange} {changes : List ConfigChange}
      (hstep : Step c change d) (h : Changed d changes e) : Changed c (change :: changes) e

variable {c d e : Config} {change : ConfigChange} {changes changes' : List ConfigChange}
  {name : String}

theorem changed_append : Changed c (changes ++ changes') e ↔
    ∃ d, Changed c changes d ∧ Changed d changes' e := by
  induction changes generalizing c with
  | nil =>
    constructor
    · exact fun h ↦ ⟨c, .start c, h⟩
    · rintro ⟨_, ⟨⟩, h⟩
      exact h
  | cons change changes ih =>
    constructor
    · rintro (_ | ⟨hstep, h⟩)
      obtain ⟨d, hd, he⟩ := ih.mp h
      exact ⟨d, .next hstep hd, he⟩
    · rintro ⟨d, _ | ⟨hstep, hd⟩, he⟩
      exact .next hstep (ih.mpr ⟨d, hd, he⟩)

/-- What does not assign the default can always be done. -/
theorem exists_changed (h : LeaveDefault changes) : ∃ d, Changed c changes d := by
  induction changes generalizing c with
  | nil => exact ⟨c, .start c⟩
  | cons change changes ih =>
    cases change with
    | set name p =>
      obtain ⟨d, hd⟩ := ih (c := c.setProfile name p) h.tail
      exact ⟨d, .next (.set name p) hd⟩
    | remove name =>
      obtain ⟨d, hd⟩ := ih (c := (c.takeProfile name).2) h.tail
      exact ⟨d, .next (.remove name) hd⟩
    | setDefault name => exact absurd List.mem_cons_self (h name)

theorem Step.unique (hd : Step c change d) (he : Step c change e) : d = e := by
  cases hd <;> cases he <;> rfl

theorem Changed.unique (hd : Changed c changes d) (he : Changed c changes e) : d = e := by
  induction hd with
  | start => cases he; rfl
  | next hstep _ ih =>
    cases he with
    | next hstep' he =>
      cases hstep.unique hstep'
      exact ih he

/-! ## What is under a name

First what one change does under a name, then by induction on the changes what is left there.
-/

theorem profile?_setProfile (c : Config) (name other : String) (p : Profile) :
    (c.setProfile name p).profile? other = if other = name then some p else c.profile? other :=
  Json.lookup_insertMember name other p c.profiles

theorem profile?_removeProfile (c : Config) (name other : String) :
    (c.removeProfile name).profile? other = if other = name then none else c.profile? other :=
  Json.lookup_filter_ne name other c.profiles

theorem defaultProfile_removeProfile (c : Config) (n : String) :
    (c.removeProfile n).defaultProfile = some name ↔ c.defaultProfile = some name ∧ name ≠ n := by
  simp [removeProfile, Option.filter_eq_some_iff]

theorem Step.profile?_eq (h : Step c change d) (name : String) :
    d.profile? name = if change.name? = some name then change.profile? else c.profile? name := by
  cases h with
  | set n p =>
    simp only [profile?_setProfile, ConfigChange.name?, ConfigChange.profile?, Option.some_inj,
      eq_comm]
  | remove n =>
    simp only [takeProfile, profile?_removeProfile, ConfigChange.name?, ConfigChange.profile?,
      Option.some_inj, eq_comm]
  | noDefault => rfl
  | setDefault _ => rfl

/-- Under a name there is what the last change of that name has left. -/
theorem Changed.profile?_eq (h : Changed c changes d) (name : String) : d.profile? name =
    ((about name changes).getLast?.map ConfigChange.profile?).getD (c.profile? name) := by
  induction h with
  | start c => rfl
  | @next c d e change changes hstep _ ih =>
    rw [ih, hstep.profile?_eq name, about_cons]
    split
    · rw [List.getLast?_cons]
      cases (about name changes).getLast? <;> rfl
    · rfl

/-- A default that is not assigned is there until its profile is removed. -/
theorem Changed.defaultProfile_eq_some (h : Changed c changes d) (hleave : LeaveDefault changes) :
    d.defaultProfile = some name ↔ c.defaultProfile = some name ∧ .remove name ∉ changes := by
  induction h with
  | start c => simp
  | @next c d e change changes hstep _ ih =>
    rw [ih hleave.tail, List.mem_cons, not_or]
    cases hstep with
    | set n p => simp [setProfile]
    | remove n =>
      rw [takeProfile, defaultProfile_removeProfile, ConfigChange.remove.injEq, and_assoc]
    | noDefault => exact absurd List.mem_cons_self (hleave none)
    | setDefault _ => exact absurd List.mem_cons_self (hleave _)

/-! ## What every change keeps

Profiles in order are known by what is found under each name, so configurations that agree there
and on the default are the same.  Without the order they would only be permutations of each other.
-/

/-- The profiles are in order, and the default is one of them. -/
structure Kept (c : Config) : Prop where
  ordered : c.profiles.Pairwise (·.1 < ·.1)
  isSome_default : ∀ name, c.defaultProfile = some name → (c.profile? name).isSome = true

theorem kept_empty : Kept empty where
  ordered := .nil
  isSome_default _ h := by cases h

theorem Step.kept (h : Step c change d) (hc : Kept c) : Kept d := by
  cases h with
  | set n p =>
    refine ⟨Json.insertMember_sorted n p hc.ordered, fun name hname ↦ ?_⟩
    rw [profile?_setProfile]
    split
    · rfl
    · exact hc.isSome_default name hname
  | remove n =>
    refine ⟨hc.ordered.filter _, fun name hname ↦ ?_⟩
    obtain ⟨hdefault, hne⟩ := (defaultProfile_removeProfile c n).mp hname
    rw [takeProfile, profile?_removeProfile, if_neg hne]
    exact hc.isSome_default name hdefault
  | noDefault => exact ⟨hc.ordered, fun _ hname ↦ by cases hname⟩
  | setDefault h =>
    refine ⟨hc.ordered, fun name hname ↦ ?_⟩
    cases hname
    exact h

theorem Changed.kept (h : Changed c changes d) (hc : Kept c) : Kept d := by
  induction h with
  | start => exact hc
  | next hstep _ ih => exact ih (hstep.kept hc)

theorem Kept.eq_of_profile? (hc : Kept c) (hd : Kept d)
    (hdefault : ∀ name, c.defaultProfile = some name ↔ d.defaultProfile = some name)
    (hprofile : ∀ name, c.profile? name = d.profile? name) : c = d := by
  obtain ⟨default, profiles⟩ := c
  obtain ⟨default', profiles'⟩ := d
  obtain rfl : default = default' := Option.ext hdefault
  exact congrArg (Config.mk default) (Json.eq_of_lookup_eq hc.ordered hd.ordered hprofile)

/-- What is done under different names may be done in any order. -/
theorem Changed.eq_of_about_eq (hc : Kept c) (hd : Changed c changes d) (he : Changed c changes' e)
    (hleave : LeaveDefault changes) (hleave' : LeaveDefault changes')
    (habout : ∀ name, about name changes = about name changes') : d = e := by
  refine (hd.kept hc).eq_of_profile? (he.kept hc) (fun name ↦ ?_) fun name ↦ ?_
  · rw [hd.defaultProfile_eq_some hleave, he.defaultProfile_eq_some hleave', ← remove_mem_about,
      habout, remove_mem_about]
  · rw [hd.profile?_eq, he.profile?_eq, habout]

/-! ## The profile to use

Profiles are kept in the order of their names as texts, and the least name is the one of the least
bytes.  These are one order (`Utf8.encode_lt`).
-/

theorem mem_names_iff : name ∈ c.names ↔ (c.profile? name).isSome = true := by
  rw [names, profile?, List.mem_map, List.lookup_isSome_iff]
  constructor
  · rintro ⟨m, hm, rfl⟩
    exact ⟨m, hm, beq_self_eq_true m.1⟩
  · rintro ⟨m, hm, hname⟩
    exact ⟨m, hm, (eq_of_beq hname).symm⟩

/-- Whether a name is the least one, in the order of the bytes of names. -/
structure IsLeast (c : Config) (name : String) : Prop where
  isSome : (c.profile? name).isSome = true
  least : ∀ other, (c.profile? other).isSome = true → other ≠ name →
    Utf8.encode name.toList < Utf8.encode other.toList

theorem isLeast_iff (hc : c.Kept) : c.IsLeast name ↔ c.names.head? = some name := by
  have hordered : c.names.Pairwise (· < ·) := List.pairwise_map.mpr hc.ordered
  have hmem : ∀ other, (c.profile? other).isSome = true ↔ other ∈ c.names :=
    fun _ ↦ mem_names_iff.symm
  have hbytes : ∀ {s t : String}, s < t → Utf8.encode s.toList < Utf8.encode t.toList :=
    fun h ↦ Utf8.encode_lt (String.lt_iff.mp h)
  constructor
  · rintro ⟨hname, hleast⟩
    rw [hmem] at hname
    cases hnames : c.names with
    | nil =>
      rw [hnames] at hname
      cases hname
    | cons first rest =>
      rw [hnames] at hordered hname
      have hfirst : (c.profile? first).isSome = true := by
        rw [hmem, hnames]
        exact List.mem_cons_self
      rcases List.mem_cons.mp hname with rfl | hrest
      · rfl
      · have hlt : first < name := (List.pairwise_cons.mp hordered).1 name hrest
        have hne : first ≠ name := fun heq ↦ String.lt_irrefl name (heq ▸ hlt)
        exact absurd (hbytes hlt) (List.lt_asymm (hleast first hfirst hne))
  · intro hhead
    obtain ⟨rest, hnames⟩ := List.head?_eq_some_iff.mp hhead
    rw [hnames] at hordered
    refine ⟨?_, fun other hother hne ↦ ?_⟩
    · rw [hmem, hnames]
      exact List.mem_cons_self
    · rw [hmem, hnames] at hother
      exact hbytes ((List.pairwise_cons.mp hordered).1 other
        ((List.mem_cons.mp hother).resolve_left hne))

theorem resolveProfile_none_eq_ok {path : String} : c.resolveProfile path none = .ok name ↔
    c.defaultProfile = some name ∨ c.defaultProfile = none ∧ c.names.head? = some name := by
  rw [resolveProfile]
  cases c.defaultProfile with
  | some _ => simp
  | none => cases c.names <;> simp

theorem resolveProfile_none_eq_error {path : String} {cause : ConfigError} :
    c.resolveProfile path none = .error cause ↔
      (c.defaultProfile = none ∧ c.names = []) ∧ cause = .noProfiles path := by
  rw [resolveProfile]
  cases c.defaultProfile with
  | some _ => simp
  | none => cases c.names <;> simp [eq_comm]

theorem resolveProfile_some_eq_ok {path found : String} :
    c.resolveProfile path (some name) = .ok found ↔
      found = name ∧ (c.profile? name).isSome = true := by
  rw [resolveProfile]
  split
  · rename_i h
    simp [h, eq_comm]
  · rename_i h
    simp [h]

theorem resolveProfile_some_eq_error {path : String} {cause : ConfigError} :
    c.resolveProfile path (some name) = .error cause ↔
      c.profile? name = none ∧ cause = .profileNotFound name := by
  rw [resolveProfile]
  split
  · rename_i h
    simp [Option.isSome_iff_ne_none.mp h]
  · rename_i h
    simp [Option.not_isSome_iff_eq_none.mp h, eq_comm]

/-! ## The whole -/

/-- What can be said of what changes have made of an empty configuration. -/
structure Bookkeeping (changes : List ConfigChange) (c : Config) : Prop where
  /-- The default is a profile that is there. -/
  isSome_default : ∀ name, c.defaultProfile = some name → (c.profile? name).isSome = true
  profile?_eq : ∀ name, c.profile? name = lastSet name changes
  /-- When nothing is said, the default is used, else the least name. -/
  resolve_none : ∀ path name, c.resolveProfile path none = .ok name ↔
    c.defaultProfile = some name ∨ c.defaultProfile = none ∧ c.IsLeast name
  isSome_of_resolve : ∀ path name, c.resolveProfile path none = .ok name →
    (c.profile? name).isSome = true
  resolve_none_error : ∀ path cause, c.resolveProfile path none = .error cause ↔
    (∀ name, c.profile? name = none) ∧ cause = .noProfiles path
  resolve_some : ∀ path name found, c.resolveProfile path (some name) = .ok found ↔
    found = name ∧ (c.profile? name).isSome = true
  resolve_some_error : ∀ path name cause, c.resolveProfile path (some name) = .error cause ↔
    c.profile? name = none ∧ cause = .profileNotFound name
  take_returns : ∀ name, (c.takeProfile name).1 = lastSet name changes
  take_profile : ∀ name other, (c.takeProfile name).2.profile? other =
    if other = name then none else c.profile? other
  take_default : ∀ name, (c.takeProfile name).2.defaultProfile =
    if c.defaultProfile = some name then none else c.defaultProfile
  /-- In whichever order the profiles are listed, sorting brings them into the one order. -/
  sort_listed : ∀ listed, listed.Perm c.profiles → Json.sortMembers listed = c.profiles
  /-- Changes in between that leave the default alone may be made in any order that keeps the order
  under each name: this can be done and comes to the same. -/
  reordered : ∀ before between between' after, changes = before ++ (between ++ after) →
    LeaveDefault between → LeaveDefault between' →
      (∀ name, about name between = about name between') →
        ∀ d, empty.Changed (before ++ (between' ++ after)) d ↔ d = c

/-- Under a name of what an empty configuration has become there is what was set last. -/
theorem Changed.profile?_eq_lastSet (h : empty.Changed changes c) (name : String) :
    c.profile? name = lastSet name changes := by
  rw [h.profile?_eq, lastSet]
  cases (about name changes).getLast? <;> rfl

theorem names_eq_nil_iff : c.names = [] ↔ ∀ name, c.profile? name = none := by
  rw [List.eq_nil_iff_forall_not_mem]
  simp only [mem_names_iff, Bool.not_eq_true, Option.isSome_eq_false_iff, Option.isNone_iff_eq_none]

theorem Changed.reordered {before between between' after : List ConfigChange} (hc : c.Kept)
    (h : c.Changed (before ++ (between ++ after)) d) (hleave : LeaveDefault between)
    (hleave' : LeaveDefault between')
    (habout : ∀ name, about name between = about name between') :
    c.Changed (before ++ (between' ++ after)) d := by
  obtain ⟨c₁, hbefore, h⟩ := changed_append.mp h
  obtain ⟨c₂, hbetween, hafter⟩ := changed_append.mp h
  obtain ⟨c₃, hbetween'⟩ := exists_changed (c := c₁) hleave'
  obtain rfl := hbetween.eq_of_about_eq (hbefore.kept hc) hbetween' hleave hleave' habout
  exact changed_append.mpr ⟨c₁, hbefore, changed_append.mpr ⟨c₂, hbetween', hafter⟩⟩

/-- **Profiles are kept as they were set.**  After any changes to an empty configuration, in which
only a profile that is there is made the default, the default is one of the profiles, the profile to
use is the default or the one of the least name, a profile that is removed is the one last set and
takes nothing but a default of its name with it, and the order of changes under different names does
not show. -/
theorem bookkeeping (h : empty.Changed changes c) : Bookkeeping changes c := by
  have hc : c.Kept := h.kept kept_empty
  have hresolve : ∀ path name, c.resolveProfile path none = .ok name ↔
      c.defaultProfile = some name ∨ c.defaultProfile = none ∧ c.IsLeast name := by
    intro path name
    rw [resolveProfile_none_eq_ok, isLeast_iff hc]
  exact {
    isSome_default := hc.isSome_default
    profile?_eq := h.profile?_eq_lastSet
    resolve_none := hresolve
    isSome_of_resolve := by
      intro path name hname
      rcases (hresolve path name).mp hname with hdefault | ⟨-, hleast⟩
      · exact hc.isSome_default name hdefault
      · exact hleast.isSome
    resolve_none_error := by
      intro path cause
      rw [resolveProfile_none_eq_error, ← names_eq_nil_iff]
      -- without profiles there is no default either, since it would be one of them
      refine and_congr_left fun _ ↦ ⟨And.right, fun hnames ↦ ⟨?_, hnames⟩⟩
      refine Option.eq_none_iff_forall_ne_some.mpr fun name hdefault ↦ ?_
      have hsome := hc.isSome_default name hdefault
      rw [names_eq_nil_iff.mp hnames name] at hsome
      cases hsome
    resolve_some := fun _ _ _ ↦ resolveProfile_some_eq_ok
    resolve_some_error := fun _ _ _ ↦ resolveProfile_some_eq_error
    take_returns := h.profile?_eq_lastSet
    take_profile := fun name other ↦ profile?_removeProfile c name other
    take_default := by
      intro name
      refine Option.ext fun n ↦ ?_
      rw [takeProfile, defaultProfile_removeProfile]
      split
      · rename_i hname
        rw [hname]
        constructor
        · rintro ⟨hn, hne⟩
          exact absurd (Option.some.inj hn).symm hne
        · exact fun hn ↦ by cases hn
      · rename_i hname
        exact and_iff_left_of_imp fun hn heq ↦ hname (heq ▸ hn)
    sort_listed := fun _ hlisted ↦ Json.sortMembers_eq hlisted hc.ordered
    reordered := by
      rintro before between between' after rfl hleave hleave' habout d
      have h' := h.reordered kept_empty hleave hleave' habout
      exact ⟨fun hd ↦ hd.unique h', fun hd ↦ hd ▸ h'⟩ }

/-- With the default removed the other profile is used, whichever of the two was set first. -/
theorem bookkeeping_of_removed_default :
    ∃ c, empty.Changed
        [.set "zeta" (.new "z" (.accessToken "t")), .set "alpha" (.new "a" (.accessToken "t")),
          .setDefault (some "zeta"), .remove "zeta"] c ∧
      c.resolveProfile "/config.toml" none = .ok "alpha" ∧
      empty.Changed
        [.set "alpha" (.new "a" (.accessToken "t")), .set "zeta" (.new "z" (.accessToken "t")),
          .setDefault (some "zeta"), .remove "zeta"] c := by
  have hrun : empty.Changed
      [.set "zeta" (.new "z" (.accessToken "t")), .set "alpha" (.new "a" (.accessToken "t")),
        .setDefault (some "zeta"), .remove "zeta"]
      ⟨none, [("alpha", .new "a" (.accessToken "t"))]⟩ :=
    .next (.set _ _) (.next (.set _ _) (.next (.setDefault rfl) (.next (.remove _) (.start _))))
  have h := bookkeeping hrun
  refine ⟨_, hrun, (h.resolve_none _ _).mpr (.inr ⟨rfl, ?_⟩), ?_⟩
  · exact (isLeast_iff (hrun.kept kept_empty)).mpr rfl
  · refine (h.reordered [] [.set "zeta" _, .set "alpha" _] [.set "alpha" _, .set "zeta" _] [_, _]
      rfl ?_ ?_ ?_ _).mpr rfl
    · simp [LeaveDefault]
    · simp [LeaveDefault]
    · intro name
      simp only [about_cons, ConfigChange.name?, Option.some_inj]
      by_cases hzeta : "zeta" = name
      · subst hzeta
        rfl
      · rw [if_neg hzeta, if_neg hzeta]

end Config
end ResourceManager
