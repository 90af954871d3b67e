import Mathlib.Data.List.Forall2
import Mathlib.Data.List.Perm.Basic
import ResourceManager.Config.Json

/-!
# Records read back from data

What is written as a record is read as the record, in data of every kind and whatever the order of
its members.  `Datum.Writer.Lawful` is what has to be known of the kind; an object may come back
with its members in another order, because no reader goes by their order where each name occurs once
(`Layout.slots?_perm`, `Profile.credentials?_perm`, `Json.sortMembers_eq`).

`Profile.decode?_of_perm` and `Config.decode?_of_perm` are the laws for a profile and for a
configuration, `Config.decode?_write` is the one for what a writer makes of it.

A JSON value and a JSON text are made of the same records and read by the same decoder, but a value
has its members in the order of their names and a text in the order in which they were written.  So
the laws are stated for any lawful kind of data, and each of the two only shows that it is one.
-/

set_option autoImplicit false

namespace ResourceManager

variable {α β : Type}

/-! ## Members in any order -/

/-- What is found under a name does not depend on the order, where names are different: there is at
most one such member. -/
theorem filter_name_perm {members members' : List (String × α)} (h : members.Perm members')
    (hnodup : (members.map (·.1)).Nodup) (name : String) :
    members.filter (·.1 == name) = members'.filter (·.1 == name) := by
  have hperm := h.filter (·.1 == name)
  have hnames : ((members.filter (·.1 == name)).map (·.1)).Nodup :=
    hnodup.sublist (List.filter_sublist.map _)
  have hname : ∀ m ∈ members.filter (·.1 == name), m.1 = name :=
    fun m hm ↦ eq_of_beq (List.mem_filter.mp hm).2
  generalize members.filter (·.1 == name) = found at hperm hnames hname ⊢
  match found with
  | [] => exact (List.nil_perm.mp hperm).symm
  | [m] => exact List.singleton_perm.mp hperm
  | m :: n :: _ =>
    -- two members of one name
    rw [List.map_cons, List.map_cons, hname m List.mem_cons_self,
      hname n (List.mem_cons_of_mem _ List.mem_cons_self)] at hnames
    exact absurd List.mem_cons_self (List.nodup_cons.mp hnames).1

/-- Where names are different, what is found under a name is all there is of it. -/
theorem filter_name_eq_lookup {members : List (String × α)} (h : (members.map (·.1)).Nodup)
    (name : String) :
    members.filter (·.1 == name) = ((members.lookup name).map (name, ·)).toList := by
  induction members with
  | nil => rfl
  | cons m members ih =>
    obtain ⟨n, value⟩ := m
    rw [List.map_cons, List.nodup_cons] at h
    obtain ⟨hfirst, hrest⟩ := h
    by_cases hn : n = name
    · subst hn
      have hnone : members.filter (·.1 == n) = [] :=
        List.filter_eq_nil_iff.mpr fun m hm he ↦ hfirst (List.mem_map.mpr ⟨m, hm, eq_of_beq he⟩)
      rw [List.filter_cons, if_pos (beq_self_eq_true n), hnone, List.lookup_cons_self]
      rfl
    · have hne : (name == n) = false := beq_eq_false_iff_ne.mpr (Ne.symm hn)
      rw [List.filter_cons_of_neg (by simp [hn]), ih hrest, List.lookup_cons, hne]

/-- So the fields of a record do not depend on it either. -/
theorem Layout.slots?_perm {members members' : List (String × α)} (h : members.Perm members')
    (hnodup : (members.map (·.1)).Nodup) (fields : List Field) :
    (Layout.named members).slots? fields = (Layout.named members').slots? fields := by
  have hslot : slotNamed? members = slotNamed? members' := by
    funext f
    rw [slotNamed?, slotNamed?, filter_name_perm h hnodup]
  rw [slots?, slots?, hslot]

/-! ## Other values -/

section Map

variable (h : α → β)

/-- A layout with other values in it. -/
def Layout.map : Layout α → Layout β
  | .named fields => .named (fields.map fun m ↦ (m.1, h m.2))
  | .positional values => .positional (values.map h)

theorem Layout.filter_map (fields : List (String × α)) (wanted : String → Bool) :
    (fields.map fun m ↦ (m.1, h m.2)).filter (fun m ↦ wanted m.1) =
      (fields.filter fun m ↦ wanted m.1).map fun m ↦ (m.1, h m.2) := by
  rw [List.filter_map]
  rfl

theorem Layout.slotNamed?_map (fields : List (String × α)) (f : Field) :
    slotNamed? (fields.map fun m ↦ (m.1, h m.2)) f =
      (slotNamed? fields f).map (Option.map h) := by
  rw [slotNamed?, slotNamed?, filter_map h fields (· == f.name)]
  cases fields.filter (·.1 == f.name) with
  | nil =>
    simp only [List.map_nil]
    split <;> rfl
  | cons m rest => cases rest <;> rfl

theorem Layout.slotsAt?_map : ∀ (fields : List Field) (values : List α),
    slotsAt? fields (values.map h) = (slotsAt? fields values).map (List.map (Option.map h))
  | [], [] => rfl
  | [], _ :: _ => rfl
  | _ :: fields, value :: values => by
    rw [List.map_cons, slotsAt?, slotsAt?, slotsAt?_map fields values, Option.map_map,
      Option.map_map]
    rfl
  | f :: fields, [] => by
    have hrest := slotsAt?_map fields []
    rw [List.map_nil] at hrest ⊢
    rw [slotsAt?, slotsAt?, hrest]
    split
    · rw [Option.map_map, Option.map_map]
      rfl
    · rfl

theorem Layout.slots?_map (fields : List Field) (l : Layout α) :
    (l.map h).slots? fields = (l.slots? fields).map (List.map (Option.map h)) := by
  cases l with
  | positional values => exact slotsAt?_map h fields values
  | named members =>
    show fields.mapM (slotNamed? (members.map _)) = _
    rw [slots?]
    induction fields with
    | nil => rfl
    | cons f fields ih =>
      rw [List.mapM_cons, List.mapM_cons, slotNamed?_map, ih]
      cases slotNamed? members f with
      | none => rfl
      | some slot => cases fields.mapM (slotNamed? members) <;> rfl

end Map

/-! ## Sorted members -/

namespace Json

theorem mem_insertMember {name : String} {value : α} {m : String × α} :
    ∀ {members : List (String × α)}, m ∈ insertMember name value members →
      m.1 = name ∨ m ∈ members
  | [], h => .inl (congrArg Prod.fst (List.mem_singleton.mp h))
  | (n, v) :: rest, h => by
    rw [insertMember] at h
    split at h
    · rcases List.mem_cons.mp h with rfl | h
      · exact .inl rfl
      · exact .inr h
    · split at h
      · rcases List.mem_cons.mp h with rfl | h
        · exact .inl rfl
        · exact .inr (List.mem_cons_of_mem _ h)
      · rcases List.mem_cons.mp h with rfl | h
        · exact .inr List.mem_cons_self
        · exact (mem_insertMember h).imp_right (List.mem_cons_of_mem _)

theorem insertMember_sorted (name : String) (value : α) : ∀ {members : List (String × α)},
    members.Pairwise (·.1 < ·.1) → (insertMember name value members).Pairwise (·.1 < ·.1)
  | [], _ => List.pairwise_singleton _ _
  | (n, v) :: rest, hsorted => by
    obtain ⟨hfirst, hrest⟩ := List.pairwise_cons.mp hsorted
    rw [insertMember]
    split
    · rename_i hlt
      refine List.pairwise_cons.mpr ⟨fun m hm ↦ ?_, hsorted⟩
      rcases List.mem_cons.mp hm with rfl | hm
      · exact hlt
      · exact String.lt_trans hlt (hfirst m hm)
    · rename_i hge
      split
      · rename_i heq
        exact List.pairwise_cons.mpr ⟨fun m hm ↦ heq ▸ hfirst m hm, hrest⟩
      · rename_i hne
        have hgt : n < name := String.not_le.mp fun hle ↦
          hne (String.le_antisymm hle (String.not_lt.mp hge))
        refine List.pairwise_cons.mpr ⟨fun m hm ↦ ?_, insertMember_sorted name value hrest⟩
        rcases mem_insertMember hm with hm | hm
        · exact hm ▸ hgt
        · exact hfirst m hm

theorem insertMember_perm (name : String) (value : α) : ∀ {members : List (String × α)},
    name ∉ members.map (·.1) → (insertMember name value members).Perm ((name, value) :: members)
  | [], _ => .refl _
  | (n, v) :: rest, h => by
    rw [List.map_cons, List.mem_cons, not_or] at h
    rw [insertMember]
    split
    · exact .refl _
    · rw [if_neg h.1]
      exact ((insertMember_perm name value h.2).cons _).trans (.swap _ _ _)

theorem foldl_sorted {members : List (String × α)} : ∀ {sorted : List (String × α)},
    sorted.Pairwise (·.1 < ·.1) →
      (members.foldl (fun sorted m ↦ insertMember m.1 m.2 sorted) sorted).Pairwise
        (·.1 < ·.1) := by
  induction members with
  | nil => exact fun h ↦ h
  | cons m members ih => exact fun h ↦ ih (insertMember_sorted m.1 m.2 h)

theorem foldl_perm {members : List (String × α)} : ∀ {sorted : List (String × α)},
    (sorted.map (·.1) ++ members.map (·.1)).Nodup →
      (members.foldl (fun sorted m ↦ insertMember m.1 m.2 sorted) sorted).Perm
        (sorted ++ members) := by
  induction members with
  | nil => exact fun _ ↦ by rw [List.append_nil]; exact .refl _
  | cons m members ih =>
    intro sorted h
    rw [List.map_cons, List.nodup_append] at h
    obtain ⟨hnodup, hmembers, hdisjoint⟩ := h
    have hname : m.1 ∉ sorted.map (·.1) := fun hmem ↦ hdisjoint _ hmem _ List.mem_cons_self rfl
    have hmiddle : (insertMember m.1 m.2 sorted ++ members).Perm (sorted ++ m :: members) :=
      ((insertMember_perm m.1 m.2 hname).append_right members).trans List.perm_middle.symm
    have hnames : ((insertMember m.1 m.2 sorted).map (·.1) ++ members.map (·.1)).Nodup := by
      rw [← List.map_append, (hmiddle.map _).nodup_iff, List.map_append, List.map_cons,
        List.nodup_append]
      exact ⟨hnodup, hmembers, hdisjoint⟩
    exact (ih hnames).trans hmiddle

theorem nodup_of_sorted {members : List (String × α)} (h : members.Pairwise (·.1 < ·.1)) :
    (members.map (·.1)).Nodup := by
  have hne : ∀ {a b : String × α}, a.1 < b.1 → a.1 ≠ b.1 := fun hlt heq ↦
    String.lt_irrefl _ (heq ▸ hlt)
  exact List.pairwise_map.mpr (h.imp hne)

/-- Sorting puts members in order, and leaves one of each name. -/
theorem sortMembers_sorted (members : List (String × α)) :
    (sortMembers members).Pairwise (·.1 < ·.1) := foldl_sorted .nil

/-- Sorting keeps members of different names. -/
theorem sortMembers_perm {members : List (String × α)} (h : (members.map (·.1)).Nodup) :
    (sortMembers members).Perm members := foldl_perm h

/-- Members in an order of their own are sorted into the order of their names. -/
theorem sortMembers_eq {members sorted : List (String × α)} (h : members.Perm sorted)
    (hsorted : sorted.Pairwise (·.1 < ·.1)) : sortMembers members = sorted := by
  have hnames : (members.map (·.1)).Nodup := (h.map (·.1)).nodup_iff.mpr (nodup_of_sorted hsorted)
  refine List.Perm.eq_of_pairwise (fun a b _ _ hab hba ↦ ?_) (sortMembers_sorted members) hsorted
    ((sortMembers_perm hnames).trans h)
  exact absurd hba (String.lt_asymm hab)

end Json

/-! ## Writers -/

/-- What is written is read back, but for the order of the members of an object. -/
structure Datum.Writer.Lawful [Datum α] (w : Datum.Writer α) : Prop where
  string? : ∀ s, Datum.string? (w.string s) = some s
  alternative? : ∀ s, Datum.alternative? (w.string s) = some s
  natural? : ∀ n < Nat.pow 2 64, Datum.natural? (w.natural n) = some n
  layout? : ∀ members : List (String × α), (members.map (·.1)).Nodup →
    ∃ members', Datum.layout? (w.object members) = some (.named members') ∧
      members'.Perm members
  isNull_string : ∀ s, Datum.isNull (w.string s) = false
  isNull_natural : ∀ n, Datum.isNull (w.natural n) = false
  isNull_object : ∀ members, Datum.isNull (w.object members) = false
  isIgnorable_string : ∀ s, Datum.isIgnorable (w.string s) = true

namespace Datum

/-- Whether members have the same names, and values that are related. -/
abbrev MembersRelate (R : α → β → Prop) : List (String × α) → List (String × β) → Prop :=
  List.Forall₂ fun m m' ↦ m.1 = m'.1 ∧ R m.2 m'.2

/-- Members that were all written in one way are related to what was written. -/
theorem membersRelate_map {R : α → β → Prop} {f : β → α} {items : List (String × β)}
    (h : ∀ i ∈ items, R (f i.2) i.2) :
    MembersRelate R (items.map fun i ↦ (i.1, f i.2)) items := by
  rw [MembersRelate, List.forall₂_map_left_iff, List.forall₂_same]
  exact fun i hi ↦ ⟨rfl, h i hi⟩

/-- A test of names keeps a member that may be left out, or drops it. -/
theorem filter_optionalMember (P : String → Bool) (name : String) (f : α → β) (a : Option α) :
    (optionalMember name f a).filter (fun m ↦ P m.1) =
      if P name then optionalMember name f a else [] := by
  cases a with
  | none => simp [optionalMember]
  | some a => simp [optionalMember, List.filter_cons]

/-- A member that may be left out is found under its name. -/
theorem slotNamed?_optionalMember {members : List (String × β)} {name : String} {f : α → β}
    {a : Option α} (h : members.filter (·.1 == name) = optionalMember name f a) :
    Layout.slotNamed? members ⟨name, .defaulted⟩ = some (a.map f) := by
  rw [Layout.slotNamed?, h]
  cases a <;> rfl

/-- A value that may be left out is read back where it was written, and missed where it was not. -/
theorem optional?_map [Datum β] {f : α → β} {read : β → Option α} {a : Option α}
    (hnull : ∀ b, isNull (f b) = false) (h : ∀ b ∈ a, read (f b) = some b) :
    optional? read (a.map f) = some a := by
  cases a with
  | none => rfl
  | some b =>
    rw [Option.map_some, optional?, if_neg (by rw [hnull]; exact Bool.false_ne_true), h b rfl]
    rfl

end Datum

/-! ## Poll settings -/

/-- Whether the numbers of a poll setting fit 64 bits. -/
structure PollSetting.Fits (s : PollSetting) : Prop where
  interval : s.intervalSeconds < Nat.pow 2 64
  timeout : ∀ n ∈ s.timeoutSeconds, n < Nat.pow 2 64

variable {w : Datum.Writer α}

namespace PollSetting

theorem nodup_members (w : Datum.Writer α) (s : PollSetting) : ((s.members w).map (·.1)).Nodup := by
  obtain ⟨interval, timeout⟩ := s
  cases timeout <;> simp [members, Datum.optionalMember]

variable [Datum α]

/-- A poll setting is read back from its members in any order. -/
theorem decode?_of_perm (hw : w.Lawful) {s : PollSetting} (h : s.Fits) {a : α}
    {members : List (String × α)} (ha : Datum.layout? a = some (.named members))
    (hmembers : members.Perm (s.members w)) : decode? a = some s := by
  have hslots : (Layout.named members).slots?
      [⟨"interval_secs", .defaulted⟩, ⟨"timeout_secs", .defaulted⟩] =
        some [some (w.natural s.intervalSeconds), s.timeoutSeconds.map w.natural] := by
    rw [Layout.slots?_perm hmembers ((hmembers.map _).nodup_iff.mpr (s.nodup_members w))]
    obtain ⟨interval, timeout⟩ := s
    cases timeout <;> rfl
  have htimeout : Datum.optional? Datum.natural? (s.timeoutSeconds.map w.natural) =
      some s.timeoutSeconds :=
    Datum.optional?_map hw.isNull_natural fun n hn ↦ hw.natural? n (h.timeout n hn)
  simp [decode?, ha, hslots, Datum.withDefault?, hw.natural? _ h.interval, htimeout]

/-- What a writer makes of a poll setting is read as it. -/
theorem decode?_write (hw : w.Lawful) {s : PollSetting} (h : s.Fits) :
    decode? (s.write w) = some s := by
  obtain ⟨members, hlayout, hperm⟩ := hw.layout? _ (s.nodup_members w)
  exact decode?_of_perm hw h hlayout hperm

end PollSetting

/-- A cloud is written as its name. -/
theorem Cloud.decode?_write [Datum α] (hw : w.Lawful) (c : Cloud) :
    decode? (w.string c.name) = some c := by
  rw [decode?, hw.alternative?]
  exact c.ofName?_name

/-! ## Profiles -/

/-- Whether a profile can be written. -/
def Profile.Fits (p : Profile) : Prop := ∀ s ∈ p.poll, s.Fits

namespace Profile

theorem nodup_members (w : Datum.Writer α) (p : Profile) : ((p.members w).map (·.1)).Nodup := by
  obtain ⟨subscriptionId, resourceGroup, location, cloud, credentials, poll, userAgent⟩ := p
  cases resourceGroup <;> cases credentials <;> cases poll <;> cases userAgent <;>
    simp [members, Datum.optionalMember, Credentials.members]

/-- The members of a profile that pass a test of their names. -/
theorem filter_members (w : Datum.Writer α) (p : Profile) (P : String → Bool) :
    (p.members w).filter (fun m ↦ P m.1) =
      (if P "subscription_id" then [("subscription_id", w.string p.subscriptionId)] else []) ++
      (if P "resource_group" then
        Datum.optionalMember "resource_group" w.string p.resourceGroup else []) ++
      (if P "location" then [("location", w.string p.location)] else []) ++
      (if P "cloud" then [("cloud", w.string p.cloud.name)] else []) ++
      (p.credentials.members w).filter (fun m ↦ P m.1) ++
      (if P "poll" then Datum.optionalMember "poll" (PollSetting.write w) p.poll else []) ++
      (if P "user_agent" then Datum.optionalMember "user_agent" w.string p.userAgent else []) := by
  simp only [members, List.filter_append, Datum.filter_optionalMember, List.filter_cons,
    List.filter_nil, List.append_assoc]
  cases P "location" <;> rfl

/-- No credential goes by the name of another field. -/
theorem filter_credentials (w : Datum.Writer α) (c : Credentials) {name : String}
    (h : name ∉ ["tenant_id", "client_id", "client_secret", "access_token"]) :
    (c.members w).filter (fun m ↦ m.1 == name) = [] := by
  refine List.filter_eq_nil_iff.mpr fun m hm he ↦ h ?_
  rw [← beq_iff_eq.mp he]
  cases c with
  | clientSecret tenantId clientId secret =>
    simp only [Credentials.members, List.mem_cons, List.not_mem_nil, or_false] at hm
    rcases hm with rfl | rfl | rfl <;> simp
  | accessToken token =>
    simp only [Credentials.members, List.mem_cons, List.not_mem_nil, or_false] at hm
    rw [hm]
    simp

/-- The credentials of one kind have different names. -/
theorem nodup_credentials (w : Datum.Writer α) (c : Credentials) :
    ((c.members w).map (·.1)).Nodup := by
  cases c <;> simp [Credentials.members]

/-- The values of the fields of a written profile. -/
theorem slots?_members (w : Datum.Writer α) (p : Profile) :
    (Layout.named (p.members w)).slots? fields =
      some [some (w.string p.subscriptionId), p.resourceGroup.map w.string,
        some (w.string p.location), some (w.string p.cloud.name), p.poll.map (PollSetting.write w),
        p.userAgent.map w.string] := by
  have hrequired : ∀ (name : String) (value : α) (presence : Presence),
      (p.members w).filter (·.1 == name) = [(name, value)] →
        Layout.slotNamed? (p.members w) ⟨name, presence⟩ = some (some value) :=
    fun _ _ _ h ↦ by rw [Layout.slotNamed?, h]
  have hoptional : ∀ {β : Type} (name : String) (f : β → α) (b : Option β),
      (p.members w).filter (·.1 == name) = Datum.optionalMember name f b →
        Layout.slotNamed? (p.members w) ⟨name, .defaulted⟩ = some (b.map f) :=
    fun _ _ _ ↦ Datum.slotNamed?_optionalMember
  have hsubscription := hrequired "subscription_id" (w.string p.subscriptionId) .required (by
    rw [p.filter_members w (· == "subscription_id"), filter_credentials _ _ (by simp)]; simp)
  have hlocation := hrequired "location" (w.string p.location) .defaulted (by
    rw [p.filter_members w (· == "location"), filter_credentials _ _ (by simp)]; simp)
  have hcloud := hrequired "cloud" (w.string p.cloud.name) .defaulted (by
    rw [p.filter_members w (· == "cloud"), filter_credentials _ _ (by simp)]; simp)
  have hgroup := hoptional "resource_group" w.string p.resourceGroup (by
    rw [p.filter_members w (· == "resource_group"), filter_credentials _ _ (by simp)]; simp)
  have hpoll := hoptional "poll" (PollSetting.write w) p.poll (by
    rw [p.filter_members w (· == "poll"), filter_credentials _ _ (by simp)]; simp)
  have hagent := hoptional "user_agent" w.string p.userAgent (by
    rw [p.filter_members w (· == "user_agent"), filter_credentials _ _ (by simp)]; simp)
  simp [Layout.slots?, fields, hsubscription, hgroup, hlocation, hcloud, hpoll, hagent]

/-- What is left of a written profile are its credentials. -/
theorem others_members (w : Datum.Writer α) (p : Profile) :
    ((p.members w).filter fun m ↦ !fields.any (·.name == m.1)) = p.credentials.members w := by
  have hcredentials : ((p.credentials.members w).filter fun m ↦ !fields.any (·.name == m.1)) =
      p.credentials.members w := by
    cases p.credentials <;> simp [Credentials.members, fields]
  rw [p.filter_members w fun name ↦ !fields.any (·.name == name), hcredentials]
  simp [fields]

variable [Datum α]

/-- Which credentials are read does not depend on the order: the decoder asks for names. -/
theorem credentials?_perm {members members' : List (String × α)} (h : members.Perm members')
    (hnodup : (members.map (·.1)).Nodup) : credentials? members = credentials? members' := by
  have htext : textOf? members = textOf? members' := by
    funext name
    rw [textOf?, textOf?, filter_name_perm h hnodup]
  rw [credentials?, credentials?, htext]

/-- Credentials of either kind are read back, and not as the other kind. -/
theorem credentials?_members (hw : w.Lawful) (c : Credentials) :
    credentials? (c.members w) = some c := by
  cases c <;> simp [credentials?, textOf?, Credentials.members, hw.string?]

/-- A profile is read back from its members in any order. -/
theorem decode?_of_perm (hw : w.Lawful) {p : Profile} (h : p.Fits) {a : α}
    {members : List (String × α)} (ha : Datum.layout? a = some (.named members))
    (hmembers : members.Perm (p.members w)) : decode? a = some p := by
  have hslots := (Layout.slots?_perm hmembers
    ((hmembers.map _).nodup_iff.mpr (p.nodup_members w)) fields).trans (p.slots?_members w)
  have hothers : (members.filter fun m ↦ !fields.any (·.name == m.1)).Perm
      (p.credentials.members w) :=
    p.others_members w ▸ hmembers.filter _
  have hcredentials := (credentials?_perm hothers ((hothers.map _).nodup_iff.mpr
    (nodup_credentials w p.credentials))).trans (credentials?_members hw p.credentials)
  have hignorable : (members.filter fun m ↦ !fields.any (·.name == m.1)).all
      (Datum.isIgnorable ·.2) = true := by
    rw [hothers.all_eq]
    cases p.credentials <;> simp [Credentials.members, hw.isIgnorable_string]
  have hpoll : Datum.optional? PollSetting.decode? (p.poll.map (PollSetting.write w)) =
      some p.poll :=
    Datum.optional?_map (fun _ ↦ hw.isNull_object _) fun s hs ↦
      PollSetting.decode?_write hw (h s hs)
  have hoptional : ∀ a : Option String, Datum.optional? Datum.string? (a.map w.string) = some a :=
    fun _ ↦ Datum.optional?_map hw.isNull_string fun s _ ↦ hw.string? s
  rw [decode?, ha, Option.bind_eq_bind, Option.bind_some]
  simp only [hignorable, hslots, hcredentials]
  simp [hpoll, hoptional, hw.string?, Datum.withDefault?, Cloud.decode?_write hw]

/-- What a writer makes of a profile is read as it. -/
theorem decode?_write (hw : w.Lawful) {p : Profile} (h : p.Fits) :
    decode? (p.write w) = some p := by
  obtain ⟨members, hlayout, hperm⟩ := hw.layout? _ (p.nodup_members w)
  exact decode?_of_perm hw h hlayout hperm

end Profile

/-! ## Configurations -/

namespace Config

/-- Whether a configuration can be written. -/
def Fits (c : Config) : Prop := ∀ p ∈ c.profiles, p.2.Fits

theorem nodup_members (w : Datum.Writer α) (c : Config) (profiles : α) :
    ((Datum.optionalMember "default_profile" w.string c.defaultProfile ++
      [("profiles", profiles)]).map (·.1)).Nodup := by
  cases c.defaultProfile <;> simp [Datum.optionalMember]

variable [Datum α]

/-- Profiles are read back from their members in any order. -/
theorem profiles?_of_perm {a : α} {members written : List (String × α)}
    {profiles : List (String × Profile)} (ha : Datum.layout? a = some (.named members))
    (hmembers : members.Perm written)
    (hwritten : Datum.MembersRelate (Profile.decode? · = some ·) written profiles)
    (hnodup : (profiles.map (·.1)).Nodup) :
    profiles? a = some (Json.sortMembers profiles) := by
  obtain ⟨found, hfound, hperm⟩ := List.perm_comp_forall₂ hmembers hwritten
  have hall : members.mapM (fun m ↦ (Profile.decode? m.2).map (m.1, ·)) = some found := by
    clear hmembers hperm ha
    induction hfound with
    | nil => rfl
    | @cons m p _ _ h _ ih =>
      rw [List.mapM_cons, ih, h.2, h.1]
      rfl
  have hordered := hperm.trans (Json.sortMembers_perm hnodup).symm
  rw [profiles?, ha, Option.bind_eq_bind, Option.bind_some]
  simp only [hall, Option.bind_eq_bind, Option.bind_some, Option.pure_def]
  rw [Json.sortMembers_eq hordered (Json.sortMembers_sorted profiles)]

/-- The configuration with its profiles in order is read back. -/
theorem decode?_of_perm (hw : w.Lawful) {c : Config} {a b : α} {members : List (String × α)}
    (ha : Datum.layout? a = some (.named members))
    (hmembers : members.Perm
      (Datum.optionalMember "default_profile" w.string c.defaultProfile ++ [("profiles", b)]))
    (hb : profiles? b = some (Json.sortMembers c.profiles)) :
    decode? a = some ⟨c.defaultProfile, Json.sortMembers c.profiles⟩ := by
  have hnodup := nodup_members w c b
  have hslots : (Layout.named members).slots?
      [⟨"default_profile", .defaulted⟩, ⟨"profiles", .defaulted⟩] =
        some [c.defaultProfile.map w.string, some b] := by
    rw [Layout.slots?_perm hmembers ((hmembers.map _).nodup_iff.mpr hnodup)]
    cases c.defaultProfile <;> rfl
  have hdefault : Datum.optional? Datum.string? (c.defaultProfile.map w.string) =
      some c.defaultProfile :=
    Datum.optional?_map hw.isNull_string fun s _ ↦ hw.string? s
  simp [decode?, ha, hslots, Datum.withDefault?, hb, hdefault]

/-- What is written of a configuration is read as the configuration, with its profiles in order. -/
theorem decode?_write (hw : w.Lawful) {c : Config} (h : c.Fits) (hnames : c.names.Nodup) :
    decode? (c.write w) = some ⟨c.defaultProfile, Json.sortMembers c.profiles⟩ := by
  let written := c.profiles.map fun p ↦ (p.1, p.2.write w)
  have hwritten : (written.map (·.1)).Nodup := by
    rw [List.map_map]
    exact hnames
  obtain ⟨members, hlayout, hperm⟩ := hw.layout? written hwritten
  have hprofiles : profiles? (w.object written) = some (Json.sortMembers c.profiles) := by
    refine profiles?_of_perm hlayout hperm ?_ hnames
    exact Datum.membersRelate_map fun p hp ↦ Profile.decode?_write hw (h p hp)
  obtain ⟨top, htop, htopPerm⟩ := hw.layout? (c.members w) (nodup_members w c _)
  exact decode?_of_perm hw htop htopPerm hprofiles

end Config
end ResourceManager
