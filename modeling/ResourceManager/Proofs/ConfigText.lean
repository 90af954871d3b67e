import ResourceManager.Config.Text
import ResourceManager.Proofs.Records
import ResourceManager.Proofs.Statements

/-!
# The text of a configuration is read as the configuration

A configuration is written line by line and read through tokens, statements, sections and tables.
What passes from one of these to the next is said once here: the settings of a profile
(`Profile.settings`, `PollSetting.settings`) are the entries of its lines, of its section, of its
table and of the tree that the profile is decoded from.

The profiles may be written in any order, and are read in the order of their names:
`Config.ofText?_text` is the law of the text.

Tables are built one section at a time in a tree that remembers where each table comes from, so that
a table which is opened twice is refused.  Here no table is: the sections of a profile are under its
name, the names are different, and the table of all profiles is only ever implied by a longer path.
`Toml.Holds` is what the tree is between two profiles, and each profile adds one table to it
(`Profile.foldlM_sections`, `Config.foldlM_sections`).
-/

set_option autoImplicit false

namespace ResourceManager

open Toml (Node Section Outline)
open Toml.Statement (Says says_stringLine says_numberLine says_headerLine)

/-! ## Settings -/

/-- How records are written as tables. -/
def Toml.writer : Datum.Writer Toml := ⟨.string, fun n ↦ .integer n, .table⟩

/-- A section of settings. -/
def Toml.Section.ofSettings (path : List String) (settings : List (String × Toml)) : Section :=
  ⟨path, false, settings.map fun e ↦ ([e.1], e.2)⟩

/-- The settings of credentials. -/
def Credentials.settings (c : Credentials) : List (String × Toml) := c.members Toml.writer

/-- The settings of a table of a poll setting. -/
def PollSetting.settings (s : PollSetting) : List (String × Toml) := s.members Toml.writer

namespace Profile

/-- The settings of a profile other than its poll setting. -/
def settings (p : Profile) : List (String × Toml) :=
  [("subscription_id", .string p.subscriptionId)] ++
    Datum.optionalMember "resource_group" .string p.resourceGroup ++
    [("location", .string p.location), ("cloud", .string p.cloud.name)] ++
    p.credentials.settings ++ Datum.optionalMember "user_agent" .string p.userAgent

/-- The table of a profile. -/
def toToml (p : Profile) : Toml :=
  .table (p.settings ++
    Datum.optionalMember "poll" (fun s : PollSetting ↦ .table s.settings) p.poll)

/-- The sections of a profile. -/
def sections (name : String) (p : Profile) : List Section :=
  .ofSettings ["profiles", name] p.settings ::
    match p.poll with
    | some s => [.ofSettings ["profiles", name, "poll"] s.settings]
    | none => []

end Profile

/-! ## Statements -/

/-- The statements of settings. -/
def Toml.entriesOf (settings : List (String × Toml)) : List Toml.Statement :=
  settings.map fun e ↦ .entry [e.1] e.2

namespace Toml

@[simp] theorem entriesOf_cons (e : String × Toml) (settings : List (String × Toml)) :
    entriesOf (e :: settings) = .entry [e.1] e.2 :: entriesOf settings := rfl

@[simp] theorem entriesOf_append (a b : List (String × Toml)) :
    entriesOf (a ++ b) = entriesOf a ++ entriesOf b := List.map_append

/-- A section of settings is a header with an entry for each of them. -/
theorem Section.statements_ofSettings (path : List String) (settings : List (String × Toml)) :
    (Section.ofSettings path settings).statements = .table path :: entriesOf settings := by
  simp [Section.ofSettings, Section.statements, entriesOf, Function.comp_def]

/-- A line that may be left out says its entry, or nothing. -/
theorem says_optionalLine {α : Type} {line : α → List Char} {name : String} {f : α → Toml}
    {a : Option α} (h : ∀ b ∈ a, Says (line b) [.entry [name] (f b)]) :
    Says (optionalLine line a) (entriesOf (Datum.optionalMember name f a)) := by
  cases a with
  | none => exact .nil
  | some b => exact h b rfl

/-- Pieces of whole lines with empty lines between them. -/
theorem says_intersperse {α : Type} {f : α → List Char} {g : α → List Statement} :
    ∀ {items : List α}, (∀ a ∈ items, Says (f a) (g a)) →
      Says ((items.map f).intersperse ['\n']).flatten (items.flatMap g)
  | [], _ => .nil
  | [a], h => by simpa using h a List.mem_cons_self
  | a :: b :: items, h => by
    have hrest := @says_intersperse _ f g (b :: items) fun c hc ↦ h c (List.mem_cons_of_mem _ hc)
    have hall := (h a List.mem_cons_self).append (Says.append .emptyLine hrest)
    simpa using hall

end Toml

/-- The lines of credentials say their settings. -/
theorem Credentials.says_lines (c : Credentials) : Says c.lines (Toml.entriesOf c.settings) := by
  cases c with
  | clientSecret tenantId clientId secret =>
    exact ((says_stringLine _ tenantId).append (says_stringLine _ clientId)).append
      (says_stringLine _ secret)
  | accessToken token => exact says_stringLine _ token

/-- The lines of a poll setting are its section.  Its numbers fit 64 bits and the reader's fit 128,
so they are read as they are. -/
theorem PollSetting.says_pollLines (name : String) {s : PollSetting} (h : s.Fits) :
    Says (Profile.pollLines ["profiles", name] s)
      (Section.ofSettings ["profiles", name, "poll"] s.settings).statements := by
  have hword : Nat.pow 2 64 ≤ Nat.pow 2 128 := by decide
  have hheader := says_headerLine (List.cons_ne_nil "profiles" [name, "poll"])
  have hinterval := says_numberLine "interval_secs" (Nat.lt_of_lt_of_le h.interval hword)
  have htimeout : Says (Toml.optionalLine (Toml.numberLine "timeout_secs") s.timeoutSeconds) _ :=
    Toml.says_optionalLine fun n hn ↦
      says_numberLine "timeout_secs" (Nat.lt_of_lt_of_le (h.timeout n hn) hword)
  rw [Toml.Section.statements_ofSettings]
  exact Says.append .emptyLine ((hheader.append hinterval).append htimeout)

/-- The lines of a profile are its sections, that of the poll setting last. -/
theorem Profile.says_lines (name : String) {p : Profile} (h : p.Fits) :
    Says (p.lines name) ((p.sections name).flatMap Section.statements) := by
  have hheader := says_headerLine (List.cons_ne_nil "profiles" [name])
  have hgroup : Says (Toml.optionalLine (Toml.stringLine "resource_group") p.resourceGroup) _ :=
    Toml.says_optionalLine fun value _ ↦ says_stringLine "resource_group" value
  have hagent : Says (Toml.optionalLine (Toml.stringLine "user_agent") p.userAgent) _ :=
    Toml.says_optionalLine fun value _ ↦ says_stringLine "user_agent" value
  have hpoll : Says (Toml.optionalLine (Profile.pollLines ["profiles", name]) p.poll)
      ((p.sections name).tail.flatMap Section.statements) := by
    rw [sections, List.tail_cons]
    cases hp : p.poll with
    | none => exact .nil
    | some s =>
      rw [Toml.optionalLine, List.flatMap_cons, List.flatMap_nil, List.append_nil]
      exact PollSetting.says_pollLines name (h s hp)
  have hall := ((((((hheader.append (says_stringLine "subscription_id" p.subscriptionId)).append
    hgroup).append (says_stringLine "location" p.location)).append
    (says_stringLine "cloud" p.cloud.name)).append p.credentials.says_lines).append
    hagent).append hpoll
  have hstatements : (p.sections name).flatMap Section.statements =
      .table ["profiles", name] :: Toml.entriesOf p.settings ++
        (p.sections name).tail.flatMap Section.statements := by
    rw [sections, List.flatMap_cons, Toml.Section.statements_ofSettings, List.tail_cons]
  rw [hstatements, settings, lines]
  simpa using hall

namespace Config

/-- The settings in front of the profiles. -/
def topSettings (c : Config) : List (String × Toml) :=
  Datum.optionalMember "default_profile" .string c.defaultProfile

/-- The sections of a configuration. -/
def sections (c : Config) : List Section :=
  match c.profiles with
  | [] => [.ofSettings ["profiles"] []]
  | profiles => profiles.flatMap fun p ↦ p.2.sections p.1

/-- The lines of all profiles are the sections of the configuration.  Without a profile there is the
header of their table alone. -/
theorem says_profileLines {c : Config} (h : c.Fits) :
    Says c.profileLines (c.sections.flatMap Section.statements) := by
  rw [profileLines, sections]
  rw [Fits] at h
  generalize c.profiles = profiles at h ⊢
  cases profiles with
  | nil => exact says_headerLine (List.cons_ne_nil "profiles" [])
  | cons p profiles =>
    show Says _ (((p :: profiles).flatMap fun p ↦ p.2.sections p.1).flatMap Section.statements)
    rw [List.flatMap_assoc]
    exact Toml.says_intersperse fun q hq ↦ q.2.says_lines q.1 (h q hq)

/-- The text of a configuration says its settings and its sections. -/
theorem says_text {c : Config} (h : c.Fits) :
    Says c.text (Toml.entriesOf c.topSettings ++ c.sections.flatMap Section.statements) := by
  rw [text, topSettings]
  split
  · rename_i name hname
    rw [hname]
    exact (says_stringLine "default_profile" name).append
      (Says.append .emptyLine (says_profileLines h))
  · rename_i hname
    rw [hname]
    exact says_profileLines h

/-- The text of a configuration has no mark at its start. -/
theorem withoutMark_text (c : Config) : Toml.withoutMark c.text = c.text := by
  have hmark : ∀ {d : Char} {rest : List Char}, c.text = d :: rest → d ≠ Toml.byteOrderMark →
      Toml.withoutMark c.text = c.text := by
    intro d rest htext hd
    rw [htext, Toml.withoutMark, if_neg hd]
  cases hname : c.defaultProfile with
  | some name =>
    have htext : c.text = 'd' :: ("efault_profile".toList ++ (' ' :: '=' :: ' ' ::
        (Toml.writeString name ++ ['\n'])) ++ '\n' :: c.profileLines) := by
      rw [text, hname]
      rfl
    exact hmark htext (by decide)
  | none =>
    have hopen : ∃ rest, c.profileLines = '[' :: rest := by
      rw [profileLines]
      split
      · exact ⟨_, rfl⟩
      · rename_i profiles hsome
        cases hprofiles : c.profiles with
        | nil => exact absurd hprofiles hsome
        | cons p profiles => cases profiles <;> exact ⟨_, rfl⟩
    obtain ⟨rest, hrest⟩ := hopen
    have htext : c.text = '[' :: rest := by
      rw [text, hname]
      exact hrest
    exact hmark htext (by decide)

/-- The outline of the text of a configuration. -/
theorem scan?_text {c : Config} (h : c.Fits) :
    (Toml.Statement.scan? (Toml.withoutMark c.text)).map Outline.ofStatements =
      some ⟨c.sections, c.topSettings.map fun e ↦ ([e.1], e.2)⟩ := by
  have htop : Toml.entriesOf c.topSettings =
      (c.topSettings.map fun e ↦ ([e.1], e.2)).map fun e ↦ Toml.Statement.entry e.1 e.2 := by
    rw [List.map_map]
    rfl
  rw [withoutMark_text, Toml.Statement.scan?_of_says (says_text h), htop, Option.map_some,
    Outline.ofStatements_eq]

end Config

/-! ## Tables

An entry that was not there is added at the end, and one that was is changed in its place.  The
order of the entries is kept, but nothing that is decoded from the tree will depend on it.
-/

namespace Toml.Node

variable {entries : Entries} {key : String}

/-- An entry that was added under a new name is found. -/
theorem lookup_concat (n : Node) (h : key ∉ entries.map (·.1)) :
    (entries ++ [(key, n)]).lookup key = some n := by
  rw [List.lookup_append, lookup_eq_none h]
  simp

/-- A new name is added at the end. -/
theorem set_of_not_mem (n : Node) (h : key ∉ entries.map (·.1)) :
    set key n entries = entries ++ [(key, n)] := by
  induction entries with
  | nil => rfl
  | cons e entries ih =>
    rw [List.map_cons, List.mem_cons, not_or] at h
    rw [set, if_neg fun he ↦ h.1 he.symm, ih h.2]
    rfl

/-- The entry at the end is changed in its place. -/
theorem set_concat (m n : Node) (h : key ∉ entries.map (·.1)) :
    set key n (entries ++ [(key, m)]) = entries ++ [(key, n)] := by
  induction entries with
  | nil => exact if_pos rfl
  | cons e entries ih =>
    rw [List.map_cons, List.mem_cons, not_or] at h
    rw [List.cons_append, set, if_neg fun he ↦ h.1 he.symm, ih h.2]
    rfl

/-- Settings as entries of a table. -/
def ofSettings (settings : List (String × Toml)) : Entries :=
  settings.map fun e ↦ (e.1, .value e.2)

/-- The names of settings are those of their entries. -/
theorem keys_ofSettings (settings : List (String × Toml)) :
    (ofSettings settings).map (·.1) = settings.map (·.1) := by
  rw [ofSettings, List.map_map]
  rfl

@[simp] theorem toEntries_append (a b : Entries) :
    toEntries (a ++ b) = toEntries a ++ toEntries b := by
  induction a with
  | nil => rfl
  | cons e a ih => rw [List.cons_append, toEntries, toEntries, ih, List.cons_append]

@[simp] theorem toEntries_ofSettings (settings : List (String × Toml)) :
    toEntries (ofSettings settings) = settings := by
  induction settings with
  | nil => rfl
  | cons e settings ih =>
    have hrest : toEntries (settings.map fun e ↦ (e.1, .value e.2)) = settings := ih
    rw [ofSettings, List.map_cons, toEntries, toValue, hrest]

end Toml.Node

namespace Toml

/-- Settings with different names are put into a table. -/
theorem fill?_ofSettings {settings : List (String × Toml)} (h : (settings.map (·.1)).Nodup) :
    fill? (settings.map fun e ↦ ([e.1], e.2)) [] = some (Node.ofSettings settings) :=
  fill?_of_nodup h

/-- A section under a new name is a new table. -/
theorem addSection?_ofSettings {path : List String} {settings : List (String × Toml)} {key : String}
    {parent : Node.Entries} (h : (settings.map (·.1)).Nodup) (hkey : key ∉ parent.map (·.1)) :
    addSection? (.ofSettings path settings) key parent =
      some (parent ++ [(key, .table .header (Node.ofSettings settings))]) := by
  rw [addSection?, Node.lookup_eq_none hkey]
  simp only [Section.ofSettings, fill?_ofSettings h, Option.bind_eq_bind, Option.bind_some,
    Node.set_of_not_mem _ hkey, Option.pure_def]

/-- The table of a text so far: what stands in front of the profiles, and the profiles. -/
structure Holds (top done root : Node.Entries) : Prop where
  opened : Node.open? false (root.lookup "profiles") = some ⟨.implied, done, .table .implied⟩
  set : ∀ n, Node.set "profiles" n root = top ++ [("profiles", n)]

variable {top done root : Node.Entries}

/-- In front of the first profile there is no table of profiles. -/
theorem Holds.start (h : "profiles" ∉ top.map (·.1)) : Holds top [] top :=
  ⟨by rw [Node.lookup_eq_none h]; rfl, fun n ↦ Node.set_of_not_mem n h⟩

/-- Behind a profile the table is there, implied by its path. -/
theorem Holds.concat (h : "profiles" ∉ top.map (·.1)) (done : Node.Entries) :
    Holds top done (top ++ [("profiles", .table .implied done)]) :=
  ⟨by rw [Node.lookup_concat _ h]; rfl, fun n ↦ Node.set_concat _ n h⟩

/-- A change below the profiles. -/
theorem Holds.modify? (h : Holds top done root) {path : List String} {done' : Node.Entries}
    {change : Origin → Node.Entries → Option Node.Entries}
    (hchange : Node.modify? false change path .implied done = some done') :
    Node.modify? false change ("profiles" :: path) .header root =
      some (top ++ [("profiles", .table .implied done')]) := by
  rw [Node.modify?, h.opened]
  simp only [Option.bind_eq_bind, Option.bind_some, hchange, h.set, Option.pure_def]

end Toml

/-- The settings of a poll setting have different names. -/
theorem PollSetting.nodup_settings (s : PollSetting) : (s.settings.map (·.1)).Nodup :=
  s.nodup_members Toml.writer

namespace Profile

/-- Those of a profile have different names, and none is called as its poll setting is. -/
theorem nodup_settings (p : Profile) : (p.settings.map (·.1) ++ ["poll"]).Nodup := by
  obtain ⟨subscriptionId, resourceGroup, location, cloud, credentials, poll, userAgent⟩ := p
  cases resourceGroup <;> cases credentials <;> cases userAgent <;>
    simp [settings, Datum.optionalMember, Credentials.settings, Credentials.members]

/-- The entries of the table of a profile. -/
def nodes (p : Profile) : Node.Entries :=
  Node.ofSettings p.settings ++ match p.poll with
    | some s => [("poll", .table .header (Node.ofSettings s.settings))]
    | none => []

/-- The entries of the table of a profile are its settings and its poll setting. -/
theorem toEntries_nodes (p : Profile) : Node.toEntries p.nodes =
    p.settings ++ Datum.optionalMember "poll" (fun s : PollSetting ↦ .table s.settings) p.poll := by
  rw [nodes, Node.toEntries_append, Node.toEntries_ofSettings]
  cases p.poll with
  | none => rfl
  | some s =>
    rw [Node.toEntries, Node.toValue, Node.toEntries_ofSettings, Node.toEntries]
    rfl

variable {top done root : Node.Entries} {name : String}

/-- The section of a profile adds a table under its name. -/
theorem section?_settings (p : Profile) (h : Toml.Holds top done root)
    (hname : name ∉ done.map (·.1)) :
    Toml.section? root (.ofSettings ["profiles", name] p.settings) =
      some (top ++ [("profiles",
        .table .implied (done ++ [(name, .table .header (Node.ofSettings p.settings))]))]) :=
  h.modify? (Toml.addSection?_ofSettings (List.nodup_append.mp p.nodup_settings).1 hname)

/-- The section of its poll setting changes this table, which is still the last one. -/
theorem section?_poll (p : Profile) (s : PollSetting) (htop : "profiles" ∉ top.map (·.1))
    (hname : name ∉ done.map (·.1)) :
    Toml.section? (top ++ [("profiles",
        .table .implied (done ++ [(name, .table .header (Node.ofSettings p.settings))]))])
      (.ofSettings ["profiles", name, "poll"] s.settings) =
      some (top ++ [("profiles", .table .implied (done ++ [(name, .table .header
        (Node.ofSettings p.settings ++
          [("poll", .table .header (Node.ofSettings s.settings))]))]))]) := by
  refine (Toml.Holds.concat htop _).modify? ?_
  have hpoll : "poll" ∉ (Node.ofSettings p.settings).map (·.1) := by
    rw [Node.keys_ofSettings]
    intro hmem
    exact (List.nodup_append.mp p.nodup_settings).2.2 _ hmem _ List.mem_cons_self rfl
  have hadd := @Toml.addSection?_ofSettings ["profiles", name, "poll"] _ _ _ s.nodup_settings hpoll
  show Node.modify? false (fun _ parent ↦ Toml.addSection? _ "poll" parent) [name] .implied _ = _
  rw [Node.modify?, Node.lookup_concat _ hname]
  simp [Node.open?, Node.modify?, hadd, Node.set_concat _ _ hname]

/-- The sections of a profile add its table. -/
theorem foldlM_sections (p : Profile) (h : Toml.Holds top done root)
    (htop : "profiles" ∉ top.map (·.1)) (hname : name ∉ done.map (·.1)) :
    (p.sections name).foldlM Toml.section? root =
      some (top ++ [("profiles", .table .implied (done ++ [(name, .table .header p.nodes)]))]) := by
  rw [sections, nodes, List.foldlM_cons, section?_settings p h hname, Option.bind_eq_bind,
    Option.bind_some]
  cases p.poll with
  | none => rw [List.append_nil]; rfl
  | some s =>
    show ([Section.ofSettings _ _].foldlM Toml.section? _ : Option _) = _
    rw [List.foldlM_cons, section?_poll p s htop hname]
    rfl

end Profile

namespace Config

/-- The profiles as entries of a table. -/
def nodes (profiles : List (String × Profile)) : Node.Entries :=
  profiles.map fun p ↦ (p.1, .table .header p.2.nodes)

/-- The sections of profiles with different names add their tables in order. -/
theorem foldlM_sections {top : Node.Entries} (htop : "profiles" ∉ top.map (·.1))
    {profiles : List (String × Profile)} :
    ∀ {done : Node.Entries}, (done.map (·.1) ++ profiles.map (·.1)).Nodup →
      (profiles.flatMap fun p ↦ p.2.sections p.1).foldlM Toml.section?
          (top ++ [("profiles", .table .implied done)]) =
        some (top ++ [("profiles", .table .implied (done ++ nodes profiles))]) := by
  induction profiles with
  | nil =>
    intro done _
    rw [nodes, List.map_nil, List.append_nil]
    rfl
  | cons p profiles ih =>
    intro done h
    rw [List.map_cons, List.nodup_append] at h
    obtain ⟨hdone, hprofiles, hdisjoint⟩ := h
    have hname : p.1 ∉ done.map (·.1) := fun hmem ↦ hdisjoint _ hmem _ List.mem_cons_self rfl
    have hrest : ((done ++ [(p.1, Node.table .header p.2.nodes)]).map (·.1) ++
        profiles.map (·.1)).Nodup := by
      rw [List.map_append, List.append_assoc, List.nodup_append]
      exact ⟨hdone, hprofiles, hdisjoint⟩
    rw [List.flatMap_cons, List.foldlM_append,
      p.2.foldlM_sections (Toml.Holds.concat htop done) htop hname, Option.bind_eq_bind,
      Option.bind_some, ih hrest, nodes, nodes, List.map_cons, List.append_assoc]
    rfl

/-- The tables of the profiles are the trees that they are decoded from. -/
theorem toEntries_nodes (profiles : List (String × Profile)) :
    Node.toEntries (nodes profiles) = profiles.map fun p ↦ (p.1, p.2.toToml) := by
  induction profiles with
  | nil => rfl
  | cons p profiles ih =>
    rw [nodes, List.map_cons, Node.toEntries, Node.toValue, p.2.toEntries_nodes, ← nodes, ih,
      List.map_cons, Profile.toToml]

/-- The table of the profiles. -/
def profilesNode (c : Config) : Node :=
  .table (if c.profiles = [] then .header else .implied) (nodes c.profiles)

/-- The tree of a configuration. -/
def toToml (c : Config) : Toml :=
  .table (c.topSettings ++ [("profiles", .table (c.profiles.map fun p ↦ (p.1, p.2.toToml)))])

/-- The sections of a configuration add the table of the profiles. -/
theorem foldlM_sections_start {c : Config} {top : Node.Entries} (htop : "profiles" ∉ top.map (·.1))
    (hnames : c.names.Nodup) :
    c.sections.foldlM Toml.section? top = some (top ++ [("profiles", c.profilesNode)]) := by
  rw [names] at hnames
  rw [sections, profilesNode]
  generalize c.profiles = profiles at hnames ⊢
  cases profiles with
  | nil =>
    have hadd := @Toml.addSection?_ofSettings ["profiles"] [] _ _ .nil htop
    have hsection : Toml.section? top (.ofSettings ["profiles"] []) =
        some (top ++ [("profiles", .table .header [])]) := hadd
    rw [List.foldlM_cons, hsection]
    rfl
  | cons p profiles =>
    have hrest : (([] ++ [(p.1, Node.table .header p.2.nodes)] : Node.Entries).map (·.1) ++
        profiles.map (·.1)).Nodup := hnames
    show ((p :: profiles).flatMap fun p ↦ p.2.sections p.1).foldlM Toml.section? top = _
    rw [List.flatMap_cons, List.foldlM_append,
      p.2.foldlM_sections (Toml.Holds.start htop) htop (List.not_mem_nil), Option.bind_eq_bind,
      Option.bind_some, foldlM_sections htop hrest]
    rfl

/-- **The text of a configuration is parsed as its tree.** -/
theorem parse?_text {c : Config} (h : c.Fits) (hnames : c.names.Nodup) :
    Toml.parse? c.text = some c.toToml := by
  have htop : (c.topSettings.map (·.1)).Nodup ∧ "profiles" ∉ c.topSettings.map (·.1) := by
    rw [topSettings]
    cases c.defaultProfile <;> simp [Datum.optionalMember]
  have hkeys : "profiles" ∉ (Node.ofSettings c.topSettings).map (·.1) := by
    rw [Node.keys_ofSettings]
    exact htop.2
  have htable : (Outline.mk c.sections (c.topSettings.map fun e ↦ ([e.1], e.2))).table? =
      some (Node.ofSettings c.topSettings ++ [("profiles", c.profilesNode)]) := by
    rw [Outline.table?, Toml.fill?_ofSettings htop.1, Option.bind_eq_bind, Option.bind_some,
      foldlM_sections_start hkeys hnames]
  have htree : Node.toEntries (Node.ofSettings c.topSettings ++ [("profiles", c.profilesNode)]) =
      c.topSettings ++ [("profiles", .table (c.profiles.map fun p ↦ (p.1, p.2.toToml)))] := by
    rw [Node.toEntries_append, Node.toEntries_ofSettings, profilesNode, Node.toEntries,
      Node.toValue, toEntries_nodes, Node.toEntries]
  obtain ⟨statements, hscan, houtline⟩ := Option.map_eq_some_iff.mp (scan?_text h)
  rw [Toml.parse?, hscan, Option.bind_eq_bind, Option.bind_some, houtline, htable,
    Option.bind_eq_bind, Option.bind_some, htree]
  rfl

end Config

/-! ## Decoding -/

/-- Tables keep what is written to them, and keep it in order. -/
theorem Toml.lawful_writer : Toml.writer.Lawful where
  string? _ := rfl
  alternative? _ := rfl
  natural? _ hn := if_pos hn
  layout? members _ := ⟨members, rfl, .refl _⟩
  isNull_string _ := rfl
  isNull_natural _ := rfl
  isNull_object _ := rfl
  isIgnorable_string _ := rfl

/-- The table of a profile has its poll setting at the end. -/
theorem Profile.decode?_toToml {p : Profile} (h : p.Fits) : decode? p.toToml = some p := by
  refine decode?_of_perm Toml.lawful_writer h rfl ?_
  rw [settings, members, List.append_assoc, List.append_assoc _ (Datum.optionalMember _ _ p.poll)]
  exact List.perm_append_comm.append_left _

namespace Config

/-- The tree of a configuration is decoded as the configuration. -/
theorem decode?_toToml {c : Config} (h : c.Fits) (hnames : c.names.Nodup) :
    decode? c.toToml = some ⟨c.defaultProfile, Json.sortMembers c.profiles⟩ := by
  refine decode?_of_perm Toml.lawful_writer rfl (.refl _) ?_
  refine profiles?_of_perm rfl (.refl _) ?_ hnames
  exact Datum.membersRelate_map fun p hp ↦ Profile.decode?_toToml (h p hp)

/-- **The text of a configuration is read as the configuration**, with the profiles in order. -/
theorem ofText?_text {c : Config} (h : c.Fits) (hnames : c.names.Nodup) :
    ofText? c.text = some ⟨c.defaultProfile, Json.sortMembers c.profiles⟩ := by
  rw [ofText?, parse?_text h hnames, Option.bind_eq_bind, Option.bind_some,
    decode?_toToml h hnames]

end Config

end ResourceManager
