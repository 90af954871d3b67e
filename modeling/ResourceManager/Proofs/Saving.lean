import ResourceManager.Config.Store
import ResourceManager.Proofs.ConfigText

/-!
# Saving and loading

What a configuration is saved as is its text, and what is loaded from there is what the text stands
for once its references to variables are replaced (`Config.load_of_write`).  The text itself loses
nothing, so a configuration is loaded as it was saved wherever that replacement changes nothing
(`Config.load_of_save`), as in a configuration without dollar signs (`Config.expand_text`).

A dollar sign in a name or in a value is written as it is, and the replacement does not know that it
was meant as one: two of them come back as one (`Config.load_changes_dollars`).

The condition of `Config.load_of_save` is about the text, since the replacement is.  It is not about
dollar signs alone: one that begins no reference, as at the end of a value, stays where it is.  That
a configuration without them has a text without them is followed from the characters up, through
strings, lines and tables; a line fixed by the writer has none, so what is left are the names and
the values.
-/

set_option autoImplicit false

namespace ResourceManager

/-! ## Files -/

namespace Files

/-- What is put under a path is found there. -/
theorem node?_put (f : Files) {parts : PathParts} (h : parts ≠ []) (n : FileNode) :
    (f.put parts n).node? parts = some n := by
  rw [node?, if_neg h, put, List.lookup_cons, beq_self_eq_true]

/-- A file that was written is read back. -/
theorem read_of_write {f f' : Files} {parts : PathParts} {content : Bytes}
    (h : f.write parts content = .ok f') : f'.read parts = .ok (some content) := by
  rw [write] at h
  split at h
  · cases h
  · rename_i hnode
    cases h
    have hparts : parts ≠ [] := fun hnil ↦ hnode (by rw [node?, if_pos hnil])
    rw [read, node?_put f hparts]

end Files

namespace Config

/-- What is loaded is what the saved text stands for with its references replaced. -/
theorem load_of_write {c : Config} {f f' : Files} {path : String} (h : c.save f path = .ok f')
    (e : Environment) : load e f' path = match ofText? (e.expand c.text) with
      | some loaded => .ok loaded
      | none => .error .malformed := by
  rw [save] at h
  split at h
  · cases h
  · split at h
    · cases h
    · rename_i hwrite
      cases h
      rw [load, Files.read_of_write hwrite]
      show ofFile e path c.toFile = _
      cases hread : ofText? (e.expand c.text) <;>
        simp [ofFile, toFile, Utf8.decode?_encode, hread]

end Config

/-! ## Texts without dollar signs -/

namespace Template

/-- Without a dollar sign there is nothing to find in a text but its characters. -/
theorem parts_of_plain : ∀ {s : List Char}, '$' ∉ s → parts s = s.map .char
  | [], _ => by rw [parts]; rfl
  | c :: s, h => by
    rw [List.mem_cons, not_or] at h
    rw [parts, parts_of_plain h.2]
    · rfl
    · rintro rfl
      exact h.1 rfl

end Template

/-- So nothing is replaced in it, whatever the variables are. -/
theorem Environment.expand_of_plain (e : Environment) {s : List Char} (h : '$' ∉ s) :
    e.expand s = s := by
  rw [expand, Template.parts_of_plain h, List.flatMap_map]
  exact List.flatMap_singleton' s

namespace Toml

/-- An escape is a backslash with a letter or with the digits of a code. -/
theorem not_mem_of_escape? {triple : Bool} {c : Char} {e : List Char}
    (h : escape? triple c = some e) : '$' ∉ e := by
  have hdigit : ∀ n, n < 16 → Hex.digit n ≠ '$' := by decide
  rw [escape?] at h
  split at h
  · cases h
    decide
  split at h
  · cases h
    decide
  split at h
  · split at h
    · cases h
    · cases h
      decide
  split at h
  · cases h
    decide
  split at h
  · cases h
    decide
  split at h
  · cases h
    decide
  split at h
  · rename_i hcode
    cases h
    rw [needsCode] at hcode
    simp only [Bool.or_eq_true, Bool.and_eq_true, decide_eq_true_eq, beq_iff_eq] at hcode
    have hhigh := hdigit (c.toNat / 16) (by omega)
    have hlow := hdigit (c.toNat % 16) (by omega)
    simp [hhigh.symm, hlow.symm]
  · cases h

/-- Escapes add no dollar sign to a text. -/
theorem mem_of_escapedFrom {triple : Bool} {s : List Char} : ∀ {run : Nat},
    '$' ∈ escapedFrom triple run s → '$' ∈ s := by
  induction s with
  | nil => exact fun h ↦ h
  | cons c s ih =>
    intro run h
    rw [escapedFrom] at h
    split at h
    · rename_i hquote
      rw [hquote] at h
      refine List.mem_cons_of_mem _ ?_
      split at h
      · exact ih (by simpa using h)
      · exact ih (by simpa using h)
    · split at h
      · rename_i e he
        rcases List.mem_append.mp h with h | h
        · exact absurd h (not_mem_of_escape? he)
        · exact List.mem_cons_of_mem _ (ih h)
      · rcases List.mem_cons.mp h with h | h
        · exact h ▸ List.mem_cons_self
        · exact List.mem_cons_of_mem _ (ih h)

/-- Quotes add none, whichever form a string is written in. -/
theorem mem_of_writeString {s : String} (h : '$' ∈ writeString s) : '$' ∈ s.toList := by
  have hopening : '$' ∉ opening (traits s.toList) := by
    rw [opening]
    split <;> decide
  rw [writeString] at h
  cases hform : StringForm.ofTraits (traits s.toList) with
  | basic =>
    rw [hform] at h
    exact mem_of_escapedFrom (by simpa [escaped] using h)
  | literal =>
    rw [hform] at h
    simpa using h
  | tripleBasic =>
    rw [hform] at h
    exact mem_of_escapedFrom (by simpa [escaped, hopening] using h)
  | tripleLiteral =>
    rw [hform] at h
    simpa [hopening] using h

/-- Nor does a key get one from its quotes. -/
theorem mem_of_writeKey {s : String} (h : '$' ∈ writeKey s) : '$' ∈ s.toList := by
  rw [writeKey] at h
  split at h
  · exact h
  split at h
  · exact mem_of_escapedFrom (by simpa [escaped] using h)
  split at h
  · simpa using h
  · exact mem_of_escapedFrom (by simpa [escaped] using h)

/-- A dollar sign on the line of a string is in the key or in the string. -/
theorem mem_of_stringLine {key value : String} (h : '$' ∈ stringLine key value) :
    '$' ∈ key.toList ∨ '$' ∈ value.toList := by
  rcases List.mem_append.mp h with h | h
  · exact .inl (mem_of_writeKey h)
  · exact .inr (mem_of_writeString (by simpa using h))

/-- On the line of a number it is in the key. -/
theorem mem_of_numberLine {key : String} {n : Nat} (h : '$' ∈ numberLine key n) :
    '$' ∈ key.toList := by
  rcases List.mem_append.mp h with h | h
  · exact mem_of_writeKey h
  · have hdigit : '$' ∈ Nat.toDigits 10 n := by simpa using h
    exact absurd (Nat.isDigit_of_mem_toDigits (by decide) (by decide) hdigit) (by decide)

/-- On the line of a header it is in one of the keys. -/
theorem mem_of_headerLine {path : List String} (h : '$' ∈ headerLine path) :
    ∃ key ∈ path, '$' ∈ key.toList := by
  have hkeys : '$' ∈ ((path.map writeKey).intersperse ['.']).flatten := by
    simpa [headerLine] using h
  obtain ⟨piece, hpiece, hmem⟩ := List.mem_flatten.mp hkeys
  rcases mem_of_mem_intersperse hpiece with rfl | hkey
  · exact absurd hmem (by decide)
  · obtain ⟨key, hpath, rfl⟩ := List.mem_map.mp hkey
    exact ⟨key, hpath, mem_of_writeKey hmem⟩

/-- A line that may be left out has a dollar sign only if it is there. -/
theorem mem_of_optionalLine {α : Type} {line : α → List Char} {a : Option α}
    (h : '$' ∈ optionalLine line a) : ∃ b ∈ a, '$' ∈ line b := by
  cases a with
  | none => cases h
  | some b => exact ⟨b, rfl, h⟩

end Toml

/-- A line of a setting whose name has no dollar sign. -/
theorem Toml.mem_of_settingLine {key value : String} (hkey : '$' ∉ key.toList)
    (h : '$' ∈ stringLine key value) : '$' ∈ value.toList :=
  (mem_of_stringLine h).resolve_left hkey

/-- The texts of credentials. -/
def Credentials.strings : Credentials → List String
  | clientSecret tenantId clientId secret => [tenantId, clientId, secret]
  | accessToken token => [token]

/-- The fields of credentials have fixed names, so a dollar sign is in one of the texts. -/
theorem Credentials.mem_of_lines {c : Credentials} (h : '$' ∈ c.lines) :
    ∃ s ∈ c.strings, '$' ∈ s.toList := by
  cases c with
  | clientSecret tenantId clientId secret =>
    rcases List.mem_append.mp h with h | h
    · rcases List.mem_append.mp h with h | h
      · exact ⟨tenantId, by simp [strings], Toml.mem_of_settingLine (by decide) h⟩
      · exact ⟨clientId, by simp [strings], Toml.mem_of_settingLine (by decide) h⟩
    · exact ⟨secret, by simp [strings], Toml.mem_of_settingLine (by decide) h⟩
  | accessToken token =>
    exact ⟨token, by simp [strings], Toml.mem_of_settingLine (by decide) h⟩

namespace Profile

/-- The texts of a profile. -/
def strings (p : Profile) : List String :=
  p.subscriptionId :: p.location :: (p.resourceGroup.toList ++ p.userAgent.toList ++
    p.credentials.strings)

variable {name : String}

/-- In the header of a profile only the name of the profile is not fixed. -/
theorem mem_of_header {path : List String} (hpath : '$' ∈ Toml.headerLine path)
    (hfixed : ∀ key ∈ path, key ≠ name → '$' ∉ key.toList) : '$' ∈ name.toList := by
  obtain ⟨key, hkey, hmem⟩ := Toml.mem_of_headerLine hpath
  by_cases hname : key = name
  · exact hname ▸ hmem
  · exact absurd hmem (hfixed key hkey hname)

/-- A poll setting has numbers and no texts. -/
theorem mem_of_pollLines {s : PollSetting} (h : '$' ∈ pollLines ["profiles", name] s) :
    '$' ∈ name.toList := by
  simp only [pollLines, List.mem_cons, List.mem_append] at h
  rcases h with h | (h | h) | h
  · exact absurd h (by decide)
  · refine mem_of_header h fun key hkey hname ↦ ?_
    simp only [List.cons_append, List.nil_append, List.mem_cons, List.not_mem_nil, or_false] at hkey
    rcases hkey with rfl | rfl | rfl
    · decide
    · exact absurd rfl hname
    · decide
  · exact absurd (Toml.mem_of_numberLine h) (by decide)
  · obtain ⟨n, -, hn⟩ := Toml.mem_of_optionalLine h
    exact absurd (Toml.mem_of_numberLine hn) (by decide)

/-- A dollar sign in the lines of a profile is in its name or in one of its texts. -/
theorem mem_of_lines {p : Profile} (h : '$' ∈ p.lines name) :
    ∃ s ∈ name :: p.strings, '$' ∈ s.toList := by
  simp only [lines, List.mem_append] at h
  rcases h with ((((((h | h) | h) | h) | h) | h) | h) | h
  · refine ⟨name, List.mem_cons_self, mem_of_header h fun key hkey hname ↦ ?_⟩
    simp only [List.mem_cons, List.not_mem_nil, or_false] at hkey
    rcases hkey with rfl | rfl
    · decide
    · exact absurd rfl hname
  · exact ⟨p.subscriptionId, by simp [strings], Toml.mem_of_settingLine (by decide) h⟩
  · obtain ⟨group, hgroup, h⟩ := Toml.mem_of_optionalLine h
    exact ⟨group, by simp [strings, Option.mem_def.mp hgroup],
      Toml.mem_of_settingLine (by decide) h⟩
  · exact ⟨p.location, by simp [strings], Toml.mem_of_settingLine (by decide) h⟩
  · exact absurd (Toml.mem_of_settingLine (by decide) h) (by cases p.cloud <;> decide)
  · obtain ⟨s, hs, h⟩ := Credentials.mem_of_lines h
    exact ⟨s, by simp [strings, hs], h⟩
  · obtain ⟨agent, hagent, h⟩ := Toml.mem_of_optionalLine h
    exact ⟨agent, by simp [strings, Option.mem_def.mp hagent],
      Toml.mem_of_settingLine (by decide) h⟩
  · obtain ⟨s, -, h⟩ := Toml.mem_of_optionalLine h
    exact ⟨name, List.mem_cons_self, mem_of_pollLines h⟩

end Profile

namespace Config

/-- The texts of a configuration. -/
def strings (c : Config) : List String :=
  c.defaultProfile.toList ++ c.profiles.flatMap fun p ↦ p.1 :: p.2.strings

/-- **A dollar sign in the text of a configuration is one of its own.** -/
theorem mem_of_text {c : Config} (h : '$' ∈ c.text) : ∃ s ∈ c.strings, '$' ∈ s.toList := by
  have hprofiles : '$' ∈ c.profileLines → ∃ s ∈ c.strings, '$' ∈ s.toList := by
    intro h
    rw [profileLines] at h
    split at h
    · exact absurd h (by decide)
    · obtain ⟨piece, hpiece, hmem⟩ := List.mem_flatten.mp h
      rcases Toml.mem_of_mem_intersperse hpiece with rfl | hpiece
      · exact absurd hmem (by decide)
      · obtain ⟨p, hp, rfl⟩ := List.mem_map.mp hpiece
        obtain ⟨s, hs, hdollar⟩ := Profile.mem_of_lines hmem
        exact ⟨s, List.mem_append_right _ (List.mem_flatMap.mpr ⟨p, hp, hs⟩), hdollar⟩
  rw [text] at h
  split at h
  · rename_i name hname
    rcases List.mem_append.mp h with h | h
    · exact ⟨name, by simp [strings, hname], Toml.mem_of_settingLine (by decide) h⟩
    · exact hprofiles (by simpa using h)
  · exact hprofiles h

/-- Nothing is replaced in the text of a configuration without dollar signs. -/
theorem expand_text {c : Config} (h : ∀ s ∈ c.strings, '$' ∉ s.toList) (e : Environment) :
    e.expand c.text = c.text := by
  refine e.expand_of_plain fun hmem ↦ ?_
  obtain ⟨s, hs, hdollar⟩ := mem_of_text hmem
  exact h s hs hdollar

end Config

/-! ## Saving and loading -/

namespace Config

/-- Whether a configuration is one that a process can hold: each name occurs once, in order, and
numbers fit 64 bits. -/
structure WellFormed (c : Config) : Prop where
  ordered : c.profiles.Pairwise (·.1 < ·.1)
  fits : c.Fits

/-- Whether a configuration lists the profiles of another one, in any order. -/
structure Lists (d c : Config) : Prop where
  defaultProfile : d.defaultProfile = c.defaultProfile
  profiles : d.profiles.Perm c.profiles

/-- Names in order are different. -/
theorem WellFormed.nodup_names {c : Config} (h : c.WellFormed) : c.names.Nodup :=
  Json.nodup_of_sorted h.ordered

/-- The order in which the profiles are written is lost, and nothing else. -/
theorem ofText?_of_lists {c d : Config} (h : c.WellFormed) (hd : d.Lists c) :
    ofText? d.text = some c := by
  have hfits : d.Fits := fun p hp ↦ h.fits p (hd.profiles.mem_iff.mp hp)
  have hnames : d.names.Nodup := (hd.profiles.map _).nodup_iff.mpr h.nodup_names
  rw [ofText?_text hfits hnames, hd.defaultProfile, Json.sortMembers_eq hd.profiles h.ordered]

/-- **A saved configuration is loaded as it was**, in whichever order its profiles are written,
where replacing references leaves its text as it is. -/
theorem load_of_save {c d : Config} {f f' : Files} {path : String} {e : Environment}
    (hc : c.WellFormed) (hd : d.Lists c) (hsave : d.save f path = .ok f')
    (hkept : e.expand d.text = d.text) : load e f' path = .ok c := by
  rw [load_of_write hsave, hkept, ofText?_of_lists hc hd]

/-- A configuration of one profile with a token. -/
def ofToken (token : String) : Config :=
  ⟨none, [("work", .new "sub" (.accessToken token))]⟩

theorem save_ofToken (token : String) : (ofToken token).save .empty "/config.toml" =
    .ok (Files.empty.put ["config.toml"] (.file (ofToken token).toFile)) := rfl

theorem load_of_save_token :
    load .empty (Files.empty.put ["config.toml"] (.file (ofToken "secret").toFile)) "/config.toml" =
      .ok (ofToken "secret") :=
  load_of_save ⟨List.pairwise_singleton _ _, by simp [Fits, ofToken, Profile.Fits, Profile.new]⟩
    ⟨rfl, .refl _⟩ (save_ofToken "secret") (expand_text (by decide) _)

/-- Two dollar signs in a token come back as one. -/
theorem load_changes_dollars :
    (ofToken "a$$b").save .empty "/config.toml" =
        .ok (Files.empty.put ["config.toml"] (.file (ofToken "a$$b").toFile)) ∧
      load .empty (Files.empty.put ["config.toml"] (.file (ofToken "a$$b").toFile)) "/config.toml" =
        .ok (ofToken "a$b") ∧
      ofToken "a$b" ≠ ofToken "a$$b" := by
  have hread : ofText? (Environment.empty.expand (ofToken "a$$b").text) =
      some (ofToken "a$b") := by
    decide +kernel
  refine ⟨save_ofToken "a$$b", ?_, by decide⟩
  rw [load_of_write (save_ofToken "a$$b"), hread]

end Config
end ResourceManager
