import ResourceManager.Proofs.JsonText
import ResourceManager.Proofs.Saving

/-!
# Configurations survive being written

A configuration has three written forms: the text of a configuration file, a JSON value and a JSON
text.  Nothing is lost in any of them (`Config.read_of_written`).

Each form is a writer of records, so that the laws of `Proofs/Records` apply.  Between a JSON text
and the configuration stands the tree that the text is read as, and a tree is a form of its own
(`Json.Tree.writer`): the text of what one writer makes is read as what the other one makes
(`Config.relates_write`), and that decodes to the configuration.
-/

set_option autoImplicit false

namespace ResourceManager

variable {α β : Type}

/-! ## Two writers side by side -/

/-- Whether a relation of two kinds of data, which holds of what is written of a text or of a
number, is kept where members are put together. -/
structure Datum.Writer.Relates (R : α → β → Prop) (w : Writer α) (w' : Writer β) : Prop where
  string : ∀ s, R (w.string s) (w'.string s)
  natural : ∀ n, R (w.natural n) (w'.natural n)
  object : ∀ {members members'}, MembersRelate R members members' →
    R (w.object members) (w'.object members')

section Relates

variable {R : α → β → Prop} {w : Datum.Writer α} {w' : Datum.Writer β}

theorem Datum.membersRelate_optional {γ : Type} {f : γ → α} {f' : γ → β} (name : String)
    (h : ∀ a, R (f a) (f' a)) (a : Option γ) :
    MembersRelate R (optionalMember name f a) (optionalMember name f' a) := by
  cases a with
  | none => exact .nil
  | some a => exact .cons ⟨rfl, h a⟩ .nil

theorem Credentials.relates_members (h : w.Relates R w') (c : Credentials) :
    Datum.MembersRelate R (c.members w) (c.members w') := by
  cases c with
  | clientSecret =>
    exact .cons ⟨rfl, h.string _⟩ (.cons ⟨rfl, h.string _⟩ (.cons ⟨rfl, h.string _⟩ .nil))
  | accessToken => exact .cons ⟨rfl, h.string _⟩ .nil

theorem PollSetting.relates_write (h : w.Relates R w') (s : PollSetting) :
    R (s.write w) (s.write w') :=
  h.object (.cons ⟨rfl, h.natural _⟩ (Datum.membersRelate_optional _ h.natural _))

theorem Profile.relates_write (h : w.Relates R w') (p : Profile) : R (p.write w) (p.write w') := by
  have hoptional : ∀ name (a : Option String), Datum.MembersRelate R
      (Datum.optionalMember name w.string a) (Datum.optionalMember name w'.string a) :=
    fun name ↦ Datum.membersRelate_optional name h.string
  refine h.object ?_
  refine List.rel_append (List.rel_append (List.rel_append (List.rel_append
    (List.rel_append ?_ (hoptional _ _)) ?_) (Credentials.relates_members h _)) ?_) (hoptional _ _)
  · exact .cons ⟨rfl, h.string _⟩ .nil
  · exact .cons ⟨rfl, h.string _⟩ (.cons ⟨rfl, h.string _⟩ .nil)
  · exact Datum.membersRelate_optional _ (PollSetting.relates_write h) _

theorem Config.relates_write (h : w.Relates R w') (c : Config) : R (c.write w) (c.write w') := by
  have hprofiles : Datum.MembersRelate R (c.profiles.map fun p ↦ (p.1, p.2.write w))
      (c.profiles.map fun p ↦ (p.1, p.2.write w')) := by
    rw [Datum.MembersRelate, List.forall₂_map_left_iff, List.forall₂_map_right_iff,
      List.forall₂_same]
    exact fun p _ ↦ ⟨rfl, Profile.relates_write h p.2⟩
  exact h.object (List.rel_append (Datum.membersRelate_optional _ h.string _)
    (.cons ⟨rfl, h.object hprofiles⟩ .nil))

end Relates

/-! ## The JSON forms -/

namespace Json

/-- JSON syntax as a text of it is read. -/
def Tree.writer : Datum.Writer Tree :=
  ⟨fun s ↦ .string (some s), fun n ↦ .number (.ofNat n), fun members ↦ .object (namedTrees members)⟩

theorem Tree.lawful_writer : Tree.writer.Lawful where
  string? _ := rfl
  alternative? _ := rfl
  natural? n h := by
    have hvalue := Numeral.value?_ofNat (Nat.le_sub_one_of_lt h)
    show (Numeral.ofNat n).value?.bind Json.natural? = some n
    rw [hvalue]
    rfl
  layout? members _ := by
    refine ⟨members, ?_, .refl _⟩
    show (namedMembers? (namedTrees members)).map Layout.named = some (.named members)
    rw [namedMembers?_namedTrees, Option.map_some]
  isNull_string _ := rfl
  isNull_natural _ := rfl
  isNull_object _ := rfl
  isIgnorable_string _ := rfl

theorem lawful_valueWriter : valueWriter.Lawful where
  string? _ := rfl
  alternative? _ := rfl
  natural? _ _ := rfl
  layout? _ h := ⟨_, rfl, sortMembers_perm h⟩
  isNull_string _ := rfl
  isNull_natural _ := rfl
  isNull_object _ := rfl
  isIgnorable_string _ := rfl

/-- The text of what is written is read as the tree of what is written. -/
theorem relates_writer : textWriter.Relates Spells Tree.writer where
  string := spells_string
  natural := spells_natural
  object := spells_object

end Json

namespace Config

theorem decode?_toJson {c : Config} (h : c.Fits) (hnames : c.names.Nodup) :
    decode? c.toJson = some ⟨c.defaultProfile, Json.sortMembers c.profiles⟩ :=
  decode?_write Json.lawful_valueWriter h hnames

theorem ofJsonText?_jsonText {c : Config} (h : c.Fits) (hnames : c.names.Nodup) :
    ofJsonText? c.jsonText = some ⟨c.defaultProfile, Json.sortMembers c.profiles⟩ := by
  rw [ofJsonText?, jsonText, (relates_write Json.relates_writer c).ofSymbols?]
  exact decode?_write Json.Tree.lawful_writer h hnames

/-! ## Configurations -/

/-- **A configuration is read back as it was**, from the text of a configuration file, from a JSON
value and from a JSON text, in whichever order its profiles are written. -/
theorem read_of_written {c d : Config} (hc : c.WellFormed) (hd : d.Lists c) :
    ofText? d.text = some c ∧ decode? d.toJson = some c ∧ ofJsonText? d.jsonText = some c := by
  have hfits : d.Fits := fun p hp ↦ hc.fits p (hd.profiles.mem_iff.mp hp)
  have hnames : d.names.Nodup := (hd.profiles.map _).nodup_iff.mpr hc.nodup_names
  have hsorted : (⟨d.defaultProfile, Json.sortMembers d.profiles⟩ : Config) = c := by
    rw [hd.defaultProfile, Json.sortMembers_eq hd.profiles hc.ordered]
  refine ⟨ofText?_of_lists hc hd, ?_, ?_⟩
  · rw [decode?_toJson hfits hnames, hsorted]
  · rw [ofJsonText?_jsonText hfits hnames, hsorted]

/-- A profile of an application in which everything is set, with texts that need quoting. -/
def fullProfile : Profile :=
  ⟨"", some "a\"b'c\\d", "line\nline\r\n\t", .china,
    .clientSecret "${TENANT}" "'''\"\"\"" "\x01\x7f\x00é漢", some ⟨Nat.pow 2 63 - 1, some 0⟩,
    some " # = [x]"⟩

/-- Two profiles, of which the first has an empty name and the second says what is the default. -/
def twoProfiles : Config :=
  ⟨some "not.there", [("", fullProfile), ("é \"x\"\n", .new "sub" (.accessToken ""))]⟩

theorem read_of_written_two :
    ofText? { twoProfiles with profiles := twoProfiles.profiles.reverse }.text =
        some twoProfiles ∧
      decode? { twoProfiles with profiles := twoProfiles.profiles.reverse }.toJson =
        some twoProfiles ∧
      ofJsonText? { twoProfiles with profiles := twoProfiles.profiles.reverse }.jsonText =
        some twoProfiles := by
  refine read_of_written ⟨by decide, ?_⟩ ⟨rfl, List.reverse_perm _⟩
  have hfull : fullProfile.Fits := by
    intro s hs
    cases hs
    exact ⟨by decide, by decide⟩
  have hplain : (Profile.new "sub" (.accessToken "")).Fits := by
    intro s hs
    cases hs
  intro p hp
  rcases List.mem_cons.mp hp with rfl | hp
  · exact hfull
  · rw [List.mem_singleton.mp hp]
    exact hplain

end Config
end ResourceManager
