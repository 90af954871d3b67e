import ResourceManager.Config.Text

/-!
# Texts in values are opaque to the reader

`Toml.rename g` puts `g s` in the place of every text `s` in a value.  Names of entries stay.  The
reader never looks into a text that is a value: whatever it does with one, it does with another one
in its place.  So each of its functions commutes with renaming: tables under construction
(`Node.modify?_rename`, `Node.insert?_rename`), the statements of lines (`Statement.step?_rename`),
the outline of a text and its table (`Outline.table?_rename`), and in the end the tree of the text.

Tokens are what they are, since a token may be a name; `Token.Keeps` says of a token that it is no
text that would change.

## Why renaming

What is proved in the end is about the value of one reference to a variable: with another
value in the environment, the configuration is the same with another text in the settings that refer
to it.  One could follow a single text through the reader.  But the reader takes values apart,
puts them into tables under construction, and reverses lists on the way, and at each of these places
the text would have to be found again.  A renaming needs no place.  It is a homomorphism for all the
constructors that the reader uses, and the lemmas below are its equations, in the order in which the
reader calls its functions.
-/

set_option autoImplicit false

namespace ResourceManager
namespace Toml

variable (g : String → String)

/-! ## Values -/

mutual

/-- A value with other texts in it. -/
def rename : Toml → Toml
  | .string s => .string (g s)
  | .integer n => .integer n
  | .float written => .float written
  | .boolean b => .boolean b
  | .datetime written => .datetime written
  | .array items => .array (renameItems items)
  | .table entries => .table (renameEntries entries)

def renameItems : List Toml → List Toml
  | [] => []
  | item :: rest => rename item :: renameItems rest

def renameEntries : List (String × Toml) → List (String × Toml)
  | [] => []
  | (key, value) :: rest => (key, rename value) :: renameEntries rest

end

/-- The recursion on items is the map over them; the definition is a recursion only because values
contain values. -/
theorem renameItems_eq_map (items : List Toml) : renameItems g items = items.map (rename g) := by
  induction items with
  | nil => rfl
  | cons item items ih => rw [renameItems, ih, List.map_cons]

/-- The same for entries, whose names stay. -/
theorem renameEntries_eq_map (entries : List (String × Toml)) :
    renameEntries g entries = entries.map fun e ↦ (e.1, rename g e.2) := by
  induction entries with
  | nil => rfl
  | cons e entries ih => rw [renameEntries, ih, List.map_cons]

/-! ## Tables under construction

While a text is read, a table remembers where it came from, and this decides whether it may be
opened again.  None of that depends on texts, so a change to a table commutes with renaming as soon
as it does so at the end of its path (`Node.modify?_rename`). -/

namespace Node

mutual

def rename : Node → Node
  | .value v => .value (v.rename g)
  | .table origin entries => .table origin (renameEntries entries)
  | .tables complete last => .tables (renameTables complete) (renameEntries last)

def renameEntries : List (String × Node) → List (String × Node)
  | [] => []
  | (key, n) :: rest => (key, rename n) :: renameEntries rest

def renameTables : List (List (String × Node)) → List (List (String × Node))
  | [] => []
  | entries :: rest => renameEntries entries :: renameTables rest

end

variable {g} {entries : Entries} {key : String}

@[simp] theorem renameEntries_append (a b : Entries) :
    renameEntries g (a ++ b) = renameEntries g a ++ renameEntries g b := by
  induction a with
  | nil => rfl
  | cons e a ih => rw [List.cons_append, renameEntries, renameEntries, ih, List.cons_append]

@[simp] theorem renameTables_append (a b : List Entries) :
    renameTables g (a ++ b) = renameTables g a ++ renameTables g b := by
  induction a with
  | nil => rfl
  | cons e a ih => rw [List.cons_append, renameTables, renameTables, ih, List.cons_append]

/-- What is found by a name is found, with other texts in it. -/
theorem lookup_rename (key : String) (entries : Entries) :
    (renameEntries g entries).lookup key = (entries.lookup key).map (rename g) := by
  induction entries with
  | nil => rfl
  | cons e entries ih =>
    rw [renameEntries, List.lookup_cons, List.lookup_cons]
    split
    · rfl
    · exact ih

/-- What is put in the place of an entry goes to the same place. -/
theorem set_rename (key : String) (n : Node) (entries : Entries) :
    set key (n.rename g) (renameEntries g entries) = renameEntries g (set key n entries) := by
  induction entries with
  | nil => rfl
  | cons e entries ih =>
    rw [renameEntries, set, set]
    split
    · rfl
    · rw [ih, renameEntries]

/-- What is gone into is the same, and it is put together again in the same way. -/
theorem open?_rename (dotted : Bool) (n : Option Node) :
    (open? dotted n = none ∧ open? dotted (n.map (rename g)) = none) ∨
      ∃ child child', open? dotted n = some child ∧ open? dotted (n.map (rename g)) = some child' ∧
        child'.origin = child.origin ∧ child'.entries = renameEntries g child.entries ∧
        ∀ entries, child'.close (renameEntries g entries) = (child.close entries).rename g := by
  cases n with
  | none => exact .inr ⟨_, _, rfl, rfl, rfl, rfl, fun _ ↦ rfl⟩
  | some n =>
    cases n with
    | value v => exact .inl ⟨rfl, rfl⟩
    | table origin entries =>
      by_cases h : dotted = true ∧ origin = .header
      · exact .inl ⟨if_pos h, if_pos h⟩
      · exact .inr ⟨_, _, if_neg h, if_neg h, rfl, rfl, fun _ ↦ rfl⟩
    | tables complete last => exact .inr ⟨_, _, rfl, rfl, rfl, rfl, fun _ ↦ rfl⟩

/-- A change at the end of a path.  The induction is on the path; at every name the table is opened,
changed and closed again. -/
theorem modify?_rename {dotted : Bool} {change change' : Origin → Entries → Option Entries}
    (h : ∀ origin entries,
      change' origin (renameEntries g entries) = (change origin entries).map (renameEntries g)) :
    ∀ (path : List String) (origin : Origin) (entries : Entries),
      modify? dotted change' path origin (renameEntries g entries) =
        (modify? dotted change path origin entries).map (renameEntries g)
  | [], origin, entries => h origin entries
  | key :: path, _, entries => by
    rw [modify?, modify?, lookup_rename]
    rcases open?_rename dotted (entries.lookup key) with ⟨hnone, hnone'⟩ |
        ⟨child, child', hopen, hopen', horigin, hentries, hclose⟩
    · rw [hnone, hnone']
      rfl
    · rw [hopen, hopen']
      simp only [Option.bind_eq_bind, Option.bind_some, horigin, hentries,
        modify?_rename h path child.origin child.entries]
      cases modify? dotted change path child.origin child.entries with
      | none => rfl
      | some changed =>
        simp only [Option.map_some, Option.bind_some, Option.pure_def, hclose, set_rename]

/-- An entry may be added if its name is new, and names stay. -/
theorem add?_rename (key : String) (n : Node) (entries : Entries) :
    add? key (n.rename g) (renameEntries g entries) =
      (add? key n entries).map (renameEntries g) := by
  rw [add?, add?, lookup_rename, Option.isSome_map]
  split
  · rfl
  · simp [renameEntries]

/-- So may a value at a path with dots. -/
theorem insert?_rename (path : List String) (v : Toml) (entries : Entries) :
    insert? path (v.rename g) (renameEntries g entries) =
      (insert? path v entries).map (renameEntries g) := by
  rw [insert?, insert?]
  cases path.getLast? with
  | none => rfl
  | some key =>
    refine modify?_rename (fun origin entries ↦ ?_) _ _ _
    split
    · exact add?_rename key (.value v) entries
    · rfl

mutual

/-- The value that a table under construction comes to. -/
theorem toValue_rename : ∀ n : Node, toValue (n.rename g) = (toValue n).rename g
  | .value v => rfl
  | .table origin entries => by
    rw [rename, toValue, toValue, Toml.rename, toEntries_rename entries]
  | .tables complete last => by
    rw [rename, toValue, toValue, Toml.rename, Toml.renameItems_eq_map, List.map_append,
      toTables_rename complete, toEntries_rename last]
    rfl

theorem toEntries_rename : ∀ entries : List (String × Node),
    toEntries (renameEntries g entries) = Toml.renameEntries g (toEntries entries)
  | [] => rfl
  | (key, n) :: rest => by
    rw [renameEntries, toEntries, toEntries, Toml.renameEntries, toValue_rename n,
      toEntries_rename rest]

theorem toTables_rename : ∀ tables : List (List (String × Node)),
    toTables (renameTables g tables) = (toTables tables).map (Toml.rename g)
  | [] => rfl
  | entries :: rest => by
    rw [renameTables, toTables, toTables, List.map_cons, Toml.rename, toEntries_rename entries,
      toTables_rename rest]

end

end Node
/-! ## Statements

A line is read token by token, by what is expected next.  Tokens do not change here, so a string
that is a value has to be one that renaming leaves alone; that a string behind an equals sign may
change is another matter (`ResourceManager.Proofs.Refilling`). -/

/-- Whether a token is no text that would change. -/
def Token.Keeps : Token → Prop
  | .string _ value => g (String.ofList value) = String.ofList value
  | _ => True

namespace Statement

def rename : Statement → Statement
  | .table path => .table path
  | .tables path => .tables path
  | .entry path v => .entry path (v.rename g)

def Open.rename : Open → Open
  | .entry path => .entry path
  | .array items => .array (items.map (Toml.rename g))
  | .table entries path => .table (Node.renameEntries g entries) path

def Expectation.rename : Expectation → Expectation
  | .keyPart entries parts stack =>
    .keyPart (entries.map (Node.renameEntries g)) parts (stack.map (Open.rename g))
  | .afterKeyPart entries parts stack =>
    .afterKeyPart (entries.map (Node.renameEntries g)) parts (stack.map (Open.rename g))
  | .value stack => .value (stack.map (Open.rename g))
  | .item items stack => .item (items.map (Toml.rename g)) (stack.map (Open.rename g))
  | .afterItem items stack => .afterItem (items.map (Toml.rename g)) (stack.map (Open.rename g))
  | .key entries stack => .key (Node.renameEntries g entries) (stack.map (Open.rename g))
  | .afterEntry entries stack =>
    .afterEntry (Node.renameEntries g entries) (stack.map (Open.rename g))
  | .scalar written blank stack => .scalar written blank (stack.map (Open.rename g))
  | .nothing path v => .nothing path (v.rename g)

variable {g}

/-- A value that is complete is put where it was expected. -/
theorem close?_rename (v : Toml) (stack : List Open) :
    close? (v.rename g) (stack.map (Open.rename g)) =
      (close? v stack).map (Expectation.rename g) := by
  cases stack with
  | nil => rfl
  | cons o stack =>
    cases o with
    | entry path => rfl
    | array items => rfl
    | table entries path =>
      rw [List.map_cons, Open.rename, close?, close?, Node.insert?_rename]
      cases Node.insert? path v entries <;> rfl

/-- A token that begins a value begins it whatever stands in front. -/
theorem begin?_rename {t : Token} (ht : t.Keeps g) (stack : List Open) :
    begin? (stack.map (Open.rename g)) t = (begin? stack t).map (Expectation.rename g) := by
  cases t with
  | string triple value =>
    have hvalue : (Toml.string (String.ofList value)).rename g = .string (String.ofList value) :=
      congrArg Toml.string ht
    rw [begin?, begin?, ← close?_rename, hvalue]
  | atom written => rfl
  | openSquare | openCurly =>
    rw [begin?, begin?, List.length_map]
    split <;> rfl
  | _ => rfl

/-- What is written without quotes is no text. -/
theorem value?_rename (written : List Char) :
    (Scalar.value? written).map (Toml.rename g) = Scalar.value? written := by
  rw [Scalar.value?]
  split
  · rfl
  split
  · rfl
  split
  · rfl
  split
  · rfl
  split <;> rfl

/-- So a value without quotes ends as it did. -/
theorem endScalar?_rename (written : List Char) (stack : List Open) :
    endScalar? written (stack.map (Open.rename g)) =
      (endScalar? written stack).map (Expectation.rename g) := by
  rw [endScalar?, endScalar?]
  have hvalue := @value?_rename g written
  cases hv : Scalar.value? written with
  | none => rfl
  | some v =>
    rw [hv] at hvalue
    have hsame : v.rename g = v := Option.some_inj.mp hvalue
    simp only [Option.bind_eq_bind, Option.bind_some]
    rw [← close?_rename, hsame]

/-- An array is complete. -/
theorem close?_array_rename (items : List Toml) (stack : List Open) :
    close? (.array (items.map (Toml.rename g)).reverse) (stack.map (Open.rename g)) =
      (close? (.array items.reverse) stack).map (Expectation.rename g) := by
  rw [← close?_rename, Toml.rename, renameItems_eq_map, List.map_reverse]

/-- A table in brackets is complete. -/
theorem close?_table_rename (entries : Node.Entries) (stack : List Open) :
    close? (.table (Node.toEntries (Node.renameEntries g entries))) (stack.map (Open.rename g)) =
      (close? (.table (Node.toEntries entries)) stack).map (Expectation.rename g) := by
  rw [← close?_rename, Toml.rename, Node.toEntries_rename]

/-- A token behind a value closes what is open around it, or is out of place. -/
theorem settle?_rename (e : Expectation) (t : Token) :
    settle? (e.rename g) t = (settle? e t).map (Expectation.rename g) := by
  cases e with
  | afterItem items stack =>
    cases t with
    | closeSquare => exact close?_array_rename items stack
    | _ => rfl
  | afterEntry entries stack =>
    cases t with
    | closeCurly => exact close?_table_rename entries stack
    | _ => rfl
  | nothing path v => cases t <;> rfl
  | _ => rfl

/-- A scalar is complete, and a token is behind it. -/
theorem endScalar?_settle?_rename (written : List Char) (stack : List Open) (t : Token) :
    (endScalar? written (stack.map (Open.rename g))).bind (settle? · t) =
      ((endScalar? written stack).bind (settle? · t)).map (Expectation.rename g) := by
  rw [endScalar?_rename]
  cases endScalar? written stack with
  | none => rfl
  | some e => exact settle?_rename e t

/-- **A token is read as it was, whatever the texts in front of it are.** -/
theorem step?_rename {t : Token} (ht : t.Keeps g) (e : Expectation) :
    step? (e.rename g) t = (step? e t).map (Expectation.rename g) := by
  cases e with
  | keyPart entries parts stack =>
    cases t <;> simp [Expectation.rename, step?, Function.comp_def]
  | afterKeyPart entries parts stack =>
    cases t <;> cases entries <;> rfl
  | value stack =>
    cases t with
    | blank => rfl
    | _ => exact begin?_rename ht stack
  | item items stack =>
    cases t with
    | blank | lineBreak => rfl
    | closeSquare => exact close?_array_rename items stack
    | _ => exact begin?_rename ht (.array items :: stack)
  | key entries stack =>
    cases t with
    | blank | lineBreak => rfl
    | closeCurly => exact close?_table_rename entries stack
    | _ => simp [Expectation.rename, step?, Function.comp_def]
  | scalar written blank stack =>
    cases t with
    | atom more =>
      cases blank with
      | false => rfl
      | true =>
        rw [Expectation.rename, step?, step?]
        split <;> rfl
    | dot =>
      cases blank with
      | false => rfl
      | true => exact endScalar?_settle?_rename written stack .dot
    | blank space =>
      cases blank with
      | false =>
        rw [Expectation.rename, step?, step?]
        split
        · rfl
        · exact endScalar?_settle?_rename written stack (.blank space)
      | true => exact endScalar?_settle?_rename written stack (.blank space)
    | _ => cases blank <;> exact endScalar?_settle?_rename written stack _
  | afterItem items stack => exact settle?_rename (.afterItem items stack) t
  | afterEntry entries stack => exact settle?_rename (.afterEntry entries stack) t
  | nothing path v => exact settle?_rename (.nothing path v) t

/-- A line that is complete comes to the same entry. -/
theorem finish?_rename (e : Expectation) :
    finish? (e.rename g) = (finish? e).map (rename g) := by
  cases e with
  | scalar written blank stack =>
    rw [Expectation.rename, finish?, finish?, endScalar?_rename]
    cases endScalar? written stack with
    | none => rfl
    | some e => cases e <;> rfl
  | _ => rfl

end Statement

/-! ## Outlines

The statements of a text are sorted into sections, and the sections are put into the table one after
the other.  Which section a statement belongs to depends on the headers before it. -/

/-- Entries with other texts in them. -/
def renamePaths (entries : List (List String × Toml)) : List (List String × Toml) :=
  entries.map fun e ↦ (e.1, e.2.rename g)

def Section.rename (s : Section) : Section := { s with entries := renamePaths g s.entries }

def Outline.rename (o : Outline) : Outline :=
  ⟨o.sections.map (Section.rename g), renamePaths g o.top⟩

variable {g}

/-- A statement goes to the section that is open. -/
theorem Outline.step_rename (o : Outline) (s : Statement) :
    (o.rename g).step (s.rename g) = (o.step s).rename g := by
  obtain ⟨sections, top⟩ := o
  cases s with
  | table path => rfl
  | tables path => rfl
  | entry path v => cases sections <;> rfl

theorem Outline.foldl_step_rename (statements : List Statement) : ∀ o : Outline,
    (statements.map (Statement.rename g)).foldl Outline.step (o.rename g) =
      (statements.foldl Outline.step o).rename g := by
  induction statements with
  | nil => exact fun _ ↦ rfl
  | cons s statements ih =>
    intro o
    rw [List.map_cons, List.foldl_cons, List.foldl_cons, Outline.step_rename, ih]

theorem Outline.ofStatements_rename (statements : List Statement) :
    Outline.ofStatements (statements.map (Statement.rename g)) =
      (Outline.ofStatements statements).rename g := by
  have hfold := foldl_step_rename (g := g) statements ⟨[], []⟩
  have hstart : Outline.rename g ⟨[], []⟩ = ⟨[], []⟩ := rfl
  rw [hstart] at hfold
  rw [ofStatements, hfold]
  simp [ofStatements, Outline.rename, Section.rename, renamePaths, Function.comp_def]

/-- The entries of a section are put into its table in their order. -/
theorem fill?_rename (entries : List (List String × Toml)) : ∀ table : Node.Entries,
    fill? (renamePaths g entries) (Node.renameEntries g table) =
      (fill? entries table).map (Node.renameEntries g) := by
  induction entries with
  | nil => exact fun _ ↦ rfl
  | cons e entries ih =>
    intro table
    have hcons : ∀ (e : List String × Toml) (entries : List (List String × Toml))
        (table : Node.Entries), fill? (e :: entries) table =
          (Node.insert? e.1 e.2 table).bind (fill? entries) := fun _ _ _ ↦ rfl
    rw [renamePaths, List.map_cons, hcons, hcons, Node.insert?_rename]
    cases Node.insert? e.1 e.2 table with
    | none => rfl
    | some table' => exact ih table'

/-- A section is added to the table it belongs to: as a new table, as one more table of an array, or
to one that has only been implied so far. -/
theorem addSection?_rename (s : Section) (key : String) (parent : Node.Entries) :
    addSection? (s.rename g) key (Node.renameEntries g parent) =
      (addSection? s key parent).map (Node.renameEntries g) := by
  have hnew : ∀ (table : Node.Entries) (wrap wrap' : Node.Entries → Node),
      (∀ entries, wrap' (Node.renameEntries g entries) = (wrap entries).rename g) →
      ((fill? (renamePaths g s.entries) (Node.renameEntries g table)).bind fun entries ↦
        some (Node.set key (wrap' entries) (Node.renameEntries g parent))) =
      ((fill? s.entries table).bind fun entries ↦
        some (Node.set key (wrap entries) parent)).map (Node.renameEntries g) := by
    intro table wrap wrap' hwrap
    rw [fill?_rename]
    cases fill? s.entries table with
    | none => rfl
    | some entries =>
      rw [Option.map_some, Option.bind_some, Option.bind_some, Option.map_some, hwrap,
        Node.set_rename]
  have hdouble : (s.rename g).double = s.double := rfl
  have hentries : (s.rename g).entries = renamePaths g s.entries := rfl
  unfold addSection?
  rw [hdouble, hentries, Node.lookup_rename]
  cases s.double with
  | true =>
    cases parent.lookup key with
    | none => exact hnew [] (.tables []) (.tables []) fun _ ↦ rfl
    | some n =>
      cases n with
      | tables complete last =>
        refine hnew [] (.tables (complete ++ [last])) (.tables _) fun entries ↦ ?_
        rw [Node.rename, Node.renameTables_append]
        rfl
      | _ => rfl
  | false =>
    cases parent.lookup key with
    | none => exact hnew [] (.table .header) (.table .header) fun _ ↦ rfl
    | some n =>
      cases n with
      | table origin entries =>
        cases origin with
        | implied => exact hnew entries (.table .header) (.table .header) fun _ ↦ rfl
        | _ => rfl
      | _ => rfl

/-- The table it belongs to is at the end of a path. -/
theorem section?_rename (root : Node.Entries) (s : Section) :
    Toml.section? (Node.renameEntries g root) (s.rename g) =
      (section? root s).map (Node.renameEntries g) := by
  rw [section?, section?]
  have hpath : (s.rename g).path = s.path := rfl
  rw [hpath]
  cases s.path.getLast? with
  | none => rfl
  | some key =>
    exact Node.modify?_rename (fun _ parent ↦ addSection?_rename s key parent) _ _ _

theorem foldlM_section?_rename (sections : List Section) : ∀ root : Node.Entries,
    (sections.map (Section.rename g)).foldlM section? (Node.renameEntries g root) =
      (sections.foldlM section? root).map (Node.renameEntries g) := by
  induction sections with
  | nil => exact fun _ ↦ rfl
  | cons s sections ih =>
    intro root
    rw [List.map_cons, List.foldlM_cons, List.foldlM_cons, section?_rename]
    cases section? root s with
    | none => rfl
    | some root' => exact ih root'

/-- So the table of a text with other texts in it is the table with other texts in it. -/
theorem Outline.table?_rename (o : Outline) :
    (o.rename g).table? = (o.table?).map (Node.renameEntries g) := by
  have hfill := fill?_rename (g := g) o.top []
  have hempty : Node.renameEntries g [] = [] := rfl
  rw [hempty] at hfill
  rw [table?, table?, Outline.rename, hfill]
  cases fill? o.top [] with
  | none => rfl
  | some table => exact foldlM_section?_rename o.sections table

end Toml
end ResourceManager
