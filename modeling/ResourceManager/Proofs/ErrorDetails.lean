import ResourceManager.Operation.Status
import ResourceManager.Proofs.FormFields
import ResourceManager.Proofs.JsonTrees

/-!
# What an error says

An error is worded by a service in a member `error`, with a code and a message of which each may be
missing.  It is an object, in which other members do not count, or an array of up to two items.
`ErrorDetail.Reads` says which values can be read so, and `ErrorDetail.Says` what becomes of those
that cannot: nothing is taken over from them.

The member is read in two ways, from the text of a failed response and from the body of an operation
that is known as a value.  `ErrorDetail.says_of_response_and_operation` says that both have the same
from the same body.
-/

set_option autoImplicit false

namespace ResourceManager

/-! ## Details in values

An error is read as a whole or not at all: a code of a wrong kind takes the message away with it.
-/

/-- What is given in the place of a text that may be missing. -/
inductive Gives : Option Json → Option String → Prop
  | missing : Gives none none
  | null : Gives (some .null) none
  | text (s : String) : Gives (some (.string s)) (some s)

theorem optional?_string?_iff (slot : Option Json) (text : Option String) :
    Datum.optional? Datum.string? slot = some text ↔ Gives slot text := by
  constructor
  · intro h
    cases slot with
    | none =>
      cases h
      exact .missing
    | some v =>
      cases v with
      | null =>
        cases h
        exact .null
      | string s =>
        cases h
        exact .text s
      | _ => cases h
  · rintro (_ | _ | s) <;> rfl

namespace ErrorDetail

/-- Whether a member of this name is there once, or the name does not occur. -/
def Occurs (members : List (String × Json)) (name : String) (slot : Option Json) : Prop :=
  members.filter (·.1 == name) = (slot.map (name, ·)).toList

/-- How a value is read as an error: under the names of an object, or at the places of an array. -/
inductive Reads : Json → ErrorDetail → Prop
  | object {members : List (String × Json)} {code message : Option Json} {d : ErrorDetail}
      (hcode : Occurs members "code" code) (hmessage : Occurs members "message" message)
      (code : Gives code d.code) (message : Gives message d.message) : Reads (.object members) d
  | array {items : List Json} {d : ErrorDetail} (length : items.length ≤ 2)
      (code : Gives items[0]? d.code) (message : Gives items[1]? d.message) :
      Reads (.array items) d

/-- What is said by an error that may be missing: nothing unless it is read as a whole. -/
inductive Says : Option Json → ErrorDetail → Prop
  | missing : Says none .empty
  | reads {error : Json} {d : ErrorDetail} (h : Reads error d) : Says (some error) d
  | unreadable {error : Json} (h : ∀ d, ¬ Reads error d) : Says (some error) .empty

/-- The fields of an error. -/
def fields : List Field := [⟨"code", .defaulted⟩, ⟨"message", .defaulted⟩]

variable {d : ErrorDetail}

theorem decode?_eq_some {α : Type} [Datum α] {a : α} : decode? a = some d ↔
    ∃ l code message, Datum.layout? a = some l ∧ l.slots? fields = some [code, message] ∧
      Datum.optional? Datum.string? code = some d.code ∧
      Datum.optional? Datum.string? message = some d.message := by
  constructor
  · intro h
    rw [decode?] at h
    obtain ⟨l, hl, h⟩ := Option.bind_eq_some_iff.mp h
    obtain ⟨slots, hslots, h⟩ := Option.bind_eq_some_iff.mp h
    split at h
    · obtain ⟨code, hcode, h⟩ := Option.bind_eq_some_iff.mp h
      obtain ⟨message, hmessage, h⟩ := Option.bind_eq_some_iff.mp h
      cases h
      exact ⟨l, _, _, hl, hslots, hcode, hmessage⟩
    · cases h
  · rintro ⟨l, code, message, hl, hslots, hcode, hmessage⟩
    rw [fields] at hslots
    simp [decode?, hl, hslots, hcode, hmessage]

theorem slotNamed?_defaulted_iff {members : List (String × Json)} {name : String}
    {slot : Option Json} :
    Layout.slotNamed? members ⟨name, .defaulted⟩ = some slot ↔ Occurs members name slot := by
  have hname : ∀ m ∈ members.filter (·.1 == name), m.1 = name :=
    fun m hm ↦ eq_of_beq (List.mem_filter.mp hm).2
  rw [Layout.slotNamed?, Occurs]
  generalize members.filter (·.1 == name) = found at hname ⊢
  rcases found with _ | ⟨⟨n, value⟩, _ | ⟨_, _⟩⟩
  · cases slot <;> simp
  · obtain rfl := hname _ List.mem_cons_self
    cases slot <;> simp
  · cases slot <;> simp

theorem slots?_named_iff {members : List (String × Json)} {code message : Option Json} :
    (Layout.named members).slots? fields = some [code, message] ↔
      Occurs members "code" code ∧ Occurs members "message" message := by
  rw [← slotNamed?_defaulted_iff, ← slotNamed?_defaulted_iff]
  simp [Layout.slots?, fields, Option.bind_eq_some_iff]

theorem slots?_positional_iff {items : List Json} {code message : Option Json} :
    (Layout.positional items).slots? fields = some [code, message] ↔
      items.length ≤ 2 ∧ items[0]? = code ∧ items[1]? = message := by
  rcases items with _ | ⟨_, _ | ⟨_, _ | ⟨_, _⟩⟩⟩ <;>
    simp [Layout.slots?, Layout.slotsAt?, fields]

/-- A value is decoded where it is read as an error, and to that error. -/
theorem decode?_eq_some_iff {error : Json} : decode? error = some d ↔ Reads error d := by
  rw [decode?_eq_some]
  constructor
  · rintro ⟨l, code, message, hl, hslots, hcode, hmessage⟩
    rw [optional?_string?_iff] at hcode hmessage
    cases error with
    | object members =>
      cases hl
      obtain ⟨hfound, hfound'⟩ := slots?_named_iff.mp hslots
      exact .object hfound hfound' hcode hmessage
    | array items =>
      cases hl
      obtain ⟨hlength, rfl, rfl⟩ := slots?_positional_iff.mp hslots
      exact .array hlength hcode hmessage
    | _ => cases hl
  · intro h
    cases h with
    | object hfound hfound' hcode hmessage =>
      exact ⟨_, _, _, rfl, slots?_named_iff.mpr ⟨hfound, hfound'⟩,
        (optional?_string?_iff _ _).mpr hcode, (optional?_string?_iff _ _).mpr hmessage⟩
    | array hlength hcode hmessage =>
      exact ⟨_, _, _, rfl, slots?_positional_iff.mpr ⟨hlength, rfl, rfl⟩,
        (optional?_string?_iff _ _).mpr hcode, (optional?_string?_iff _ _).mpr hmessage⟩

/-- What is said is what is decoded, if anything is. -/
theorem says_iff {error : Option Json} : Says error d ↔ d = (error.bind decode?).getD .empty := by
  cases error with
  | none =>
    constructor
    · rintro ⟨⟩
      rfl
    · rintro rfl
      exact .missing
  | some error =>
    rw [Option.bind_some]
    cases hdecode : decode? error with
    | none =>
      have hnot : ∀ d, ¬ Reads error d := fun d h ↦ by
        rw [decode?_eq_some_iff.mpr h] at hdecode
        cases hdecode
      constructor
      · rintro (_ | h | _)
        · exact absurd h (hnot d)
        · rfl
      · rintro rfl
        exact .unreadable hnot
    | some found =>
      have hreads := decode?_eq_some_iff.mp hdecode
      constructor
      · rintro (_ | h | h)
        · rw [decode?_eq_some_iff.mpr h] at hdecode
          exact Option.some_inj.mp hdecode
        · exact absurd hreads (h found)
      · rintro rfl
        exact .reads hreads

/-! ## Details in texts

A response is read as a tree and a body that is known already is a value.  The value is written with
its members in order, and a tree that is read from such a text decodes as the value does.
-/

theorem decode?_toTree (v : Json) : decode? v.toTree = decode? v := by
  have htext := Json.optional?_toTree Json.string?_toTree
  rw [decode?, decode?, Json.layout?_toTree]
  cases Datum.layout? v with
  | none => rfl
  | some l =>
    simp only [Option.map_some, Option.bind_eq_bind, Option.bind_some, Layout.slots?_map]
    cases l.slots? [⟨"code", .defaulted⟩, ⟨"message", .defaulted⟩] with
    | none => rfl
    | some slots =>
      rcases slots with _ | ⟨code, _ | ⟨message, _ | ⟨_, _⟩⟩⟩
      · rfl
      · rfl
      · simp [htext]
      · rfl

theorem ofEnvelope?_toTree (v : Json) : ofEnvelope? v.toTree = ofEnvelope? v := by
  have herror := Json.optional?_toTree decode?_toTree
  rw [ofEnvelope?, ofEnvelope?, Json.layout?_toTree]
  cases Datum.layout? v with
  | none => rfl
  | some l =>
    simp only [Option.map_some, Option.bind_eq_bind, Option.bind_some, Layout.slots?_map]
    cases l.slots? [⟨"error", .nullable⟩] with
    | none => rfl
    | some slots =>
      rcases slots with _ | ⟨error, _ | ⟨_, _⟩⟩
      · rfl
      · simp [herror]
      · rfl

/-- An envelope holds the error under its name, whatever else it has. -/
theorem ofEnvelope?_object {members : List (String × Json)} (h : (members.map (·.1)).Nodup) :
    ofEnvelope? (Json.object members) = Datum.optional? decode? (members.lookup "error") := by
  have hslot : Layout.slotNamed? members ⟨"error", .nullable⟩ = some (members.lookup "error") := by
    rw [Layout.slotNamed?, filter_name_eq_lookup h]
    cases members.lookup "error" <;> rfl
  have hslots : (Layout.named members).slots? [⟨"error", .nullable⟩] =
      some [members.lookup "error"] := by
    simp [Layout.slots?, hslot]
  show (Layout.slots? _ (Layout.named members)).bind _ = _
  rw [hslots]
  rfl

/-- A null is no error, and it is not read as one. -/
theorem optional?_decode?_getD (error : Option Json) :
    ((Datum.optional? decode? error).bind id).getD .empty =
      (error.bind decode?).getD .empty := by
  cases error with
  | none => rfl
  | some error =>
    rw [Datum.optional?, Option.bind_some]
    split
    · rename_i hnull
      cases error with
      | null => rfl
      | _ => cases hnull
    · cases decode? error <;> rfl

end ErrorDetail

/-- The detail of a failed operation is what the member `error` of the body says. -/
theorem OperationFailure.says_detail (body : Option Json) :
    ErrorDetail.Says (body.bind (·.get? "error")) (detail body) :=
  ErrorDetail.says_iff.mpr rfl

/-- The detail of a failed response is what the member `error` of the object in its text says. -/
theorem ServiceError.detail_write (members : List (String × Json)) :
    detail (Utf8.encode (Json.ofMembers members).write) =
      OperationFailure.detail (some (Json.ofMembers members)) := by
  have hnames := Json.nodup_of_sorted (Json.sortMembers_sorted members)
  rw [detail, Json.ofBytes?_write, Option.bind_some, ErrorDetail.ofEnvelope?_toTree,
    Json.ofMembers, ErrorDetail.ofEnvelope?_object hnames, ErrorDetail.optional?_decode?_getD]
  rfl

/-- **A failed response and a failed operation say the same about an error** when the body of the
operation is an object and the response is the text of it: both have the code and the message that
the member `error` says, and each fills in what is missing in its own words. -/
theorem ErrorDetail.says_of_response_and_operation (members : List (String × Json)) (status : Nat)
    (ending : OperationStatus) : ∃ d : ErrorDetail,
      Says ((Json.ofMembers members).get? "error") d ∧
      ServiceError.detail (Utf8.encode (Json.ofMembers members).write) = d ∧
      OperationFailure.detail (some (Json.ofMembers members)) = d ∧
      ServiceError.ofResponse status (Utf8.encode (Json.ofMembers members).write) =
        ⟨status, d.code.getD ((HttpStatus.reason? status).getD "HttpError"),
          d.message.getD (String.ofList (Text.trim (Json.ofMembers members).write))⟩ ∧
      OperationFailure.ofStatus ending (some (Json.ofMembers members)) =
        ⟨OperationFailure.statusWord ending, d.code.getD (OperationFailure.statusWord ending),
          d.message.getD
            ("operation finished with status " ++ OperationFailure.statusWord ending)⟩ := by
  refine ⟨_, OperationFailure.says_detail (some (Json.ofMembers members)),
    ServiceError.detail_write members, rfl, ?_, rfl⟩
  rw [ServiceError.ofResponse, ServiceError.detail_write, ServiceError.defaultCode,
    ServiceError.defaultMessage, Utf8.decodeLossy_encode]

end ResourceManager
