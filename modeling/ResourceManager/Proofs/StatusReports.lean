import ResourceManager.Client.Basic
import ResourceManager.Operation.Poller
import ResourceManager.Proofs.ErrorDetails

/-!
# What a body says of an operation

A body says how an operation is getting on by a word.  It stands in the body itself at an address of
the status, and in the properties of a resource otherwise; beside it there may be an error.
`Report` is the word with the value around it, and `Report.Runs`, `Report.Succeeds` and
`Report.Fails` say in terms of these two what it means.

The program sorts words by `OperationStatus.parse`.  The lemmas on it say that it goes by the
letters of a word alone, whatever their case, and `Report.finding` puts what it makes of a report:
exactly one of the meanings.

The three meanings are the vocabulary in which `ResourceManager.Proofs.Following` says what a wait
does with the bodies in its log.  They are stated on the members of a body and on the letters of a
word, so that a statement in terms of them does not rest on the functions that read bodies; the
lemmas `finding_eq_running`, `finding_eq_ended`, `finding_eq_failed` and `finding_eq_unclear` are
where the two meet.  None of the four meanings overlaps with another, because `Report.finding` is a
function.
-/

set_option autoImplicit false

namespace ResourceManager

/-! ## Words

There are four words that end an operation, two of them spellings of one.  Anything else is a word
for an operation that goes on, also the empty word and words that the service has never used. -/

namespace OperationStatus

/-- The words that end an operation, in small letters. -/
def terminalWords : List String := ["succeeded", "failed", "canceled", "cancelled"]

/-- What becomes of a word, case by case on its letters.  The last case holds on to the word as it
was written: it is what reports repeat. -/
theorem parse_cases (word : String) :
    Text.lowerAscii word = "succeeded" ∧ parse word = succeeded ∨
      Text.lowerAscii word = "failed" ∧ parse word = failed ∨
      (Text.lowerAscii word = "canceled" ∨ Text.lowerAscii word = "cancelled") ∧
        parse word = canceled ∨
      Text.lowerAscii word ∉ terminalWords ∧ parse word = inProgress word := by
  rw [parse]
  split
  · rename_i h
    exact .inl ⟨h, rfl⟩
  · rename_i h
    exact .inr (.inl ⟨h, rfl⟩)
  · rename_i h
    exact .inr (.inr (.inl ⟨.inl h, rfl⟩))
  · rename_i h
    exact .inr (.inr (.inl ⟨.inr h, rfl⟩))
  · rename_i hsucceeded hfailed hcanceled hcancelled
    refine .inr (.inr (.inr ⟨fun hmem ↦ ?_, rfl⟩))
    rcases List.mem_cons.mp hmem with h | hmem
    · exact hsucceeded h
    rcases List.mem_cons.mp hmem with h | hmem
    · exact hfailed h
    rcases List.mem_cons.mp hmem with h | hmem
    · exact hcanceled h
    · exact hcancelled (List.mem_singleton.mp hmem)

/-- Success is one word. -/
theorem parse_eq_succeeded {word : String} :
    parse word = succeeded ↔ Text.lowerAscii word = "succeeded" := by
  constructor
  · intro h
    rcases parse_cases word with ⟨hword, -⟩ | ⟨-, hp⟩ | ⟨-, hp⟩ | ⟨-, hp⟩
    · exact hword
    · cases hp.symm.trans h
    · cases hp.symm.trans h
    · cases hp.symm.trans h
  · intro hword
    rw [parse, hword]
    rfl

theorem parse_eq_failed {word : String} :
    parse word = failed ↔ Text.lowerAscii word = "failed" := by
  constructor
  · intro h
    rcases parse_cases word with ⟨-, hp⟩ | ⟨hword, -⟩ | ⟨-, hp⟩ | ⟨-, hp⟩
    · cases hp.symm.trans h
    · exact hword
    · cases hp.symm.trans h
    · cases hp.symm.trans h
  · intro hword
    rw [parse, hword]
    rfl

/-- Both spellings of a cancellation are known. -/
theorem parse_eq_canceled {word : String} :
    parse word = canceled ↔
      Text.lowerAscii word = "canceled" ∨ Text.lowerAscii word = "cancelled" := by
  constructor
  · intro h
    rcases parse_cases word with ⟨-, hp⟩ | ⟨-, hp⟩ | ⟨hword, -⟩ | ⟨-, hp⟩
    · cases hp.symm.trans h
    · cases hp.symm.trans h
    · exact hword
    · cases hp.symm.trans h
  · rintro (hword | hword)
    · rw [parse, hword]
      rfl
    · rw [parse, hword]
      rfl

/-- A word goes on if it is none of the four. -/
theorem parse_eq_inProgress {word word' : String} :
    parse word = inProgress word' ↔ word = word' ∧ Text.lowerAscii word ∉ terminalWords := by
  rcases parse_cases word with ⟨h, hp⟩ | ⟨h, hp⟩ | ⟨h | h, hp⟩ | ⟨h, hp⟩
  · rw [h, hp]
    exact iff_of_false nofun fun hs ↦ hs.2 (by decide)
  · rw [h, hp]
    exact iff_of_false nofun fun hs ↦ hs.2 (by decide)
  · rw [h, hp]
    exact iff_of_false nofun fun hs ↦ hs.2 (by decide)
  · rw [h, hp]
    exact iff_of_false nofun fun hs ↦ hs.2 (by decide)
  · rw [hp, inProgress.injEq]
    exact ⟨fun hs ↦ ⟨hs, h⟩, fun hs ↦ hs.1⟩

example : parse "SUCCEEDED" = succeeded := by decide
example : parse "Creating" = inProgress "Creating" := by decide

/-- A missing word is no word for a running operation; these forms are for the places where a body
may have none. -/
theorem map_parse_eq_inProgress {word? : Option String} {word : String} :
    word?.map parse = some (inProgress word) ↔
      word? = some word ∧ Text.lowerAscii word ∉ terminalWords := by
  rw [Option.map_eq_some_iff]
  constructor
  · rintro ⟨word', hword, hparse⟩
    obtain ⟨rfl, hrunning⟩ := parse_eq_inProgress.mp hparse
    exact ⟨hword, hrunning⟩
  · rintro ⟨hword, hrunning⟩
    exact ⟨word, hword, parse_eq_inProgress.mpr ⟨rfl, hrunning⟩⟩

theorem map_parse_eq_succeeded {word? : Option String} :
    word?.map parse = some succeeded ↔
      ∃ word, word? = some word ∧ Text.lowerAscii word = "succeeded" := by
  rw [Option.map_eq_some_iff]
  constructor
  · rintro ⟨word, hword, hparse⟩
    exact ⟨word, hword, parse_eq_succeeded.mp hparse⟩
  · rintro ⟨word, hword, hlower⟩
    exact ⟨word, hword, parse_eq_succeeded.mpr hlower⟩

end OperationStatus

/-! ## Reports

Two kinds of bodies carry a report, and they differ in where the word is and in where the error is
looked for: beside the word in either case. -/

/-- The member of a body, if there is one. -/
def Reply.member (reply : Reply) (name : String) : Option Json := reply.body.bind (·.get? name)

/-- What the service says of an operation: the word for its status, and the value around the word,
which has the error. -/
structure Report where
  word : Option String
  around : Option Json

/-- What a report comes to.  A report without a word is unclear, and what follows from that is not
the same everywhere: at an address of the status it is an error, and a resource is done. -/
inductive Finding where
  | running (word : String)
  | ended
  | failed (failure : OperationFailure)
  | unclear

namespace Report

/-- The report at an address of the status. -/
def ofStatus (reply : Reply) : Report :=
  ⟨(reply.member "status").bind (·.string?), reply.body⟩

/-- The report of a resource, which is in its properties. -/
def ofState (reply : Reply) : Report :=
  ⟨((reply.member "properties").bind (·.get? "provisioningState")).bind (·.string?),
    reply.member "properties"⟩

/-- The operation is still running, in this word. -/
def Runs (r : Report) (word : String) : Prop :=
  r.word = some word ∧ Text.lowerAscii word ∉ OperationStatus.terminalWords

/-- The operation has succeeded. -/
def Succeeds (r : Report) : Prop :=
  ∃ word, r.word = some word ∧ Text.lowerAscii word = "succeeded"

/-- The operation has failed or was canceled.  The code and the message are those of the error, each
of which has a default of its own. -/
structure Fails (r : Report) (f : OperationFailure) : Prop where
  status : ∃ word, r.word = some word ∧
    (Text.lowerAscii word = "failed" ∧ f.status = "Failed" ∨
      (Text.lowerAscii word = "canceled" ∨ Text.lowerAscii word = "cancelled") ∧
        f.status = "Canceled")
  detail : ∃ d, ErrorDetail.Says (r.around.bind (·.get? "error")) d ∧
    f.code = d.code.getD f.status ∧
    f.message = d.message.getD ("operation finished with status " ++ f.status)

variable {r : Report} {f : OperationFailure}

/-- The failure of a status and the value around it. -/
theorem eq_ofStatus_iff {ending : OperationStatus} {around : Option Json} :
    f = .ofStatus ending around ↔ f.status = OperationFailure.statusWord ending ∧
      ∃ d, ErrorDetail.Says (around.bind (·.get? "error")) d ∧ f.code = d.code.getD f.status ∧
        f.message = d.message.getD ("operation finished with status " ++ f.status) := by
  constructor
  · rintro rfl
    exact ⟨rfl, _, OperationFailure.says_detail around, rfl, rfl⟩
  · rintro ⟨hstatus, d, hsays, hcode, hmessage⟩
    obtain rfl : d = OperationFailure.detail around := ErrorDetail.says_iff.mp hsays
    obtain ⟨status, code, message⟩ := f
    rw [OperationFailure.ofStatus, OperationFailure.mk.injEq]
    simp only at hstatus hcode hmessage
    subst hstatus
    exact ⟨rfl, hcode, hmessage⟩

/-- A word is a failure if it is neither that of a running operation nor that of success. -/
theorem fails_iff : r.Fails f ↔ ∃ ending, r.word.map OperationStatus.parse = some ending ∧
    (∀ word, ending ≠ .inProgress word) ∧ ending ≠ .succeeded ∧
      f = .ofStatus ending r.around := by
  constructor
  · rintro ⟨⟨word, hword, ⟨h, hstatus⟩ | ⟨h, hstatus⟩⟩, hdetail⟩
    · refine ⟨.failed, ?_, nofun, nofun, eq_ofStatus_iff.mpr ⟨hstatus, hdetail⟩⟩
      rw [hword, Option.map_some, OperationStatus.parse_eq_failed.mpr h]
    · refine ⟨.canceled, ?_, nofun, nofun, eq_ofStatus_iff.mpr ⟨hstatus, hdetail⟩⟩
      rw [hword, Option.map_some, OperationStatus.parse_eq_canceled.mpr h]
  · rintro ⟨ending, hparse, hrunning, hsucceeded, hf⟩
    obtain ⟨word, hword, hparse⟩ := Option.map_eq_some_iff.mp hparse
    obtain ⟨hstatus, hdetail⟩ := eq_ofStatus_iff.mp hf
    cases ending with
    | inProgress word => exact absurd rfl (hrunning word)
    | succeeded => exact absurd rfl hsucceeded
    | failed =>
      exact ⟨⟨word, hword, .inl ⟨OperationStatus.parse_eq_failed.mp hparse, hstatus⟩⟩, hdetail⟩
    | canceled =>
      exact ⟨⟨word, hword, .inr ⟨OperationStatus.parse_eq_canceled.mp hparse, hstatus⟩⟩, hdetail⟩

/-! ## Findings

The program's reading of a report, as one function for both kinds, and the four statements that tie
it to the meanings above.  Each is by cases on the match, in its order. -/

/-- What the program makes of a report. -/
def finding (r : Report) : Finding :=
  match r.word.map OperationStatus.parse with
  | none => .unclear
  | some (.inProgress word) => .running word
  | some .succeeded => .ended
  | some status => .failed (.ofStatus status r.around)

theorem finding_eq_running {word : String} : r.finding = .running word ↔ r.Runs word := by
  rw [Runs, ← OperationStatus.map_parse_eq_inProgress, finding]
  split
  · rename_i h
    rw [h]
    exact iff_of_false nofun nofun
  · rename_i h
    rw [h, Finding.running.injEq, Option.some_inj, OperationStatus.inProgress.injEq]
  · rename_i h
    rw [h]
    exact iff_of_false nofun nofun
  · rename_i status hrunning _ h
    rw [h]
    exact iff_of_false nofun fun h ↦ hrunning _ (Option.some_inj.mp h)

theorem finding_eq_ended : r.finding = .ended ↔ r.Succeeds := by
  rw [Succeeds, ← OperationStatus.map_parse_eq_succeeded, finding]
  split
  · rename_i h
    rw [h]
    exact iff_of_false nofun nofun
  · rename_i h
    rw [h]
    exact iff_of_false nofun nofun
  · rename_i h
    rw [h]
    exact iff_of_true rfl rfl
  · rename_i status _ hsucceeded h
    rw [h]
    exact iff_of_false nofun fun h ↦ hsucceeded (Option.some_inj.mp h)

/-- A failure says its status, and beside it the code and the message that the error has, or the
ones that are said by default. -/
theorem finding_eq_failed : r.finding = .failed f ↔ r.Fails f := by
  rw [fails_iff, finding]
  split
  · rename_i h
    rw [h]
    exact iff_of_false nofun (by rintro ⟨_, ⟨⟩, -⟩)
  · rename_i h
    rw [h]
    exact iff_of_false nofun (by rintro ⟨_, ⟨⟩, hrunning, -⟩; exact hrunning _ rfl)
  · rename_i h
    rw [h]
    exact iff_of_false nofun (by rintro ⟨_, ⟨⟩, -, hsucceeded, -⟩; exact hsucceeded rfl)
  · rename_i ending hrunning hsucceeded h
    rw [h, Finding.failed.injEq]
    constructor
    · rintro rfl
      exact ⟨ending, rfl, hrunning, hsucceeded, rfl⟩
    · rintro ⟨_, ⟨⟩, -, -, rfl⟩
      rfl

theorem finding_eq_unclear : r.finding = .unclear ↔ r.word = none := by
  rw [← Option.map_eq_none_iff (f := OperationStatus.parse), finding]
  split
  · rename_i h
    exact iff_of_true rfl h
  · rename_i h
    rw [h]
    exact iff_of_false nofun nofun
  · rename_i h
    rw [h]
    exact iff_of_false nofun nofun
  · rename_i h
    rw [h]
    exact iff_of_false nofun nofun

/-! ## Where the program reads a report

The program has no notion of a report.  It looks for the word of a status in one function and for
the word of a resource in another; here the two are seen to read the same thing. -/

theorem word_ofStatus (reply : Reply) :
    (ofStatus reply).word = Poller.statusWord? reply.body := by
  rw [ofStatus, Reply.member]
  cases reply.body <;> rfl

theorem word_ofState (reply : Reply) :
    (ofState reply).word = OperationStatus.stateWord? reply.body := by
  rw [ofState, Reply.member]
  cases hbody : reply.body with
  | none => rfl
  | some body =>
    cases hproperties : body.get? "properties" with
    | none => simp [OperationStatus.stateWord?, hproperties]
    | some properties => simp [OperationStatus.stateWord?, hproperties]

/-- The progress of a resource is its report; one that says nothing is done. -/
theorem progressOf_eq (reply : Reply) :
    Poller.progressOf reply.body =
      match (ofState reply).finding with
      | .running word => .pending word
      | .failed failure => .failed failure
      | _ => .done reply.body := by
  rw [finding, word_ofState, Poller.progressOf, OperationStatus.ofResource?]
  cases OperationStatus.stateWord? reply.body with
  | none => rfl
  | some word =>
    rw [Option.map_some]
    cases OperationStatus.parse word <;> rfl

end Report
end ResourceManager
