import ResourceManager.Proofs.FailStop
import ResourceManager.Proofs.TerminalFailure

/-!
# What a long-running call comes to

The service says in its reply to a submission how the operation is to be followed, and the method
says where the result is.  The rules for this are stated here of the log, in three parts that can be
read on their own.

* `Client.Follows` is the channel at which an operation is followed: the address of its status, the
  location, or the resource itself.
* `Channel.Finished` are the exchanges there, any number of which say that the operation is still
  running and the last one that it has succeeded.
* `Client.Yields` is the payload behind these, and where it comes from, for each kind of method.

`Client.Concludes` puts them together, and has two rules of its own for an operation that has ended
with the reply to its submission.  `Client.long_running_rules` says that the rules are those of the
program: a patient call has a result if and only if its log goes by a rule, and the result is that
of the rule.  The second half of it is about calls without a result.  It keeps the first from being
true of a program that never gets to the end of a rule: such a call was obstructed by an exchange
that has failed or by silence (`Obstructs`), or its operation has failed.  None of this is left when
all exchanges succeed and the operation does so too.
-/

set_option autoImplicit false

namespace ResourceManager

/-! ## The rules -/

/-- These exchanges have followed an operation to its end: some have found it running, and the last
one has brought a reply that says that it has succeeded. -/
inductive Channel.Finished (ch : Channel) : List Exchange → Reply → Prop
  | intro {xs : List Exchange} {x : Exchange} {words : List String} {last : Reply}
      (hran : ch.Ran xs words) (hx : x.Replies (Client.read ch.url) last) (h : ch.ended last) :
      Finished ch (xs ++ [x]) last

namespace Client

/-- The payload of an operation that `reply` has accepted, and of which `last` has said that it has
succeeded.  The exchanges are those that are still needed for it: one, or none. -/
inductive Yields (c : Client) (spec : OperationSpec) (reply last : Reply) :
    List Exchange → Option Json → Prop
  /-- A deleted resource has none. -/
  | deleted (hmethod : spec.method = .delete) : Yields c spec reply last [] none
  /-- A resource that has been written is read, unless it was the resource that was followed. -/
  | written {status location : Option Url} {y : Exchange} {final : Reply}
      (hmethod : spec.method.Writes) (hnames : reply.Names status location)
      (haddress : status ≠ none ∨ location ≠ none)
      (hy : y.Replies (read (c.resourceAt spec)) final) : Yields c spec reply last [y] final.body
  /-- The result of an action is at the location, when there is an address of the status besides. -/
  | located {statusUrl locationUrl : Url} {y : Exchange} {final : Reply}
      (hmethod : spec.method.Acts) (hnames : reply.Names (some statusUrl) (some locationUrl))
      (hy : y.Replies (read locationUrl) final) : Yields c spec reply last [y] final.body
  /-- It is in the properties of the status, if anywhere, when there is no location. -/
  | output {statusUrl : Url} (hmethod : spec.method.Acts)
      (hnames : reply.Names (some statusUrl) none) :
      Yields c spec reply last [] ((last.member "properties").bind (·.get? "output"))
  /-- It is what the location has, when that was followed. -/
  | body {locationUrl : Url} (hmethod : spec.method.Acts)
      (hnames : reply.Names none (some locationUrl)) : Yields c spec reply last [] last.body
  /-- The resource that was followed is the result. -/
  | resource (hmethod : spec.method ≠ .delete) (hnames : reply.Names none none) :
      Yields c spec reply last [] last.body

/-- A log goes by the rules to a payload. -/
inductive Concludes (c : Client) (spec : OperationSpec) : List Exchange → Option Json → Prop
  | followed {x : Exchange} {xs ys : List Exchange} {reply last : Reply} {ch : Channel}
      {body : Option Json} (hx : x.Replies (c.submits spec) reply)
      (hfollows : c.Follows spec reply (some ch)) (hfinished : ch.Finished xs last)
      (hyields : c.Yields spec reply last ys body) : Concludes c spec (x :: (xs ++ ys)) body
  /-- A resource is gone at once. -/
  | gone {x : Exchange} {reply : Reply} (hx : x.Replies (c.submits spec) reply)
      (hnames : reply.Names none none) (hmethod : spec.method = .delete) : Concludes c spec [x] none
  /-- The reply is the result: it is a resource that is ready, or says nothing about that. -/
  | answered {x : Exchange} {reply : Reply} (hx : x.Replies (c.submits spec) reply)
      (hnames : reply.Names none none) (hmethod : spec.method ≠ .delete)
      (hended : (Report.ofState reply).word = none ∨ (Report.ofState reply).Succeeds) :
      Concludes c spec [x] reply.body

end Client

variable {c : Client} {o : PollOptions} {spec : OperationSpec} {reply last : Reply} {s : Session}
  {status location : Option Url} {ch : Channel} {xs ys : List Exchange} {body : Option Json}
  {result : Except Stop (Option Json)} {reports : List ProgressEvent} {interval : Duration}
  {heard : Bool}

/-! ## Payloads -/

namespace Poller

theorem outputOf_eq (reply : Reply) :
    outputOf reply.body = (reply.member "properties").bind (·.get? "output") := by
  rw [outputOf, Reply.member]
  cases reply.body <;> rfl

theorem whereabouts_of_delete (hmethod : spec.method = .delete) :
    (following c spec reply status location).whereabouts last = .here none := if_pos hmethod

/-- Where the program looks for a resource that was written and has not been followed itself. -/
theorem whereabouts_of_writes (hmethod : spec.method.Writes)
    (haddress : status ≠ none ∨ location ≠ none) :
    (following c spec reply status location).whereabouts last = .at (c.resourceAt spec) := by
  have hdelete : ¬ (following c spec reply status location).method = .delete := hmethod.ne_delete
  have hyields : (following c spec reply status location).method.yieldsResource = true :=
    Method.yieldsResource_iff.mpr hmethod
  rw [whereabouts, if_neg hdelete]
  cases status with
  | some url => exact if_pos hyields
  | none =>
    cases location with
    | some url => exact if_pos hyields
    | none => rcases haddress with h | h <;> exact absurd rfl h

/-- A resource that was followed itself has the payload in the last reply. -/
theorem whereabouts_of_untracked (hmethod : spec.method ≠ .delete) :
    (following c spec reply none none).whereabouts last = .here last.body := by
  have hdelete : ¬ (following c spec reply none none).method = .delete := hmethod
  rw [whereabouts, if_neg hdelete, tracking_of_ne_delete c _ hmethod]
  cases (Report.ofState reply).finding <;> rfl

/-! Where it looks for the result of an action depends on both addresses. -/

theorem whereabouts_of_located {statusUrl url : Url} (hmethod : spec.method.Acts) :
    (following c spec reply (some statusUrl) (some url)).whereabouts last = .at url :=
  (if_neg hmethod.2).trans (if_neg hmethod.not_yieldsResource)

theorem whereabouts_of_output {statusUrl : Url} (hmethod : spec.method.Acts) :
    (following c spec reply (some statusUrl) none).whereabouts last =
      .here ((last.member "properties").bind (·.get? "output")) := by
  rw [← outputOf_eq]
  exact (if_neg hmethod.2).trans (if_neg hmethod.not_yieldsResource)

theorem whereabouts_of_body {url : Url} (hmethod : spec.method.Acts) :
    (following c spec reply none (some url)).whereabouts last = .here last.body :=
  (if_neg hmethod.2).trans (if_neg hmethod.not_yieldsResource)

/-- What is here is retrieved without a request. -/
theorem retrieved_of_here {p : Poller} {found : Option Json}
    (h : p.whereabouts last = .here found) :
    p.Retrieved last ys body ↔ ys = [] ∧ body = found := by
  constructor
  · intro hretrieved
    cases hretrieved with
    | here hhere =>
      cases hhere.symm.trans h
      exact ⟨rfl, rfl⟩
    | read hat => cases hat.symm.trans h
  · rintro ⟨rfl, rfl⟩
    exact .here h

theorem retrieved_of_at {p : Poller} {url : Url} (h : p.whereabouts last = .at url) :
    p.Retrieved last ys body ↔
      ∃ y final, ys = [y] ∧ y.Replies (Client.read url) final ∧ body = final.body := by
  constructor
  · intro hretrieved
    cases hretrieved with
    | here hhere => cases hhere.symm.trans h
    | read hat hy =>
      cases hat.symm.trans h
      exact ⟨_, _, rfl, hy, rfl⟩
  · rintro ⟨y, final, rfl, hy, rfl⟩
    exact .read h hy

/-- What the program retrieves is the payload that the rules give, by the kind of the method and by
what the reply to the submission names. -/
theorem yields_of_retrieved (hnames : reply.Names status location)
    (h : (following c spec reply status location).Retrieved last ys body) :
    c.Yields spec reply last ys body := by
  rcases spec.method.cases_kind with hwrites | hdelete | hacts
  · by_cases haddress : status ≠ none ∨ location ≠ none
    · obtain ⟨y, final, rfl, hy, rfl⟩ :=
        (retrieved_of_at (whereabouts_of_writes hwrites haddress)).mp h
      exact .written hwrites hnames haddress hy
    · obtain ⟨rfl, rfl⟩ : status = none ∧ location = none := by simpa using haddress
      obtain ⟨rfl, rfl⟩ := (retrieved_of_here (whereabouts_of_untracked hwrites.ne_delete)).mp h
      exact .resource hwrites.ne_delete hnames
  · obtain ⟨rfl, rfl⟩ := (retrieved_of_here (whereabouts_of_delete hdelete)).mp h
    exact .deleted hdelete
  · cases status with
    | some statusUrl =>
      cases location with
      | some url =>
        obtain ⟨y, final, rfl, hy, rfl⟩ := (retrieved_of_at (whereabouts_of_located hacts)).mp h
        exact .located hacts hnames hy
      | none =>
        obtain ⟨rfl, rfl⟩ := (retrieved_of_here (whereabouts_of_output hacts)).mp h
        exact .output hacts hnames
    | none =>
      cases location with
      | some url =>
        obtain ⟨rfl, rfl⟩ := (retrieved_of_here (whereabouts_of_body hacts)).mp h
        exact .body hacts hnames
      | none =>
        obtain ⟨rfl, rfl⟩ := (retrieved_of_here (whereabouts_of_untracked hacts.2)).mp h
        exact .resource hacts.2 hnames

theorem retrieved_of_yields (hnames : reply.Names status location)
    (h : c.Yields spec reply last ys body) :
    (following c spec reply status location).Retrieved last ys body := by
  cases h with
  | deleted hmethod => exact (retrieved_of_here (whereabouts_of_delete hmethod)).mpr ⟨rfl, rfl⟩
  | written hmethod hnames' haddress hy =>
    obtain ⟨rfl, rfl⟩ := Client.names_eq hnames hnames'
    exact (retrieved_of_at (whereabouts_of_writes hmethod haddress)).mpr ⟨_, _, rfl, hy, rfl⟩
  | located hmethod hnames' hy =>
    obtain ⟨rfl, rfl⟩ := Client.names_eq hnames hnames'
    exact (retrieved_of_at (whereabouts_of_located hmethod)).mpr ⟨_, _, rfl, hy, rfl⟩
  | output hmethod hnames' =>
    obtain ⟨rfl, rfl⟩ := Client.names_eq hnames hnames'
    exact (retrieved_of_here (whereabouts_of_output hmethod)).mpr ⟨rfl, rfl⟩
  | body hmethod hnames' =>
    obtain ⟨rfl, rfl⟩ := Client.names_eq hnames hnames'
    exact (retrieved_of_here (whereabouts_of_body hmethod)).mpr ⟨rfl, rfl⟩
  | resource hmethod hnames' =>
    obtain ⟨rfl, rfl⟩ := Client.names_eq hnames hnames'
    exact (retrieved_of_here (whereabouts_of_untracked hmethod)).mpr ⟨rfl, rfl⟩

/-- What is done at once has no address and is gone, or says that it is ready. -/
theorem tracking_eq_done (hnames : reply.Names status location)
    (h : (following c spec reply status location).tracking = .done body) :
    status = none ∧ location = none ∧ (spec.method = .delete ∧ body = none ∨
      spec.method ≠ .delete ∧ body = reply.body ∧
        ((Report.ofState reply).word = none ∨ (Report.ofState reply).Succeeds)) := by
  cases status with
  | some url => cases h
  | none =>
    cases location with
    | some url => cases h
    | none =>
      -- without an address, what the resource says of itself is what counts
      refine ⟨rfl, rfl, ?_⟩
      by_cases hmethod : spec.method = .delete
      · rw [tracking_of_delete hmethod] at h
        cases h
        exact .inl ⟨hmethod, rfl⟩
      · rw [tracking_of_ne_delete c _ hmethod] at h
        cases hfinding : (Report.ofState reply).finding with
        | running word =>
          rw [hfinding] at h
          cases h
        | failed failure =>
          rw [hfinding] at h
          cases h
        | ended =>
          rw [hfinding] at h
          cases h
          exact .inr ⟨hmethod, rfl, .inr (Report.finding_eq_ended.mp hfinding)⟩
        | unclear =>
          rw [hfinding] at h
          cases h
          exact .inr ⟨hmethod, rfl, .inl (Report.finding_eq_unclear.mp hfinding)⟩

/-- The other way round, a resource that says that it is ready is the result at once. -/
theorem tracking_of_ended (hmethod : spec.method ≠ .delete)
    (hended : (Report.ofState reply).word = none ∨ (Report.ofState reply).Succeeds) :
    (following c spec reply none none).tracking = .done reply.body := by
  rw [tracking_of_ne_delete c _ hmethod]
  rcases hended with hnone | hsucceeds
  · rw [Report.finding_eq_unclear.mpr hnone]
  · rw [Report.finding_eq_ended.mpr hsucceeds]

end Poller

/-! ## Calls -/

namespace Client

/-- A course with a result has gone by a rule. -/
theorem Course.concludes (h : c.Course o spec s xs (.ok body) reports) :
    c.Concludes spec xs body := by
  cases h with
  | done hx hnames _ htracking =>
    obtain ⟨rfl, rfl, ⟨hmethod, rfl⟩ | ⟨hmethod, rfl, hended⟩⟩ :=
      Poller.tracking_eq_done hnames htracking
    · exact .gone hx hnames hmethod
    · exact .answered hx hnames hmethod hended
  | waited hx hnames _ hch hwaited =>
    have hfollows := Poller.follows_of_names c spec hnames
    rw [hch] at hfollows
    obtain ⟨ys, y, zs, last, rfl, hran, hy, hended, hbody⟩ := hwaited.of_ok
    rw [List.append_cons]
    exact .followed hx hfollows (.intro hran hy hended) (Poller.yields_of_retrieved hnames hbody)

/-- The channel that the reply says is the one of the program. -/
theorem Follows.channel_eq (h : c.Follows spec reply (some ch))
    (hnames : reply.Names status location) :
    (Poller.following c spec reply status location).channel? = some ch := by
  cases h with
  | status hnames' =>
    obtain ⟨rfl, rfl⟩ := names_eq hnames hnames'
    rfl
  | location hnames' =>
    obtain ⟨rfl, rfl⟩ := names_eq hnames hnames'
    rfl
  | resource hnames' hmethod hruns =>
    obtain ⟨rfl, rfl⟩ := names_eq hnames hnames'
    exact Poller.channel_of_runs hmethod hruns

theorem Follows.names {ch? : Option Channel} (h : c.Follows spec reply ch?) :
    ∃ status location, reply.Names status location := by
  cases h with
  | status hnames => exact ⟨_, _, hnames⟩
  | location hnames => exact ⟨_, _, hnames⟩
  | resource hnames => exact ⟨_, _, hnames⟩
  | nothing hnames => exact ⟨_, _, hnames⟩

/-- A course whose submission has a reply that ends the operation has the result in it. -/
theorem Course.eq_ok_of_done {x : Exchange} (h : c.Course o spec s [x] result reports)
    (hx : x.Replies (c.submits spec) reply) (hnames : reply.Names status location)
    (htimes : s.Times o.policy.timeout x)
    (hdone : (Poller.following c spec reply status location).tracking = .done body) :
    result = .ok body := by
  rcases h.of_names hx hnames htimes with
    ⟨-, _, htracking, rfl⟩ | ⟨-, _, htracking, -⟩ | ⟨_, _, _, hch, -⟩
  · cases hdone.symm.trans htracking
    rfl
  · cases hdone.symm.trans htracking
  · rw [Poller.channel?, hdone] at hch
    cases hch

/-- The other way round, a course that goes by a rule has the result of the rule. -/
theorem Course.eq_ok (h : c.Course o spec s xs result reports) (hrule : c.Concludes spec xs body)
    (htimes : ∀ x ∈ xs.head?, s.Times o.policy.timeout x) : result = .ok body := by
  cases hrule with
  | @followed x polls ys reply last ch _ hx hfollows hfinished hyields =>
    obtain ⟨status, location, hnames⟩ := hfollows.names
    have hch := hfollows.channel_eq hnames
    rcases h.of_names hx hnames (htimes x rfl) with
      ⟨-, _, htracking, -⟩ | ⟨-, _, htracking, -⟩ | ⟨_, _, _, hch', hwaited⟩
    · rw [Poller.channel?, htracking] at hch
      cases hch
    · rw [Poller.channel?, htracking] at hch
      cases hch
    · cases hch.symm.trans hch'
      cases hfinished with
      | intro hran hy hended =>
        exact hwaited.eq_ok (Poller.finds_of_channel hch) (List.append_cons _ _ _).symm hran
          hy.brings hended (Poller.retrieved_of_yields hnames hyields)
  | gone hx hnames hmethod =>
    exact h.eq_ok_of_done hx hnames (htimes _ rfl) (Poller.tracking_of_delete hmethod)
  | answered hx hnames hmethod hended =>
    exact h.eq_ok_of_done hx hnames (htimes _ rfl) (Poller.tracking_of_ended hmethod hended)

/-- Nothing calls a patient call off. -/
theorem not_interrupts_patient {m : Moment} {stop : Stop} :
    ¬ (PollOptions.patient interval heard).Interrupts s m stop := by
  intro h
  cases stop with
  | error e =>
    cases e with
    | canceled => cases h
    | pollTimeout limit => cases h.1
    | _ => exact h
  | stuck => exact h
  | crashed =>
    obtain ⟨limit, hlimit, -⟩ := h
    cases hlimit

/-- **A patient long-running call goes by the rules.**  It has a result if and only if its log goes
by a rule, and the result is the payload that the rule gives, however many replies say that the
operation is still running.  What the log asks of the service is then the submission and the reads
of the rule, in this order, each of them once: one exchange for each, wherever its request may be
sent on.  A call without a result has been obstructed, or its operation has failed. -/
theorem long_running_rules (c : Client) (interval : Duration) (reports : Bool)
    (spec : OperationSpec) (s : Session) :
    (∀ completion,
      ((c.invoke (.patient interval reports) spec.asLongRunning).outcome s).1 = .ok completion ↔
        completion.path = spec.path ∧
          c.Concludes spec
            (s.callsSince ((c.invoke (.patient interval reports) spec.asLongRunning).outcome s).2)
            completion.body) ∧
    ∀ stop,
      ((c.invoke (.patient interval reports) spec.asLongRunning).outcome s).1 = .error stop →
        Obstructs c.tokens .submission s
            ((c.invoke (.patient interval reports) spec.asLongRunning).outcome s).2 stop ∨
          ∃ f, stop = .error (.operationFailed f) ∧
            c.Fails spec
              (s.callsSince
                ((c.invoke (.patient interval reports) spec.asLongRunning).outcome s).2) f := by
  obtain ⟨xs, result, events, hcalled, hcourse, hresult, -⟩ :=
    c.invoke_course (.patient interval reports) spec s
  refine ⟨fun completion ↦ ?_, fun stop hstop ↦ ?_⟩
  · rw [hresult, hcalled.eq]
    constructor
    · intro h
      cases result with
      | error stop => cases h
      | ok body =>
        cases h
        exact ⟨rfl, hcourse.concludes⟩
    · rintro ⟨hpath, hrule⟩
      -- without a limit there is nothing for the clock to tell
      rw [hcourse.eq_ok hrule fun _ _ _ _ _ _ ↦ nofun]
      show Except.ok (⟨spec.path, completion.body⟩ : Completion) = .ok completion
      rw [← hpath]
  · have hstops : FailStop c.tokens (.ofSpec spec.asLongRunning) _ s _ _ :=
      .of_meets (fun _ h ↦ not_interrupts_patient h.2)
        (reads_invoke (o := .patient interval reports) spec.asLongRunning)
    rw [hstop] at hstops
    rcases hstops.obstructs fun _ _ h ↦ not_interrupts_patient h.2 with hobstructs | ⟨f, rfl⟩
    · exact .inl hobstructs
    · refine .inr ⟨f, rfl, ?_⟩
      rw [hresult] at hstop
      rw [hcalled.eq]
      cases result with
      | ok body => cases hstop
      | error stop =>
        cases hstop
        exact hcourse.fails.1

end Client

end ResourceManager
