import ResourceManager.Factory
import ResourceManager.Proofs.FailStop

/-!
# Calls of all kinds

Whatever is asked of a client is made of exchanges, of waiting and of reports.  What none of these
disturbs, no call disturbs: `Client.Upholds` says what has to be shown of the parts, and
`Factory.perform_upholds` is the rule for the whole.

There is one induction for each loop, over the rounds of a wait and over the pages of a listing.
The rule does not count rounds; a loop that had too few of them would be stuck, and `stop` allows
for that.

The rule is for what has nothing to do with the meaning of replies, such as which tokens go where
(`ResourceManager.Proofs.Authentication`).  It costs its user one proof about exchanges, and spares
one about each of the ten kinds of calls.  What depends on what a reply says is proved by the rules
of `ResourceManager.Proofs.Reading` instead, which follow a run reply by reply.
-/

set_option autoImplicit false

namespace ResourceManager

variable {c : Client} {I : Session → Prop} {E : Stop → Session → Prop} {o : PollOptions} {w : Watch}
  {p : Poller}

/-- Where `I` holds it goes on to hold, and what stops a run is stopped where `E` holds.  Apart from
the exchanges, nothing that stops a run concerns credentials; so `stop` may be asked for under that
condition, and a property of errors that singles out credentials can still be upheld. -/
structure Client.Upholds (c : Client) (I : Session → Prop) (E : Stop → Session → Prop) : Prop where
  exchange : ∀ w m url body, (c.exchange w m url body).Keeps I E
  passed : ∀ {w : Watch} {s t : Session}, w.Passed s t → I s → I t
  noted : ∀ o e s, I s → I (s.noted o e)
  stop : ∀ stop s, (∀ cause, stop ≠ .error (.credential cause)) → I s → E stop s
  notedStop : ∀ o e stop s, E stop s → E stop (s.noted o e)

/-- What a reply says about following the operation may be wrong only in an address. -/
theorem Poller.ofReply_error {endpoint : Url} {spec : OperationSpec} {reply : Reply} {e : Error}
    (h : Poller.ofReply endpoint spec reply = .error e) : ∃ cause, e = .url cause := by
  obtain ⟨field, -, haddress⟩ := ofReply_eq_error h
  rw [addressIn] at haddress
  split at haddress
  · cases haddress
  · split at haddress
    · cases haddress
    · rename_i cause _
      exact ⟨cause, (Except.error.inj haddress).symm⟩

/-- What is wrong with a page is its form or its link.  Like the error above it is none of the
credentials, which is all the rule wants to know. -/
theorem Cursor.pageOf_error {reply : Reply} {e : Error} (h : pageOf reply = .error e) :
    (∃ defect, e = .invalidResponse defect) ∨ ∃ cause, e = .url cause := by
  rw [pageOf] at h
  split at h
  · rename_i page _
    rw [behind] at h
    cases hlink : page.nextLink with
    | none =>
      rw [hlink] at h
      cases h
    | some link =>
      rw [hlink] at h
      cases hurl : Url.parse link with
      | ok url =>
        simp only [hurl] at h
        cases h
      | error cause =>
        simp only [hurl] at h
        cases h
        exact .inr ⟨cause, rfl⟩
  · rename_i defect _
    exact .inl ⟨defect, (Except.error.inj h).symm⟩

namespace Client.Upholds

/-- Sleeping is passing time.  It may be called off, by an error that has nothing to do with
credentials. -/
theorem sleep (h : c.Upholds I E) (t : Timestamp) : (w.sleep (some t)).Keeps I E where
  ok {s _ _} hs ho := by
    have hsleep := w.sleeping (some t) s
    rw [ho] at hsleep
    cases hsleep with
    | awake _ hpass _ => exact h.passed hpass hs
  error {s _ _} hs ho := by
    have hsleep := w.sleeping (some t) s
    rw [ho] at hsleep
    cases hsleep with
    | calledOff hpass he =>
      refine h.stop _ _ (fun cause hcause ↦ ?_) (h.passed hpass hs)
      rcases Watch.interruption?_cases he with rfl | ⟨limit, rfl⟩
      · cases hcause
      · cases hcause
    | forever hwake => cases hwake

theorem poll (h : c.Upholds I E) : (p.poll c w).Keeps I E :=
  Poller.poll_keeps (fun url _ ↦ h.exchange w .get url none) fun s hs ↦ h.stop _ s nofun hs

theorem look (h : c.Upholds I E) : (p.look c o w).Keeps I E := by
  cases hdone : p.isDone with
  | true =>
    rw [Poller.look, if_pos hdone]
    exact h.poll
  | false => exact Poller.look_meets hdone h.sleep h.poll

/-- The loop of a wait, by induction on its rounds.  A look is followed by an end or by a report. -/
theorem follow (h : c.Upholds I E) (n : Nat) : (p.follow c o w n).Keeps I E := by
  induction n with
  | zero => exact Run.Meets.throw fun s hs ↦ h.stop _ s nofun hs
  | succ n ih =>
    refine h.look.bind fun progress ↦ ?_
    cases progress with
    | done body => exact Run.Meets.pure fun _ hs ↦ hs
    | failed failure => exact Run.Meets.throw fun s hs ↦ h.stop _ s nofun hs
    | pending word =>
      exact (Run.Meets.of_outcome (Poller.outcome_report _) fun s hs ↦ h.noted o _ s hs).bind
        fun _ ↦ ih

theorem wait (h : c.Upholds I E) : (p.wait c o).Keeps I E :=
  Poller.wait_meets (fun _ n _ ↦ (h.follow n).mono (fun _ hs ↦ hs.1) (fun _ _ hs ↦ hs)
    fun _ _ hs ↦ hs) (fun s e hs ↦ h.noted o e s hs) (fun _ s e hs ↦ h.noted o e s hs)
    (fun stop s e hs ↦ h.notedStop o e stop s hs) fun s hs _ ↦ h.stop .crashed s nofun hs

theorem submit (h : c.Upholds I E) (spec : OperationSpec) : (c.submit spec).Keeps I E :=
  h.exchange .none spec.method (spec.url c.endpoint) spec.body

/-- Beginning is submitting; then the addresses in the reply are read, which asks for nothing. -/
theorem begin (h : c.Upholds I E) (spec : OperationSpec) : (c.begin spec).Keeps I E := by
  refine (h.submit spec).bind fun reply ↦ Run.Meets.ofExcept (fun _ _ _ hs ↦ hs) fun e s he hs ↦ ?_
  obtain ⟨cause, rfl⟩ := Poller.ofReply_error he
  exact h.stop _ s nofun hs

theorem invoke (h : c.Upholds I E) (spec : OperationSpec) : (c.invoke o spec).Keeps I E := by
  by_cases hspec : spec.longRunning = true
  · rw [Client.invoke, if_pos hspec]
    exact (h.begin spec).bind fun _ ↦ h.wait.bind fun _ ↦ Run.Meets.pure fun _ hs ↦ hs
  · rw [Client.invoke, if_neg hspec]
    exact (h.submit spec).bind fun _ ↦ Run.Meets.pure fun _ hs ↦ hs

theorem fetch (h : c.Upholds I E) (spec : OperationSpec) : (c.fetch spec).Keeps I E :=
  (h.submit spec).bind fun _ ↦ Run.Meets.pure fun _ hs ↦ hs

theorem page (h : c.Upholds I E) (cursor : Cursor) : (cursor.fetch c).Keeps I E := by
  have hfound : ∀ reply, (Cursor.found reply).Keeps I E := by
    refine fun reply ↦ Run.Meets.bind (Q := fun _ ↦ I) (Run.Meets.ofExcept (fun _ _ _ hs ↦ hs)
      fun e s he hs ↦ ?_) fun _ ↦ Run.Meets.pure fun _ hs ↦ hs
    rcases Cursor.pageOf_error he with ⟨defect, rfl⟩ | ⟨cause, rfl⟩
    · exact h.stop _ s nofun hs
    · exact h.stop _ s nofun hs
  cases cursor with
  | first spec =>
    rw [Cursor.fetch_first]
    exact (h.submit spec).bind hfound
  | next url =>
    rw [Cursor.fetch_next]
    exact (h.exchange .none .get url none).bind hfound
  | exhausted => exact Run.Meets.pure fun _ hs ↦ hs

/-- The loop of a listing, by induction on its pages. -/
theorem items (h : c.Upholds I E) (n : Nat) :
    ∀ cursor : Cursor, (Cursor.itemsFrom c n cursor).Keeps I E := by
  induction n with
  | zero => exact fun _ ↦ Run.Meets.throw fun s hs ↦ h.stop _ s nofun hs
  | succ n ih =>
    refine fun cursor ↦ (h.page cursor).bind fun found ↦ ?_
    cases found with
    | none => exact Run.Meets.pure fun _ hs ↦ hs
    | some found => exact (ih found.2).bind fun _ ↦ Run.Meets.pure fun _ hs ↦ hs

theorem collect (h : c.Upholds I E) (spec : OperationSpec) : (c.collect spec).Keeps I E :=
  Run.Meets.get_bind fun _ ht ↦ (h.items _ _).at_session ht

/-- The calls of the catalogue are listings and invocations. -/
theorem operation (h : c.Upholds I E) (op : Operation) (subscription : String)
    (names : List String) (value : op.extra.Value) :
    (op.call c o subscription names value).Keeps I E := by
  by_cases hitems : op.result = .items
  · rw [Operation.call, if_pos hitems]
    exact (h.collect _).bind fun _ ↦ Run.Meets.pure fun _ hs ↦ hs
  · rw [Operation.call, if_neg hitems]
    exact (h.invoke _).bind fun _ ↦ Run.Meets.pure fun _ hs ↦ hs

end Client.Upholds

/-- **The rule for calls.**  What a client upholds, every call upholds. -/
theorem Factory.perform_upholds {f : Factory} (h : f.client.Upholds I E) (call : Call) :
    (f.perform call).Keeps I E := by
  cases call with
  | operation op names value o => exact h.operation op _ names value
  | submit spec => exact h.submit spec
  | get url => exact h.exchange .none .get url none
  | begin spec => exact h.begin spec
  | invoke spec o => exact h.invoke spec
  | fetch spec => exact h.fetch spec
  | poll p w => exact h.poll
  | wait p o => exact h.wait
  | page cursor => exact h.page cursor
  | collect spec => exact h.collect spec

end ResourceManager
