import ResourceManager.Proofs.FailStop

/-!
# What a listing comes to

The pages of a listing form a chain: the first one is in the reply to a call, and every other one is
at the link of the page before.  The chain is read off the log.  `PageSource.Yields` says what the
exchange with the service for one page has yielded, in terms of the members of the body that came
over the network (`Page.Describes`), and `Client.Chain` puts these together to a chain that ends
with a page without a link, or breaks at a page that fails.  None of this mentions a cursor, nor how
a page is read.

There are three ways to consume a listing: all items at once, the pages in a row, and page by page
by hand.  `Client.listing_follows_chain` says that the log of every listing is a chain, and that all
three give what the chain gives.  A log is the chain of one list of pages only (`Client.Chain.eq`),
so no item can get lost on the way from the log to the result.

* `PageSource.Steps` is one step of the walk together with its log; every source has one.
* `Client.Walk` is a whole walk.  Each of the three ways is an induction on it, and so is what the
  log tells of it (`Client.Walk.chain`).

Each page takes one exchange.  An exchange may take more than one request, as a response may send a
request on to another address: `Client.page_led_on`.

The three ways are three loops in the program, one of which collects items and two of which hand out
pages with the cursor kept by someone else.  A walk is none of them.  It is what they have in
common, so a change to one loop leaves the other two and the chain alone.
-/

set_option autoImplicit false

namespace ResourceManager

/-! ## Chains of pages -/

/-- How a page is asked for. -/
inductive PageSource where
  | call (spec : OperationSpec)
  | link (url : Url)

namespace PageSource

/-- What the service is asked. -/
def asks (c : Client) : PageSource → Method × Url × Option Payload
  | call spec => c.submits spec
  | link url => Client.read url

/-- All that the log can tell of asking for a page, together with what has come of it: the page and
where the next one is, if there is a link to one, or what stops the listing. -/
inductive Yields (c : Client) (source : PageSource) :
    List Exchange → Except Stop (Page × Option PageSource) → Prop
  | last {x : Exchange} {reply : Reply} {items : List Json}
      (hx : x.Replies (source.asks c) reply) (hpage : Page.Describes reply.body ⟨items, none⟩) :
      Yields c source [x] (.ok (⟨items, none⟩, none))
  | linked {x : Exchange} {reply : Reply} {items : List Json} {link : String} {url : Url}
      (hx : x.Replies (source.asks c) reply)
      (hpage : Page.Describes reply.body ⟨items, some link⟩) (hurl : Url.parse link = .ok url) :
      Yields c source [x] (.ok (⟨items, some link⟩, some (.link url)))
  /-- There is no reply. -/
  | unanswered {xs : List Exchange} {stop : Stop}
      (htold : Told .none (source.asks c) xs (.error stop)) : Yields c source xs (.error stop)
  | malformed {x : Exchange} {reply : Reply} {defect : ResponseDefect}
      (hx : x.Replies (source.asks c) reply) (hpage : Page.Malformed reply.body defect) :
      Yields c source [x] (.error (.error (.invalidResponse defect)))
  /-- The items have arrived, but the link is no URL. -/
  | misled {x : Exchange} {reply : Reply} {items : List Json} {link : String} {cause : UrlError}
      (hx : x.Replies (source.asks c) reply)
      (hpage : Page.Describes reply.body ⟨items, some link⟩)
      (hurl : Url.parse link = .error cause) :
      Yields c source [x] (.error (.error (.url cause)))

end PageSource

/-- How a chain of pages ends. -/
inductive ChainEnd where
  | complete
  /-- The page that is asked for next fails. -/
  | broken (stop : Stop)

namespace ChainEnd

/-- What stops the listing, if anything does. -/
def stops : ChainEnd → List Stop
  | complete => []
  | broken stop => [stop]

/-- The result of a listing that has found so much when it ends. -/
def result {α : Type} : ChainEnd → α → Except Stop α
  | complete, found => .ok found
  | broken stop, _ => .error stop

end ChainEnd

namespace Client

/-- The log is the chain of these pages from a source on: one exchange for each of them, in their
order, and then perhaps one for a page that fails. -/
inductive Chain (c : Client) : PageSource → List Exchange → List Page → ChainEnd → Prop
  | last {source : PageSource} {xs : List Exchange} {page : Page}
      (h : source.Yields c xs (.ok (page, none))) : Chain c source xs [page] .complete
  | more {source next : PageSource} {xs ys : List Exchange} {page : Page} {rest : List Page}
      {ending : ChainEnd} (h : source.Yields c xs (.ok (page, some next)))
      (hrest : Chain c next ys rest ending) : Chain c source (xs ++ ys) (page :: rest) ending
  | broken {source : PageSource} {xs : List Exchange} {stop : Stop}
      (h : source.Yields c xs (.error stop)) : Chain c source xs [] (.broken stop)

end Client

variable {c : Client} {source : PageSource} {s s₁ s' : Session} {page page' : Page}
  {pages pages' : List Page} {ending ending' : ChainEnd} {x : Exchange} {xs ys log : List Exchange}

/-! ## A log has one chain -/

/-- A body is one page at most. -/
theorem Page.Describes.eq {body : Option Json} (h : Page.Describes body page)
    (h' : Page.Describes body page') : page = page' :=
  Except.ok.inj ((Page.ofBody_eq_ok_iff.mpr h).symm.trans (Page.ofBody_eq_ok_iff.mpr h'))

namespace PageSource

/-- A page takes one exchange, whose reply has it. -/
theorem Yields.of_ok {next : Option PageSource} (h : source.Yields c xs (.ok (page, next))) :
    ∃ x reply, xs = [x] ∧ x.Brings reply ∧ Page.Describes reply.body page ∧
      (page.nextLink = none ∧ next = none ∨ ∃ link url, page.nextLink = some link ∧
        Url.parse link = .ok url ∧ next = some (.link url)) := by
  cases h with
  | last hx hpage => exact ⟨_, _, rfl, hx.brings, hpage, .inl ⟨rfl, rfl⟩⟩
  | linked hx hpage hurl => exact ⟨_, _, rfl, hx.brings, hpage, .inr ⟨_, _, rfl, hurl, rfl⟩⟩

/-- What has yielded a page has not failed. -/
theorem Yields.not_error {next : Option PageSource} {stop : Stop}
    (h : source.Yields c xs (.ok (page, next))) : ¬ source.Yields c (xs ++ ys) (.error stop) := by
  obtain ⟨x, reply, rfl, hx, hpage, hnext⟩ := h.of_ok
  intro h'
  cases h' with
  | unanswered htold => exact htold.not_brings hx
  | malformed hx' hmalformed =>
    obtain rfl := hx.eq hx'.brings
    cases (Page.ofBody_eq_ok_iff.mpr hpage).symm.trans (Page.ofBody_eq_error_iff.mpr hmalformed)
  | misled hx' hpage' hurl' =>
    obtain rfl := hx.eq hx'.brings
    obtain rfl := hpage.eq hpage'
    rcases hnext with ⟨hlink, -⟩ | ⟨link, url, hlink, hurl, -⟩
    · cases hlink
    · cases hlink
      cases hurl.symm.trans hurl'

/-- The exchange for a page determines the page and where the next one is. -/
theorem Yields.eq {next next' : Option PageSource}
    (h : source.Yields c (x :: xs) (.ok (page, next)))
    (h' : source.Yields c (x :: ys) (.ok (page', next'))) : page = page' ∧ next = next' := by
  obtain ⟨_, reply, hxs, hx, hpage, hnext⟩ := h.of_ok
  obtain ⟨_, reply', hys, hx', hpage', hnext'⟩ := h'.of_ok
  cases hxs
  cases hys
  obtain rfl := hx.eq hx'
  obtain rfl := hpage.eq hpage'
  refine ⟨rfl, ?_⟩
  rcases hnext with ⟨hlink, rfl⟩ | ⟨link, url, hlink, hurl, rfl⟩
  · rcases hnext' with ⟨-, rfl⟩ | ⟨link, url, hlink', -, -⟩
    · rfl
    · cases hlink.symm.trans hlink'
  · rcases hnext' with ⟨hlink', -⟩ | ⟨link', url', hlink', hurl', rfl⟩
    · cases hlink.symm.trans hlink'
    · cases hlink.symm.trans hlink'
      cases hurl.symm.trans hurl'
      rfl

end PageSource

namespace Client

/-- A chain begins with a page, or breaks at once. -/
theorem Chain.head (h : c.Chain source log pages ending) :
    (∃ stop, source.Yields c log (.error stop) ∧ pages = [] ∧ ending = .broken stop) ∨
      ∃ x ys page next rest, log = x :: ys ∧ source.Yields c [x] (.ok (page, next)) ∧
        pages = page :: rest ∧
        (next = none ∧ ys = [] ∧ rest = [] ∧ ending = .complete ∨
          ∃ source', next = some source' ∧ c.Chain source' ys rest ending) := by
  cases h with
  | last h =>
    obtain ⟨x, -, rfl, -⟩ := h.of_ok
    exact .inr ⟨x, [], _, _, [], rfl, h, rfl, .inl ⟨rfl, rfl, rfl, rfl⟩⟩
  | more h hrest =>
    obtain ⟨x, -, rfl, -⟩ := h.of_ok
    exact .inr ⟨x, _, _, _, _, rfl, h, rfl, .inr ⟨_, rfl, hrest⟩⟩
  | broken h => exact .inl ⟨_, h, rfl, rfl⟩

/-- **A log is the chain of one list of pages**, and is complete or not.  The induction is on the
log: its first exchange decides on the first page and on the source of the second. -/
theorem Chain.eq (h : c.Chain source log pages ending) (h' : c.Chain source log pages' ending') :
    pages = pages' ∧ (ending = .complete ↔ ending' = .complete) := by
  induction log generalizing source pages pages' with
  | nil =>
    obtain ⟨stop, -, rfl, rfl⟩ | ⟨_, _, _, _, _, ⟨⟩, -⟩ := h.head
    obtain ⟨stop', -, rfl, rfl⟩ | ⟨_, _, _, _, _, ⟨⟩, -⟩ := h'.head
    exact ⟨rfl, iff_of_false nofun nofun⟩
  | cons x xs ih =>
    obtain ⟨stop, hstop, rfl, rfl⟩ | ⟨_, _, page, next, rest, ⟨⟩, hpage, rfl, hnext⟩ := h.head
    · obtain ⟨stop', -, rfl, rfl⟩ | ⟨_, _, _, _, _, ⟨⟩, hpage', -⟩ := h'.head
      · exact ⟨rfl, iff_of_false nofun nofun⟩
      · exact absurd hstop hpage'.not_error
    · obtain ⟨stop', hstop', -⟩ | ⟨_, _, page', next', rest', ⟨⟩, hpage', rfl, hnext'⟩ := h'.head
      · exact absurd hstop' hpage.not_error
      · obtain ⟨rfl, rfl⟩ := hpage.eq hpage'
        obtain ⟨rfl, rfl, rfl, rfl⟩ | ⟨source₁, rfl, hrest⟩ := hnext
        · obtain ⟨-, -, rfl, rfl⟩ | ⟨_, ⟨⟩, -⟩ := hnext'
          exact ⟨rfl, Iff.rfl⟩
        · obtain ⟨⟨⟩, -⟩ | ⟨_, ⟨⟩, hrest'⟩ := hnext'
          obtain ⟨rfl, hending⟩ := ih hrest hrest'
          exact ⟨rfl, hending⟩

end Client

/-! ## One step of the walk

A step asks for a page and reads it.  The two are taken apart: asking is what the log tells of, and
reading adds nothing to the log. -/

namespace PageSource

/-- The reply with the page. -/
def reply (c : Client) : PageSource → Run Reply
  | call spec => c.submit spec
  | link url => c.getUrl .none url

/-- What comes of the request for a page is what the log tells of it. -/
theorem reply_tells (c : Client) (source : PageSource) (s : Session) :
    ∃ xs, s.Called xs ((source.reply c).outcome s).2 ∧
      Told .none (source.asks c) xs ((source.reply c).outcome s).1 := by
  cases source with
  | call spec =>
    obtain ⟨xs, hcalled, htold, -⟩ := c.exchange_tells .none spec.method (spec.url c.endpoint)
      spec.body s
    exact ⟨xs, hcalled, htold⟩
  | link url =>
    obtain ⟨xs, hcalled, htold, -⟩ := c.exchange_tells .none .get url none s
    exact ⟨xs, hcalled, htold⟩

end PageSource

namespace Cursor

/-- The cursor of a walk that goes on at a source, if there is one. -/
def at? : Option PageSource → Cursor
  | none => exhausted
  | some (.call spec) => first spec
  | some (.link url) => next url

/-- The program keeps a cursor where a chain has a source. -/
theorem fetch_at (c : Client) (source : PageSource) :
    (at? (some source)).fetch c = source.reply c >>= found := by
  cases source with
  | call spec => exact fetch_first c spec
  | link url => exact fetch_next c url

/-- Once there is a reply, it is only read. -/
theorem fetch_of_reply {reply : Reply} (h : (source.reply c).outcome s = (.ok reply, s₁)) :
    ((at? (some source)).fetch c).outcome s =
      (Run.ofExcept ((pageOf reply).map some)).outcome s₁ := by
  rw [fetch_at, Run.outcome_bind_ok h, found]
  cases pageOf reply <;> rfl

/-- A reply with a page is read as that page; its link is what may still be wrong. -/
theorem pageOf_of_describes {reply : Reply} (h : Page.Describes reply.body page) :
    pageOf reply = (behind page).map (page, ·) := by
  rw [pageOf, Page.ofBody_eq_ok_iff.mpr h]

/-- A reply without one is refused for what is wrong with it. -/
theorem pageOf_of_malformed {reply : Reply} {defect : ResponseDefect}
    (h : Page.Malformed reply.body defect) :
    pageOf reply = .error (.invalidResponse defect) := by
  rw [pageOf, Page.ofBody_eq_error_iff.mpr h]

end Cursor

namespace PageSource

/-- A step of the walk from a source: what it comes to, and what its log yields. -/
structure Steps (c : Client) (source : PageSource) (s : Session) (xs : List Exchange)
    (result : Except Stop (Page × Option PageSource)) (s₁ : Session) : Prop where
  fetch : ((Cursor.at? (some source)).fetch c).outcome s =
    (result.map fun found ↦ some (found.1, Cursor.at? found.2), s₁)
  called : s.Called xs s₁
  yields : source.Yields c xs result

/-- There is a step from every source. -/
theorem steps_total (c : Client) (source : PageSource) (s : Session) :
    ∃ xs result s₁, source.Steps c s xs result s₁ := by
  obtain ⟨xs, hcalled, htold⟩ := source.reply_tells c s
  rcases hreply : (source.reply c).outcome s with ⟨stop | reply, s₁⟩
  · rw [hreply] at hcalled htold
    have hfetch : ((Cursor.at? (some source)).fetch c).outcome s = (.error stop, s₁) := by
      rw [Cursor.fetch_at]
      exact Run.outcome_bind_error hreply _
    exact ⟨xs, .error stop, s₁, hfetch, hcalled, .unanswered htold⟩
  · rw [hreply] at hcalled htold
    have hfetch := Cursor.fetch_of_reply hreply
    cases htold with
    | @replied x _ hasks hbrings =>
      cases hbody : Page.ofBody reply.body with
      | error defect =>
        have hpage := Page.ofBody_eq_error_iff.mp hbody
        rw [Cursor.pageOf_of_malformed hpage] at hfetch
        exact ⟨[x], .error _, s₁, hfetch, hcalled, .malformed ⟨hasks, hbrings⟩ hpage⟩
      | ok page =>
        -- the page is there; what the step gives depends on whether its link can be followed
        obtain ⟨items, nextLink⟩ := page
        have hpage := Page.ofBody_eq_ok_iff.mp hbody
        rw [Cursor.pageOf_of_describes hpage, Cursor.behind] at hfetch
        cases nextLink with
        | none => exact ⟨[x], .ok (_, none), s₁, hfetch, hcalled, .last ⟨hasks, hbrings⟩ hpage⟩
        | some link =>
          cases hurl : Url.parse link with
          | error cause =>
            simp only [hurl] at hfetch
            exact ⟨[x], .error _, s₁, hfetch, hcalled, .misled ⟨hasks, hbrings⟩ hpage hurl⟩
          | ok url =>
            simp only [hurl] at hfetch
            exact ⟨[x], .ok (_, some (.link url)), s₁, hfetch, hcalled,
              .linked ⟨hasks, hbrings⟩ hpage hurl⟩

/-- A page uses up an answer, so no walk is endless. -/
theorem Steps.answers_lt {next : Option PageSource}
    (h : source.Steps c s xs (.ok (page, next)) s₁) : s₁.answers.length < s.answers.length :=
  (Cursor.fetch_answers s.answers.length).ok (Nat.le_refl _) h.fetch _ rfl

/-- Asked for by hand, a step hands out its page and goes on to the next source. -/
theorem Steps.nextPage_ok {next : Option PageSource}
    (h : source.Steps c s xs (.ok (page, next)) s₁) :
    (Cursor.at? (some source)).nextPage c s = (.ok (some page), Cursor.at? next, s₁) := by
  rw [Cursor.nextPage, h.fetch]
  rfl

/-- Where it fails, the listing is over for whoever asks by hand. -/
theorem Steps.nextPage_error {stop : Stop} (h : source.Steps c s xs (.error stop) s₁) :
    (Cursor.at? (some source)).nextPage c s = (.error stop, .exhausted, s₁) := by
  rw [Cursor.nextPage, h.fetch]
  rfl

end PageSource

/-! ## Walks -/

namespace Client

/-- A walk from a source on, with its log. -/
inductive Walk (c : Client) :
    PageSource → Session → List Exchange → List Page → ChainEnd → Session → Prop
  | last {source : PageSource} {xs : List Exchange} {page : Page} {s s₁ : Session}
      (h : source.Steps c s xs (.ok (page, none)) s₁) : Walk c source s xs [page] .complete s₁
  | more {source next : PageSource} {xs ys : List Exchange} {page : Page} {rest : List Page}
      {ending : ChainEnd} {s s₁ s₂ : Session} (h : source.Steps c s xs (.ok (page, some next)) s₁)
      (hrest : Walk c next s₁ ys rest ending s₂) :
      Walk c source s (xs ++ ys) (page :: rest) ending s₂
  | broken {source : PageSource} {xs : List Exchange} {stop : Stop} {s s₁ : Session}
      (h : source.Steps c s xs (.error stop) s₁) : Walk c source s xs [] (.broken stop) s₁

/-- The log of a walk is a chain. -/
theorem Walk.chain (h : c.Walk source s xs pages ending s') :
    s.Called xs s' ∧ c.Chain source xs pages ending := by
  induction h with
  | last h => exact ⟨h.called, .last h.yields⟩
  | more h _ ih => exact ⟨h.called.trans ih.1, .more h.yields ih.2⟩
  | broken h => exact ⟨h.called, .broken h.yields⟩

/-- There is a walk from every source.  Each page uses up an answer, and on these goes the
induction. -/
theorem walk_total (c : Client) (n : Nat) : ∀ (source : PageSource) (s : Session),
    s.answers.length < n → ∃ xs pages ending s', c.Walk source s xs pages ending s' := by
  induction n with
  | zero => exact fun _ _ hn ↦ absurd hn (Nat.not_lt_zero _)
  | succ n ih =>
    intro source s hn
    obtain ⟨xs, result, s₁, h⟩ := PageSource.steps_total c source s
    match result, h with
    | .error stop, h => exact ⟨_, _, _, _, .broken h⟩
    | .ok (page, none), h => exact ⟨_, _, _, _, .last h⟩
    | .ok (page, some next), h =>
      have hlt := h.answers_lt
      obtain ⟨ys, pages, ending, s', hrest⟩ := ih next s₁ (by omega)
      exact ⟨_, _, _, _, .more h hrest⟩

end Client

/-! ## The three ways to consume a listing

Each way is brought to a walk by induction on the walk.  The loops of the program are given rounds
to count; since each page uses up an answer, there is always one left for the end. -/

namespace Cursor

/-- What so many calls for the next page come to, one after the other. -/
def turns (c : Client) : Nat → Cursor → Session → List (Except Stop (Option Page)) × Session
  | 0, _, s => ([], s)
  | n + 1, cursor, s =>
    let (result, cursor, s) := cursor.nextPage c s
    let (results, s) := turns c n cursor s
    (result :: results, s)

/-- Behind its end a listing goes on ending, without a request. -/
theorem turns_exhausted (c : Client) (n : Nat) (s : Session) :
    turns c n .exhausted s = (List.replicate n (.ok none), s) := by
  induction n with
  | zero => rfl
  | succ n ih =>
    have hend : nextPage c .exhausted s = (.ok none, .exhausted, s) := rfl
    simp only [turns, hend, ih, List.replicate_succ]

end Cursor

namespace PageSource

/-- Collecting takes a step and goes on from the next source. -/
theorem Steps.itemsFrom {next : Option PageSource}
    (h : source.Steps c s xs (.ok (page, next)) s₁) (n : Nat) :
    (Cursor.itemsFrom c (n + 1) (Cursor.at? (some source))).outcome s =
      (Cursor.itemsFrom c n (Cursor.at? next) >>= fun rest ↦ pure (page.items ++ rest)).outcome
        s₁ := by
  rw [Cursor.itemsFrom, Run.outcome_bind_ok h.fetch]

/-- So does asking by hand. -/
theorem Steps.turns_ok {next : Option PageSource} (h : source.Steps c s xs (.ok (page, next)) s₁)
    (n : Nat) :
    Cursor.turns c (n + 1) (Cursor.at? (some source)) s =
      (.ok (some page) :: (Cursor.turns c n (Cursor.at? next) s₁).1,
        (Cursor.turns c n (Cursor.at? next) s₁).2) := by
  rw [Cursor.turns, h.nextPage_ok]

/-- When a step fails, there is its error, and then nothing as often as it is asked for. -/
theorem Steps.turns_error {stop : Stop} (h : source.Steps c s xs (.error stop) s₁) (n : Nat) :
    Cursor.turns c (n + 1) (Cursor.at? (some source)) s =
      (.error stop :: List.replicate n (.ok none), s₁) := by
  simp only [Cursor.turns, h.nextPage_error, Cursor.turns_exhausted]

end PageSource

namespace Client

/-- Collecting a walk gives the items of its pages, or what has broken it. -/
theorem Walk.itemsFrom (h : c.Walk source s xs pages ending s') :
    ∀ n, s.answers.length < n → (Cursor.itemsFrom c n (Cursor.at? (some source))).outcome s =
      (ending.result (pages.flatMap Page.items), s') := by
  induction h with
  | last h =>
    intro n hn
    have hlt := h.answers_lt
    -- one round for the page and one for the end
    obtain ⟨m, rfl⟩ : ∃ m, n = m + 1 + 1 := ⟨n - 2, by omega⟩
    exact h.itemsFrom (m + 1)
  | @more source next _ _ page rest ending s s₁ s₂ h _ ih =>
    intro n hn
    have hlt := h.answers_lt
    obtain ⟨m, rfl⟩ : ∃ m, n = m + 1 := ⟨n - 1, by omega⟩
    have hrest := ih m (by omega)
    rw [h.itemsFrom m]
    cases ending with
    | complete => exact Run.outcome_bind_ok hrest _
    | broken => exact Run.outcome_bind_error hrest _
  | broken h =>
    intro n hn
    obtain ⟨m, rfl⟩ : ∃ m, n = m + 1 := ⟨n - 1, by omega⟩
    exact Run.outcome_bind_error h.fetch _

/-- In a row, a walk gives its pages and then what has broken it. -/
theorem Walk.pagesFrom (h : c.Walk source s xs pages ending s') :
    ∀ n, s.answers.length < n → Cursor.pagesFrom c n (Cursor.at? (some source)) s =
      (pages.map .ok ++ ending.stops.map .error, s') := by
  induction h with
  | last h =>
    intro n hn
    have hlt := h.answers_lt
    obtain ⟨m, rfl⟩ : ∃ m, n = m + 1 + 1 := ⟨n - 2, by omega⟩
    rw [Cursor.pagesFrom, h.nextPage_ok]
    rfl
  | more h _ ih =>
    intro n hn
    have hlt := h.answers_lt
    obtain ⟨m, rfl⟩ : ∃ m, n = m + 1 := ⟨n - 1, by omega⟩
    rw [Cursor.pagesFrom, h.nextPage_ok]
    simp only [ih m (by omega), List.map_cons, List.cons_append]
  | broken h =>
    intro n hn
    obtain ⟨m, rfl⟩ : ∃ m, n = m + 1 := ⟨n - 1, by omega⟩
    rw [Cursor.pagesFrom, h.nextPage_error]
    rfl

/-- Asked for by hand as often as there are pages, and more, it gives the same and then nothing. -/
theorem Walk.turns (h : c.Walk source s xs pages ending s') (k : Nat) :
    Cursor.turns c (pages.length + ending.stops.length + k) (Cursor.at? (some source)) s =
      (pages.map (fun page ↦ .ok (some page)) ++ ending.stops.map .error ++
        List.replicate k (.ok none), s') := by
  induction h with
  | last h =>
    rw [Nat.add_comm]
    exact (h.turns_ok k).trans (by rw [Cursor.at?, Cursor.turns_exhausted]; rfl)
  | @more source next _ _ page rest ending s s₁ s₂ h _ ih =>
    have hcount : (page :: rest).length + ending.stops.length + k =
        rest.length + ending.stops.length + k + 1 := by
      simp only [List.length_cons]
      omega
    rw [hcount, h.turns_ok, ih]
    rfl
  | broken h =>
    rw [Nat.add_comm]
    exact h.turns_error k

/-! ## The main statement -/

/-- The items of pages in a row, or the error that is among them. -/
def flattened : List (Except Stop Page) → Except Stop (List Json)
  | [] => .ok []
  | .ok page :: rest => (flattened rest).map (page.items ++ ·)
  | .error stop :: _ => .error stop

/-- The items of pages in a row are those that collecting gives, up to an error that hides them
all. -/
theorem flattened_eq (pages : List Page) (ending : ChainEnd) :
    flattened (pages.map .ok ++ ending.stops.map .error) =
      ending.result (pages.flatMap Page.items) := by
  induction pages with
  | nil => cases ending <;> rfl
  | cons page rest ih =>
    rw [List.map_cons, List.cons_append, flattened, ih]
    cases ending <;> rfl

/-- Nothing that breaks a chain is the failure of an operation. -/
theorem Chain.ne_operationFailed {stop : Stop} {f : OperationFailure}
    (h : c.Chain source log pages (.broken stop)) : stop ≠ .error (.operationFailed f) := by
  generalize hending : ChainEnd.broken stop = ending at h
  induction h with
  | last => cases hending
  | more _ _ ih => exact ih hending
  | broken h =>
    cases hending
    cases h with
    | unanswered htold => exact htold.ne_operationFailed
    | malformed => exact nofun
    | misled => exact nofun

/-- What is asked of a listing from `s` on whose pages are these. -/
structure Lists (c : Client) (spec : OperationSpec) (s : Session) (pages : List Page)
    (ending : ChainEnd) (s' : Session) : Prop where
  /-- They are those of the log. -/
  chain : c.Chain (.call spec) (s.callsSince s') pages ending
  /-- The log has no other ones. -/
  unique : ∀ pages' ending', c.Chain (.call spec) (s.callsSince s') pages' ending' →
    pages' = pages ∧ (ending' = .complete ↔ ending = .complete)
  /-- All items come in the order of the pages, or the error does. -/
  collected : (c.collect spec).outcome s = (ending.result (pages.flatMap Page.items), s')
  /-- In a row there are the pages and then the error, and then nothing. -/
  inRow : c.pages spec s = (pages.map .ok ++ ending.stops.map .error, s')
  /-- By hand there are the pages, then the error, and then the end as often as it is asked for,
  which leaves the session alone. -/
  byHand : ∀ k, Cursor.turns c (pages.length + ending.stops.length + k) (.first spec) s =
    (pages.map (fun page ↦ .ok (some page)) ++ ending.stops.map .error ++
      List.replicate k (.ok none), s')
  /-- A listing is broken by an exchange that fails, or by silence. -/
  obstructed : ∀ stop, ending = .broken stop → Obstructs c.tokens (.page []) s s' stop

/-- **A listing follows its chain**, whichever way it is consumed.  So collecting all items is
always the same as taking the pages in a row and joining their items. -/
theorem listing_follows_chain (c : Client) (spec : OperationSpec) (s : Session) :
    (∃ pages ending s', c.Lists spec s pages ending s') ∧
      (c.collect spec).outcome s = (flattened (c.pages spec s).1, (c.pages spec s).2) := by
  obtain ⟨xs, pages, ending, s', h⟩ :=
    walk_total c (s.answers.length + 1) (.call spec) s (Nat.lt_succ_self _)
  obtain ⟨hcalled, hchain⟩ := h.chain
  have hcollected : (c.collect spec).outcome s =
      (ending.result (pages.flatMap Page.items), s') := by
    rw [collect, Run.outcome_bind_ok (Run.outcome_get s)]
    exact h.itemsFrom _ (Nat.lt_succ_self _)
  have hrow : c.pages spec s = (pages.map .ok ++ ending.stops.map .error, s') :=
    h.pagesFrom _ (Nat.lt_succ_self _)
  rw [← hcalled.eq] at hchain
  refine ⟨⟨pages, ending, s', hchain, fun _ _ h' ↦ h'.eq hchain, hcollected, hrow, h.turns, ?_⟩, ?_⟩
  · rintro stop rfl
    have hstops : FailStop c.tokens (.page []) (fun _ _ ↦ False) s _ _ :=
      .of_meets (fun _ ↦ id) ((reads_collect spec).mono (fun _ hs ↦ hs) (fun _ _ hs ↦ ⟨_, hs⟩)
        fun _ _ hs ↦ hs)
    rw [hcollected] at hstops
    rcases hstops.obstructs fun _ _ ↦ id with hobstructs | ⟨f, rfl⟩
    · exact hobstructs
    · exact absurd rfl hchain.ne_operationFailed
  · rw [hcollected, hrow, flattened_eq]

/-- A page may take two requests, where a response sends the first one on. -/
theorem page_led_on :
    let out := (Client.ofToken.collect (.new .get "/p" "1")).outcome
      (.ofMoved ⟨200, [], Utf8.encode "[1]".toList⟩)
    out.1.toOption.map (·.map Json.text) = some ["1"] ∧
      out.2.requests.map (·.url.text) =
        ["http://arm.test/p?api-version=1", "http://arm.test/q"] := by
  decide +kernel

end Client
end ResourceManager
