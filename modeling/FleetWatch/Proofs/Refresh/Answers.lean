import FleetWatch.Fleet.StatusClient
import FleetWatch.Proofs.Board.Blocks
import FleetWatch.Proofs.Http.Endings
import FleetWatch.Proofs.Refresh.Tracking

/-!
# From answers to a board

What the network gives to the client, whatever it is, becomes a card for every endpoint and rows for
those that have answered.  An answer is a complete response with a status of success and a body that
is JSON; everything else is one and the same failure.

* `StatusClient.resultOf_eq_ok_iff`: what counts as an answer.
* `StatusClient.meets_iff`: what the network's replies come to is what the client goes by.
* `Timeline.PublishesMet.up`, `Timeline.PublishesMet.down`: card and rows of an endpoint, by its reply.
* `Timeline.runCycle_shows_answers`: the board of one cycle, by the replies of the networks.
-/

namespace FleetWatch
open Http

namespace StatusClient

/-- A complete response that gives this report. -/
def Answers (report : Report) (reply : Reply) : Prop :=
  ∃ r content, reply = .response r ∧ 200 ≤ r.status ∧ r.status ≤ 299 ∧
    r.body = .complete content ∧ Report.read content = .ok report

theorem isSuccess_iff (status : UInt16) : isSuccess status = true ↔ 200 ≤ status ∧ status ≤ 299 := by
  simp [isSuccess]

theorem resultOf_eq_ok_iff (client : StatusClient) (name : String) (reply : Reply) (report : Report) :
    client.resultOf name reply = .ok report ↔ Answers report reply := by
  constructor
  · intro ok
    cases reply with
    | failure reason => cases ok
    | silence => cases ok
    | response r =>
      cases success : isSuccess r.status with
      | false =>
        rw [client.resultOf_not_success name success] at ok
        cases ok
      | true =>
        obtain ⟨atLeast, atMost⟩ := (isSuccess_iff r.status).1 success
        simp only [resultOf, success, if_true] at ok
        cases body : r.body with
        | broken reason => simp [body] at ok
        | stalled => simp [body] at ok
        | complete content =>
          refine ⟨r, content, rfl, atLeast, atMost, body, ?_⟩
          cases read : Report.read content with
          | error e => simp [body, read, Except.mapError] at ok
          | ok found => simpa [body, read, Except.mapError] using ok
  · rintro ⟨r, content, rfl, atLeast, atMost, body, read⟩
    have success := (isSuccess_iff r.status).2 ⟨atLeast, atMost⟩
    simp [resultOf, success, body, read, Except.mapError]

/-- The fetches of one poll; at each position the endpoint is behind a network of its own, which
takes its own time. -/
def fetches (client : StatusClient) (networks : Nat → Network) (delays : Nat → Nat)
    (endpoints : List Endpoint) : List (Endpoint × Fetch) :=
  endpoints.mapIdx fun i endpoint =>
    (endpoint, { client.fetch (networks i) endpoint with delay := delays i })

/-- What the exchange with an endpoint ends with. -/
def ending (client : StatusClient) (network : Network) (endpoint : Endpoint) : Reply :=
  (client.exchange network endpoint).ending

/-- What a client meets with that asks for the report of an endpoint.  Where the status URL cannot be
read nothing is asked; otherwise it is what the network's replies to the requests come to. -/
inductive Meets (client : StatusClient) (network : Network) (endpoint : Endpoint) : Reply → Prop where
  | unread {e : UrlError}
      (refused : Url.parse (statusUrl endpoint.baseUrl client.statusPath) = .error e) :
      Meets client network endpoint (.failure ("builder error: " ++ e.message))
  | asked {url : Url} {reply : Reply}
      (parsed : Url.parse (statusUrl endpoint.baseUrl client.statusPath) = .ok url)
      (ends : Ends network (maxRequests - 1) 0 ⟨"GET", url, client.headers⟩ reply) :
      Meets client network endpoint reply

theorem meets_iff {client : StatusClient} {network : Network} {endpoint : Endpoint} {reply : Reply} :
    client.Meets network endpoint reply ↔ reply = client.ending network endpoint := by
  rw [ending, exchange, url]
  cases parsed : Url.parse (statusUrl endpoint.baseUrl client.statusPath) with
  | error e =>
    constructor
    · rintro (refused | ⟨read, -⟩)
      · cases parsed.symm.trans refused
        rfl
      · cases parsed.symm.trans read
    · rintro rfl
      exact .unread parsed
  | ok url =>
    constructor
    · rintro (refused | ⟨read, ends⟩)
      · cases parsed.symm.trans refused
      · cases parsed.symm.trans read
        exact ends_iff.1 ends
    · rintro rfl
      exact .asked parsed (ends_iff.2 rfl)

def outcome (client : StatusClient) (network : Network) (endpoint : Endpoint) : Outcome :=
  (client.fetch network endpoint).outcome

theorem outcome_eq_some_iff {client : StatusClient} {network : Network} {endpoint : Endpoint}
    {report : Report} :
    client.outcome network endpoint = some report ↔
      Answers report (client.ending network endpoint) := by
  rw [← client.resultOf_eq_ok_iff endpoint.name, outcome, Fetch.outcome, fetch, ending]
  cases client.resultOf endpoint.name (client.exchange network endpoint).ending <;>
    simp [Except.toOption]

end StatusClient

/-! ## Boards of answers -/

namespace Board
open StatusClient (Answers)

/-- What a board shows of an endpoint, by what the exchange with it has ended with. -/
structure Shows (endpoint : Endpoint) (reply : Reply) (card : Card) (rows : List Row) : Prop where
  name : card.name = endpoint.name
  baseUrl : card.baseUrl = endpoint.baseUrl
  healthy : card.healthy = true ↔ ∃ report, Answers report reply
  answered : ∀ report, Answers report reply → card.uptime = report.uptime ∧
    card.port = report.port ∧ rows = report.probes.map (Row.ofProbe endpoint.name)
  down : card.healthy = false → card.uptime = none ∧ card.port = none ∧ rows = []
  /-- The body of a response without success is not looked at. -/
  refused : ∀ r, reply = .response r → ¬ (200 ≤ r.status ∧ r.status ≤ 299) → card.healthy = false
  /-- A body that is JSON but no object is an answer that says nothing. -/
  bare : ∀ r content v, reply = .response r → 200 ≤ r.status → r.status ≤ 299 →
    r.body = .complete content → Json.read content = .ok v → v.isObject = false →
    card.healthy = true ∧ card.uptime = none ∧ card.port = none ∧ rows = []

section

variable {endpoint : Endpoint} {reply : Reply} {card : Card} {rows : List Row}

theorem Shows.card_eq (shows : Shows endpoint reply card rows) :
    card = ⟨endpoint.name, endpoint.baseUrl, card.healthy, card.uptime, card.port⟩ := by
  rw [← shows.name, ← shows.baseUrl]

theorem Shows.card_up {report : Report} (shows : Shows endpoint reply card rows)
    (answers : Answers report reply) :
    card = .up endpoint.name endpoint.baseUrl report.uptime report.port ∧
      rows = report.probes.map (Row.ofProbe endpoint.name) := by
  obtain ⟨uptime, port, shown⟩ := shows.answered report answers
  have healthy := shows.healthy.2 ⟨report, answers⟩
  refine ⟨?_, shown⟩
  rw [shows.card_eq, healthy, uptime, port, Card.up]

theorem Shows.card_down (shows : Shows endpoint reply card rows)
    (silent : ∀ report, ¬Answers report reply) :
    card = .down endpoint.name endpoint.baseUrl ∧ rows = [] := by
  have unhealthy : card.healthy = false := by
    rw [Bool.eq_false_iff, ne_eq, shows.healthy]
    exact fun ⟨report, answers⟩ => silent report answers
  obtain ⟨uptime, port, none⟩ := shows.down unhealthy
  refine ⟨?_, none⟩
  rw [shows.card_eq, unhealthy, uptime, port, Card.down]

end

theorem answers_empty {r : Response} {content : Bytes} {v : Json} (atLeast : 200 ≤ r.status)
    (atMost : r.status ≤ 299) (body : r.body = .complete content)
    (read : Json.read content = .ok v) (other : v.isObject = false) :
    Answers Report.empty (.response r) := by
  refine ⟨r, content, rfl, atLeast, atMost, body, ?_⟩
  rw [Report.read, read, Except.map, Report.ofJson_of_not_object v]
  rintro members rfl
  cases other

theorem shows_outcome {endpoint : Endpoint} {reply : Reply} {outcome : Outcome}
    (iff : ∀ report, outcome = some report ↔ Answers report reply) :
    Shows endpoint reply (card endpoint outcome) (rowsOf endpoint outcome) := by
  have healthy : (card endpoint outcome).healthy = true ↔ ∃ report, Answers report reply := by
    rw [healthy_card, Option.isSome_iff_exists]
    exact exists_congr iff
  have answered (report : Report) (answers : Answers report reply) :
      (card endpoint outcome).uptime = report.uptime ∧ (card endpoint outcome).port = report.port ∧
        rowsOf endpoint outcome = report.probes.map (Row.ofProbe endpoint.name) := by
    rw [(iff report).2 answers]
    exact ⟨rfl, rfl, rfl⟩
  refine ⟨?_, ?_, healthy, answered, ?_, ?_, ?_⟩
  · cases outcome <;> rfl
  · cases outcome <;> rfl
  · intro down
    cases outcome with
    | none => exact ⟨rfl, rfl, rfl⟩
    | some report => cases down
  · rintro r rfl refused
    rw [Bool.eq_false_iff, ne_eq, healthy]
    rintro ⟨report, s, content, same, atLeast, atMost, -⟩
    cases same
    exact refused ⟨atLeast, atMost⟩
  · rintro r content v rfl atLeast atMost body read other
    have empty := answers_empty atLeast atMost body read other
    exact ⟨healthy.2 ⟨_, empty⟩, answered _ empty⟩

theorem connected_iff {endpoints : List Endpoint} {outcomes : List Outcome}
    (aligned : endpoints.length = outcomes.length) :
    (aggregate endpoints outcomes).connected = true ↔
      ∃ card ∈ (aggregate endpoints outcomes).cards, card.healthy = true := by
  induction endpoints generalizing outcomes with
  | nil =>
    rw [List.length_eq_zero_iff.1 aligned.symm]
    simp [aggregate]
  | cons endpoint endpoints ih =>
    obtain ⟨outcome, outcomes, rfl⟩ := List.exists_cons_of_length_eq_add_one aligned.symm
    have rest := ih (Nat.succ.inj aligned)
    simp only [aggregate, List.any_cons, Bool.or_eq_true, List.zipWith_cons_cons, List.mem_cons,
      exists_eq_or_imp, healthy_card] at rest ⊢
    rw [rest]

end Board

/-! ## One cycle -/

namespace Timeline

theorem launchFirst_eq_launch {t : Timeline} (empty : t.flights = []) (plan : FetchPlan) :
    t.launchFirst plan = t.launch plan := by
  have none : (t.begin plan).2.flights = [] := empty
  have same : { (t.begin plan).2 with flights := [] } = (t.begin plan).2 := by
    rw [← none]
  simp only [launchFirst, launch, same, none, List.append_nil]

theorem Landed.result? {endpoints : List Endpoint} {t : Timeline} {f : Flight}
    (landed : Landed endpoints [f] t) : t.result? f.cycle = some true := by
  obtain ⟨landings, flights, holds, maxima, finished⟩ := landed
  cases landings with
  | nil => simpa using flights f
  | cons l landings =>
    have same : l.flight = f := by simpa using flights l.flight
    have accepted : l.accepted = true := (maxima [] l landings rfl).2 fun _ none => by cases none
    simp [Timeline.result?, finished, Landing.cycle, same, accepted]

theorem tracks_runCycle (endpoints : List Endpoint) (plan : FetchPlan) :
    Tracks endpoints [⟨0, 0, plan 0⟩] ((ofEndpoints endpoints).runCycle plan) ∧
      ((ofEndpoints endpoints).runCycle plan).now = Poll.endsAt ⟨0, plan 0⟩ := by
  have launches : (ofEndpoints endpoints).launchFirst plan = (ofEndpoints endpoints).launch plan :=
    launchFirst_eq_launch rfl plan
  have seen : Seen endpoints [(ofEndpoints endpoints).nextFlight plan]
      ((ofEndpoints endpoints).begin plan).2 ((ofEndpoints endpoints).launch plan) :=
    Seen.progress _
  have idle : Idle ((ofEndpoints endpoints).launch plan) := by
    intro period next running
    cases seen.loop.symm.trans running
  have now : ((ofEndpoints endpoints).launch plan).now = 0 := seen.now
  rw [runCycle, launches]
  exact ((tracks_ofEndpoints endpoints).launch plan).advance_idle idle (now ▸ Nat.zero_le _)

variable (client : StatusClient) (networks : Nat → Network) (delays : Nat → Nat)
  (endpoints : List Endpoint)

/-- One cycle of a fresh loop, up to its end. -/
def afterCycle : Timeline :=
  (ofEndpoints endpoints).runCycle fun _ => client.fetches networks delays endpoints

theorem outcomes_fetches :
    Poll.outcomes ⟨0, client.fetches networks delays endpoints⟩ =
      endpoints.mapIdx fun i endpoint => client.outcome (networks i) endpoint := by
  apply List.ext_getElem?
  intro i
  simp only [Poll.outcomes, StatusClient.fetches, StatusClient.outcome, Fetch.outcome,
    List.getElem?_map, List.getElem?_mapIdx, Option.map_map, Function.comp_def]

theorem slot_afterCycle :
    ∃ p, (afterCycle client networks delays endpoints).refresh.slot = some p ∧ p.cycle = 0 ∧
      (afterCycle client networks delays endpoints).result? 0 = some true ∧
      p.board = Board.aggregate endpoints
        (endpoints.mapIdx fun i endpoint => client.outcome (networks i) endpoint) := by
  obtain ⟨tracks, now⟩ := tracks_runCycle endpoints fun _ => client.fetches networks delays endpoints
  have landed := tracks.landed
  rw [now] at landed
  have result := Landed.result? (f := ⟨0, 0, client.fetches networks delays endpoints⟩)
    (landed.congr (fun f => by simp) rfl rfl)
  cases held : (afterCycle client networks delays endpoints).refresh.slot with
  | none =>
    have aloft := tracks.slot_eq_none_iff.1 held _ List.mem_cons_self
    rw [now] at aloft
    exact absurd aloft (Nat.lt_irrefl _)
  | some p =>
    obtain ⟨f, member, -, cycle, board, -⟩ := tracks.slot_eq_some held
    cases List.mem_singleton.1 member
    rw [outcomes_fetches] at board
    exact ⟨p, rfl, cycle.symm, result, board⟩

/-- The first cycle is published, with a card and a block of rows at the position of every endpoint;
they show what was met with there, which is one reply and no other. -/
structure PublishesMet (t : Timeline) (p : Published) (blocks : List (List Row)) : Prop where
  held : t.refresh.slot = some p
  first : p.cycle = 0
  accepted : t.result? 0 = some true
  cardEach : p.board.cards.length = endpoints.length
  blockEach : blocks.length = endpoints.length
  rows : p.board.rows = blocks.flatten
  shown : ∀ i endpoint, endpoints[i]? = some endpoint → ∃ reply card rows,
    (∀ met, client.Meets (networks i) endpoint met ↔ met = reply) ∧
      p.board.cards[i]? = some card ∧ blocks[i]? = some rows ∧ Board.Shows endpoint reply card rows
  connected : p.board.connected = true ↔ ∃ card ∈ p.board.cards, card.healthy = true

section

variable {client networks endpoints} {t : Timeline} {p : Published} {blocks : List (List Row)}
  {i : Nat} {endpoint : Endpoint} {reply : Reply}

theorem PublishesMet.shows (published : PublishesMet client networks endpoints t p blocks)
    (found : endpoints[i]? = some endpoint) (met : client.Meets (networks i) endpoint reply) :
    ∃ card rows, p.board.cards[i]? = some card ∧ blocks[i]? = some rows ∧
      Board.Shows endpoint reply card rows := by
  obtain ⟨_, card, rows, only, here, block, shows⟩ := published.shown i endpoint found
  cases (only reply).1 met
  exact ⟨card, rows, here, block, shows⟩

theorem PublishesMet.up {report : Report}
    (published : PublishesMet client networks endpoints t p blocks)
    (found : endpoints[i]? = some endpoint) (met : client.Meets (networks i) endpoint reply)
    (answers : StatusClient.Answers report reply) :
    p.board.cards[i]? = some (.up endpoint.name endpoint.baseUrl report.uptime report.port) ∧
      blocks[i]? = some (report.probes.map (Row.ofProbe endpoint.name)) := by
  obtain ⟨card, rows, here, block, shows⟩ := published.shows found met
  obtain ⟨rfl, rfl⟩ := shows.card_up answers
  exact ⟨here, block⟩

theorem PublishesMet.down (published : PublishesMet client networks endpoints t p blocks)
    (found : endpoints[i]? = some endpoint) (met : client.Meets (networks i) endpoint reply)
    (silent : ∀ report, ¬StatusClient.Answers report reply) :
    p.board.cards[i]? = some (.down endpoint.name endpoint.baseUrl) ∧ blocks[i]? = some [] := by
  obtain ⟨card, rows, here, block, shows⟩ := published.shows found met
  obtain ⟨rfl, rfl⟩ := shows.card_down silent
  exact ⟨here, block⟩

end

/-- Whatever the networks reply, and whenever, the cycle is published and shows it. -/
theorem runCycle_shows_answers :
    ∃ (p : Published) (blocks : List (List Row)), PublishesMet client networks endpoints
      (afterCycle client networks delays endpoints) p blocks := by
  obtain ⟨p, held, cycle, result, board⟩ := slot_afterCycle client networks delays endpoints
  let outcomes := endpoints.mapIdx fun i endpoint => client.outcome (networks i) endpoint
  have aligned : endpoints.length = outcomes.length := by simp [outcomes]
  refine ⟨p, endpoints.zipWith Board.rowsOf outcomes, held, cycle, result, ?_, ?_, ?_, ?_, ?_⟩
  · rw [board, Board.aggregate, List.length_zipWith, ← aligned, Nat.min_self]
  · rw [List.length_zipWith, ← aligned, Nat.min_self]
  · rw [board]
    rfl
  · intro i endpoint found
    have outcome : outcomes[i]? = some (client.outcome (networks i) endpoint) := by
      simp [outcomes, found]
    refine ⟨client.ending (networks i) endpoint, _, _, fun met => StatusClient.meets_iff,
      board ▸ Board.cards_getElem? found outcome, ?_,
      Board.shows_outcome fun report => StatusClient.outcome_eq_some_iff⟩
    simp [List.getElem?_zipWith, found, outcome]
  · rw [board]
    exact Board.connected_iff aligned

/-! ## Four networks -/

def sampleClient : StatusClient := ⟨"/api/status", 2000, "fleetwatch"⟩

def sampleFleet : List Endpoint :=
  [⟨"A", "http://a"⟩, ⟨"B", "http://b"⟩, ⟨"C", "http://c/"⟩, ⟨"D", "http://d"⟩]

def sampleUrl (host path : String) : Url := ⟨"http", some (.domain host), none, path, none, none⟩

def sampleReport : Report := ⟨some 5, none, [⟨"db", "h", none, none, none, none, 0⟩]⟩

def sampleAnswer (status : UInt16) : Response :=
  ⟨status, [], .complete
    (Utf8.encode "\x7b\"uptime_s\":5,\"probes\":[\x7b\"label\":\"db\",\"host\":\"h\"\x7d]\x7d")⟩

def bareAnswer : Response := ⟨204, [], .complete (Utf8.encode "[]")⟩

/-- An answer, the same body under another status, a way to an answer that says nothing, and no
connection. -/
def sampleNetworks : Nat → Network
  | 0 => fun _ _ => .response (sampleAnswer 200)
  | 1 => fun _ _ => .response (sampleAnswer 503)
  | 2 => fun earlier _ =>
    if earlier = 0 then .response ⟨302, [("location", "/moved")], .complete []⟩
    else .response bareAnswer
  | _ => .unreachable "connection refused"

theorem answers_sample : StatusClient.Answers sampleReport (.response (sampleAnswer 200)) :=
  ⟨_, _, rfl, by decide, by decide, rfl, by decide +kernel⟩

theorem answers_bare : StatusClient.Answers Report.empty (.response bareAnswer) :=
  ⟨_, _, rfl, by decide, by decide, rfl, by decide +kernel⟩

theorem sample_meets {i : Nat} {endpoint : Endpoint} (host : String) {reply : Reply}
    (parsed : Url.parse (statusUrl endpoint.baseUrl "/api/status") =
      .ok (sampleUrl host "/api/status"))
    (ends : Ends (sampleNetworks i) (maxRequests - 1) 0
      ⟨"GET", sampleUrl host "/api/status", sampleClient.headers⟩ reply) :
    sampleClient.Meets (sampleNetworks i) endpoint reply := .asked parsed ends

theorem runCycle_shows_answers_redirected :
    ∃ p : Published,
      (afterCycle sampleClient sampleNetworks (10 * ·) sampleFleet).refresh.slot = some p ∧
      p.board.cards = [.up "A" "http://a" (some 5) none, .down "B" "http://b",
        .up "C" "http://c/" none none, .down "D" "http://d"] ∧
      p.board.rows = [⟨"A", "db", "h", none, none, none, none, 0⟩] ∧ p.board.connected = true := by
  obtain ⟨p, blocks, published⟩ :=
    runCycle_shows_answers sampleClient sampleNetworks (10 * ·) sampleFleet
  have moved : (⟨302, [("location", "/moved")], .complete []⟩ : Response).redirect?
      (sampleUrl "c" "/api/status") = some (sampleUrl "c" "/moved") := by decide +kernel
  have refused : ∀ report, ¬StatusClient.Answers report (.response (sampleAnswer 503)) := by
    rintro report ⟨_, _, ⟨⟩, -, atMost, -⟩
    exact absurd atMost (by decide)
  have a := published.up (i := 0) rfl
    (sample_meets "a" (by decide) (.answered rfl (by decide +kernel))) answers_sample
  have b := published.down (i := 1) rfl
    (sample_meets "b" (by decide) (.answered rfl (by decide +kernel))) refused
  have c := published.up (i := 2) rfl
    (sample_meets "c" (by decide) (.redirected rfl moved (.answered rfl (by decide +kernel))))
    answers_bare
  have d := published.down (i := 3) rfl (sample_meets "d" (by decide) (.failed rfl))
    (by rintro report ⟨_, _, ⟨⟩, -⟩)
  have cards : p.board.cards = [.up "A" "http://a" (some 5) none, .down "B" "http://b",
      .up "C" "http://c/" none none, .down "D" "http://d"] := by
    refine List.ext_getElem? fun i => ?_
    match i with
    | 0 => exact a.1
    | 1 => exact b.1
    | 2 => exact c.1
    | 3 => exact d.1
    | i + 4 => simp [published.cardEach, sampleFleet]
  have parts : blocks = [[⟨"A", "db", "h", none, none, none, none, 0⟩], [], [], []] := by
    refine List.ext_getElem? fun i => ?_
    match i with
    | 0 => exact a.2
    | 1 => exact b.2
    | 2 => exact c.2
    | 3 => exact d.2
    | i + 4 => simp [published.blockEach, sampleFleet]
  refine ⟨p, published.held, cards, ?_, published.connected.2 ⟨_, cards ▸ List.mem_cons_self, rfl⟩⟩
  rw [published.rows, parts]
  rfl

end Timeline
end FleetWatch
