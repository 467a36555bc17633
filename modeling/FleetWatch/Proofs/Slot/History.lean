import FleetWatch.Api.Routes
import FleetWatch.Proofs.Api.Members
import Mathlib.Data.List.Induction

/-!
# Histories of the slot

Any callers publish into the slot, read it, keep what they read and ask the web surface; each of
these calls happens at one moment, so a history is a list of calls.  Whatever the list, the slot
holds the earliest of the boards that were published with the greatest number, and everything that
is read is that board with that number.

* `IsNewest.publish`: what one publication does, whether the slot takes it or not.
* `pairwise_seen`: the numbers that readers see, from the slot or in a body, never go back.
* `slot_history`: slot, answers, kept snapshots, and what a history without its reads gives.
-/

namespace FleetWatch

inductive SlotCall where
  | publish (p : Published)
  | latest
  | latestCycle
  /-- Looks again at the snapshot that a `latest` gave, the first one at place 0. -/
  | look (place : Nat)
  | request (moment : Api.Moment) (method target : String)

namespace SlotCall

def published? : SlotCall → Option Published
  | publish p => some p
  | _ => none

def isPublish (call : SlotCall) : Bool := call.published?.isSome

end SlotCall

/-- What was published in a history, in order. -/
def publications (calls : List SlotCall) : List Published := calls.filterMap SlotCall.published?

inductive SlotAnswer where
  | accepted (yes : Bool)
  | snapshot (held : Slot)
  | cycle (number : Option UInt64)
  | kept (held : Slot)
  | reply (r : Api.Reply)

namespace SlotAnswer

def isAccepted : SlotAnswer → Bool
  | accepted _ => true
  | _ => false

def snapshot? : SlotAnswer → Option Slot
  | snapshot held => some held
  | _ => none

/-- The number that an answer shows of the slot as it is, read from the body of a reply. -/
def seen? : SlotAnswer → Option (Option UInt64)
  | snapshot held => some held.cycle?
  | cycle number => some number
  | reply r => (r.body.bind (·.member? "cycle")).map Json.unsigned?
  | _ => none

end SlotAnswer

/-- The slot, and the snapshots that its readers keep. -/
structure SlotSession where
  slot : Slot := none
  kept : List Slot := []

namespace SlotSession

def answer (s : SlotSession) : SlotCall → SlotAnswer
  | .publish p => .accepted (s.slot.publish p.cycle p.publishedAt p.board).2
  | .latest => .snapshot s.slot
  | .latestCycle => .cycle s.slot.cycle?
  | .look place => .kept s.kept[place]?.join
  | .request moment method target => .reply (Api.reply s.slot moment method target)

def next (s : SlotSession) : SlotCall → SlotSession
  | .publish p => { s with slot := (s.slot.publish p.cycle p.publishedAt p.board).1 }
  | .latest => { s with kept := s.kept ++ [s.slot] }
  | _ => s

def after (s : SlotSession) (calls : List SlotCall) : SlotSession := calls.foldl next s

def answers : SlotSession → List SlotCall → List SlotAnswer
  | _, [] => []
  | s, call :: calls => s.answer call :: answers (s.next call) calls

theorem after_append (s : SlotSession) (calls more : List SlotCall) :
    s.after (calls ++ more) = (s.after calls).after more := List.foldl_append

theorem answers_append (s : SlotSession) (calls more : List SlotCall) :
    s.answers (calls ++ more) = s.answers calls ++ (s.after calls).answers more := by
  induction calls generalizing s with
  | nil => rfl
  | cons call calls ih => simp only [List.cons_append, answers, ih]; rfl

@[simp] theorem length_answers (s : SlotSession) (calls : List SlotCall) :
    (s.answers calls).length = calls.length := by
  induction calls generalizing s with
  | nil => rfl
  | cons call calls ih => simp [answers, ih]

theorem answers_getElem? (s : SlotSession) (before : List SlotCall) (call : SlotCall)
    (later : List SlotCall) :
    (s.answers (before ++ call :: later))[before.length]? = some ((s.after before).answer call) := by
  rw [answers_append, List.getElem?_append_right (by simp)]
  simp [answers]

end SlotSession

/-! ## What the slot is to hold -/

/-- The slot holds the earliest of the publications with the greatest number. -/
def IsNewest (ps : List Published) : Slot → Prop
  | none => ps = []
  | some p => ∃ before after, ps = before ++ p :: after ∧
      (∀ q ∈ before, q.cycle < p.cycle) ∧ ∀ q ∈ after, q.cycle ≤ p.cycle

namespace IsNewest

theorem accepts_iff {ps : List Published} {slot : Slot} (newest : IsNewest ps slot)
    (cycle : UInt64) : slot.accepts cycle = true ↔ ∀ q ∈ ps, q.cycle < cycle := by
  cases slot with
  | none => simp [Slot.accepts, show ps = [] from newest]
  | some p =>
    obtain ⟨before, after, rfl, older, others⟩ := newest
    simp only [Slot.accepts, decide_eq_true_eq]
    constructor
    · intro newer q member
      rcases List.mem_append.1 member with early | late
      · exact UInt64.lt_trans (older q early) newer
      · rcases List.mem_cons.1 late with rfl | late
        · exact newer
        · exact UInt64.lt_of_le_of_lt (others q late) newer
    · intro all
      exact all p (by simp)

theorem publish {ps : List Published} {slot : Slot} (newest : IsNewest ps slot) (p : Published) :
    IsNewest (ps ++ [p]) (slot.publish p.cycle p.publishedAt p.board).1 := by
  cases accepts : slot.accepts p.cycle with
  | true =>
    rw [Slot.publish_accepted accepts]
    exact ⟨ps, [], rfl, (newest.accepts_iff p.cycle).1 accepts, by simp⟩
  | false =>
    rw [Slot.publish_refused accepts]
    cases slot with
    | none => cases accepts
    | some held =>
      obtain ⟨before, after, rfl, older, others⟩ := newest
      refine ⟨before, after ++ [p], by simp, older, ?_⟩
      intro q member
      rcases List.mem_append.1 member with late | new
      · exact others q late
      · rw [List.mem_singleton.1 new]
        simpa [Slot.accepts] using accepts

theorem eq_of_split {before after before' after' : List Published} {p q : Published}
    (split : before ++ p :: after = before' ++ q :: after')
    (older : ∀ r ∈ before', r.cycle < q.cycle) (others : ∀ r ∈ after, r.cycle ≤ p.cycle)
    (shorter : before.length ≤ before'.length) : p = q := by
  have start : before <+: before' ++ q :: after' := ⟨p :: after, split⟩
  obtain ⟨middle, rfl⟩ := List.prefix_of_prefix_length_le start (List.prefix_append _ _) shorter
  rw [List.append_assoc, List.append_cancel_left_eq] at split
  cases middle with
  | nil => exact (List.cons.inj split).1
  | cons r middle =>
    obtain ⟨rfl, rest⟩ := List.cons.inj split
    have newer : p.cycle < q.cycle := older p (by simp)
    have newest : q.cycle ≤ p.cycle := others q (by simp [rest])
    exact absurd (UInt64.lt_of_lt_of_le newer newest) (UInt64.lt_irrefl _)

theorem unique {ps : List Published} {slot slot' : Slot} (newest : IsNewest ps slot)
    (newest' : IsNewest ps slot') : slot = slot' := by
  match slot, slot' with
  | none, none => rfl
  | none, some q =>
    obtain ⟨before, after, split, -⟩ := newest'
    simp [show ps = [] from newest] at split
  | some p, none =>
    obtain ⟨before, after, split, -⟩ := newest
    simp [show ps = [] from newest'] at split
  | some p, some q =>
    obtain ⟨before, after, split, older, others⟩ := newest
    obtain ⟨before', after', split', older', others'⟩ := newest'
    have same := split.symm.trans split'
    rcases Nat.le_total before.length before'.length with shorter | shorter
    · rw [eq_of_split same older' others shorter]
    · rw [eq_of_split same.symm older others' shorter]

end IsNewest

/-! ## One call -/

theorem publications_concat (calls : List SlotCall) (call : SlotCall) :
    publications (calls ++ [call]) = publications calls ++ call.published?.toList := by
  cases published : call.published? <;> simp [publications, published]

namespace SlotSession

theorem slot_next (s : SlotSession) {ps : List Published} (newest : IsNewest ps s.slot)
    (call : SlotCall) : IsNewest (ps ++ call.published?.toList) (s.next call).slot := by
  cases call with
  | publish p => exact newest.publish p
  | latest => simpa [SlotCall.published?, next] using newest
  | latestCycle => simpa [SlotCall.published?, next] using newest
  | look place => simpa [SlotCall.published?, next] using newest
  | request moment method target => simpa [SlotCall.published?, next] using newest

theorem isNewest_after (calls : List SlotCall) :
    IsNewest (publications calls) (after {} calls).slot := by
  induction calls using List.reverseRecOn with
  | nil => rfl
  | append_singleton calls call ih =>
    rw [publications_concat, after_append]
    exact slot_next _ ih call

theorem kept_after (s : SlotSession) (calls : List SlotCall) :
    (s.after calls).kept = s.kept ++ (s.answers calls).filterMap SlotAnswer.snapshot? := by
  induction calls generalizing s with
  | nil => simp [after, answers]
  | cons call calls ih =>
    rw [show s.after (call :: calls) = (s.next call).after calls from rfl, ih]
    cases call <;>
      simp [answers, answer, next, List.filterMap_cons, SlotAnswer.snapshot?]

/-! ## What readers see -/

theorem member?_cycle_routeBody (slot : Slot) (moment : Api.Moment) (route : Api.Route) :
    (Api.routeBody slot moment route).member? "cycle" =
      some (Json.ofOption Api.count slot.cycle?) := by
  cases route with
  | fleet => rfl
  | health => rfl

theorem reply_get {target : String} {route : Api.Route}
    (known : Api.Route.ofPath? (Api.pathOf target) = some route) (slot : Slot)
    (moment : Api.Moment) :
    Api.reply slot moment "GET" target = Api.jsonReply 200 (Api.routeBody slot moment route) := by
  simp [Api.reply, known, Api.withoutBody]

theorem body_reply {slot : Slot} {moment : Api.Moment} {method target : String} {body : Json}
    (carried : (Api.reply slot moment method target).body = some body) :
    (∃ route, body = Api.routeBody slot moment route) ∨
      body = Api.notFoundBody moment (Api.pathOf target) := by
  unfold Api.reply Api.withoutBody at carried
  by_cases options : method = "OPTIONS"
  · simp [options, Api.optionsReply] at carried
  by_cases head : method = "HEAD"
  · simp [head] at carried
  cases known : Api.Route.ofPath? (Api.pathOf target) with
  | none =>
    simp only [options, head, known, if_false, Api.jsonReply, Option.some.injEq] at carried
    exact .inr carried.symm
  | some route =>
    by_cases get : method = "GET"
    · simp only [get, known, Api.jsonReply] at carried
      exact .inl ⟨route, (Option.some.inj carried).symm⟩
    · simp [options, head, known, get] at carried

theorem seen_answer {s : SlotSession} {call : SlotCall} {number : Option UInt64}
    (seen : (s.answer call).seen? = some number) : number = s.slot.cycle? := by
  cases call with
  | publish p => cases seen
  | latest => exact (Option.some.inj seen).symm
  | latestCycle => exact (Option.some.inj seen).symm
  | look place => cases seen
  | request moment method target =>
    cases carried : (Api.reply s.slot moment method target).body with
    | none => simp [answer, SlotAnswer.seen?, carried] at seen
    | some body =>
      simp only [answer, SlotAnswer.seen?, carried, Option.bind_some] at seen
      rcases body_reply carried with ⟨route, rfl⟩ | rfl
      · rw [member?_cycle_routeBody, Option.map_some, Api.unsigned?_count] at seen
        exact (Option.some.inj seen).symm
      · cases seen

theorem number_le_refl (a : Option UInt64) : a ≤ a := by cases a <;> simp

theorem number_le_trans {a b c : Option UInt64} (ab : a ≤ b) (bc : b ≤ c) : a ≤ c := by
  match a, b, c with
  | none, _, _ => exact Option.none_le
  | some _, none, _ => exact absurd ab Option.not_some_le_none
  | some _, some _, none => exact absurd bc Option.not_some_le_none
  | some _, some _, some _ =>
    exact Option.some_le_some.2 (UInt64.le_trans (Option.some_le_some.1 ab) (Option.some_le_some.1 bc))

theorem cycle?_next (s : SlotSession) (call : SlotCall) :
    s.slot.cycle? ≤ (s.next call).slot.cycle? := by
  cases call with
  | publish p =>
    cases accepts : s.slot.accepts p.cycle with
    | false => simpa only [next, Slot.publish_refused accepts] using number_le_refl _
    | true =>
      simp only [next, Slot.publish_accepted accepts]
      cases held : s.slot with
      | none => exact Option.none_le
      | some q =>
        have newer : q.cycle < p.cycle := by simpa [held, Slot.accepts] using accepts
        exact Option.some_le_some.2 (UInt64.le_of_lt newer)
  | latest => exact number_le_refl _
  | latestCycle => exact number_le_refl _
  | look place => exact number_le_refl _
  | request moment method target => exact number_le_refl _

theorem le_seen (s : SlotSession) (calls : List SlotCall) :
    ∀ number ∈ (s.answers calls).filterMap SlotAnswer.seen?, s.slot.cycle? ≤ number := by
  induction calls generalizing s with
  | nil => simp [answers]
  | cons call calls ih =>
    have later : ∀ number ∈ ((s.next call).answers calls).filterMap SlotAnswer.seen?,
        s.slot.cycle? ≤ number := fun number member =>
      number_le_trans (cycle?_next s call) (ih (s.next call) number member)
    rw [answers, List.filterMap_cons]
    cases seen : (s.answer call).seen? with
    | none => exact later
    | some number =>
      rw [List.forall_mem_cons]
      exact ⟨seen_answer seen ▸ number_le_refl _, later⟩

theorem pairwise_seen (s : SlotSession) (calls : List SlotCall) :
    ((s.answers calls).filterMap SlotAnswer.seen?).Pairwise (· ≤ ·) := by
  induction calls generalizing s with
  | nil => exact .nil
  | cons call calls ih =>
    rw [answers, List.filterMap_cons]
    cases seen : (s.answer call).seen? with
    | none => exact ih (s.next call)
    | some number =>
      refine .cons ?_ (ih (s.next call))
      intro other member
      rw [seen_answer seen]
      exact number_le_trans (cycle?_next s call) (le_seen _ calls other member)

/-! ## Without the reads -/

theorem publications_filter (calls : List SlotCall) :
    publications (calls.filter SlotCall.isPublish) = publications calls := by
  simp only [publications, List.filterMap_filter]
  congr 1
  funext call
  cases call <;> rfl

theorem answers_filter {s t : SlotSession} (same : t.slot = s.slot) (calls : List SlotCall) :
    t.answers (calls.filter SlotCall.isPublish) =
      (s.answers calls).filter SlotAnswer.isAccepted := by
  induction calls generalizing s t with
  | nil => rfl
  | cons call calls ih =>
    cases call with
    | publish p =>
      have accepted : t.answer (.publish p) = s.answer (.publish p) := by simp only [answer, same]
      have slots : (t.next (.publish p)).slot = (s.next (.publish p)).slot := by
        simp only [next, same]
      rw [answers, List.filter_cons_of_pos rfl, List.filter_cons_of_pos rfl, answers, accepted,
        ih slots]
    | latest => exact ih same
    | latestCycle => exact ih same
    | look place => exact ih same
    | request moment method target => exact ih same

end SlotSession

/-! ## The statement -/

/-- What a request is answered when `slot` is the newest publication: the body, where there is one, is
that of the slot as it is, and each of the two paths that can be read gives its own. -/
structure RequestAnswered (slot : Slot) (moment : Api.Moment) (method target : String)
    (r : Api.Reply) : Prop where
  shows : ∀ body, r.body = some body →
    body = (FleetReply.ofPublished slot moment.clock).json ∨
    body = HealthReply.json ⟨"ok", moment.now, Api.version, moment.uptime, slot.cycle?⟩ ∨
    body = Api.notFoundBody moment (Api.pathOf target)
  fleet : method = "GET" → Api.pathOf target = "/api/fleet" →
    r.status = 200 ∧ r.body = some (FleetReply.ofPublished slot moment.clock).json
  health : method = "GET" → Api.pathOf target = "/api/health" →
    r.status = 200 ∧
      r.body = some (HealthReply.json ⟨"ok", moment.now, Api.version, moment.uptime, slot.cycle?⟩)
  routed : method = "GET" → ∀ route, Api.Route.ofPath? (Api.pathOf target) = some route →
    r.status = 200 ∧ r.body = some (Api.routeBody slot moment route)

/-- What a call is answered after `before`, when `slot` is the newest publication. -/
def Answered (before : List SlotCall) (slot : Slot) : SlotCall → SlotAnswer → Prop
  | .publish p, answer =>
      ∃ yes, answer = .accepted yes ∧ (yes = true ↔ ∀ q ∈ publications before, q.cycle < p.cycle)
  | .latest, answer => answer = .snapshot slot
  | .latestCycle, answer => answer = .cycle (slot.map (·.cycle))
  | .look place, answer =>
      answer = .kept ((SlotSession.answers {} before).filterMap SlotAnswer.snapshot?)[place]?.join
  | .request moment method target, answer =>
      ∃ r, answer = .reply r ∧ RequestAnswered slot moment method target r

theorem requestAnswered_reply (slot : Slot) (moment : Api.Moment) (method target : String) :
    RequestAnswered slot moment method target (Api.reply slot moment method target) := by
  have routed : method = "GET" → ∀ route, Api.Route.ofPath? (Api.pathOf target) = some route →
      (Api.reply slot moment method target).status = 200 ∧
        (Api.reply slot moment method target).body = some (Api.routeBody slot moment route) := by
    rintro rfl route known
    rw [SlotSession.reply_get known]
    exact ⟨rfl, rfl⟩
  refine ⟨fun body carried => ?_, fun get path => routed get .fleet (path ▸ rfl),
    fun get path => routed get .health (path ▸ rfl), routed⟩
  rcases SlotSession.body_reply carried with ⟨route, rfl⟩ | rfl
  · cases route with
    | fleet => exact .inl rfl
    | health => exact .inr (.inl rfl)
  · exact .inr (.inr rfl)

theorem SlotSession.answered_after (before : List SlotCall) (call : SlotCall) :
    Answered before (after {} before).slot call ((after {} before).answer call) := by
  cases call with
  | publish p =>
    refine ⟨_, rfl, ?_⟩
    rw [← (isNewest_after before).accepts_iff, Slot.publish]
    cases (after {} before).slot.accepts p.cycle <;> simp
  | latest => rfl
  | latestCycle => rfl
  | look place => simp only [Answered, answer, kept_after, List.nil_append]
  | request moment method target => exact ⟨_, rfl, requestAnswered_reply ..⟩

/-- What calls in this order leave in the slot, and what each of them is answered. -/
structure SlotHistory (calls : List SlotCall) : Prop where
  held : ∀ slot, IsNewest (publications calls) slot ↔ slot = (SlotSession.after {} calls).slot
  answered : ∀ before call later, calls = before ++ call :: later →
    ∃ slot answer, IsNewest (publications before) slot ∧
      (SlotSession.answers {} calls)[before.length]? = some answer ∧ Answered before slot call answer
  forward : ((SlotSession.answers {} calls).filterMap SlotAnswer.seen?).Pairwise (· ≤ ·)
  answersAlone : SlotSession.answers {} (calls.filter SlotCall.isPublish) =
    (SlotSession.answers {} calls).filter SlotAnswer.isAccepted
  slotAlone : (SlotSession.after {} (calls.filter SlotCall.isPublish)).slot =
    (SlotSession.after {} calls).slot

theorem slot_history (calls : List SlotCall) : SlotHistory calls := by
  have newest := SlotSession.isNewest_after calls
  have silent := SlotSession.isNewest_after (calls.filter SlotCall.isPublish)
  rw [SlotSession.publications_filter] at silent
  refine ⟨fun slot => ⟨fun other => other.unique newest, fun same => same ▸ newest⟩, ?_,
    SlotSession.pairwise_seen {} calls, SlotSession.answers_filter rfl calls, silent.unique newest⟩
  rintro before call later rfl
  exact ⟨_, _, SlotSession.isNewest_after before, SlotSession.answers_getElem? {} before call later,
    SlotSession.answered_after before call⟩

/-- Number 2 comes a second time, 1 comes late and 7 overtakes; the snapshot of the first is kept, and
the fleet is asked for. -/
theorem slot_history_repeated :
    let first : Published := ⟨2, ⟨5, 0⟩, Board.empty⟩
    let newer : Published := ⟨7, ⟨8, 0⟩, ⟨[Card.down "A" "http://a"], [], false⟩⟩
    let moment : Api.Moment := ⟨⟨9, 0⟩, "12:00:01", 4⟩
    let before : List SlotCall :=
      [.publish first, .latest, .publish ⟨2, ⟨6, 0⟩, ⟨[], [], true⟩⟩, .publish ⟨1, ⟨7, 0⟩, Board.empty⟩,
        .publish newer]
    let calls := before ++ [.look 0, .request moment "GET" "/api/fleet?all", .latestCycle]
    (SlotSession.after {} before).slot = some newer ∧
    (SlotSession.answers {} calls)[5]? = some (.kept (some first)) ∧
    (∃ slot answer, IsNewest (publications before) slot ∧
      (SlotSession.answers {} calls)[before.length]? = some answer ∧
      Answered before slot (.look 0) answer) ∧
    ∃ r, (SlotSession.answers {} calls)[6]? = some (.reply r) ∧ r.status = 200 ∧
      r.body = some (FleetReply.ofPublished (some newer) moment.clock).json := by
  intro first newer moment before calls
  have history := slot_history calls
  obtain ⟨slot, _, newest, answered, r, rfl, asked⟩ := history.answered (before ++ [.look 0])
    (.request moment "GET" "/api/fleet?all") [.latestCycle] rfl
  have here : slot = some newer :=
    newest.unique (SlotSession.isNewest_after (before ++ [SlotCall.look 0]))
  refine ⟨rfl, rfl, history.answered before (.look 0) _ rfl, r, answered, ?_⟩
  rw [← here]
  exact asked.fleet rfl (by decide)

end FleetWatch
