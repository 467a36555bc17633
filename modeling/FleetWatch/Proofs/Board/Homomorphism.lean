import FleetWatch.Proofs.Board.Blocks
import Mathlib.Algebra.GroupWithZero.Nat
import Mathlib.Data.List.Forall2
import Mathlib.Data.List.ReduceOption
import Mathlib.Logic.Equiv.Basic

/-!
# Aggregation keeps the order of a fleet

A board is put together endpoint by endpoint, so boards of parts of a fleet can be put together to
the board of the whole, and endpoints in another order give cards and blocks of rows in that order.

* `aggregate_append`: the board of a fleet in two parts.
* `healthyCount_eq`, `length_rows`: what is counted on a board, by the outcomes.
* `rows_answered`: the rows are those of the answers alone.
* `block_rearranged`, `connected_rearranged`: a fleet in another order.
* `Board.aggregate_in_order`: all laws together.
-/

namespace FleetWatch

/-- A row shows a probe of the endpoint with this name, with all its fields. -/
structure Row.Copies (name : String) (row : Row) (p : Probe) : Prop where
  endpoint : row.endpoint = name
  label : row.label = p.label
  host : row.host = p.host
  port : row.port = p.port
  last : row.last = p.last
  p50 : row.p50 = p.p50
  p95 : row.p95 = p.p95
  samples : row.samples = p.samples

theorem Row.copies_ofProbe (name : String) (p : Probe) : Copies name (ofProbe name p) p :=
  ⟨rfl, rfl, rfl, rfl, rfl, rfl, rfl, rfl⟩

namespace Board

/-! ## Boards put together -/

/-- Cards and rows of one board behind those of another, connected if one of them is. -/
def append (b c : Board) : Board := ⟨b.cards ++ c.cards, b.rows ++ c.rows, b.connected || c.connected⟩

theorem empty_append (b : Board) : empty.append b = b := rfl

theorem append_empty (b : Board) : b.append empty = b := by
  simp [append, empty]

variable {endpoints : List Endpoint} {outcomes : List Outcome}

theorem aggregate_append (aligned : endpoints.length = outcomes.length)
    (endpoints' : List Endpoint) (outcomes' : List Outcome) :
    aggregate (endpoints ++ endpoints') (outcomes ++ outcomes') =
      (aggregate endpoints outcomes).append (aggregate endpoints' outcomes') := by
  rw [append, ← aggregate_append_rows endpoints' outcomes' aligned]
  simp [aggregate, List.zipWith_append aligned, List.any_append]

theorem aggregate_cons (e : Endpoint) (endpoints : List Endpoint) (o : Outcome)
    (outcomes : List Outcome) :
    aggregate (e :: endpoints) (o :: outcomes) =
      (aggregate [e] [o]).append (aggregate endpoints outcomes) :=
  @aggregate_append [e] [o] rfl endpoints outcomes

/-! ## What is counted -/

theorem zipWith_outcomes {α : Type} (aligned : endpoints.length = outcomes.length) (f : Outcome → α) :
    endpoints.zipWith (fun _ outcome => f outcome) outcomes = outcomes.map f := by
  have outcomes_zip : (endpoints.zip outcomes).map (·.2) = outcomes :=
    List.map_snd_zip (Nat.le_of_eq aligned.symm)
  conv_rhs => rw [← outcomes_zip, List.map_map]
  rw [← List.map_uncurry_zip_eq_zipWith]
  rfl

theorem health_aggregate (aligned : endpoints.length = outcomes.length) :
    (aggregate endpoints outcomes).health = outcomes.map Option.isSome := by
  simp only [health, aggregate, List.map_zipWith, healthy_card]
  exact zipWith_outcomes aligned Option.isSome

theorem healthyCount_eq (aligned : endpoints.length = outcomes.length) :
    (aggregate endpoints outcomes).healthyCount = outcomes.countP Option.isSome := by
  have counted : (aggregate endpoints outcomes).healthyCount =
      (aggregate endpoints outcomes).health.countP id := by
    rw [healthyCount, health, List.countP_map]
    rfl
  rw [counted, health_aggregate aligned, List.countP_map]
  rfl

theorem connected_iff_healthyCount (aligned : endpoints.length = outcomes.length) :
    (aggregate endpoints outcomes).connected = true ↔
      0 < (aggregate endpoints outcomes).healthyCount := by
  rw [healthyCount_eq aligned, List.countP_pos_iff]
  exact List.any_eq_true

def probeCount (outcome : Outcome) : Nat := outcome.elim 0 fun report => report.probes.length

theorem length_rowsOf (endpoint : Endpoint) (outcome : Outcome) :
    (rowsOf endpoint outcome).length = probeCount outcome := by
  cases outcome with
  | none => rfl
  | some report => exact List.length_map _

theorem sum_probeCount (outcomes : List Outcome) :
    (outcomes.map probeCount).sum =
      (outcomes.reduceOption.map fun report => report.probes.length).sum := by
  induction outcomes with
  | nil => rfl
  | cons outcome outcomes ih =>
    cases outcome with
    | none => simpa [probeCount] using ih
    | some report => simpa [probeCount] using ih

theorem length_rows (aligned : endpoints.length = outcomes.length) :
    (aggregate endpoints outcomes).rows.length =
      (outcomes.reduceOption.map fun report => report.probes.length).sum := by
  simp only [aggregate, List.length_flatten, List.map_zipWith, length_rowsOf]
  rw [zipWith_outcomes aligned, sum_probeCount]

/-! ## Answers alone -/

/-- The endpoints that have answered, with their reports. -/
def answered (endpoints : List Endpoint) (outcomes : List Outcome) : List (Endpoint × Outcome) :=
  (endpoints.zip outcomes).filter (·.2.isSome)

theorem rows_answered (endpoints : List Endpoint) (outcomes : List Outcome) :
    (aggregate ((answered endpoints outcomes).map (·.1))
      ((answered endpoints outcomes).map (·.2))).rows = (aggregate endpoints outcomes).rows := by
  induction endpoints generalizing outcomes with
  | nil => rfl
  | cons e endpoints ih =>
    cases outcomes with
    | nil => rfl
    | cons outcome outcomes =>
      rw [aggregate_cons e]
      cases outcome with
      | none => exact ih outcomes
      | some report =>
        have first : answered (e :: endpoints) (some report :: outcomes) =
            (e, some report) :: answered endpoints outcomes := rfl
        rw [first, List.map_cons, List.map_cons, aggregate_cons, append, append, ih outcomes]

/-! ## Cards and rows -/

theorem name_card (endpoint : Endpoint) (outcome : Outcome) :
    (card endpoint outcome).name = endpoint.name ∧
      (card endpoint outcome).baseUrl = endpoint.baseUrl := by
  cases outcome <;> exact ⟨rfl, rfl⟩

theorem card_of_down {endpoint : Endpoint} {outcome : Outcome}
    (down : (card endpoint outcome).healthy = false) :
    (card endpoint outcome).uptime = none ∧ (card endpoint outcome).port = none := by
  cases outcome with
  | none => exact ⟨rfl, rfl⟩
  | some report => cases down

theorem exists_of_mem_rows {row : Row} (member : row ∈ (aggregate endpoints outcomes).rows) :
    ∃ shown ∈ (aggregate endpoints outcomes).cards,
      shown.healthy = true ∧ row.endpoint = shown.name := by
  obtain ⟨rows, listed, member⟩ := List.mem_flatten.1 member
  obtain ⟨i, found⟩ := List.mem_iff_getElem?.1 listed
  obtain ⟨e, outcome, endpoint, polled, rfl⟩ := List.getElem?_zipWith_eq_some.1 found
  cases outcome with
  | none => cases member
  | some report =>
    obtain ⟨p, -, rfl⟩ := List.mem_map.1 member
    exact ⟨_, List.mem_of_getElem? (cards_getElem? endpoint polled), rfl, rfl⟩

theorem exists_of_mem_cards {shown : Card} (member : shown ∈ (aggregate endpoints outcomes).cards) :
    ∃ endpoint ∈ endpoints, ∃ outcome, shown = card endpoint outcome := by
  obtain ⟨i, found⟩ := List.mem_iff_getElem?.1 member
  obtain ⟨endpoint, outcome, listed, -, same⟩ := List.getElem?_zipWith_eq_some.1 found
  exact ⟨endpoint, List.mem_of_getElem? listed, outcome, same.symm⟩

/-! ## Another order -/

/-- The second list has at each place the item that the first has at the place `σ` gives. -/
structure Rearranged {α : Type} {n : Nat} (σ : Equiv.Perm (Fin n)) (xs ys : List α) : Prop where
  length : xs.length = n
  length' : ys.length = n
  here : ∀ i : Fin n, ys[i.val]? = xs[(σ i).val]?

variable {endpoints' : List Endpoint} {outcomes' : List Outcome} {n : Nat} {σ : Equiv.Perm (Fin n)}

theorem Rearranged.exists_both {α : Type} {xs ys : List α} (rearranged : Rearranged σ xs ys)
    (i : Fin n) : ∃ x, ys[i.val]? = some x ∧ xs[(σ i).val]? = some x := by
  have bound : i.val < ys.length := rearranged.length'.symm ▸ i.isLt
  have found := List.getElem?_eq_getElem bound
  exact ⟨_, found, (rearranged.here i).symm.trans found⟩

theorem cards_rearranged (members : Rearranged σ endpoints endpoints')
    (polled : Rearranged σ outcomes outcomes') :
    Rearranged σ (aggregate endpoints outcomes).cards (aggregate endpoints' outcomes').cards := by
  refine ⟨?_, ?_, fun i => ?_⟩
  · simp [aggregate, members.length, polled.length]
  · simp [aggregate, members.length', polled.length']
  · obtain ⟨e, there, here⟩ := members.exists_both i
    obtain ⟨o, there', here'⟩ := polled.exists_both i
    rw [cards_getElem? there there', cards_getElem? here here']

theorem block_rearranged (members : Rearranged σ endpoints endpoints')
    (polled : Rearranged σ outcomes outcomes') (i : Fin n) :
    block endpoints' outcomes' i = block endpoints outcomes (σ i) := by
  obtain ⟨e, there, here⟩ := members.exists_both i
  obtain ⟨o, there', here'⟩ := polled.exists_both i
  rw [block_eq (members.length'.trans polled.length'.symm) there there',
    block_eq (members.length.trans polled.length.symm) here here']

theorem rows_rearranged (members : Rearranged σ endpoints endpoints')
    (polled : Rearranged σ outcomes outcomes') :
    (aggregate endpoints' outcomes').rows =
      (List.finRange n).flatMap fun i => block endpoints outcomes (σ i) := by
  rw [rows_eq_blocks (members.length'.trans polled.length'.symm), members.length',
    ← List.map_coe_finRange_eq_range, List.flatMap_map]
  simp only [block_rearranged members polled]

theorem Rearranged.mem_iff {α : Type} {xs ys : List α} (rearranged : Rearranged σ xs ys) (x : α) :
    x ∈ ys ↔ x ∈ xs := by
  rw [List.mem_iff_getElem?, List.mem_iff_getElem?]
  constructor
  · rintro ⟨i, found⟩
    have bound : i < n := rearranged.length' ▸ (List.getElem?_eq_some_iff.1 found).1
    exact ⟨σ ⟨i, bound⟩, (rearranged.here ⟨i, bound⟩).symm.trans found⟩
  · rintro ⟨i, found⟩
    have bound : i < n := rearranged.length ▸ (List.getElem?_eq_some_iff.1 found).1
    refine ⟨σ.symm ⟨i, bound⟩, ?_⟩
    rw [rearranged.here, Equiv.apply_symm_apply]
    exact found

theorem connected_rearranged (polled : Rearranged σ outcomes outcomes') :
    (aggregate endpoints' outcomes').connected = (aggregate endpoints outcomes).connected := by
  rw [Bool.eq_iff_iff, aggregate, aggregate, List.any_eq_true, List.any_eq_true]
  simp only [polled.mem_iff]

/-! ## The statement -/

/-- A fleet in another order has its cards and blocks of rows in that order. -/
structure InOtherOrder {endpoints : List Endpoint} (σ : Equiv.Perm (Fin endpoints.length))
    (outcomes : List Outcome) (endpoints' : List Endpoint) (outcomes' : List Outcome) : Prop where
  cards : Rearranged σ (aggregate endpoints outcomes).cards (aggregate endpoints' outcomes').cards
  blocks : ∀ i : Fin endpoints.length,
    block endpoints' outcomes' i = block endpoints outcomes (σ i)
  rows : (aggregate endpoints' outcomes').rows =
    (List.finRange endpoints.length).flatMap fun i => block endpoints outcomes (σ i)
  connected : (aggregate endpoints' outcomes').connected = (aggregate endpoints outcomes).connected

/-- How a board is made up of endpoints and what polling them gave. -/
structure InFleetOrder (endpoints : List Endpoint) (outcomes : List Outcome) (board : Board) :
    Prop where
  append : ∀ endpoints' outcomes',
    aggregate (endpoints ++ endpoints') (outcomes ++ outcomes') =
      board.append (aggregate endpoints' outcomes')
  neutral : aggregate [] [] = empty ∧ empty.append board = board ∧ board.append empty = board
  cardEach : board.cards.length = endpoints.length
  cards : ∀ (i : Nat) (e : Endpoint), endpoints[i]? = some e →
    ∃ shown : Card, board.cards[i]? = some shown ∧ shown.name = e.name ∧ shown.baseUrl = e.baseUrl
  healthyCount : board.healthyCount = outcomes.countP Option.isSome
  connected : board.connected = true ↔ 0 < board.healthyCount
  rowCount : board.rows.length = (outcomes.reduceOption.map fun report => report.probes.length).sum
  answeredAlone : (aggregate ((answered endpoints outcomes).map (·.1))
    ((answered endpoints outcomes).map (·.2))).rows = board.rows
  down : ∀ shown ∈ board.cards, shown.healthy = false → shown.uptime = none ∧ shown.port = none
  origin : ∀ row ∈ board.rows,
    ∃ shown ∈ board.cards, shown.healthy = true ∧ row.endpoint = shown.name
  copies : ∀ (i : Nat) (e : Endpoint) (report : Report), endpoints[i]? = some e →
    outcomes[i]? = some (some report) →
    List.Forall₂ (Row.Copies e.name) (block endpoints outcomes i) report.probes
  blocks : board.rows = (List.range endpoints.length).flatMap (block endpoints outcomes)
  rearranged : ∀ (σ : Equiv.Perm (Fin endpoints.length)) endpoints' outcomes',
    Rearranged σ endpoints endpoints' → Rearranged σ outcomes outcomes' →
    InOtherOrder σ outcomes endpoints' outcomes'

theorem aggregate_in_order (aligned : endpoints.length = outcomes.length) :
    InFleetOrder endpoints outcomes (aggregate endpoints outcomes) where
  append := aggregate_append aligned
  neutral := ⟨rfl, empty_append _, append_empty _⟩
  cardEach := by simp [aggregate, aligned]
  cards i e endpoint := by
    have bound : i < outcomes.length := aligned ▸ (List.getElem?_eq_some_iff.1 endpoint).1
    obtain ⟨name, baseUrl⟩ := name_card e outcomes[i]
    exact ⟨_, cards_getElem? endpoint (List.getElem?_eq_getElem bound), name, baseUrl⟩
  healthyCount := healthyCount_eq aligned
  connected := connected_iff_healthyCount aligned
  rowCount := length_rows aligned
  answeredAlone := rows_answered endpoints outcomes
  down shown member down := by
    obtain ⟨e, -, o, rfl⟩ := exists_of_mem_cards member
    exact card_of_down down
  origin row member := exists_of_mem_rows member
  copies i e report endpoint outcome := by
    rw [block_eq aligned endpoint outcome, rowsOf, List.forall₂_map_left_iff, List.forall₂_same]
    exact fun p _ => Row.copies_ofProbe e.name p
  blocks := rows_eq_blocks aligned
  rearranged _ _ _ members polled :=
    ⟨cards_rearranged members polled, block_rearranged members polled,
      rows_rearranged members polled, connected_rearranged polled⟩

/-- Two nodes of one name and one that does not answer between them. -/
def threeEndpoints : List Endpoint := [⟨"A", "http://a"⟩, ⟨"B", "http://b"⟩, ⟨"A", "http://c"⟩]

def threeOutcomes : List Outcome :=
  [some ⟨some 5, none, [⟨"db", "h", none, default, default, default, 1⟩]⟩, none,
    some ⟨none, some 80, [⟨"web", "h", none, default, default, default, 2⟩,
      ⟨"db", "h", none, default, default, default, 3⟩]⟩]

theorem aggregate_in_order_three :
    threeEndpoints.length = threeOutcomes.length ∧
      (aggregate threeEndpoints threeOutcomes).rows.length = 3 ∧
      (aggregate threeEndpoints.reverse threeOutcomes.reverse).rows.map (·.samples) = [2, 3, 1] := by
  have aligned : threeEndpoints.length = threeOutcomes.length := rfl
  have inOrder := aggregate_in_order aligned
  let outer : Equiv.Perm (Fin 3) := Equiv.swap 0 2
  have members : Rearranged outer threeEndpoints threeEndpoints.reverse := ⟨rfl, rfl, by decide⟩
  have polled : Rearranged outer threeOutcomes threeOutcomes.reverse := ⟨rfl, rfl, by decide⟩
  refine ⟨aligned, inOrder.rowCount, ?_⟩
  rw [(inOrder.rearranged outer _ _ members polled).rows]
  decide

end Board
end FleetWatch
