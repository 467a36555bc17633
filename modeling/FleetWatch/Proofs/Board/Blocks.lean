import FleetWatch.Fleet.Board

/-!
# The blocks of a board

The rows of a board are blocks, one for each position, in the order of the endpoints.  Where a block
begins depends on all positions before it, what stands in it on its own position alone.

* `block_eq`: the block of a position is that of its own endpoint and outcome.
* `rows_eq_blocks`: the rows are the blocks and nothing else.
-/

namespace FleetWatch.Board

def blockStart (endpoints : List Endpoint) (outcomes : List Outcome) (i : Nat) : Nat :=
  (aggregate (endpoints.take i) (outcomes.take i)).rows.length

/-- The rows between the start of a position and that of the next. -/
def block (endpoints : List Endpoint) (outcomes : List Outcome) (i : Nat) : List Row :=
  ((aggregate endpoints outcomes).rows.drop (blockStart endpoints outcomes i)).take
    (blockStart endpoints outcomes (i + 1) - blockStart endpoints outcomes i)

theorem healthy_card (endpoint : Endpoint) (outcome : Outcome) :
    (card endpoint outcome).healthy = outcome.isSome := by
  cases outcome <;> rfl

variable {endpoints : List Endpoint} {outcomes : List Outcome} {i : Nat} {e : Endpoint} {o : Outcome}

theorem cards_getElem? (endpoint : endpoints[i]? = some e) (outcome : outcomes[i]? = some o) :
    (aggregate endpoints outcomes).cards[i]? = some (card e o) := by
  simp [aggregate, List.getElem?_zipWith, endpoint, outcome]

theorem aggregate_append_rows (endpoints' : List Endpoint) (outcomes' : List Outcome)
    (aligned : endpoints.length = outcomes.length) :
    (aggregate (endpoints ++ endpoints') (outcomes ++ outcomes')).rows =
      (aggregate endpoints outcomes).rows ++ (aggregate endpoints' outcomes').rows := by
  simp [aggregate, List.zipWith_append aligned]

theorem take_succ_rows (endpoint : endpoints[i]? = some e) (outcome : outcomes[i]? = some o) :
    (aggregate (endpoints.take (i + 1)) (outcomes.take (i + 1))).rows =
      (aggregate (endpoints.take i) (outcomes.take i)).rows ++ rowsOf e o := by
  have bound := (List.getElem?_eq_some_iff.1 endpoint).1
  have bound' := (List.getElem?_eq_some_iff.1 outcome).1
  rw [List.take_add_one, List.take_add_one, endpoint, outcome,
    aggregate_append_rows _ _ (by rw [List.length_take, List.length_take]; omega)]
  simp [aggregate]

theorem rows_split (i : Nat) (aligned : endpoints.length = outcomes.length) :
    (aggregate endpoints outcomes).rows =
      (aggregate (endpoints.take i) (outcomes.take i)).rows ++
        (aggregate (endpoints.drop i) (outcomes.drop i)).rows := by
  have parts : (aggregate (endpoints.take i ++ endpoints.drop i)
      (outcomes.take i ++ outcomes.drop i)).rows = _ :=
    aggregate_append_rows _ _ (by rw [List.length_take, List.length_take, aligned])
  rwa [List.take_append_drop, List.take_append_drop] at parts

theorem block_eq (aligned : endpoints.length = outcomes.length)
    (endpoint : endpoints[i]? = some e) (outcome : outcomes[i]? = some o) :
    block endpoints outcomes i = rowsOf e o := by
  have next : blockStart endpoints outcomes (i + 1) =
      blockStart endpoints outcomes i + (rowsOf e o).length := by
    simp [blockStart, take_succ_rows endpoint outcome]
  have rows : (aggregate endpoints outcomes).rows =
      (aggregate (endpoints.take i) (outcomes.take i)).rows ++ (rowsOf e o ++
        (aggregate (endpoints.drop (i + 1)) (outcomes.drop (i + 1))).rows) := by
    rw [rows_split (i + 1) aligned, take_succ_rows endpoint outcome, List.append_assoc]
  rw [block, next, Nat.add_sub_cancel_left, rows, blockStart, List.drop_left, List.take_left]

theorem rows_eq_blocks (aligned : endpoints.length = outcomes.length) :
    (aggregate endpoints outcomes).rows =
      (List.range endpoints.length).flatMap (block endpoints outcomes) := by
  -- The rows of the first `n` positions, for every `n` up to the last.
  suffices first : ∀ n ≤ endpoints.length, (aggregate (endpoints.take n) (outcomes.take n)).rows =
      (List.range n).flatMap (block endpoints outcomes) by
    have all := first endpoints.length (Nat.le_refl _)
    rwa [List.take_length, aligned, List.take_length, ← aligned] at all
  intro n bound
  induction n with
  | zero => rfl
  | succ n ih =>
    have endpoint : endpoints[n]? = some endpoints[n] := List.getElem?_eq_getElem bound
    have outcome : outcomes[n]? = some outcomes[n] := List.getElem?_eq_getElem (by omega)
    rw [take_succ_rows endpoint outcome, ih (by omega), List.range_succ, List.flatMap_append,
      List.flatMap_singleton, block_eq aligned endpoint outcome]

end FleetWatch.Board
