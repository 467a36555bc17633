import FleetWatch.Fleet.Summary
import FleetWatch.Proofs.Board.Homomorphism
import FleetWatch.Proofs.Latency.Bands

/-!
# The summary of a board

The worst 95th percentile is the greatest number among those of the rows.  A NaN is no number and
hides none, and of zeros with different signs the first stays, so the order of the rows decides no
more than the sign of a zero.

* `Binary64.Greatest.foldl_max`: folding `max` over a list gives its greatest number.
* `Binary64.Greatest.sameValue`: there is but one value that is the greatest.
* `Summary.eq_of_line`: a line is that of one summary only.
* `Board.summary_tells`: what the line says.
-/

namespace FleetWatch

/-! ## The greatest number -/

namespace Binary64

theorem le_iff (x y : Binary64) :
    x.le y = true ↔ x.isNaN = false ∧ y.isNaN = false ∧ x.scaled ≤ y.scaled := by
  simp [le, and_assoc]

theorem le_refl {x : Binary64} (number : x.isNaN = false) : x.le x = true :=
  (le_iff x x).2 ⟨number, number, Int.le_refl _⟩

theorem le_trans {x y z : Binary64} (le : x.le y = true) (le' : y.le z = true) :
    x.le z = true := by
  obtain ⟨number, -, low⟩ := (le_iff x y).1 le
  obtain ⟨-, number', high⟩ := (le_iff y z).1 le'
  exact (le_iff x z).2 ⟨number, number', Int.le_trans low high⟩

/-- The greater of two is one of them, and no number among them is greater. -/
theorem max_cases (x y : Binary64) :
    (x.max y = x ∨ x.max y = y) ∧ (x.isNaN = false → x.le (x.max y) = true) ∧
      (y.isNaN = false → y.le (x.max y) = true) := by
  cases nan : x.isNaN with
  | true =>
    rw [max, if_pos nan]
    exact ⟨.inr rfl, nofun, le_refl⟩
  | false =>
    rw [max, if_neg (by simp [nan])]
    by_cases less : x.lt y = true
    · have both : (!x.isNaN && !y.isNaN && decide (x.scaled < y.scaled)) = true := less
      obtain ⟨number, lower⟩ : y.isNaN = false ∧ x.scaled < y.scaled := by
        simpa [nan] using both
      rw [if_pos less]
      exact ⟨.inr rfl, fun _ => (le_iff x y).2 ⟨nan, number, Int.le_of_lt lower⟩, le_refl⟩
    · have both : (!x.isNaN && !y.isNaN && decide (x.scaled < y.scaled)) ≠ true := less
      rw [if_neg less]
      refine ⟨.inl rfl, fun _ => le_refl nan, fun number => (le_iff y x).2 ⟨number, nan, ?_⟩⟩
      simpa [nan, number] using both

/-- A member of the list than which no number in it is greater; a NaN only if there is no number. -/
structure Greatest (xs : List Binary64) (w : Binary64) : Prop where
  member : w ∈ xs
  bound : ∀ x ∈ xs, x.isNaN = false → x.le w = true

theorem Greatest.foldl_max (x : Binary64) (xs : List Binary64) :
    Greatest (x :: xs) (xs.foldl max x) := by
  induction xs generalizing x with
  | nil => exact ⟨List.mem_singleton_self x, by simpa using le_refl⟩
  | cons y ys ih =>
    obtain ⟨choice, left, right⟩ := max_cases x y
    obtain ⟨member, bound⟩ := ih (x.max y)
    have above {z : Binary64} (number : z.isNaN = false) (le : z.le (x.max y) = true) :
        z.le (ys.foldl max (x.max y)) = true :=
      le_trans le (bound _ List.mem_cons_self ((le_iff _ _).1 le).2.1)
    refine ⟨?_, fun z among number => ?_⟩
    · rcases List.mem_cons.1 member with same | later
      · rw [List.foldl_cons, same]
        rcases choice with same' | same' <;> rw [same'] <;> simp
      · exact List.mem_cons_of_mem _ (List.mem_cons_of_mem _ later)
    · rcases List.mem_cons.1 among with rfl | among
      · exact above number (left number)
      · rcases List.mem_cons.1 among with rfl | later
        · exact above number (right number)
        · exact bound z (List.mem_cons_of_mem _ later) number

/-- Equal as numbers, as `-0.0` and `0.0` are, or neither of them a number. -/
def SameValue (x y : Binary64) : Prop :=
  x.isNaN = true ∧ y.isNaN = true ∨ x.le y = true ∧ y.le x = true

theorem Greatest.sameValue {xs ys : List Binary64} {v w : Binary64} (greatest : Greatest xs v)
    (greatest' : Greatest ys w) (same : ∀ x, x ∈ xs ↔ x ∈ ys) : SameValue v w := by
  have left := greatest'.bound v ((same v).1 greatest.member)
  have right := greatest.bound w ((same w).2 greatest'.member)
  cases nan : v.isNaN with
  | false =>
    have le := left nan
    exact .inr ⟨le, right ((le_iff v w).1 le).2.1⟩
  | true =>
    refine .inl ⟨nan, ?_⟩
    by_contra number
    have le := right (Bool.eq_false_iff.2 number)
    rw [((le_iff w v).1 le).2.1] at nan
    cases nan

theorem SameValue.toRat_eq {x y : Binary64} (same : SameValue x y) (number : x.isNaN = false) :
    x.toRat = y.toRat ∧ x.magnitudeBits = y.magnitudeBits := by
  rcases same with ⟨nan, -⟩ | ⟨le, ge⟩
  · rw [number] at nan
    cases nan
  · have scaled : x.scaled = y.scaled :=
      Int.le_antisymm ((le_iff x y).1 le).2.2 ((le_iff y x).1 ge).2.2
    refine ⟨by rw [toRat_eq_scaled, toRat_eq_scaled, scaled], unitsOfBits_strictMono.injective ?_⟩
    rw [← units, ← units, ← natAbs_scaled, ← natAbs_scaled, scaled]

end Binary64

namespace Latency

/-- Both absent, or of one value. -/
def SameValue : Latency → Latency → Prop
  | none, none => True
  | some x, some y => x.SameValue y
  | _, _ => False

theorem Shows.eq_of_text {v w : Latency} (same : v.text = w.text) {m m' : Centesimal}
    (shows : Shows v m) (shows' : Shows w m') : m = m' :=
  shows.unique ⟨shows'.1, same ▸ shows'.2⟩

/-- Latencies of one value are shown by the same number. -/
theorem SameValue.shown {v w : Latency} (same : SameValue v w) :
    (v.text = unknownText ↔ w.text = unknownText) ∧
      ∀ m m', Shows v m → Shows w m' → m.toRat = m'.toRat := by
  match v, w with
  | none, none => exact ⟨Iff.rfl, fun m m' shows shows' => by rw [shows.unique shows']⟩
  | some x, some y =>
    have unknown : Unknown (some x) ↔ Unknown (some y) := by
      rcases same with ⟨nan, nan'⟩ | same
      · exact iff_of_true (.inl nan) (.inl nan')
      · obtain ⟨value, bits⟩ :=
          Binary64.SameValue.toRat_eq (.inr same) ((Binary64.le_iff x y).1 same.1).1
        simp only [Unknown, Binary64.isNaN, Binary64.isInfinite, bits, value]
    rw [text_eq_unknown_iff, text_eq_unknown_iff]
    refine ⟨unknown, fun m m' shows shows' => ?_⟩
    by_cases none : Unknown (some x)
    · rw [Shows.eq_of_text _ shows shows']
      rw [(text_eq_unknown_iff _).2 none, (text_eq_unknown_iff _).2 (unknown.1 none)]
    · have shown := (not_unknown_iff x).1 none
      have shown' := (not_unknown_iff y).1 fun none' => none (unknown.2 none')
      have number := Binary64.not_isNaN_of_isFinite ((isShown_iff x).1 shown).1
      have value := (Binary64.SameValue.toRat_eq same number).1
      exact le_antisymm (numeral_mono shown shown' value.le shows shows')
        (numeral_mono shown' shown value.ge shows' shows)

end Latency

/-! ## Lines -/

/-- What a summary line says. -/
@[ext]
structure Summary where
  connected : Bool
  up : Nat
  cards : Nat
  probes : Nat
  worst : String

namespace Summary

def line (cycle : UInt64) (s : Summary) : String :=
  "cycle " ++ toString cycle ++ ": " ++ (connectivityLabel s.connected ++ " (" ++ toString s.up ++
    "/" ++ toString s.cards ++ " up, " ++ toString s.probes ++ " probes, worst p95 " ++ s.worst ++ ")")

theorem toList_line (cycle : UInt64) (s : Summary) :
    (s.line cycle).toList = "cycle ".toList ++ (Nat.toDigits 10 cycle.toNat ++ ':' :: ' ' ::
      ((connectivityLabel s.connected).toList ++ ' ' :: '(' :: (Nat.toDigits 10 s.up ++ '/' ::
        (Nat.toDigits 10 s.cards ++ ' ' :: ("up, ".toList ++ (Nat.toDigits 10 s.probes ++ ' ' ::
          ("probes, worst p95 ".toList ++ (s.worst.toList ++ [')'])))))))) := by
  have number : toString cycle = cycle.toNat.repr := rfl
  simp [line, String.toList_append, number]

theorem connectivityLabel_append_inj {b b' : Bool} {cs ds : List Char}
    (same : (connectivityLabel b).toList ++ cs = (connectivityLabel b').toList ++ ds) :
    b = b' ∧ cs = ds := by
  cases b <;> cases b'
  · exact ⟨rfl, List.append_cancel_left same⟩
  · exact absurd (List.cons.inj same).1 (by decide)
  · exact absurd (List.cons.inj same).1 (by decide)
  · exact ⟨rfl, List.append_cancel_left same⟩

theorem eq_of_line {cycle cycle' : UInt64} {s s' : Summary} (same : s.line cycle = s'.line cycle') :
    cycle = cycle' ∧ s = s' := by
  have texts := congrArg String.toList same
  rw [toList_line, toList_line] at texts
  obtain ⟨cycles, texts⟩ :=
    toDigits_append_inj (by decide) (by decide) (List.append_cancel_left texts)
  simp only [List.cons.injEq, true_and] at texts
  obtain ⟨connected, texts⟩ := connectivityLabel_append_inj texts
  simp only [List.cons.injEq, true_and] at texts
  obtain ⟨up, texts⟩ := toDigits_append_inj (by decide) (by decide) texts
  obtain ⟨cards, texts⟩ := toDigits_append_inj (by decide) (by decide) (List.cons.inj texts).2
  obtain ⟨probes, texts⟩ := toDigits_append_inj (by decide) (by decide)
    (List.append_cancel_left (List.cons.inj texts).2)
  have worst : s.worst.toList = s'.worst.toList :=
    List.append_cancel_right (List.append_cancel_left (List.cons.inj texts).2)
  exact ⟨UInt64.toNat_inj.1 cycles,
    Summary.ext connected up cards probes (String.toList_injective worst)⟩

end Summary

namespace Board

def figures (board : Board) : Summary :=
  ⟨board.connected, board.healthyCount, board.cards.length, board.rows.length, board.worstP95.text⟩

theorem message_ofBoard (cycle : UInt64) (board : Board) :
    (Log.Record.ofBoard cycle board).message = board.figures.line cycle := rfl

/-! ## The worst of a board -/

/-- The 95th percentiles that the rows have. -/
def p95s (board : Board) : List Binary64 := board.rows.filterMap (·.p95)

theorem mem_p95s {board : Board} {x : Binary64} :
    x ∈ board.p95s ↔ ∃ row ∈ board.rows, row.p95 = some x := List.mem_filterMap

theorem foldl_worse (w : Binary64) (xs : List Binary64) :
    xs.foldl Latency.worse (some w) = some (xs.foldl Binary64.max w) := by
  induction xs generalizing w with
  | nil => rfl
  | cons x xs ih => exact ih (w.max x)

theorem worstP95_cases (board : Board) :
    board.p95s = [] ∧ board.worstP95 = none ∨
      ∃ w, board.worstP95 = some w ∧ Binary64.Greatest board.p95s w := by
  have folded : board.worstP95 = board.p95s.foldl Latency.worse none := rfl
  cases percentiles : board.p95s with
  | nil => exact .inl ⟨rfl, by rw [folded, percentiles]; rfl⟩
  | cons x xs =>
    refine .inr ⟨_, ?_, .foldl_max x xs⟩
    rw [folded, percentiles]
    exact foldl_worse x xs

theorem exists_row_worstP95 (board : Board) :
    board.rows = [] ∧ board.worstP95 = none ∨ ∃ row ∈ board.rows, row.p95 = board.worstP95 := by
  rcases board.worstP95_cases with ⟨empty, none⟩ | ⟨w, worst, greatest⟩
  · rw [none]
    cases rows : board.rows with
    | nil => exact .inl ⟨rfl, rfl⟩
    | cons row others =>
      refine .inr ⟨row, List.mem_cons_self, Option.eq_none_iff_forall_ne_some.2 fun x given => ?_⟩
      have member : x ∈ board.p95s := mem_p95s.2 ⟨row, rows ▸ List.mem_cons_self, given⟩
      rw [empty] at member
      cases member
  · obtain ⟨row, member, given⟩ := mem_p95s.1 greatest.member
    exact .inr ⟨row, member, given.trans worst.symm⟩

theorem le_worstP95 {board : Board} {row : Row} (member : row ∈ board.rows) {x : Binary64}
    (given : row.p95 = some x) (number : x.isNaN = false) :
    ∃ w, board.worstP95 = some w ∧ x.le w = true := by
  have among : x ∈ board.p95s := mem_p95s.2 ⟨row, member, given⟩
  rcases board.worstP95_cases with ⟨empty, -⟩ | ⟨w, worst, greatest⟩
  · rw [empty] at among
    cases among
  · exact ⟨w, worst, greatest.bound x among number⟩

theorem worstP95_text_iff (board : Board) :
    board.worstP95.text = unknownText ↔
      (∀ row ∈ board.rows, ∀ x, row.p95 = some x → x.isNaN = true) ∨
        ∃ w, board.worstP95 = some w ∧ w.isNaN = false ∧ (w.toRat < 0 ∨ w.isInfinite = true) := by
  rw [Latency.text_eq_unknown_iff]
  constructor
  · intro unknown
    by_cases none : ∀ row ∈ board.rows, ∀ x, row.p95 = some x → x.isNaN = true
    · exact .inl none
    · push Not at none
      obtain ⟨row, member, x, given, number⟩ := none
      obtain ⟨w, worst, le⟩ := le_worstP95 member given (Bool.eq_false_iff.2 number)
      have number' := ((Binary64.le_iff x w).1 le).2.1
      rw [worst] at unknown
      rcases unknown with nan | infinite | below
      · rw [number'] at nan
        cases nan
      · exact .inr ⟨w, worst, number', .inr infinite⟩
      · exact .inr ⟨w, worst, number', .inl below⟩
  · rintro (none | ⟨w, worst, -, below | infinite⟩)
    · rcases board.worstP95_cases with ⟨-, worst⟩ | ⟨w, worst, greatest⟩
      · rw [worst]
        trivial
      · obtain ⟨row, member, given⟩ := mem_p95s.1 greatest.member
        rw [worst]
        exact .inl (none row member w given)
    · rw [worst]
      exact .inr (.inr below)
    · rw [worst]
      exact .inr (.inl infinite)

theorem sameValue_worstP95 {board other : Board} (same : other.rows.Perm board.rows) :
    Latency.SameValue other.worstP95 board.worstP95 := by
  have members : ∀ x, x ∈ other.p95s ↔ x ∈ board.p95s := fun x => by
    simp only [mem_p95s, same.mem_iff]
  rcases other.worstP95_cases with ⟨empty, worst⟩ | ⟨w, worst, greatest⟩
  · rcases board.worstP95_cases with ⟨-, worst'⟩ | ⟨w', -, greatest'⟩
    · rw [worst, worst']
      trivial
    · have absent := (members w').2 greatest'.member
      rw [empty] at absent
      cases absent
  · rcases board.worstP95_cases with ⟨empty', -⟩ | ⟨w', worst', greatest'⟩
    · have absent := (members w).1 greatest.member
      rw [empty'] at absent
      cases absent
    · rw [worst, worst']
      exact greatest.sameValue greatest' members

/-! ## The counts of a board -/

theorem rows_eq_nil_of_healthyCount {endpoints : List Endpoint} {outcomes : List Outcome}
    (none : (aggregate endpoints outcomes).healthyCount = 0) :
    (aggregate endpoints outcomes).rows = [] := by
  refine List.eq_nil_iff_forall_not_mem.2 fun row member => ?_
  obtain ⟨shown, listed, healthy, -⟩ := exists_of_mem_rows member
  exact List.countP_eq_zero.1 none shown listed healthy

/-! ## The statement -/

/-- The line is that of these figures only.  The worst of a board is that of one of its rows, and no
number among them is greater; it is not shown if there is no number or if the greatest one is below
zero or infinite.  Rows in another order show the same number.  A board that was put together from
outcomes is connected if an endpoint is up, and without one it has no rows. -/
theorem summary_tells (board : Board) (cycle : UInt64) :
    ((Log.Record.ofBoard cycle board).message = board.figures.line cycle ∧
      ∀ cycle' f, (Log.Record.ofBoard cycle board).message = Summary.line cycle' f →
        cycle' = cycle ∧ f = board.figures) ∧
    (board.rows = [] ∧ board.worstP95 = none ∨ ∃ row ∈ board.rows, row.p95 = board.worstP95) ∧
    (∀ row ∈ board.rows, ∀ x, row.p95 = some x → x.isNaN = false →
      ∃ w, board.worstP95 = some w ∧ x.le w = true) ∧
    (board.figures.worst = "--" ↔
      (∀ row ∈ board.rows, ∀ x, row.p95 = some x → x.isNaN = true) ∨
        ∃ w, board.worstP95 = some w ∧ w.isNaN = false ∧ (w.toRat < 0 ∨ w.isInfinite = true)) ∧
    (∀ other : Board, other.rows.Perm board.rows →
      Latency.SameValue other.worstP95 board.worstP95 ∧
      (other.figures.worst = "--" ↔ board.figures.worst = "--") ∧
      ∀ m m', Latency.Shows other.worstP95 m → Latency.Shows board.worstP95 m' →
        m.toRat = m'.toRat) ∧
    ∀ endpoints outcomes, endpoints.length = outcomes.length →
      board = aggregate endpoints outcomes →
      (board.figures.connected = true ↔ 0 < board.figures.up) ∧
      board.figures.up ≤ board.figures.cards ∧
      (board.figures.up = 0 → board.figures.probes = 0) := by
  refine ⟨⟨message_ofBoard cycle board, fun cycle' f line => ?_⟩, board.exists_row_worstP95,
    fun row member x given number => le_worstP95 member given number, board.worstP95_text_iff,
    fun other same => ?_, ?_⟩
  · obtain ⟨cycles, summary⟩ := Summary.eq_of_line ((message_ofBoard cycle board).symm.trans line)
    exact ⟨cycles.symm, summary.symm⟩
  · have value := sameValue_worstP95 same
    exact ⟨value, value.shown⟩
  · rintro endpoints outcomes aligned rfl
    exact ⟨connected_iff_healthyCount aligned, List.countP_le_length,
      fun none => List.length_eq_zero_iff.2 (rows_eq_nil_of_healthyCount none)⟩

/-- The p95s of one node: zeros of both signs, and a NaN at the end. -/
def zeroOutcomes : List Outcome :=
  [some ⟨none, none,
    [⟨"db", "h", none, none, none, some Binary64.zero.neg, 1⟩,
      ⟨"db", "h", none, none, none, none, 0⟩,
      ⟨"web", "h", none, none, none, some Binary64.zero, 2⟩,
      ⟨"dns", "h", none, none, none, some (Binary64.nan false), 3⟩]⟩]

def zeroBoard : Board := aggregate [⟨"A", "http://a"⟩] zeroOutcomes

/-- Backwards the worst is the other zero, which is shown without a sign. -/
theorem summary_tells_zeros :
    let other := { zeroBoard with rows := zeroBoard.rows.reverse }
    other.rows.Perm zeroBoard.rows ∧ other.worstP95 ≠ zeroBoard.worstP95 ∧
      Latency.SameValue other.worstP95 zeroBoard.worstP95 ∧
      (∃ w, zeroBoard.worstP95 = some w ∧ Binary64.zero.le w = true) ∧
      zeroBoard.figures.worst ≠ "--" ∧ other.figures.worst ≠ "--" ∧
      0 < zeroBoard.figures.up ∧ zeroBoard.figures.up ≤ zeroBoard.figures.cards := by
  intro other
  have same : other.rows.Perm zeroBoard.rows := List.reverse_perm _
  obtain ⟨-, -, above, -, permuted, counts⟩ := summary_tells zeroBoard 7
  obtain ⟨value, unknown, -⟩ := permuted other same
  obtain ⟨connected, up, -⟩ := counts [⟨"A", "http://a"⟩] zeroOutcomes rfl rfl
  have shown : zeroBoard.figures.worst ≠ "--" := by decide +kernel
  exact ⟨same, by decide +kernel, value,
    above _ (List.getElem_mem (by decide : 2 < zeroBoard.rows.length)) Binary64.zero rfl
      (by decide),
    shown, fun none => shown (unknown.1 none), connected.1 (by decide), up⟩

end Board
end FleetWatch
