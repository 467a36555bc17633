import FleetWatch.Proofs.Console.Controls
import FleetWatch.Proofs.Latency.Bands

/-!
# The columns of the console

A line without colours is its columns one behind the other, each with what stands before it, its whole
text and blanks.  As far as the texts fit, every column has the same place in all lines of a table, so
that a line can be cut back into its texts.

* `Column.extract_places`, `Column.drop_flatMap`: columns that fit are at their places.
* `Latency.length_text_le_iff`: the latencies whose text fits.
* `Render.columns_of_pieces`: every line of the text and its texts.
-/

namespace FleetWatch

/-! ## Columns -/

/-- A text of a line, what stands before it and the width that it is padded to. -/
structure Column where
  lead : String
  width : Nat
  text : String

namespace Column

def padded (c : Column) : List Char := (padRight c.width c.text).toList

def chars (c : Column) : List Char := c.lead.toList ++ c.padded

def Fits (c : Column) : Prop := c.text.length ≤ c.width

def extent (c : Column) : Nat := c.lead.length + c.width

/-- Where the texts of the columns begin and end, the first lead standing at `i`. -/
def places (i : Nat) : List Column → List (Nat × Nat)
  | [] => []
  | c :: cs => (i + c.lead.length, i + c.extent) :: places (i + c.extent) cs

theorem length_padded {c : Column} (fits : c.Fits) : c.padded.length = c.width := by
  rw [padded, String.length_toList, length_padRight, Nat.max_eq_left fits]

theorem length_chars {c : Column} (fits : c.Fits) : c.chars.length = c.extent := by
  rw [chars, List.length_append, length_padded fits, String.length_toList, extent]

theorem length_flatMap {cs : List Column} (fit : ∀ c ∈ cs, c.Fits) :
    (cs.flatMap chars).length = (cs.map extent).sum := by
  rw [List.length_flatMap, List.map_congr_left fun c member => length_chars (fit c member)]

theorem drop_flatMap {cs : List Column} (fit : ∀ c ∈ cs, c.Fits) (lead rest : List Char) :
    (cs.flatMap chars ++ (lead ++ rest)).drop ((cs.map extent).sum + lead.length) = rest := by
  rw [← length_flatMap fit, ← List.drop_drop, List.drop_left, List.drop_left]

theorem extract_chars {c : Column} (fits : c.Fits) (front rest : List Char) :
    (front ++ (c.chars ++ rest)).extract (front.length + c.lead.length) (front.length + c.extent) =
      c.padded := by
  have width : front.length + c.extent - (front.length + c.lead.length) = c.padded.length := by
    rw [length_padded fits, extent]
    omega
  rw [List.extract, width, ← List.drop_drop, List.drop_left, chars, List.append_assoc,
    ← String.length_toList, List.drop_left, List.take_left]

theorem extract_places {cs : List Column} (fit : ∀ c ∈ cs, c.Fits) (front rest : List Char) :
    (places front.length cs).map
        (fun place => (front ++ (cs.flatMap chars ++ rest)).extract place.1 place.2) =
      cs.map padded := by
  induction cs generalizing front with
  | nil => rfl
  | cons c cs ih =>
    have fits : c.Fits := fit c List.mem_cons_self
    have behind := ih (fun d member => fit d (List.mem_cons_of_mem c member)) (front ++ c.chars)
    rw [List.length_append, length_chars fits, List.append_assoc, ← List.append_assoc c.chars,
      ← List.flatMap_cons] at behind
    rw [places, List.map_cons, List.map_cons, behind, List.flatMap_cons, List.append_assoc,
      extract_chars fits]

end Column

/-! ## The width of a latency -/

namespace Latency

theorem hundredths_le_iff {x : Binary64} (nonneg : 0 ≤ x.toRat) :
    x.hundredths ≤ 999999 ↔ x.toRat < 9999.995 := by
  have positive : (0 : ℚ) < Binary64.unitsOfOne := Nat.cast_pos.2 Binary64.unitsOfOne_pos
  have value : x.toRat = (x.units : ℚ) / Binary64.unitsOfOne := by
    have unsigned := Binary64.natAbs_scaled x
    have scaled := (Binary64.toRat_nonneg_iff x).1 nonneg
    rw [Binary64.toRat_eq_scaled, ← unsigned, ← Int.cast_natCast x.scaled.natAbs, Int.natAbs_of_nonneg scaled]
  rw [Binary64.hundredths, roundHalfEven_le_iff _ Binary64.unitsOfOne_pos,
    or_iff_left fun tie => absurd tie.2 (by decide), value, div_lt_iff₀ positive,
    ← Nat.cast_lt (α := ℚ)]
  push_cast
  constructor <;> intro less <;> linarith

theorem length_text_of_isShown {x : Binary64} (shown : isShown x = true) :
    (text (some x)).length ≤ 9 ↔ x.hundredths ≤ 999999 := by
  rw [← String.length_toList, text_of_isShown shown]
  cases sign : x.isNegative with
  | true =>
    obtain rfl := (Binary64.isNegative_iff_of_nonneg ((isShown_iff x).1 shown).2).1 sign
    decide +kernel
  | false =>
    have length : (x.centesimal.text ++ ['m', 's']).length =
        (Nat.toDigits 10 (x.hundredths / 100)).length + 5 := by
      simp [Binary64.centesimal, Centesimal.text, Centesimal.ofHundredths, sign]
    have digits : (Nat.toDigits 10 (x.hundredths / 100)).length ≤ 4 ↔ x.hundredths / 100 < 10 ^ 4 :=
      Nat.length_toDigits_le_iff (by decide) (by decide)
    rw [length]
    omega

/-- Nine characters are enough below `9999.995`, and from there on they are not. -/
theorem length_text_le_iff (ms : Latency) :
    ms.text.length ≤ 9 ↔ ∀ x, ms = some x → x.isFinite = true → x.toRat < 9999.995 := by
  by_cases unknown : Unknown ms
  · have text : ms.text = "--" := (text_eq_unknown_iff ms).2 unknown
    rw [text]
    refine iff_of_true (by decide) ?_
    rintro x rfl finite
    rcases unknown with nan | infinite | below
    · rw [Binary64.not_isNaN_of_isFinite finite] at nan
      cases nan
    · rw [(Binary64.isFinite_eq_false_iff x).2 (.inr infinite)] at finite
      cases finite
    · exact below.trans (by norm_num)
  · cases ms with
    | none => exact absurd trivial unknown
    | some x =>
      have shown := (not_unknown_iff x).1 unknown
      obtain ⟨finite, nonneg⟩ := (isShown_iff x).1 shown
      rw [length_text_of_isShown shown, hundredths_le_iff nonneg]
      exact ⟨fun less y same _ => Option.some.inj same ▸ less, fun less => less x rfl finite⟩

end Latency

namespace Render

def cardColumns (card : Card) : List Column :=
  [⟨"  ", 12, card.name⟩, ⟨" ", 32, card.baseUrl⟩, ⟨" ", 4, healthLabel card.healthy⟩,
    ⟨"  uptime ", 10, uptimeText card.uptime⟩]

def rowColumns (row : Row) : List Column :=
  [⟨"  ", 28, row.title⟩, ⟨" ", 22, row.target⟩, ⟨" last ", 9, row.last.text⟩,
    ⟨"  p50 ", 9, row.p50.text⟩, ⟨"  p95 ", 9, row.p95.text⟩]

theorem toList_cardLine (card : Card) :
    (cardLine false card).toList =
      (cardColumns card).flatMap Column.chars ++ (" listen ".toList ++ (portText card.port).toList) := by
  delta cardLine
  simp only [painted_plain, String.toList_append, cardColumns, List.flatMap_cons, List.flatMap_nil,
    Column.chars, Column.padded, List.append_assoc, List.append_nil]

theorem toList_rowLine (row : Row) :
    (rowLine false row).toList =
      (rowColumns row).flatMap Column.chars ++ ("  ".toList ++ (samplesText row.samples).toList) := by
  delta rowLine
  simp only [pill, painted_plain, String.toList_append, rowColumns, List.flatMap_cons,
    List.flatMap_nil, Column.chars, Column.padded, List.append_assoc, List.append_nil]
  rfl

theorem places_cardColumns (card : Card) :
    Column.places 0 (cardColumns card) = [(2, 14), (15, 47), (48, 52), (61, 71)] := by
  simp only [cardColumns, Column.places, Column.extent]
  rfl

theorem places_rowColumns (row : Row) :
    Column.places 0 (rowColumns row) = [(2, 30), (31, 53), (59, 68), (74, 83), (89, 98)] := by
  simp only [rowColumns, Column.places, Column.extent]
  rfl

theorem extent_cardColumns (card : Card) : ((cardColumns card).map Column.extent).sum = 71 := by
  simp only [cardColumns, List.map_cons, List.map_nil, Column.extent]
  rfl

theorem extent_rowColumns (row : Row) : ((rowColumns row).map Column.extent).sum = 98 := by
  simp only [rowColumns, List.map_cons, List.map_nil, Column.extent]
  rfl

theorem fits_cardColumns {card : Card} (name : card.name.length ≤ 12)
    (baseUrl : card.baseUrl.length ≤ 32) (uptime : (uptimeText card.uptime).length ≤ 10) :
    ∀ c ∈ cardColumns card, c.Fits := by
  have badge : (healthLabel card.healthy).length ≤ 4 := by
    cases card.healthy <;> decide
  simp [cardColumns, Column.Fits, name, baseUrl, badge, uptime]

theorem fits_rowColumns {row : Row} (title : row.title.length ≤ 28) (target : row.target.length ≤ 22)
    (below : ∀ ms ∈ [row.last, row.p50, row.p95], ∀ x, ms = some x → x.isFinite = true →
      x.toRat < 9999.995) : ∀ c ∈ rowColumns row, c.Fits := by
  have short : ∀ ms ∈ [row.last, row.p50, row.p95], ms.text.length ≤ 9 := fun ms member =>
    (Latency.length_text_le_iff ms).2 (below ms member)
  simp only [List.forall_mem_cons, List.not_mem_nil, false_imp_iff, implies_true, and_true] at short
  simp [rowColumns, Column.Fits, title, target, short]

/-- A line that has the texts of the card at their places. -/
structure CardAt (line : List Char) (card : Card) : Prop where
  name : line.extract 2 14 = (padRight 12 card.name).toList
  baseUrl : line.extract 15 47 = (padRight 32 card.baseUrl).toList
  badge : line.extract 48 52 = (padRight 4 (healthLabel card.healthy)).toList
  uptime : line.extract 61 71 = (padRight 10 (uptimeText card.uptime)).toList
  port : line.drop 79 = (portText card.port).toList

/-- A line that has the texts of the row at their places. -/
structure RowAt (line : List Char) (row : Row) : Prop where
  title : line.extract 2 30 = (padRight 28 row.title).toList
  target : line.extract 31 53 = (padRight 22 row.target).toList
  last : line.extract 59 68 = (padRight 9 row.last.text).toList
  p50 : line.extract 74 83 = (padRight 9 row.p50.text).toList
  p95 : line.extract 89 98 = (padRight 9 row.p95.text).toList
  samples : line.drop 100 = (samplesText row.samples).toList

theorem cardAt_cardLine {card : Card} (name : card.name.length ≤ 12)
    (baseUrl : card.baseUrl.length ≤ 32) (uptime : (uptimeText card.uptime).length ≤ 10) :
    CardAt (cardLine false card).toList card := by
  have fit := fits_cardColumns name baseUrl uptime
  have texts := Column.extract_places fit [] (" listen ".toList ++ (portText card.port).toList)
  have rest := Column.drop_flatMap fit " listen ".toList (portText card.port).toList
  rw [List.nil_append, ← toList_cardLine, List.length_nil, places_cardColumns] at texts
  rw [← toList_cardLine, extent_cardColumns, (by decide : " listen ".toList.length = 8)] at rest
  simp only [cardColumns, Column.padded, List.map_cons, List.cons.injEq] at texts
  obtain ⟨first, second, third, fourth, -⟩ := texts
  exact ⟨first, second, third, fourth, rest⟩

theorem rowAt_rowLine {row : Row} (title : row.title.length ≤ 28) (target : row.target.length ≤ 22)
    (below : ∀ ms ∈ [row.last, row.p50, row.p95], ∀ x, ms = some x → x.isFinite = true →
      x.toRat < 9999.995) : RowAt (rowLine false row).toList row := by
  have fit := fits_rowColumns title target below
  have texts := Column.extract_places fit [] ("  ".toList ++ (samplesText row.samples).toList)
  have rest := Column.drop_flatMap fit "  ".toList (samplesText row.samples).toList
  rw [List.nil_append, ← toList_rowLine, List.length_nil, places_rowColumns] at texts
  rw [← toList_rowLine, extent_rowColumns, (by decide : "  ".toList.length = 2)] at rest
  simp only [rowColumns, Column.padded, List.map_cons, List.cons.injEq] at texts
  obtain ⟨first, second, third, fourth, fifth, -⟩ := texts
  exact ⟨first, second, third, fourth, fifth, rest⟩

/-! ## Lines -/

/-- No text of a card or a row goes over a line end. -/
structure Unbroken (board : Board) : Prop where
  cards : ∀ card ∈ board.cards, '\n' ∉ card.name.toList ∧ '\n' ∉ card.baseUrl.toList
  rows : ∀ row ∈ board.rows, '\n' ∉ row.title.toList ∧ '\n' ∉ row.target.toList

variable {clock : String} {board : Board}

theorem Unbroken.not_mem (unbroken : Unbroken board) :
    ∀ line ∈ (lines false clock board).tail, '\n' ∉ line.toList := by
  have control : IsControl '\n' := by decide
  intro line member
  simp only [lines, List.cons_append, List.tail_cons, List.mem_cons, List.mem_append] at member
  rcases member with rfl | member | rfl | member
  · decide
  · rcases mem_table member with rfl | member
    · decide
    · obtain ⟨card, listed, rfl⟩ := List.mem_map.1 member
      obtain ⟨name, baseUrl⟩ := unbroken.cards card listed
      rw [← mem_controls control, controls_cardLine, List.mem_append, mem_controls control,
        mem_controls control]
      exact not_or.2 ⟨name, baseUrl⟩
  · decide
  · rcases mem_table member with rfl | member
    · decide
    · obtain ⟨row, listed, rfl⟩ := List.mem_map.1 member
      obtain ⟨title, target⟩ := unbroken.rows row listed
      simp only [Row.title, Row.target, String.toList_append, List.mem_append, not_or] at title target
      rw [← mem_controls control, controls_rowLine, List.mem_append, List.mem_append,
        mem_controls control, mem_controls control, mem_controls control]
      exact not_or.2 ⟨not_or.2 ⟨title.1.1, title.2⟩, target.1.1⟩

/-- The clock alone may be cut; the lines below the heading are pieces of the text. -/
theorem Unbroken.pieces_getElem? (unbroken : Unbroken board) (clock : String) (k : Nat) :
    (pieces clock board)[clock.toList.count '\n' + (1 + k)]? =
      (lines false clock board)[1 + k]?.map String.toList := by
  have control : IsControl '\n' := by decide
  have parts : lines false clock board =
      heading false clock board.connected :: (lines false clock board).tail := rfl
  have above : (splitAtChar '\n' (heading false clock board.connected).toList).length =
      clock.toList.count '\n' + 1 := by
    rw [length_splitAtChar, ← count_controls control, controls_heading, count_controls control]
  rw [pieces_eq, parts, List.flatMap_cons, flatMap_pieces_of_not_mem unbroken.not_mem,
    ← Nat.add_assoc, ← above, List.getElem?_append_right (Nat.le_add_right _ _), Nat.add_sub_cancel_left,
    List.getElem?_map, Nat.add_comm 1 k, List.getElem?_cons_succ]

/-- Every card and every row has its line in the text, with its texts in full and only blanks behind
them.  Where they are short enough for their columns, each stands at the place of its column. -/
theorem columns_of_pieces (unbroken : Unbroken board) (clock : String) :
    let start := clock.toList.count '\n'
    (∀ (i : Nat) (card : Card), board.cards[i]? = some card → ∃ line,
      (pieces clock board)[start + (2 + i)]? = some line ∧
      line = (cardColumns card).flatMap Column.chars ++
        (" listen ".toList ++ (portText card.port).toList) ∧
      (card.name.length ≤ 12 → card.baseUrl.length ≤ 32 → (uptimeText card.uptime).length ≤ 10 →
        CardAt line card)) ∧
    ∀ (j : Nat) (row : Row), board.rows[j]? = some row → ∃ line,
      (pieces clock board)[start + (3 + max 1 board.cards.length + j)]? = some line ∧
      line = (rowColumns row).flatMap Column.chars ++
        ("  ".toList ++ (samplesText row.samples).toList) ∧
      (row.title.length ≤ 28 → row.target.length ≤ 22 →
        (∀ ms ∈ [row.last, row.p50, row.p95], ∀ x, ms = some x → x.isFinite = true →
          x.toRat < 9999.995) → RowAt line row) := by
  intro start
  refine ⟨fun i card shown => ⟨(cardLine false card).toList, ?_, toList_cardLine card,
    cardAt_cardLine⟩, fun j row shown => ⟨(rowLine false row).toList, ?_, toList_rowLine row,
    rowAt_rowLine⟩⟩
  · have line := lines_getElem?_card clock shown
    rw [Nat.add_assoc 1 1 i] at line ⊢
    rw [unbroken.pieces_getElem?, line]
    rfl
  · have line := lines_getElem?_row clock shown
    have index : 3 + max 1 board.cards.length + j = 1 + (2 + max 1 board.cards.length + j) := by omega
    rw [index] at line ⊢
    rw [unbroken.pieces_getElem?, line]
    rfl

/-- The slowest latency that fits, beside one that is missing and one that is not a number. -/
def slowRow : Row :=
  ⟨"Köln", "db", "h", some 5432, some (Binary64.ofRatio false 999999 100), none,
    some (Binary64.nan true), 3⟩

def slowBoard : Board := ⟨[Card.up "Köln" "http://k" (some 5) none], [slowRow], true⟩

theorem columns_of_pieces_slow :
    Unbroken slowBoard ∧ ∃ line, (pieces "12:00:01" slowBoard)[4]? = some line ∧
      RowAt line slowRow ∧ line.extract 59 68 = "9999.99ms".toList := by
  have unbroken : Unbroken slowBoard := ⟨by decide, by decide⟩
  obtain ⟨-, rows⟩ := columns_of_pieces unbroken "12:00:01"
  obtain ⟨line, piece, -, cut⟩ := rows 0 slowRow rfl
  have short : ∀ ms ∈ [slowRow.last, slowRow.p50, slowRow.p95], ms.text.length ≤ 9 := by
    decide +kernel
  have texts := cut (by decide) (by decide) fun ms member =>
    (Latency.length_text_le_iff ms).1 (short ms member)
  have padded : padRight 9 slowRow.last.text = "9999.99ms" := by decide +kernel
  exact ⟨unbroken, line, piece, texts, padded ▸ texts.last⟩

end Render
end FleetWatch
