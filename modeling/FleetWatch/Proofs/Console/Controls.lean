import FleetWatch.Proofs.Api.Page
import FleetWatch.Proofs.Board.Homomorphism
import FleetWatch.Proofs.Number.Digits
import FleetWatch.Proofs.Text.Split

/-!
# Control characters on the console

Without colours the console text adds no control character but the line ends between its lines.  What
else is in it has come with the names, the clock, or the labels and hosts that the nodes report, and
these last are put into their rows as they are.

* `controls_rowLine`, `controls_cardLine`: the control characters of a line are those of its texts.
* `Render.pieces_eq`: the text, cut at its line ends, is the lines, each cut at its own.
* `Render.text_kept_but_for_rows`: heading and cards stay whole, a row is cut at the line ends of
  its label and its host, and these two alone bring in other control characters.
-/

namespace FleetWatch

/-! ## Control characters -/

/-- The control characters of Unicode: below the space, and from DEL to U+009F. -/
def IsControl (c : Char) : Prop := c.toNat < 0x20 ∨ 0x7F ≤ c.toNat ∧ c.toNat ≤ 0x9F

instance : DecidablePred IsControl := fun c =>
  inferInstanceAs (Decidable (c.toNat < 0x20 ∨ 0x7F ≤ c.toNat ∧ c.toNat ≤ 0x9F))

def controls (s : String) : List Char := s.toList.filter (IsControl ·)

theorem mem_controls {c : Char} (control : IsControl c) (s : String) :
    c ∈ controls s ↔ c ∈ s.toList := by
  simp [controls, control]

theorem count_controls {c : Char} (control : IsControl c) (s : String) :
    (controls s).count c = s.toList.count c :=
  List.count_filter (decide_eq_true control)

theorem controls_eq_nil_of {s : String} (free : ∀ c ∈ s.toList, ¬ IsControl c) : controls s = [] :=
  List.filter_eq_nil_iff.2 fun c member => by simpa using free c member

@[simp]
theorem controls_append (s t : String) : controls (s ++ t) = controls s ++ controls t := by
  simp [controls]

@[simp]
theorem controls_padRight (width : Nat) (s : String) : controls (padRight width s) = controls s := by
  have spaces (n : Nat) : (List.replicate n ' ').filter (IsControl ·) = [] := by
    rw [List.filter_replicate_of_neg (by decide)]
  simp [padRight, controls, spaces]

theorem not_isControl_of_isDigit {c : Char} (digit : c.isDigit = true) : ¬ IsControl c := by
  have bounds : 48 ≤ c.toNat ∧ c.toNat ≤ 57 := Char.isDigit_iff_toNat.1 digit
  unfold IsControl
  omega

@[simp]
theorem controls_numeral (n : Nat) : controls n.repr = [] := by
  refine controls_eq_nil_of fun c member => not_isControl_of_isDigit ?_
  rw [Nat.toList_repr] at member
  exact isDigit_of_mem_toDigits member

/-! ## Lines of a board -/

theorem controls_optionText {α : Type} {f : α → String} (each : ∀ a, controls (f a) = [])
    (value : Option α) : controls (optionText f value) = [] := by
  cases value with
  | none => exact (by decide : controls unknownText = [])
  | some a => exact each a

theorem controls_uptimeText (uptime : Option UInt64) : controls (uptimeText uptime) = [] := by
  refine controls_optionText (fun n => ?_) uptime
  rw [controls_append, show toString n = n.toNat.repr from rfl, controls_numeral]
  decide

theorem controls_portText (port : Option UInt16) : controls (portText port) = [] := by
  refine controls_optionText (fun n => ?_) port
  rw [show toString n = n.toNat.repr from rfl, controls_numeral]

theorem controls_samplesText (samples : UInt64) : controls (samplesText samples) = [] := by
  rw [samplesText, controls_append, show toString samples = samples.toNat.repr from rfl,
    controls_numeral]
  decide

theorem controls_latency (ms : Latency) : controls ms.text = [] := by
  cases ms with
  | none => decide
  | some ms =>
    have sign : controls (if ms.isNegative then "-" else "") = [] := by
      split <;> decide
    have point : controls "." = [] := by decide
    have unit : controls "ms" = [] := by decide
    simp only [Latency.text]
    split
    · simp [twoDecimals, hundredthsText, sign, point, unit]
    · decide

namespace Render

theorem painted_plain (severity : Severity) (s : String) : painted false severity s = s := rfl

theorem controls_pill {name : String} (plain : controls name = []) (ms : Latency) :
    controls (pill false name ms) = [] := by
  have space : controls " " = [] := by decide
  simp only [pill, painted_plain, controls_append, controls_padRight, plain, space,
    controls_latency, List.append_nil]

-- The lines are opened by `delta`, as their equations are slow to derive.

theorem controls_heading (clock : String) (connected : Bool) :
    controls (heading false clock connected) = controls clock := by
  have texts : controls "FleetBoard  " = [] ∧ controls "  [" = [] ∧ controls "]" = [] ∧
      controls (connectivityLabel connected) = [] := by
    cases connected <;> decide
  delta heading
  simp only [painted_plain, controls_append, texts, List.nil_append, List.append_nil]

theorem controls_cardLine (card : Card) :
    controls (cardLine false card) = controls card.name ++ controls card.baseUrl := by
  have label : controls (healthLabel card.healthy) = [] := by
    cases card.healthy <;> decide
  have texts : controls "  " = [] ∧ controls " " = [] ∧ controls "  uptime " = [] ∧
      controls " listen " = [] := by decide
  delta cardLine
  simp only [painted_plain, controls_append, controls_padRight, label, texts,
    controls_uptimeText, controls_portText, List.nil_append, List.append_nil]

theorem controls_rowLine (row : Row) :
    controls (rowLine false row) =
      controls row.endpoint ++ controls row.label ++ controls row.host := by
  have texts : controls "  " = [] ∧ controls " " = [] ∧ controls " · " = [] ∧ controls ":" = [] := by
    decide
  have pills : controls (pill false "last" row.last) = [] ∧ controls (pill false "p50" row.p50) = [] ∧
      controls (pill false "p95" row.p95) = [] :=
    ⟨controls_pill (by decide) _, controls_pill (by decide) _, controls_pill (by decide) _⟩
  delta rowLine
  simp only [Row.title, Row.target, controls_append, controls_padRight, texts, pills,
    controls_portText, controls_samplesText, List.nil_append, List.append_nil]

end Render

/-! ## The text of a board -/

namespace Render

/-- What is not a node's own text on a board has no control character. -/
structure Plain (clock : String) (board : Board) : Prop where
  clock : controls clock = []
  cards : ∀ card ∈ board.cards, controls card.name = [] ∧ controls card.baseUrl = []
  rows : ∀ row ∈ board.rows, controls row.endpoint = []

theorem plain_aggregate {endpoints : List Endpoint} {clock : String}
    (names : ∀ e ∈ endpoints, controls e.name = [] ∧ controls e.baseUrl = [])
    (plainClock : controls clock = []) (outcomes : List Outcome) :
    Plain clock (Board.aggregate endpoints outcomes) := by
  have cards : ∀ card ∈ (Board.aggregate endpoints outcomes).cards,
      controls card.name = [] ∧ controls card.baseUrl = [] := fun card member => by
    obtain ⟨e, listed, outcome, rfl⟩ := Board.exists_of_mem_cards member
    obtain ⟨name, baseUrl⟩ := Board.name_card e outcome
    exact name ▸ baseUrl ▸ names e listed
  refine ⟨plainClock, cards, fun row member => ?_⟩
  obtain ⟨card, listed, -, endpoint⟩ := Board.exists_of_mem_rows member
  exact endpoint ▸ (cards card listed).1

def linesAbove (clock : String) (board : Board) : List String :=
  heading false clock board.connected ::
    "FLEET" :: table "  (no endpoints configured)" (board.cards.map (cardLine false)) ++ ["LATENCY"]

def rowLines (board : Board) : List String :=
  table "  (no probes reported)" (board.rows.map (rowLine false))

variable {clock : String} {board : Board}

theorem lines_eq (clock : String) (board : Board) :
    lines false clock board = linesAbove clock board ++ rowLines board := by
  simp [lines, linesAbove, rowLines]

theorem length_linesAbove (clock : String) (board : Board) :
    (linesAbove clock board).length = 3 + max 1 board.cards.length := by
  simp only [linesAbove, List.cons_append, List.length_cons, List.length_append, List.length_nil,
    Page.length_table, List.length_map]
  omega

theorem length_rowLines (board : Board) : (rowLines board).length = max 1 board.rows.length := by
  rw [rowLines, Page.length_table, List.length_map]

theorem mem_table {emptyLine line : String} {ls : List String} (member : line ∈ table emptyLine ls) :
    line = emptyLine ∨ line ∈ ls := by
  cases ls with
  | nil => exact .inl (List.mem_singleton.1 member)
  | cons l ls => exact .inr member

theorem Plain.controls_above (plain : Plain clock board) :
    ∀ line ∈ linesAbove clock board, controls line = [] := by
  intro line member
  simp only [linesAbove, List.mem_append, List.mem_cons, List.not_mem_nil, or_false] at member
  rcases member with (rfl | rfl | member) | rfl
  · rw [controls_heading, plain.clock]
  · decide
  · rcases mem_table member with rfl | member
    · decide
    · obtain ⟨card, listed, rfl⟩ := List.mem_map.1 member
      obtain ⟨name, baseUrl⟩ := plain.cards card listed
      rw [controls_cardLine, name, baseUrl, List.append_nil]
  · decide

theorem Plain.controls_row (plain : Plain clock board) {row : Row} (shown : row ∈ board.rows) :
    controls (rowLine false row) = controls row.label ++ controls row.host := by
  rw [controls_rowLine, plain.rows row shown, List.nil_append]

/-- The line ends that a node has put into its own row. -/
def lineEnds (row : Row) : Nat := row.label.toList.count '\n' + row.host.toList.count '\n'

theorem lineEnds_eq_zero_iff (row : Row) :
    lineEnds row = 0 ↔ '\n' ∉ row.label.toList ∧ '\n' ∉ row.host.toList := by
  simp [lineEnds, List.count_eq_zero]

theorem Plain.count_row (plain : Plain clock board) {row : Row} (shown : row ∈ board.rows) :
    (rowLine false row).toList.count '\n' = lineEnds row := by
  have control : IsControl '\n' := by decide
  rw [← count_controls control, plain.controls_row shown, List.count_append, count_controls control,
    count_controls control, lineEnds]

theorem Plain.count_rowLines (plain : Plain clock board) :
    ((rowLines board).map fun line => line.toList.count '\n').sum =
      (board.rows.map lineEnds).sum := by
  have counts : board.rows.map (fun row => (rowLine false row).toList.count '\n') =
      board.rows.map lineEnds := List.map_congr_left fun row => plain.count_row
  rw [rowLines, ← counts]
  cases board.rows with
  | nil => decide
  | cons row rows => simp [table, Function.comp_def]

/-! ## Its pieces -/

/-- The console text cut at every line end. -/
def pieces (clock : String) (board : Board) : List (List Char) :=
  splitAtChar '\n' (text false clock board).toList

theorem toList_text (clock : String) (board : Board) :
    (text false clock board).toList =
      ['\n'].intercalate ((lines false clock board).map String.toList) := by
  rw [text, String.toList_intercalate]
  rfl

theorem pieces_eq (clock : String) (board : Board) :
    pieces clock board =
      (lines false clock board).flatMap fun line => splitAtChar '\n' line.toList := by
  have some : (lines false clock board).map String.toList ≠ [] := by simp [lines]
  rw [pieces, toList_text, splitAtChar_intercalate '\n' some, List.flatMap_map]

theorem flatMap_pieces_of_not_mem {ls : List String} (whole : ∀ line ∈ ls, '\n' ∉ line.toList) :
    ls.flatMap (fun line => splitAtChar '\n' line.toList) = ls.map String.toList := by
  rw [List.map_eq_flatMap]
  exact List.flatMap_congr fun line member => splitAtChar_of_not_mem (whole line member)

theorem not_mem_of_controls {s : String} (plain : controls s = []) : '\n' ∉ s.toList := by
  rw [← mem_controls (by decide), plain]
  exact List.not_mem_nil

theorem Plain.pieces_eq (plain : Plain clock board) :
    pieces clock board = (linesAbove clock board).map String.toList ++
      (rowLines board).flatMap fun line => splitAtChar '\n' line.toList := by
  have above := flatMap_pieces_of_not_mem fun line member =>
    not_mem_of_controls (plain.controls_above line member)
  rw [Render.pieces_eq, lines_eq, List.flatMap_append, above]

theorem Plain.length_pieces (plain : Plain clock board) :
    (pieces clock board).length =
      (lines false clock board).length + (board.rows.map lineEnds).sum := by
  have split : ((rowLines board).map fun line => line.toList.count '\n' + 1).sum =
      ((rowLines board).map fun line => line.toList.count '\n').sum + (rowLines board).length := by
    induction rowLines board with
    | nil => rfl
    | cons line ls ih =>
      simp only [List.map_cons, List.sum_cons, List.length_cons, ih]
      omega
  rw [plain.pieces_eq, lines_eq, List.length_append, List.length_append, List.length_map,
    List.length_flatMap]
  simp only [length_splitAtChar, split, plain.count_rowLines]
  omega

theorem Plain.pieces_eq_lines_iff (plain : Plain clock board) :
    pieces clock board = (lines false clock board).map String.toList ↔
      ∀ row ∈ board.rows, '\n' ∉ row.label.toList ∧ '\n' ∉ row.host.toList := by
  simp only [← lineEnds_eq_zero_iff]
  constructor
  · intro same row shown
    have lengths := plain.length_pieces
    rw [same, List.length_map] at lengths
    have none : (board.rows.map lineEnds).sum = 0 := by omega
    exact List.sum_eq_zero_iff_forall_eq_nat.1 none _ (List.mem_map_of_mem shown)
  · intro none
    have rows : ∀ line ∈ rowLines board, '\n' ∉ line.toList := by
      intro line member
      rcases mem_table member with rfl | member
      · decide
      · obtain ⟨row, shown, rfl⟩ := List.mem_map.1 member
        rw [← List.count_eq_zero, plain.count_row shown, none row shown]
    rw [plain.pieces_eq, flatMap_pieces_of_not_mem rows, lines_eq, List.map_append]

theorem Plain.mem_lines_iff (plain : Plain clock board) {c : Char} (control : IsControl c) :
    (∃ line ∈ lines false clock board, c ∈ line.toList) ↔
      ∃ row ∈ board.rows, c ∈ row.label.toList ∨ c ∈ row.host.toList := by
  simp only [← mem_controls control, lines_eq, List.mem_append]
  constructor
  · rintro ⟨line, above | member, inside⟩
    · rw [plain.controls_above line above] at inside
      cases inside
    · rcases mem_table member with rfl | member
      · have none : controls "  (no probes reported)" = [] := by decide
        rw [none] at inside
        cases inside
      · obtain ⟨row, shown, rfl⟩ := List.mem_map.1 member
        rw [plain.controls_row shown, List.mem_append] at inside
        exact ⟨row, shown, inside⟩
  · rintro ⟨row, shown, inside⟩
    obtain ⟨i, found⟩ := List.mem_iff_getElem?.1 (List.mem_map_of_mem (f := rowLine false) shown)
    refine ⟨_, .inr (List.mem_of_getElem? (Page.table_getElem? _ found)), ?_⟩
    rw [plain.controls_row shown, List.mem_append]
    exact inside

theorem Plain.mem_text_iff (plain : Plain clock board) {c : Char} (control : IsControl c) :
    c ∈ (text false clock board).toList ↔
      c = '\n' ∨ ∃ row ∈ board.rows, c ∈ row.label.toList ∨ c ∈ row.host.toList := by
  by_cases same : c = '\n'
  · refine iff_of_true ?_ (.inl same)
    have several : (pieces clock board).length = (text false clock board).toList.count '\n' + 1 :=
      length_splitAtChar _ _
    have three := length_linesAbove clock board
    rw [plain.length_pieces, lines_eq, List.length_append, ← same] at several
    exact List.count_pos_iff.1 (by omega)
  · rw [toList_text, mem_intercalate_iff same, ← plain.mem_lines_iff control]
    simp [same]

/-! ## The statement -/

theorem take_lines (clock : String) (board : Board) :
    (lines false clock board).take (3 + max 1 board.cards.length) = linesAbove clock board := by
  rw [lines_eq, ← length_linesAbove clock board, List.take_left]

theorem drop_lines (clock : String) (board : Board) :
    (lines false clock board).drop (3 + max 1 board.cards.length) = rowLines board := by
  rw [lines_eq, ← length_linesAbove clock board, List.drop_left]

theorem lines_getElem?_card (clock : String) {i : Nat} {card : Card}
    (shown : board.cards[i]? = some card) :
    (lines false clock board)[2 + i]? = some (cardLine false card) := by
  let published : Published := ⟨0, default, board⟩
  have page : (FleetReply.ofPublished (some published) clock).page.cards[i]? =
      some (CardReply.ofCard card).shown := by
    simp [FleetReply.page, FleetReply.ofPublished, published, shown]
  rw [← Page.lines_ofPublished false published clock, Page.lines_card false page, Page.line_ofCard]

theorem lines_getElem?_row (clock : String) {j : Nat} {row : Row}
    (shown : board.rows[j]? = some row) :
    (lines false clock board)[3 + max 1 board.cards.length + j]? = some (rowLine false row) := by
  have line : (board.rows.map (rowLine false))[j]? = some (rowLine false row) := by
    rw [List.getElem?_map, shown]
    rfl
  rw [← List.getElem?_drop, drop_lines]
  exact Page.table_getElem? _ line

/-- The console text is the lines of its board, heading and cards as they are.  Behind them each row
stands in as many pieces as its label and its host have line ends, and these two are where all other
control characters come from. -/
theorem text_kept_but_for_rows {endpoints : List Endpoint} {clock : String}
    (names : ∀ e ∈ endpoints, controls e.name = [] ∧ controls e.baseUrl = [])
    (plainClock : controls clock = []) (outcomes : List Outcome) :
    let board := Board.aggregate endpoints outcomes
    let lines := lines false clock board
    lines.length = 3 + max 1 board.cards.length + max 1 board.rows.length ∧
    lines[0]? = some (heading false clock board.connected) ∧
    (∀ (i : Nat) (card : Card), board.cards[i]? = some card →
      lines[2 + i]? = some (cardLine false card)) ∧
    (∀ (j : Nat) (row : Row), board.rows[j]? = some row →
      lines[3 + max 1 board.cards.length + j]? = some (rowLine false row)) ∧
    pieces clock board = (lines.take (3 + max 1 board.cards.length)).map String.toList ++
      (lines.drop (3 + max 1 board.cards.length)).flatMap
        (fun line => splitAtChar '\n' line.toList) ∧
    (pieces clock board).length = lines.length + (board.rows.map lineEnds).sum ∧
    (pieces clock board = lines.map String.toList ↔
      ∀ row ∈ board.rows, '\n' ∉ row.label.toList ∧ '\n' ∉ row.host.toList) ∧
    ∀ c, IsControl c → (c ∈ (text false clock board).toList ↔
      c = '\n' ∨ ∃ row ∈ board.rows, c ∈ row.label.toList ∨ c ∈ row.host.toList) := by
  intro board lines
  have plain : Plain clock board := plain_aggregate names plainClock outcomes
  refine ⟨?_, rfl, fun i card => lines_getElem?_card clock, fun j row => lines_getElem?_row clock,
    ?_, plain.length_pieces, plain.pieces_eq_lines_iff, fun c => plain.mem_text_iff⟩
  · rw [show lines = linesAbove clock board ++ rowLines board from lines_eq clock board,
      List.length_append, length_linesAbove, length_rowLines]
  · rw [show lines.take _ = _ from take_lines clock board,
      show lines.drop _ = _ from drop_lines clock board]
    exact plain.pieces_eq

/-- A node called `A`. -/
def oneEndpoint : List Endpoint := [⟨"A", "http://a"⟩]

/-- The answer of a node with one probe, whose label has an escape sequence and a line end. -/
def forgingBody : Bytes :=
  Utf8.encode "\x7b\"probes\":[\x7b\"label\":\"\\u001b[2Jdb\\n  forged\",\"host\":\"h\"\x7d]\x7d"

def forgingReport : Report :=
  ⟨none, none, [⟨"\x1b[2Jdb\n  forged", "h", none, none, none, none, 0⟩]⟩

theorem text_kept_but_for_rows_forged :
    (∀ e ∈ oneEndpoint, controls e.name = [] ∧ controls e.baseUrl = []) ∧
      controls "12:00:01" = [] ∧
      (pieces "12:00:01" (Board.aggregate oneEndpoint [some forgingReport])).length = 6 := by
  have names : ∀ e ∈ oneEndpoint, controls e.name = [] ∧ controls e.baseUrl = [] := by decide
  have clock : controls "12:00:01" = [] := by decide
  obtain ⟨lines, -, -, -, -, pieces, -⟩ := text_kept_but_for_rows names clock [some forgingReport]
  refine ⟨names, clock, ?_⟩
  rw [pieces, lines]
  decide

theorem text_forged_by_label :
    Report.read forgingBody = .ok forgingReport ∧
      (∀ e ∈ oneEndpoint, controls e.name = [] ∧ controls e.baseUrl = []) ∧
      controls "12:00:01" = [] ∧
      '\x1b' ∈ (text false "12:00:01" (Board.aggregate oneEndpoint [some forgingReport])).toList ∧
      (pieces "12:00:01" (Board.aggregate oneEndpoint [some forgingReport])).length ≠
        3 + max 1 (Board.aggregate oneEndpoint [some forgingReport]).cards.length +
          max 1 (Board.aggregate oneEndpoint [some forgingReport]).rows.length := by
  have names : ∀ e ∈ oneEndpoint, controls e.name = [] ∧ controls e.baseUrl = [] := by decide
  have clock : controls "12:00:01" = [] := by decide
  have plain := plain_aggregate names clock [some forgingReport]
  refine ⟨by decide +kernel, names, clock, ?_, ?_⟩
  · exact (plain.mem_text_iff (by decide)).2 (.inr ⟨_, List.mem_singleton_self _, .inl (by decide)⟩)
  · rw [plain.length_pieces, lines_eq, List.length_append, length_linesAbove, length_rowLines]
    decide

end Render
end FleetWatch
