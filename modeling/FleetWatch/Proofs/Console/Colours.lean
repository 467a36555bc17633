import FleetWatch.Proofs.Console.Controls

/-!
# Colours on the console

Colours are escape sequences between the characters of a text.  The console text without them is the
text that is written when no colours are asked for, and they stand around each painted text, an
opening and a reset.

* `Sgr.tokens`: a text as characters and escape sequences.
* `Painted.append`, `Painted.paint`: how a coloured text and its plain form grow together.
* `Render.colours_keep_text`: the whole console text.
-/

namespace FleetWatch

/-! ## Escape sequences -/

namespace Sgr

/-- A character of a text, or an escape sequence by its parameters. -/
inductive Token where
  | char (c : Char)
  | sequence (parameters : List Char)
deriving DecidableEq, Repr

def Token.char? : Token → Option Char
  | char c => some c
  | sequence _ => none

def Token.parameters? : Token → Option String
  | char _ => none
  | sequence parameters => some (String.ofList parameters)

def isParameter (c : Char) : Bool := c.isDigit || c = ';'

/-- The parameters of an escape sequence behind its `ESC [`, and the text behind its `m`. -/
def parameters? (cs : List Char) : Option (List Char × List Char) :=
  match cs.dropWhile isParameter with
  | 'm' :: rest => some (cs.takeWhile isParameter, rest)
  | _ => none

theorem length_of_parameters? {cs parameters rest : List Char}
    (found : parameters? cs = some (parameters, rest)) : rest.length < cs.length := by
  simp only [parameters?] at found
  split at found
  next rest' remaining =>
    cases found
    have suffix := (List.dropWhile_suffix isParameter (l := cs)).length_le
    rw [remaining, List.length_cons] at suffix
    exact suffix
  · cases found

/-- A text cut into its characters and its escape sequences `ESC [ parameters m`. -/
def tokens : List Char → List Token
  | '\x1b' :: '[' :: cs =>
    match _found : parameters? cs with
    | some (parameters, rest) => .sequence parameters :: tokens rest
    | none => .char '\x1b' :: tokens ('[' :: cs)
  | c :: cs => .char c :: tokens cs
  | [] => []
termination_by cs => cs.length
decreasing_by
  · have := length_of_parameters? _found
    simp only [List.length_cons]
    omega
  · simp
  · simp

/-- The text without its escape sequences. -/
def strip (s : String) : String := String.ofList ((tokens s.toList).filterMap Token.char?)

/-- The parameters of the escape sequences, in order. -/
def sequences (s : String) : List String := (tokens s.toList).filterMap Token.parameters?

theorem tokens_cons {c : Char} (plain : c ≠ '\x1b') (cs : List Char) :
    tokens (c :: cs) = .char c :: tokens cs := by
  rw [tokens]
  intro cs' escape
  exact absurd escape plain

theorem tokens_sequence {parameters : List Char} (digits : parameters.all isParameter = true)
    (rest : List Char) :
    tokens ('\x1b' :: '[' :: (parameters ++ 'm' :: rest)) = .sequence parameters :: tokens rest := by
  have found : parameters? (parameters ++ 'm' :: rest) = some (parameters, rest) := by
    have last : isParameter 'm' = false := by decide
    rw [List.all_eq_true] at digits
    rw [parameters?, List.dropWhile_append_of_pos digits, List.takeWhile_append_of_pos digits,
      List.dropWhile_cons_of_neg (by simp [last]), List.takeWhile_cons_of_neg (by simp [last]),
      List.append_nil]
    rfl
  rw [tokens]
  split
  next parameters' rest' found' =>
    rw [found] at found'
    cases found'
    rfl
  next none => simp [found] at none

end Sgr

/-! ## Coloured and plain -/

/-- The text has no escape character. -/
def EscapeFree (s : String) : Prop := '\x1b' ∉ s.toList

instance : DecidablePred EscapeFree := fun s => inferInstanceAs (Decidable ('\x1b' ∉ s.toList))

theorem escapeFree_of_controls {s : String} (plain : controls s = []) : EscapeFree s := by
  rw [EscapeFree, ← mem_controls (by decide), plain]
  exact List.not_mem_nil

theorem EscapeFree.append {s t : String} (free : EscapeFree s) (free' : EscapeFree t) :
    EscapeFree (s ++ t) := by
  rw [EscapeFree, String.toList_append, List.mem_append]
  exact not_or.2 ⟨free, free'⟩

theorem EscapeFree.padRight {s : String} (free : EscapeFree s) (width : Nat) :
    EscapeFree (padRight width s) := by
  rwa [EscapeFree, ← mem_controls (by decide), controls_padRight, mem_controls (by decide)]

/-- The coloured text is the plain one with escape sequences of these parameters in it. -/
def Painted (coloured plain : String) (marks : List String) : Prop :=
  ∃ ts, (∀ rest, Sgr.tokens (coloured.toList ++ rest) = ts ++ Sgr.tokens rest) ∧
    ts.filterMap Sgr.Token.char? = plain.toList ∧ ts.filterMap Sgr.Token.parameters? = marks

namespace Painted

theorem plain {s : String} (free : EscapeFree s) : Painted s s [] := by
  refine ⟨s.toList.map .char, fun rest => ?_, ?_, ?_⟩
  · rw [EscapeFree] at free
    generalize s.toList = cs at free
    induction cs with
    | nil => rfl
    | cons c cs ih =>
      rw [List.cons_append, Sgr.tokens_cons (List.ne_of_not_mem_cons free).symm,
        ih (List.not_mem_of_not_mem_cons free)]
      rfl
  · rw [List.filterMap_map]
    exact List.filterMap_some
  · rw [List.filterMap_map]
    exact List.filterMap_eq_nil_iff.2 fun c member => rfl

theorem append {c c' p p' : String} {ms ms' : List String} (left : Painted c p ms)
    (right : Painted c' p' ms') : Painted (c ++ c') (p ++ p') (ms ++ ms') := by
  obtain ⟨ts, scanned, chars, rfl⟩ := left
  obtain ⟨ts', scanned', chars', rfl⟩ := right
  refine ⟨ts ++ ts', fun rest => ?_, ?_, List.filterMap_append⟩
  · rw [String.toList_append, List.append_assoc, scanned, scanned', List.append_assoc]
  · rw [List.filterMap_append, chars, chars', String.toList_append]

theorem sequence {parameters : String}
    (digits : parameters.toList.all Sgr.isParameter = true) :
    Painted ("\x1b[" ++ parameters ++ "m") "" [parameters] := by
  refine ⟨[.sequence parameters.toList], fun rest => ?_, rfl, ?_⟩
  · have spelled : ("\x1b[" ++ parameters ++ "m").toList ++ rest =
        '\x1b' :: '[' :: (parameters.toList ++ 'm' :: rest) := by
      simp [String.toList_append]
    rw [spelled, Sgr.tokens_sequence digits]
    rfl
  · simp [Sgr.Token.parameters?]

theorem exists_tokens_eq {c p : String} {ms : List String} (painted : Painted c p ms) :
    ∃ ts, Sgr.tokens c.toList = ts ∧ ts.filterMap Sgr.Token.char? = p.toList ∧
      ts.filterMap Sgr.Token.parameters? = ms := by
  obtain ⟨ts, scanned, chars, marks⟩ := painted
  have whole := scanned []
  rw [List.append_nil, Sgr.tokens, List.append_nil] at whole
  exact ⟨ts, whole, chars, marks⟩

theorem strip_eq {c p : String} {ms : List String} (painted : Painted c p ms) :
    Sgr.strip c = p := by
  obtain ⟨ts, whole, chars, -⟩ := painted.exists_tokens_eq
  rw [Sgr.strip, whole, chars, String.ofList_toList]

theorem sequences_eq {c p : String} {ms : List String} (painted : Painted c p ms) :
    Sgr.sequences c = ms := by
  obtain ⟨ts, whole, -, marks⟩ := painted.exists_tokens_eq
  rw [Sgr.sequences, whole, marks]

end Painted

/-! ## Severities -/

/-- The parameters that open the colour of a severity. -/
def Severity.opening : Severity → String
  | ok => "92"
  | good => "92"
  | warn => "93"
  | bad => "91"

/-- An opening and the reset. -/
def Severity.marks (severity : Severity) : List String := [severity.opening, "0"]

theorem Painted.paint {s : String} (free : EscapeFree s) (severity : Severity) :
    Painted (Render.painted true severity s) s severity.marks := by
  have digits : severity.opening.toList.all Sgr.isParameter = true := by
    cases severity <;> decide
  have spelled : (Paint.ofSeverity severity).opening = "\x1b[" ++ severity.opening ++ "m" := by
    cases severity <;> decide +kernel
  have reset : Painted ("\x1b[" ++ "0" ++ "m") "" ["0"] := .sequence (by decide)
  have whole := ((Painted.sequence digits).append (.plain free)).append reset
  rwa [← spelled, String.empty_append, String.append_empty] at whole

/-! ## Lines of a board -/

/-- No text of the board has an escape character. -/
structure Board.EscapeFree (board : Board) : Prop where
  cards : ∀ card ∈ board.cards, FleetWatch.EscapeFree card.name ∧ FleetWatch.EscapeFree card.baseUrl
  rows : ∀ row ∈ board.rows, FleetWatch.EscapeFree row.endpoint ∧ FleetWatch.EscapeFree row.label ∧
    FleetWatch.EscapeFree row.host

def RowSeverities.toList (s : RowSeverities) : List Severity := [s.last, s.p50, s.p95]

/-- The severities in whose colours a board is written, in order. -/
def Board.severities (board : Board) : List Severity :=
  connectivitySeverity board.connected ::
    (board.cards.map Card.severity ++ board.rows.flatMap fun row => row.severities.toList)

namespace Render

variable {clock : String} {board : Board}

theorem painted_heading (free : EscapeFree clock) (connected : Bool) :
    Painted (heading true clock connected) (heading false clock connected)
      (connectivitySeverity connected).marks := by
  have label : EscapeFree (connectivityLabel connected) := by
    cases connected <;> decide
  have before : Painted "FleetBoard  " "FleetBoard  " [] := .plain (by decide)
  have bracket : Painted "  [" "  [" [] := .plain (by decide)
  have close : Painted "]" "]" [] := .plain (by decide)
  delta heading
  exact (((before.append (.plain free)).append bracket).append (.paint label _)).append close

theorem painted_cardLine {card : Card} (name : EscapeFree card.name)
    (baseUrl : EscapeFree card.baseUrl) :
    Painted (cardLine true card) (cardLine false card) card.severity.marks := by
  have label : EscapeFree (healthLabel card.healthy) := by
    cases card.healthy <;> decide
  have margin : Painted "  " "  " [] := .plain (by decide)
  have space : Painted " " " " [] := .plain (by decide)
  have uptime : Painted "  uptime " "  uptime " [] := .plain (by decide)
  have listen : Painted " listen " " listen " [] := .plain (by decide)
  have seconds : EscapeFree (uptimeText card.uptime) :=
    escapeFree_of_controls (controls_uptimeText card.uptime)
  have port : EscapeFree (portText card.port) :=
    escapeFree_of_controls (controls_portText card.port)
  have columns := ((margin.append (.plain (name.padRight 12))).append space).append
    (.plain (baseUrl.padRight 32))
  delta cardLine
  exact (((((columns.append space).append (.paint (label.padRight 4) _)).append uptime).append
    (.plain (seconds.padRight 10))).append listen).append (.plain port)

theorem painted_pill (name : String) (free : EscapeFree name) (ms : Latency) :
    Painted (pill true name ms) (pill false name ms) ms.severity.marks := by
  have space : EscapeFree " " := by decide
  have number : EscapeFree ms.text := escapeFree_of_controls (controls_latency ms)
  exact .paint ((free.append space).append (number.padRight 9)) _

theorem painted_rowLine {row : Row} (endpoint : EscapeFree row.endpoint)
    (label : EscapeFree row.label) (host : EscapeFree row.host) :
    Painted (rowLine true row) (rowLine false row)
      (row.severities.toList.flatMap Severity.marks) := by
  have dot : EscapeFree " · " := by decide
  have colon : EscapeFree ":" := by decide
  have port : EscapeFree (portText row.port) := escapeFree_of_controls (controls_portText row.port)
  have title : EscapeFree row.title := (endpoint.append dot).append label
  have target : EscapeFree row.target := (host.append colon).append port
  have samples : EscapeFree (samplesText row.samples) :=
    escapeFree_of_controls (controls_samplesText row.samples)
  have margin : Painted "  " "  " [] := .plain (by decide)
  have space : Painted " " " " [] := .plain (by decide)
  have columns := ((margin.append (.plain (title.padRight 28))).append space).append
    (.plain (target.padRight 22))
  have last := painted_pill "last" (by decide) row.last
  have p50 := painted_pill "p50" (by decide) row.p50
  have p95 := painted_pill "p95" (by decide) row.p95
  delta rowLine
  exact (((((((columns.append space).append last).append margin).append p50).append margin).append
    p95).append margin).append (.plain samples)

/-! ## The text of a board -/

/-- Lines and their plain forms, with all their escape sequences. -/
inductive PaintedLines : List String → List String → List String → Prop
  | nil : PaintedLines [] [] []
  | cons {c p : String} {cs ps ms mss : List String} (first : Painted c p ms)
      (others : PaintedLines cs ps mss) : PaintedLines (c :: cs) (p :: ps) (ms ++ mss)

namespace PaintedLines

theorem append {cs cs' ps ps' ms ms' : List String} (above : PaintedLines cs ps ms)
    (below : PaintedLines cs' ps' ms') : PaintedLines (cs ++ cs') (ps ++ ps') (ms ++ ms') := by
  induction above with
  | nil => exact below
  | cons first others ih =>
    rw [List.append_assoc]
    exact .cons first ih

theorem map {α : Type} {xs : List α} {f g : α → String} {marks : α → List String}
    (each : ∀ x ∈ xs, Painted (f x) (g x) (marks x)) :
    PaintedLines (xs.map f) (xs.map g) (xs.flatMap marks) := by
  induction xs with
  | nil => exact .nil
  | cons x xs ih =>
    obtain ⟨first, others⟩ := List.forall_mem_cons.1 each
    exact .cons first (ih others)

theorem plain {s : String} (free : EscapeFree s) : PaintedLines [s] [s] [] :=
  .cons (.plain free) .nil

theorem table {cs ps ms : List String} (lines : PaintedLines cs ps ms) (emptyLine : String)
    (free : EscapeFree emptyLine) :
    PaintedLines (table emptyLine cs) (Render.table emptyLine ps) ms := by
  cases lines with
  | nil => exact plain free
  | cons first others => exact .cons first others

theorem intercalate {cs ps ms : List String} (lines : PaintedLines cs ps ms) :
    Painted ("\n".intercalate cs) ("\n".intercalate ps) ms := by
  induction lines with
  | nil => exact .plain (by decide)
  | cons first others ih =>
    cases others with
    | nil => simpa using first
    | cons second others =>
      rw [String.intercalate_cons_cons, String.intercalate_cons_cons]
      have lineEnd : Painted "\n" "\n" [] := .plain (by decide)
      simpa using (first.append lineEnd).append ih

end PaintedLines

theorem painted_text (clockFree : EscapeFree clock) (free : board.EscapeFree) :
    Painted (text true clock board) (text false clock board)
      (board.severities.flatMap Severity.marks) := by
  have cards := PaintedLines.map fun card listed =>
    painted_cardLine (free.cards card listed).1 (free.cards card listed).2
  have rows := PaintedLines.map fun row listed =>
    painted_rowLine (free.rows row listed).1 (free.rows row listed).2.1 (free.rows row listed).2.2
  have fleet : PaintedLines ["FLEET"] ["FLEET"] [] := .plain (by decide)
  have latency : PaintedLines ["LATENCY"] ["LATENCY"] [] := .plain (by decide)
  have lines := PaintedLines.cons (painted_heading clockFree board.connected)
    ((fleet.append (cards.table "  (no endpoints configured)" (by decide))).append
      (latency.append (rows.table "  (no probes reported)" (by decide))))
  have marks : board.severities.flatMap Severity.marks =
      (connectivitySeverity board.connected).marks ++
        (([] ++ board.cards.flatMap fun card => card.severity.marks) ++
          ([] ++ board.rows.flatMap fun row => row.severities.toList.flatMap Severity.marks)) := by
    simp [Board.severities, List.flatMap_map, List.flatMap_assoc]
  rw [marks]
  simpa [text, Render.lines] using lines.intercalate

/-- Colours that are forced on are escape sequences between the characters of the plain text, an
opening and a reset around each painted one; forced off, they are not there. -/
theorem colours_keep_text {clock : String} {board : Board} (clockFree : EscapeFree clock)
    (free : board.EscapeFree) (forced : Bool) :
    Sgr.strip (textFor true true clock board) = textFor false forced clock board ∧
      Sgr.sequences (textFor true true clock board) =
        board.severities.flatMap (fun severity => [severity.opening, "0"]) ∧
      textFor true false clock board = textFor false forced clock board :=
  ⟨(painted_text clockFree free).strip_eq, (painted_text clockFree free).sequences_eq, rfl⟩

theorem colours_keep_text_warned :
    let board : Board :=
      { cards := [Card.up "alpha" "http://alpha" (some 5) (some 80), Card.down "beta" "http://beta"]
        rows := [⟨"alpha", "probe", "host", some 22, some (Binary64.ofNat 3),
          some (Binary64.ofNat 20), none, 7⟩]
        connected := true }
    Sgr.strip (textFor true true "12:00:01" board) = textFor false true "12:00:01" board ∧
      Sgr.sequences (textFor true true "12:00:01" board) =
        ["92", "0", "92", "0", "91", "0", "92", "0", "93", "0", "91", "0"] := by
  intro board
  have free : board.EscapeFree := ⟨by decide, by decide⟩
  have clockFree : EscapeFree "12:00:01" := by decide
  obtain ⟨stripped, marks, -⟩ := colours_keep_text clockFree free true
  refine ⟨stripped, marks.trans ?_⟩
  decide +kernel

end Render

end FleetWatch
