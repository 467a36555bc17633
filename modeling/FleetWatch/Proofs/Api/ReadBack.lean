import FleetWatch.Api.Routes
import FleetWatch.Proofs.Api.Hints
import FleetWatch.Proofs.Json.Written

/-!
# Bodies are read back

Whatever texts a board carries, the body that is served for it is a text the reader takes, and the
value read has the strings, whole numbers, lists and members of the reply.  So no text ends its own
string, and none brings in a member.

* `FleetReply.writable_json` and its parts: every reply keeps to what the writer can write.
* `bodies_read_back`: all replies, and the bodies of all routes.
-/

namespace FleetWatch
open Json

/-! ## Parts -/

variable {depth : Nat}

theorem writable_ofOption {α : Type} {f : α → Json} (each : ∀ a, Writable depth (f a))
    (a : Option α) : Writable depth (ofOption f a) := by
  cases a with
  | none => exact .null
  | some a => exact each a

theorem writable_nat {n : Nat} (bound : n < UInt64.size) : Writable depth (Json.nat n) :=
  .integer ⟨by omega, Int.ofNat_lt.2 bound⟩

theorem writable_count (n : UInt64) : Writable depth (Api.count n) := writable_nat n.toNat_lt

theorem writable_counts (n : Option UInt64) : Writable depth (ofOption Api.count n) :=
  writable_ofOption writable_count n

theorem writable_port (p : Option UInt16) : Writable depth (Api.port p) :=
  writable_ofOption (fun p => writable_nat (Nat.lt_trans p.toNat_lt (by decide))) p

theorem writable_latency (ms : Latency) : Writable depth (Api.latency ms) := by
  rw [Api.latency]
  cases kept : ms.filter Binary64.isFinite with
  | none => exact .null
  | some x => exact .float (Option.filter_eq_some_iff.1 kept).2

theorem writable_severity (s : Severity) : Writable depth (Api.severity s) := .string s.token

theorem writable_strings {α : Type} (f : α → String) (a : Option α) :
    Writable depth (ofOption (fun a => .string (f a)) a) :=
  writable_ofOption (fun a => .string (f a)) a

/-! ## Replies -/

theorem CardReply.writable_json (r : CardReply) : Writable (depth + 1) r.json := by
  refine .object (wellFormed_object.1 r.wellFormed_json).1 ?_
  simp [Api.cardMembers, Writable.string, Writable.bool, writable_counts, writable_port,
    writable_severity]

theorem RowSeverities.writable_json (s : RowSeverities) : Writable (depth + 1) s.json := by
  refine .object (wellFormed_object.1 s.wellFormed_json).1 ?_
  simp [writable_severity]

theorem RowReply.writable_json (r : RowReply) : Writable (depth + 2) r.json := by
  refine .object (wellFormed_object.1 r.wellFormed_json).1 ?_
  simp [Api.rowMembers, Writable.string, writable_count, writable_port, writable_latency,
    RowSeverities.writable_json]

theorem FleetReply.writable_json (r : FleetReply) : Writable (depth + 4) r.json := by
  have cards : Writable (depth + 3) (.array (r.cards.map CardReply.json)) :=
    .array (List.forall_mem_map.2 fun c _ => c.writable_json)
  have rows : Writable (depth + 3) (.array (r.rows.map RowReply.json)) :=
    .array (List.forall_mem_map.2 fun c _ => c.writable_json)
  refine .object (wellFormed_object.1 r.wellFormed_json).1 ?_
  simp [Writable.string, Writable.bool, writable_counts, writable_strings, writable_severity, cards,
    rows]

theorem HealthReply.writable_json (r : HealthReply) : Writable (depth + 1) r.json := by
  have keys : ["status", "timestamp", "version", "uptime_seconds", "cycle"].Nodup := by decide
  refine .object keys ?_
  simp [Writable.string, writable_count, writable_counts]

theorem ErrorReply.writable_json (r : ErrorReply) : Writable (depth + 2) r.json := by
  have keys : ["code", "message", "details", "timestamp"].Nodup := by decide
  refine .object (List.nodup_singleton "error") (List.forall_mem_singleton.2 (.object keys ?_))
  simp [Writable.string, writable_ofOption]

/-! ## Bodies -/

theorem exists_reply_of_body {slot : Slot} {moment : Api.Moment} {method target : String}
    {body : Json} (served : (Api.reply slot moment method target).body = some body) :
    (∃ r : FleetReply, body = r.json) ∨ (∃ r : HealthReply, body = r.json) ∨
      ∃ r : ErrorReply, body = r.json := by
  have answered {r : Api.Reply} (kept : (Api.withoutBody method r).body = some body) :
      r.body = some body := by
    unfold Api.withoutBody at kept
    split at kept
    · cases kept
    · exact kept
  simp only [Api.reply] at served
  split at served
  · cases served
  · have served := answered served
    split at served
    · exact .inr (.inr ⟨_, (Option.some.inj served).symm⟩)
    · next route _ =>
      split at served
      · obtain rfl := Option.some.inj served
        cases route with
        | fleet => exact .inl ⟨_, rfl⟩
        | health => exact .inr (.inl ⟨_, rfl⟩)
      · cases served

/-- The text of a value is read, and gives the value back. -/
def ReadsBack (v : Json) : Prop := ∃ w, read (Utf8.encode v.write) = .ok w ∧ v.ReadBack w

theorem bodies_read_back :
    (∀ (published : Option Published) (clock : String),
      ReadsBack (FleetReply.ofPublished published clock).json) ∧
    (∀ r : HealthReply, ReadsBack r.json) ∧
    (∀ r : ErrorReply, ReadsBack r.json) ∧
    ∀ (slot : Slot) (moment : Api.Moment) (method target : String) (body : Json),
      (Api.reply slot moment method target).body = some body → ReadsBack body := by
  have fleet (r : FleetReply) : ReadsBack r.json := read_write r.writable_json
  have health (r : HealthReply) : ReadsBack r.json := read_write r.writable_json
  have error (r : ErrorReply) : ReadsBack r.json := read_write r.writable_json
  refine ⟨fun published clock => fleet _, health, error, fun slot moment method target body served => ?_⟩
  rcases exists_reply_of_body served with ⟨r, rfl⟩ | ⟨r, rfl⟩ | ⟨r, rfl⟩
  · exact fleet r
  · exact health r
  · exact error r

/-- A path with a quote, a backslash, a line end and an escape, that no route knows. -/
def strangePath : String := "/\"]\x7d,\"\\\n\x1b"

theorem bodies_read_back_strange :
    ∃ body w, (Api.reply none ⟨default, "12:00:01", 0⟩ "GET" strangePath).body = some body ∧
      read (Utf8.encode body.write) = .ok w ∧ body.ReadBack w := by
  have served : (Api.reply none ⟨default, "12:00:01", 0⟩ "GET" strangePath).body =
      some (Api.notFoundBody ⟨default, "12:00:01", 0⟩ strangePath) := by
    rfl
  obtain ⟨-, -, -, routes⟩ := bodies_read_back
  obtain ⟨w, read, back⟩ := routes none ⟨default, "12:00:01", 0⟩ "GET" strangePath _ served
  exact ⟨_, w, served, read, back⟩

end FleetWatch
