import FleetWatch.Fleet.Latency
import FleetWatch.Json.Reader

/-!
# Status reports

What one endpoint answers: uptime, listening port and its latency probes.  Every field is read on
its own; a missing or mistyped one is absent, and never spoils another.  Only a key that stands
twice would spoil a record, and no object has one.

* `Json.field?_eq`: where each key stands once, reading a field is looking it up.
* `Report.ofJson_of_not_object`: a value that is not an object is an empty report.
-/

namespace FleetWatch

structure Probe where
  label : String
  host : String
  port : Option UInt16
  last : Latency
  p50 : Latency
  p95 : Latency
  samples : UInt64
deriving DecidableEq, Inhabited

structure Report where
  uptime : Option UInt64
  port : Option UInt16
  probes : List Probe
deriving DecidableEq, Inhabited

def Report.empty : Report := ⟨none, none, []⟩

/-! ## Scalar fields -/

/-- A whole number of 64 bits, also when written as a double. -/
def Json.whole? (v : Json) : Option UInt64 :=
  v.unsigned?.or ((v.double?.filter Binary64.isUnsigned).map Binary64.toUInt64)

def Json.port? (v : Json) : Option UInt16 :=
  v.whole?.bind fun n => if n.toNat < UInt16.size then some n.toUInt16 else none

/-- The value of a latency: any negative number means that there is none. -/
def Json.latency? (v : Json) : Latency := v.double?.filter Latency.isShown

/-! ## Records -/

inductive RecordFault where
  | repeatedKey (key : String)
deriving DecidableEq, Repr

namespace Json

/-- The value of a key that may stand only once. -/
def once? (key : String) (members : Members) : Except RecordFault (Option Json) :=
  match members.filter (·.1 = key) with
  | [] => .ok none
  | [m] => .ok (some m.2)
  | _ :: _ :: _ => .error (.repeatedKey key)

/-- Reads the field of a key; a value that cannot be read is no fault, but as good as none. -/
def field? (read : Json → Option α) (key : String) (members : Members) :
    Except RecordFault (Option α) :=
  (once? key members).map fun v => v.bind read

theorem once?_eq_find? (key : String) {members : Members}
    (distinct : (members.map (·.1)).Nodup) : once? key members = .ok (find? key members) := by
  induction members with
  | nil => rfl
  | cons m members ih =>
    obtain ⟨fresh, distinct⟩ := List.nodup_cons.1 distinct
    by_cases here : m.1 = key
    · have rest : members.filter (·.1 = key) = [] := by
        refine List.filter_eq_nil_iff.2 fun other member same => fresh ?_
        exact List.mem_map.2 ⟨other, member, (of_decide_eq_true same).trans here.symm⟩
      simp [once?, find?, here, rest]
    · have same : once? key (m :: members) = once? key members := by simp [once?, here]
      rw [same, ih distinct]
      simp [find?, here]

theorem field?_eq (read : Json → Option α) (key : String) {members : Members}
    (distinct : (members.map (·.1)).Nodup) :
    field? read key members = .ok ((find? key members).bind read) := by
  rw [field?, once?_eq_find? key distinct]
  rfl

end Json

/-! ## Reports -/

def Probe.decode (members : Json.Members) : Except RecordFault Probe := do
  let label ← Json.field? Json.string? "label" members
  let host ← Json.field? Json.string? "host" members
  let port ← Json.field? Json.port? "port" members
  let last ← Json.field? Json.latency? "last_ms" members
  let p50 ← Json.field? Json.latency? "p50_ms" members
  let p95 ← Json.field? Json.latency? "p95_ms" members
  let samples ← Json.field? Json.whole? "samples" members
  return ⟨label.getD "", host.getD "", port, last, p50, p95, samples.getD 0⟩

/-- Reads one entry of the probe list; only objects are probes, and a faulty one is left out. -/
def Probe.ofJson? : Json → Option Probe
  | .object members => (decode members).toOption
  | _ => none

def Json.probes : Json → List Probe
  | .array items => (items.filter isObject).filterMap Probe.ofJson?
  | _ => []

def Report.decode (members : Json.Members) : Except RecordFault Report := do
  let uptime ← Json.field? Json.whole? "uptime_s" members
  let port ← Json.field? Json.port? "listen_port" members
  let probes ← Json.field? (fun v => some v.probes) "probes" members
  return ⟨uptime, port, probes.getD []⟩

def Report.ofJson : Json → Report
  | .object members =>
    match decode members with
    | .ok report => report
    | .error _ => empty
  | _ => empty

theorem Report.ofJson_of_not_object (v : Json) (h : ∀ ms, v ≠ .object ms) :
    Report.ofJson v = Report.empty := by
  cases v with
  | object ms => exact absurd rfl (h ms)
  | _ => rfl

def Report.read (body : Bytes) : Except JsonError Report := (Json.read body).map Report.ofJson

end FleetWatch
