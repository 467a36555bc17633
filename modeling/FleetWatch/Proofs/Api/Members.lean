import FleetWatch.Api.Body
import FleetWatch.Proofs.Latency.Bands

/-!
# Members read back

What a reader of a body gets for the members that are more than a text: counts, ports, severities
and latencies.  All but latencies come back as they were; an infinity or a NaN comes back as absent.

* `Api.unsigned?_count`, `Api.port?_port`, `Severity.ofToken?_token`: nothing is lost.
* `Latency.text_filter`, `Latency.severity_filter`: what is lost of a latency does not show.
-/

namespace FleetWatch

/-- The severity that a token names. -/
def Severity.ofToken? : String → Option Severity
  | "ok" => some ok
  | "good" => some good
  | "warn" => some warn
  | "bad" => some bad
  | _ => none

theorem Severity.ofToken?_token (s : Severity) : ofToken? s.token = some s := by
  cases s <;> rfl

namespace Api

theorem unsigned?_count (n : Option UInt64) : (Json.ofOption count n).unsigned? = n := by
  cases n with
  | none => rfl
  | some n =>
    have bound := n.toNat_lt
    simp [Json.ofOption, count, Json.nat, Json.unsigned?]
    omega

theorem port?_port (p : Option UInt16) : (port p).port? = p := by
  cases p with
  | none => rfl
  | some p =>
    have bound := p.toNat_lt
    have short : p.toNat < UInt64.size := by simp only [UInt64.size]; omega
    have whole : (port (some p)).whole? = some (UInt64.ofNat p.toNat) := by
      have inRange : (0 : Int) ≤ p.toNat ∧ (p.toNat : Int) < UInt64.size := by omega
      simp only [port, Json.ofOption, Json.nat, Json.whole?, Json.unsigned?, if_pos inRange,
        Int.toNat_natCast, Option.some_or]
    have small : (UInt64.ofNat p.toNat).toNat = p.toNat := UInt64.toNat_ofNat_of_lt' short
    rw [Json.port?, whole, Option.bind_some, small, if_pos (by simpa [UInt16.size] using bound)]
    exact congrArg some (UInt16.toNat_inj.1 (by simp))

theorem double?_latency (ms : Latency) : (latency ms).double? = ms.filter Binary64.isFinite := by
  rw [latency]
  generalize ms.filter Binary64.isFinite = finite
  cases finite <;> rfl

end Api

/-! ## What is lost of a latency -/

namespace Latency

theorem text_filter (ms : Latency) : text (ms.filter Binary64.isFinite) = text ms := by
  cases ms with
  | none => rfl
  | some x =>
    cases finite : x.isFinite with
    | true => rw [Option.filter_some_pos finite]
    | false => rw [Option.filter_some_neg (by simp [finite]), text_of_not_finite finite, text]

theorem severity_filter (ms : Latency) : severity (ms.filter Binary64.isFinite) = severity ms := by
  cases ms with
  | none => rfl
  | some x =>
    cases finite : x.isFinite with
    | true => rw [Option.filter_some_pos finite]
    | false => rw [Option.filter_some_neg (by simp [finite]), severity_of_not_finite finite, severity]

end Latency
end FleetWatch
