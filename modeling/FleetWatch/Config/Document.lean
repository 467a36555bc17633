import FleetWatch.Config.Schema
import FleetWatch.Toml.Document
import FleetWatch.Toml.Report

/-!
# Configuration texts

The configuration that a text writes, or why it writes none.
-/

namespace FleetWatch

inductive ConfigTextError where
  | notToml
  | mistyped (fault : Toml.TypeFault)
deriving DecidableEq, Repr

def ConfigTextError.report (text : String) : ConfigTextError → String
  | notToml => "<not toml>"
  | mistyped fault => fault.report text

def Config.parse (text : String) : Except ConfigTextError Config :=
  match Toml.parse? text with
  | none => .error .notToml
  | some members => (Config.ofMembers members).mapError .mistyped

end FleetWatch
