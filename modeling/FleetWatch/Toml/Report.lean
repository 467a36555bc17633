import FleetWatch.Text.Utf8
import FleetWatch.Toml.Decode

/-!
# Reporting a fault in its text

The line of the fault is shown with marks under the value: as many as it has bytes, but not far
beyond the end of the line, and at least one.
-/

namespace FleetWatch.Toml

def spaces (n : Nat) : String := String.ofList (List.replicate n ' ')

def TypeFault.report (text : String) (e : TypeFault) : String :=
  match e.span with
  | none => e.message ++ "\n"
  | some span =>
    let cs := text.toList
    let start := cs.length - span.before
    let before := cs.take start
    let lineNumber := 1 + before.count '\n'
    let column := (before.reverse.takeWhile (· != '\n')).length
    let line := (cs.drop (start - column)).takeWhile (· != '\n')
    let size (cs : List Char) : Nat := (Utf8.encode (String.ofList cs)).length
    let marked := min (size ((cs.drop start).take (span.before - span.after))) (size line - column)
    let gutter := spaces ((toString lineNumber).length + 1) ++ "|"
    "TOML parse error at line " ++ toString lineNumber ++ ", column " ++ toString (column + 1) ++
      "\n" ++ gutter ++ "\n" ++ toString lineNumber ++ " | " ++ String.ofList line ++ "\n" ++
      gutter ++ spaces (column + 1) ++ String.ofList (List.replicate (max 1 marked) '^') ++ "\n" ++
      e.message ++ "\n"

end FleetWatch.Toml
