/-!
# Endpoints

A fleet member: the name it is shown under and the base of its status address.
-/

namespace FleetWatch

structure Endpoint where
  name : String
  baseUrl : String
deriving DecidableEq, Repr, Inhabited

/-- The address of a status answer: base and path joined by exactly one slash. -/
def statusUrl (base path : String) : String :=
  String.ofList ((base.toList.reverse.dropWhile (· == '/')).reverse) ++ "/" ++
    String.ofList (path.toList.dropWhile (· == '/'))

end FleetWatch
