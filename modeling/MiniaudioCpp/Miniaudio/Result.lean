/-!
# Result codes

`ma_result` as the wrappers see it.
-/

namespace MiniaudioCpp

/-- `ma_result`: the codes the wrappers name, and any other code. -/
inductive MaResult
  | success
  | error
  | invalidArgs
  | atEnd
  | notImplemented
  | other (code : Int)
  deriving DecidableEq, Repr

end MiniaudioCpp
