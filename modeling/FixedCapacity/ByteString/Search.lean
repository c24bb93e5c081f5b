/-
  FixedCapacity.ByteString.Search — copying out what a pattern captures.

  The search asks an engine, which sees the content only: it turns a pattern down or
  finds a match, and a match says for each group which range of the content it took.
  The destination is touched only when there is something to copy.
-/

import FixedCapacity.ByteString.Edit

namespace FixedCapacity.ByteString

/-- The range `[start, stop)` each group took part with, group zero being the whole match. -/
abbrev Captures := List (Option (Nat × Nat))

/-- A pattern engine: what a pattern means, if it is one, as a search through bytes. -/
abbrev Engine := String → Option (List UInt8 → Option Captures)

/-- Copies a group of the first match into the string the call is made on. -/
def searchWith (engine : Engine) (source : ByteString) (pattern : String) (group : Nat) :
    Op Unit :=
  match engine pattern with
  | none => do
    Call.alert (.invalidPattern pattern)
    Call.refuse .invalidArgument
  | some find =>
    match (find source.content).bind fun captures => (captures[group]?).join with
    | none => Call.refuse .notFound
    | some (start, stop) => do
      clear
      append ((source.content.drop start).take (stop - start))

end FixedCapacity.ByteString
