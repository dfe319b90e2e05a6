import Nomen.Json.Misfit

namespace Nomen.Json

/-- What a decoder says of a text that it refuses: the position at which it stopped, and its
complaint about a text that is no document. -/
structure Reporter where
  position : String → Misfit → Position
  complaint : String → String

namespace Reporter

def message (reporter : Reporter) (text : String) (misfit : Misfit) : String :=
  let position := reporter.position text misfit
  misfit.message.getD (reporter.complaint text)
    ++ " at line " ++ Nat.repr position.line ++ " column " ++ Nat.repr position.column

def faultOf (text : String) : Fault :=
  (Document.ofText text).value.fault?.getD ⟨.arrangement, []⟩

def plain : Reporter where
  position text
    | .malformed => .before text (faultOf text).rest
    -- A tree keeps no positions, so what is wrong with its form is placed at the end of the text.
    | _ => .before text []
  complaint text := (faultOf text).cause.message

end Reporter

end Nomen.Json
