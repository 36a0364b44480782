import Sweep.Json.Token

/-!
Values of JSON texts.

Tokens are read from left to right. The arrays and objects whose end has not been reached are kept
on a stack, so nesting needs no recursion.
-/

namespace Sweep.Json

/-- A value. Members of an object keep their order, and keys may be repeated. A string or key in
which a surrogate stands alone has no text. -/
inductive Value where
  | null
  | bool (b : Bool)
  | number (text : Text)
  | string (text : Option Text)
  | array (items : List Value)
  | object (members : List (Option Text × Value))

inductive Frame where
  /-- The items in front of the value, the last first. -/
  | array (before : List Value)
  /-- The members in front of the value, the last first, and the key of the value. -/
  | object (before : List (Option Text × Value)) (key : Option Text)

inductive Reading where
  | value (frames : List Frame)
  | arrayStart (frames : List Frame)
  | objectStart (frames : List Frame)
  | member (before : List (Option Text × Value)) (frames : List Frame)
  | colon (before : List (Option Text × Value)) (key : Option Text) (frames : List Frame)
  | complete (v : Value) (frames : List Frame)

namespace Reading

def begin? (frames : List Frame) : Token → Option Reading
  | .openArray => some (.arrayStart frames)
  | .openObject => some (.objectStart frames)
  | .null => some (.complete .null frames)
  | .bool b => some (.complete (.bool b) frames)
  | .number text => some (.complete (.number text) frames)
  | .string text => some (.complete (.string text) frames)
  | _ => none

def step? : Reading → Token → Option Reading
  | .value frames, token => begin? frames token
  | .arrayStart frames, .closeArray => some (.complete (.array []) frames)
  | .arrayStart frames, token => begin? (.array [] :: frames) token
  | .objectStart frames, .closeObject => some (.complete (.object []) frames)
  | .objectStart frames, .string text => some (.colon [] text frames)
  | .member before frames, .string text => some (.colon before text frames)
  | .colon before key frames, .colon => some (.value (.object before key :: frames))
  | .complete v (.array before :: frames), .comma => some (.value (.array (v :: before) :: frames))
  | .complete v (.array before :: frames), .closeArray =>
    some (.complete (.array (v :: before).reverse) frames)
  | .complete v (.object before key :: frames), .comma => some (.member ((key, v) :: before) frames)
  | .complete v (.object before key :: frames), .closeObject =>
    some (.complete (.object ((key, v) :: before).reverse) frames)
  | _, _ => none

def readAll? : Reading → List Token → Option Reading
  | r, [] => some r
  | r, token :: others =>
    match r.step? token with
    | some next => readAll? next others
    | none => none

end Reading

def Value.parse? (t : Text) : Option Value :=
  match (tokens? t).bind (Reading.value []).readAll? with
  | some (.complete v []) => some v
  | _ => none

end Sweep.Json
