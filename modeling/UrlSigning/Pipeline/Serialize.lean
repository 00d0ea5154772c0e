import UrlSigning.Pipeline.Bag
import UrlSigning.Http.Request

/-!
# Serialization

An operation is made into a request. A body brings a length and a type with it as headers, unless
the operation names them itself or the settings leave them out.
-/

namespace UrlSigning.Pipeline

open Http

/-- What a request is made from. -/
structure Operation where
  method : String
  url : String
  body : Bytes := []
  contentType : Option String := none
  headers : Entries String String := []
deriving DecidableEq, Repr

/-- The type of a body of which nothing is said. -/
def defaultContentType : String := "application/octet-stream"

namespace Operation

/-- The type of the body; an empty one counts as none. -/
def typeOfBody (o : Operation) : String :=
  match o.contentType with
  | some t => if t.isEmpty then defaultContentType else t
  | none => defaultContentType

/-- The request of an operation. -/
def serialize (d : HeaderDefaults) (o : Operation) : Request :=
  let own : Headers := ⟨o.headers⟩
  let addDefault (omitted : Bool) (name value : String) (h : Headers) : Headers :=
    if o.body.isEmpty || omitted || own.has name then h else h.add name value
  { method := Text.upper o.method
    url := o.url
    headers := addDefault d.omitType "Content-Type" o.typeOfBody
      (addDefault d.omitLength "Content-Length" (toString o.body.length) own)
    body := if o.body.isEmpty then none else some o.body }

end Operation

end UrlSigning.Pipeline
