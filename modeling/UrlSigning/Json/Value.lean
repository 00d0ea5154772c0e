import UrlSigning.Decimal.Shortest
import UrlSigning.Entries
import UrlSigning.Text.Quoted

/-!
# JSON values

The values of a JSON document. Whole numbers are exact; numbers with a point or an exponent are of
double precision. The fields of a configuration are values of this type, because a configuration
file may hold anything in their place; `shown` is how a message shows such a value.
-/

namespace UrlSigning

inductive Json where
  | null
  | bool (b : Bool)
  | int (n : Int)
  | real (x : Binary64)
  | text (s : String)
  | array (items : List Json)
  | object (fields : List (String × Json))
deriving Repr, Inhabited, BEq

namespace Json

instance : Coe String Json := ⟨.text⟩

mutual

/-- The value as a message shows it: texts between quotes, `None` for null. -/
def shown : Json → String
  | .null => "None"
  | .bool b => if b then "True" else "False"
  | .int n => toString n
  | .real x => Decimal.text Decimal.messageNames x
  | .text s => Text.Quoted.text s
  | .array items => "[" ++ ", ".intercalate (shownItems items) ++ "]"
  | .object fields => "\x7b" ++ ", ".intercalate (shownFields fields) ++ "\x7d"

def shownItems : List Json → List String
  | [] => []
  | v :: rest => shown v :: shownItems rest

def shownFields : List (String × Json) → List String
  | [] => []
  | (k, v) :: rest => (Text.Quoted.text k ++ ": " ++ shown v) :: shownFields rest

end

/-- The value inside a longer text: a text as it is, anything else as it is shown. -/
def plain : Json → String
  | .text s => s
  | v => shown v

/-- Whether the value counts as given: not null, false, zero or empty. -/
def isGiven : Json → Bool
  | .null => false
  | .bool b => b
  | .int n => n != 0
  | .real x => !x.isZero
  | .text s => !s.isEmpty
  | .array items => !items.isEmpty
  | .object fields => !fields.isEmpty

/-- The word for the kind of value, as messages name it. -/
def kindName : Json → String
  | .null => "NoneType"
  | .bool _ => "bool"
  | .int _ => "int"
  | .real _ => "float"
  | .text _ => "str"
  | .array _ => "list"
  | .object _ => "dict"

/-- The text, when the value is one. -/
def text? : Json → Option String
  | .text s => some s
  | _ => none

/-- The value of a field of an object. -/
def field? (name : String) : Json → Option Json
  | .object fields => Entries.get? name fields
  | _ => none

end Json

end UrlSigning
