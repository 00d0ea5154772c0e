import UrlSigning.Signing.Config

/-!
# Settings

The values that the stages of a pipeline leave for each other. Each has a key under which it is
kept: mostly its kind, so that there is one of a kind, and for some a key that it names itself.
-/

namespace UrlSigning.Pipeline

/-- Which default headers the serializer leaves out. -/
structure HeaderDefaults where
  omitLength : Bool := false
  omitType : Bool := false
deriving DecidableEq, Repr

namespace HeaderDefaults

def withoutLength (d : HeaderDefaults) : HeaderDefaults := { d with omitLength := true }

def withoutType (d : HeaderDefaults) : HeaderDefaults := { d with omitType := true }

end HeaderDefaults

inductive Setting where
  | headerDefaults (d : HeaderDefaults)
  | signing (c : Signing.Config)
  /-- Switches off the interceptors of a kind, if there is a reason. -/
  | disabling (kind : String) (reason : Option String)
  /-- A value of a caller, under a key of its own or under the kind of such values. -/
  | keyed (key : Option String) (value : Json)
  | text (s : String)
  | int (n : Int)
  | bool (b : Bool)
  | nothing
deriving Repr

inductive SettingKey where
  | headerDefaults
  | signing
  | disabling (kind : String)
  | named (key : String)
  | keyed
  | text
  | int
  | bool
  | nothing
deriving DecidableEq, Repr

/-- The key under which a setting is kept. -/
def Setting.key : Setting → SettingKey
  | .headerDefaults _ => .headerDefaults
  | .signing _ => .signing
  | .disabling kind _ => .disabling kind
  | .keyed (some key) _ => .named key
  | .keyed none _ => .keyed
  | .text _ => .text
  | .int _ => .int
  | .bool _ => .bool
  | .nothing => .nothing

end UrlSigning.Pipeline
