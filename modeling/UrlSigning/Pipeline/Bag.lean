import UrlSigning.Entries
import UrlSigning.Pipeline.Setting
import UrlSigning.Text.Quoted

/-!
# Bags of settings

A bag is a stack of layers that do not change, with one layer on top that the stages write to. What
is kept under a key is what the topmost layer with that key holds. A bag can be made into one layer,
in which a later layer's values replace an earlier one's.
-/

namespace UrlSigning.Pipeline

/-- Settings under their keys, with a name. -/
structure Layer where
  name : String
  values : Entries SettingKey Setting := []
deriving Repr

namespace Layer

/-- Puts a setting under its key. -/
def put (s : Setting) (l : Layer) : Layer :=
  { l with values := l.values.put s.key s }

/-- Takes away what is kept under a key. -/
def unset (key : SettingKey) (l : Layer) : Layer :=
  { l with values := l.values.erase key }

def load? (key : SettingKey) (l : Layer) : Option Setting :=
  l.values.get? key

def has (key : SettingKey) (l : Layer) : Bool :=
  l.values.has key

def keys (l : Layer) : List SettingKey :=
  l.values.keys

/-- The layer with settings put one after another. -/
def ofSettings (name : String) (settings : List Setting) : Layer :=
  settings.foldl (fun l s => l.put s) { name := name }

/-- The layer as messages show it: one that is written to, or one that does not change. -/
def shown (frozen : Bool) (l : Layer) : String :=
  (if frozen then "Frozen" else "") ++
    s!"Layer({Text.Quoted.text l.name}, {l.values.length} entries)"

end Layer

structure Bag where
  /-- The layers that do not change, from the bottom up. -/
  layers : List Layer := []
  /-- The layer on top, which the stages write to. -/
  state : Layer := { name := "interceptor_state" }
deriving Repr

namespace Bag

/-- Puts a layer above the others, below the one that is written to. -/
def push (l : Layer) (b : Bag) : Bag :=
  { b with layers := b.layers ++ [l] }

def put (s : Setting) (b : Bag) : Bag :=
  { b with state := b.state.put s }

/-- Takes away what was written under a key; the layers below keep theirs. -/
def unset (key : SettingKey) (b : Bag) : Bag :=
  { b with state := b.state.unset key }

/-- What the topmost layer with the key holds. -/
def load? (key : SettingKey) (b : Bag) : Option Setting :=
  (b.state :: b.layers.reverse).findSome? (·.load? key)

/-- The bag as one layer. -/
def freeze (name : String) (b : Bag) : Layer :=
  { name := name
    values := (b.layers ++ [b.state]).foldl (fun es l => es.putAll l.values) [] }

def layerNames (b : Bag) : List String :=
  b.layers.map (·.name) ++ [b.state.name]

/-- The signing configuration that holds. -/
def signing? (b : Bag) : Option Signing.Config :=
  match b.load? .signing with
  | some (.signing c) => some c
  | _ => none

/-- The choice of default headers that holds. -/
def headerDefaults? (b : Bag) : Option HeaderDefaults :=
  match b.load? .headerDefaults with
  | some (.headerDefaults d) => some d
  | _ => none

/-- Why the interceptors of a kind are switched off, if they are. -/
def disabledReason? (kind : String) (b : Bag) : Option String :=
  match b.load? (.disabling kind) with
  | some (.disabling _ reason) => reason
  | _ => none

end Bag

end UrlSigning.Pipeline
