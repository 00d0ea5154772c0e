import UrlSigning.Text.Case

/-!
# Header fields

The header fields of a request: a list of names and values in order, in which a name may occur more
than once. Names are compared without regard to case. Adding a field leaves those of its name where
they are; setting one takes them away first.
-/

namespace UrlSigning.Http

/-- Header fields in order. -/
structure Headers where
  fields : List (String × String)
deriving DecidableEq, Repr

namespace Headers

/-- Whether two names are the same without regard to case. -/
def sameName (a b : String) : Bool :=
  Text.lower a == Text.lower b

/-- No fields. -/
def empty : Headers := ⟨[]⟩

/-- The value of the first field of a name. -/
def get? (name : String) (h : Headers) : Option String :=
  (h.fields.find? fun f => sameName f.1 name).map (·.2)

/-- The values of all fields of a name, in order. -/
def getAll (name : String) (h : Headers) : List String :=
  (h.fields.filter fun f => sameName f.1 name).map (·.2)

/-- Whether there is a field of the name. -/
def has (name : String) (h : Headers) : Bool :=
  h.fields.any fun f => sameName f.1 name

/-- The fields with one more at the end. -/
def add (name value : String) (h : Headers) : Headers :=
  ⟨h.fields ++ [(name, value)]⟩

/-- The fields without those of a name. -/
def erase (name : String) (h : Headers) : Headers :=
  ⟨h.fields.filter fun f => !sameName f.1 name⟩

/-- The fields with one of a name at the end, in place of those that there are. -/
def set (name value : String) (h : Headers) : Headers :=
  (h.erase name).add name value

theorem has_erase (name : String) (h : Headers) : (h.erase name).has name = false := by
  simp [has, erase]

theorem getAll_set (name value : String) (h : Headers) :
    (h.set name value).getAll name = [value] := by
  simp [getAll, set, add, erase, List.filter_append, List.filter_filter, sameName]

end Headers

end UrlSigning.Http
