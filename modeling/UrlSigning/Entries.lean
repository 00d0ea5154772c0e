/-!
# Entries

A dictionary as a list of pairs that remembers the order in which its keys came first. Putting a
value under a key that is there replaces the value and keeps the key's place.
-/

namespace UrlSigning

/-- Keys with their values, in the order in which the keys came first. -/
abbrev Entries (κ : Type) (α : Type) := List (κ × α)

namespace Entries

variable {κ α : Type} [DecidableEq κ]

/-- The value under a key. -/
def get? (key : κ) : Entries κ α → Option α
  | [] => none
  | (k, v) :: rest => if k = key then some v else get? key rest

/-- Puts a value under a key: in the key's place, or at the end. -/
def put (key : κ) (value : α) : Entries κ α → Entries κ α
  | [] => [(key, value)]
  | (k, v) :: rest => if k = key then (k, value) :: rest else (k, v) :: put key value rest

/-- Takes a key away with its value. -/
def erase (key : κ) : Entries κ α → Entries κ α
  | [] => []
  | (k, v) :: rest => if k = key then rest else (k, v) :: erase key rest

/-- Puts pairs one after another. -/
def putAll (pairs : List (κ × α)) (entries : Entries κ α) : Entries κ α :=
  pairs.foldl (fun es p => put p.1 p.2 es) entries

/-- The dictionary of a list of pairs, in which the last value of a key counts. -/
def ofPairs (pairs : List (κ × α)) : Entries κ α :=
  putAll pairs []

/-- The keys, in order. -/
def keys (entries : Entries κ α) : List κ :=
  entries.map (·.1)

/-- Whether there is a value under the key. -/
def has (key : κ) (entries : Entries κ α) : Bool :=
  (get? key entries).isSome

theorem get?_put (key k : κ) (value : α) (entries : Entries κ α) :
    get? k (put key value entries) = if key = k then some value else get? k entries := by
  induction entries with
  | nil => simp [put, get?]
  | cons e rest ih =>
    obtain ⟨a, v⟩ := e
    by_cases h : a = key
    · subst h; by_cases h' : a = k <;> simp [put, get?, h']
    · by_cases h' : a = k
      · subst h'; simp [put, get?, h, Ne.symm h]
      · simp [put, get?, h, h', ih]

/-- The keys after a value is put: the new one at the end, if it is new. -/
theorem keys_put (key : κ) (value : α) (entries : Entries κ α) :
    keys (put key value entries) =
      if key ∈ keys entries then keys entries else keys entries ++ [key] := by
  induction entries with
  | nil => simp [put, keys]
  | cons e rest ih =>
    obtain ⟨a, v⟩ := e
    by_cases h : a = key
    · subst h; simp [put, keys]
    · simp only [keys] at ih
      by_cases hm : key ∈ rest.map (·.1) <;> simp_all [put, keys, Ne.symm h]

end Entries

end UrlSigning
