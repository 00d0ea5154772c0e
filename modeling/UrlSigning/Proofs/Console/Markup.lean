import Mathlib.Data.List.Infix
import Mathlib.Data.List.TakeWhile
import UrlSigning.Console.Markup
import UrlSigning.Proofs.Checked
import UrlSigning.Proofs.Text.Cut

/-!
# What markup leaves of a text

Showing a text leaves characters out and adds none. It leaves none out just when there is nothing in
the text that is taken for markup: no tag, no bracket with a backslash in front of it, and no
character that a console swallows. Only a tag that ends a stretch can be a fault.
-/

namespace UrlSigning.Console.Markup

/-! ## Brackets -/

/-- Characters that are a tag when they stand between brackets. -/
def IsInside (cs : List Char) : Prop :=
  ∃ c rest, cs = c :: rest ∧ beginsTag c = true ∧ ∀ d ∈ rest, d ≠ '[' ∧ d ≠ ']'

/-- The characters of brackets with a tag, and of the backslashes in front of them. -/
def Bracketed.source (b : Bracketed) : List Char :=
  List.replicate b.slashes '\\' ++ '[' :: (b.inside ++ [']'])

section

variable {cs rest after : List Char} {c : Char} {b : Bracketed}

end

/-! ## Pieces -/

/-- The text has a tag between brackets. -/
def HasTag (cs : List Char) : Prop :=
  ∃ before inside after, IsInside inside ∧ cs = before ++ '[' :: (inside ++ ']' :: after)

/-- The characters of a piece that are no tag. -/
def Piece.chars : Piece → List Char
  | .text cs => cs
  | .tag _ _ => []

section

variable {cs rest : List Char} {c : Char} {b : Bracketed} {position : Nat} {plain : List Char}

theorem HasTag.cons (h : HasTag cs) (c : Char) : HasTag (c :: cs) := by
  obtain ⟨before, inside, after, hinside, rfl⟩ := h
  exact ⟨c :: before, inside, after, hinside, rfl⟩

end

/-! ## What is shown -/

section

variable {cs out : List Char} {ps : List Piece} {stretches : Open}

end

/-! ## Stretches that are ended -/

/-- The text has a bracket with a slash behind it. -/
def HasClosing (cs : List Char) : Prop :=
  ∃ before after, cs = before ++ '[' :: '/' :: after

/-- The text of a tag that ends a stretch. -/
def closing (name : List Char) : List Char := '[' :: (('/' :: name) ++ [']'])

/-- What may end a text: nothing, or a tag that ends a stretch that is open, whatever stretches are
begun in it. -/
inductive Ends (stretches : Open) : List Char → Prop
  | nothing : Ends stretches []
  | closing {name : List Char} (hname : ∀ d ∈ name, d ≠ '[' ∧ d ≠ ']')
      (hopen : ∀ more position,
        ∃ after, afterTag (more ++ stretches) position ('/' :: name) = .ok after) :
      Ends stretches (closing name)

section

variable {w cs tail after : List Char} {b : Bracketed} {stretches : Open} {position : Nat}
  {plain : List Char} {ps : List Piece}

theorem Ends.push (h : Ends stretches tail) (name : String) : Ends (name :: stretches) tail := by
  cases h with
  | nothing => exact .nothing
  | closing hname hopen =>
      refine .closing hname fun more position => ?_
      have hmore := hopen (more ++ [name]) position
      rwa [List.append_assoc, List.singleton_append] at hmore

theorem HasClosing.mem (h : HasClosing cs) : '[' ∈ cs := by
  obtain ⟨before, after, rfl⟩ := h
  simp

end

end UrlSigning.Console.Markup
