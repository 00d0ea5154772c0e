import UrlSigning.Text.Span

/-!
# Blanks

The characters that separate words: the control characters that end a line or a record, and the
space characters of Unicode. Words are the longest runs without one of them.
-/

namespace UrlSigning.Text

/-- The spans of blank characters. -/
def blankSpans : List Span :=
  [⟨9, 13⟩, ⟨28, 32⟩, ⟨133, 133⟩, ⟨160, 160⟩, ⟨5760, 5760⟩, ⟨8192, 8202⟩, ⟨8232, 8233⟩,
    ⟨8239, 8239⟩, ⟨8287, 8287⟩, ⟨12288, 12288⟩]

def isBlank (c : Char) : Bool :=
  inSpans blankSpans c

/-- Every character that the core library calls white space is blank. -/
theorem isBlank_of_isWhitespace {c : Char} (h : c.isWhitespace) : isBlank c := by
  simp only [Char.isWhitespace, Bool.or_eq_true, decide_eq_true_eq] at h
  rcases h with ((rfl | rfl) | rfl) | rfl <;> decide

/-- The text without the blanks at its two ends. -/
def trimChars (cs : List Char) : List Char :=
  ((cs.dropWhile isBlank).reverse.dropWhile isBlank).reverse

/-- Cuts the text at every blank. The word that is being read is held back to front. -/
def wordsFrom (word : List Char) : List Char → List (List Char)
  | [] => if word.isEmpty then [] else [word.reverse]
  | c :: rest =>
    if isBlank c then
      if word.isEmpty then wordsFrom [] rest else word.reverse :: wordsFrom [] rest
    else wordsFrom (c :: word) rest

/-- The longest runs of characters that are not blank, in order. -/
def wordsOf (cs : List Char) : List (List Char) :=
  wordsFrom [] cs

/-- `trimChars` on strings. -/
def trim (s : String) : String :=
  String.ofList (trimChars s.toList)

/-- `wordsOf` on strings. -/
def words (s : String) : List String :=
  (wordsOf s.toList).map String.ofList

/-- The words of the text, one space between each two: its runs of blanks collapsed. -/
def collapseBlanks (s : String) : String :=
  " ".intercalate (words s)

end UrlSigning.Text
