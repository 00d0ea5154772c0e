import UrlSigning.CommandLine.Flag
import UrlSigning.Text.Case
import UrlSigning.Text.Cut
import UrlSigning.Text.Digit
import UrlSigning.Text.Quoted

/-!
# Arguments

The words of a command line as a record of what was asked for. The words are first told apart:
flags, perhaps with a value in the same word, and words that can be the value of the flag before
them. After two dashes alone there are no flags any more. Then the flags are taken in order, and
words that belong to no flag are refused at the end.
-/

namespace UrlSigning.CommandLine

open Text

/-- What a command line asks for. -/
structure Arguments where
  config : String := "config.json"
  providers : Option String := none
  key : Option String := none
  method : String := "GET"
  expires : Option Int := none
  startTime : Option String := none
  headers : List String := []
  payloadFile : Option String := none
  payloadDigest : Option String := none
  streaming : Bool := false
  quiet : Bool := false
  jsonOutput : Option String := none
  verbose : Bool := false
deriving DecidableEq, Repr

/-- What is wrong with a command line. -/
inductive UsageFault where
  | ambiguous (word : String) (names : List String)
  | missingValue (flag : Flag)
  | unusedValue (flag : Flag) (value : String)
  | notWhole (flag : Flag) (value : String)
  | conflict (flag other : Flag)
  | unrecognized (words : List String)
deriving DecidableEq, Repr

/-- The name by which the program calls itself. -/
def programName : String := "presigner"

/-- What is said about a flag. -/
def aboutFlag (flag : Flag) (message : String) : String :=
  s!"argument {flag.shown}: {message}"

def UsageFault.message : UsageFault → String
  | .ambiguous word names =>
    s!"ambiguous option: {word} could match " ++ ", ".intercalate names
  | .missingValue flag => aboutFlag flag "expected one argument"
  | .unusedValue flag value => aboutFlag flag s!"ignored explicit argument {Quoted.text value}"
  | .notWhole flag value => aboutFlag flag s!"invalid int value: {Quoted.text value}"
  | .conflict flag other => aboutFlag flag s!"not allowed with argument {other.shown}"
  | .unrecognized words => "unrecognized arguments: " ++ " ".intercalate words

/-- Why a command line is not carried out. -/
inductive Refusal where
  /-- It asks for help. -/
  | help
  | usage (fault : UsageFault)
deriving DecidableEq, Repr

/-- The code with which the program ends. -/
def Refusal.code : Refusal → Nat
  | .help => 0
  | .usage _ => 2

/-- The last line of what is said of a refused command line. -/
def Refusal.line : Refusal → Option String
  | .help => none
  | .usage fault => some s!"{programName}: error: {fault.message}"

/-! ### Telling words apart -/

/-- What a word is. -/
inductive Kind where
  /-- A word that can be a value. -/
  | plain
  /-- A flag by its short or its long name, and the value in the same word. -/
  | flag (flag : Flag) (isShort : Bool) (value : Option String)
  /-- A word that looks like a flag and is none. -/
  | unknown
  /-- Two dashes, or a word after them. -/
  | separator
deriving DecidableEq, Repr

structure Word where
  text : String
  kind : Kind
deriving DecidableEq, Repr

/-- Whether a name is a short one. -/
def isShortName (name : String) : Bool :=
  name.toList[1]? != some '-'

/-- Whether a word that begins with a dash is a negative number. -/
def isNegativeNumber (cs : List Char) : Bool :=
  let isDigit (c : Char) : Bool := (digitValue? c).isSome
  let digits := cs.drop 1
  let fraction := digits.dropWhile isDigit
  match fraction with
  | [] => !digits.isEmpty
  | '.' :: rest => !rest.isEmpty && rest.all isDigit
  | _ => false

/-- A word that is no name of a flag as a whole, but may begin with one, or begin one. -/
def looseKind (word : String) : Except UsageFault Kind :=
  let cs := word.toList
  let (name, value) := match cutFirst? '=' cs with
    | some (a, b) => (String.ofList a, some (String.ofList b))
    | none => (word, none)
  let candidates : List (String × Flag × Option String) :=
    if cs[1]? == some '-' then (Flag.beginning name).map fun n => (n.1, n.2, value)
    else ((Flag.ofName? (String.ofList (cs.take 2))).toList.map fun f =>
      (String.ofList (cs.take 2), f, some (String.ofList (cs.drop 2))))
  match candidates with
  | [(name, flag, value)] => .ok (.flag flag (isShortName name) value)
  | [] =>
    if isNegativeNumber cs || cs.contains ' ' then .ok .plain else .ok .unknown
  | _ => .error (.ambiguous word (candidates.map (·.1)))

/-- What a word before two dashes is. -/
def kindOf (word : String) : Except UsageFault Kind :=
  match word.toList with
  | '-' :: rest =>
    match Flag.ofName? word with
    | some flag => .ok (.flag flag (isShortName word) none)
    | none =>
      if rest.isEmpty then .ok .plain
      else
        match cutFirst? '=' word.toList with
        | some (name, value) =>
          match Flag.ofName? (String.ofList name) with
          | some flag =>
            .ok (.flag flag (isShortName (String.ofList name)) (some (String.ofList value)))
          | none => looseKind word
        | none => looseKind word
  | _ => .ok .plain

/-- Tells words apart. -/
def classify : List String → Except UsageFault (List Word)
  | [] => .ok []
  | word :: rest =>
    if word == "--" then .ok ((word :: rest).map fun w => ⟨w, .separator⟩)
    else do
      let kind ← kindOf word
      return ⟨word, kind⟩ :: (← classify rest)

/-! ### Taking flags -/

/-- The use of a flag. -/
inductive Use where
  | alone (flag : Flag)
  | valued (flag : Flag) (value : String)
  /-- The flag wants the next word. -/
  | wanting (flag : Flag)
deriving DecidableEq, Repr

/-- The uses of a flag and of the letters after it in the same word. -/
def letterUses (flag : Flag) : List Char → Except UsageFault (List Use)
  | [] => .ok [if flag.takesValue then .wanting flag else .alone flag]
  | c :: rest =>
    if flag.takesValue then .ok [.valued flag (String.ofList (c :: rest))]
    else
      match Flag.ofLetter? c with
      | some next => do return .alone flag :: (← letterUses next rest)
      | none => .error (.unusedValue flag (String.ofList (c :: rest)))

/-- The uses of flags in one word. -/
def usesOf (flag : Flag) (isShort : Bool) : Option String → Except UsageFault (List Use)
  | none => letterUses flag []
  | some value =>
    if flag.takesValue then .ok [.valued flag value]
    else if isShort && !value.isEmpty then letterUses flag value.toList
    else .error (.unusedValue flag value)

/-- What has been taken so far. -/
structure Taken where
  arguments : Arguments := {}
  /-- The exclusive flags that were used. -/
  used : List Flag := []
  /-- The words that belong to no flag. -/
  left : List String := []
deriving DecidableEq, Repr

/-- The arguments with the value of a flag. -/
def setValue (a : Arguments) (flag : Flag) (value : String) : Except UsageFault Arguments :=
  match flag with
  | .config => .ok { a with config := value }
  | .providers => .ok { a with providers := some value }
  | .key => .ok { a with key := some value }
  | .method => .ok { a with method := upper value }
  | .expires =>
    match readInteger? value with
    | some n => .ok { a with expires := some n }
    | none => .error (.notWhole flag value)
  | .startTime => .ok { a with startTime := some value }
  | .header => .ok { a with headers := a.headers ++ [value] }
  | .payloadFile => .ok { a with payloadFile := some value }
  | .payloadDigest => .ok { a with payloadDigest := some value }
  | .jsonOutput => .ok { a with jsonOutput := some value }
  | .help | .streaming | .quiet | .verbose => .ok a

/-- The arguments with a flag that takes no value. -/
def setFlag (a : Arguments) (flag : Flag) : Arguments :=
  match flag with
  | .streaming => { a with streaming := true }
  | .quiet => { a with quiet := true }
  | .verbose => { a with verbose := true }
  | _ => a

/-- Notes that a flag was used, unless another one shuts it out. -/
def noteUse (flag : Flag) (used : List Flag) : Except UsageFault (List Flag) :=
  if Flag.exclusive.contains flag then
    match Flag.exclusive.find? fun other => other != flag && used.contains other with
    | some other => .error (.conflict flag other)
    | none => .ok (flag :: used)
  else .ok used

/-- Takes one use of a flag. -/
def take (t : Taken) : Use → Except Refusal Taken
  | .alone .help => .error .help
  | .alone flag | .wanting flag => do
    let used ← (noteUse flag t.used).mapError .usage
    return { t with arguments := setFlag t.arguments flag, used := used }
  | .valued flag value => do
    let arguments ← (setValue t.arguments flag value).mapError .usage
    let used ← (noteUse flag t.used).mapError .usage
    return { t with arguments := arguments, used := used }

/-- The uses of a word with the next words, of which the last use may want one. -/
def complete (uses : List Use) (next : List Word) : Except UsageFault (List Use × Nat) :=
  match uses.getLast?, next with
  | some (.wanting flag), ⟨text, .plain⟩ :: _ => .ok (uses.dropLast ++ [.valued flag text], 1)
  | some (.wanting flag), _ => .error (.missingValue flag)
  | _, _ => .ok (uses, 0)

/-- Takes the words one after another. -/
def takeWords (t : Taken) : List Word → Except Refusal Taken
  | [] => .ok t
  | word :: rest =>
    match word.kind with
    | .flag flag isShort value => do
      let uses ← (usesOf flag isShort value).mapError .usage
      let (uses, count) ← (complete uses rest).mapError .usage
      takeWords (← uses.foldlM take t) (rest.drop count)
    | _ => takeWords { t with left := t.left ++ [word.text] } rest
termination_by words => words.length
decreasing_by all_goals simp only [List.length_drop, List.length_cons]; omega

/-- Reads a command line. -/
def readArguments (words : List String) : Except Refusal Arguments := do
  let classified ← (classify words).mapError .usage
  let taken ← takeWords {} classified
  if taken.left.isEmpty then return taken.arguments
  else throw (.usage (.unrecognized taken.left))

end UrlSigning.CommandLine
