import FlagBinding.Text.Table.Case
import FlagBinding.Text.Table.Letter

/-!
# Letter case

The full case mappings of Unicode, and the conversion of a name to snake case and to upper camel
case: the name is cut into words at characters that are neither letter nor digit and at changes of
case, and the words are put together again in one case.

## Main definitions

* `upperChar`, `lowerChar`: the image of a character, which may be several characters.
* `toUpper`, `toLower`: the image of a text; a capital sigma that ends a word becomes a final sigma.
* `words`, `snakeCase`, `upperCamelCase`: names by words.
-/

namespace FlagBinding.Text

def upperChar (c : Char) : List Char :=
  if c.toNat < 128 then [c.toUpper]
  else match uppercaseExpansions.find? (·.1 == c.toNat) with
    | some (_, image) => image.map Char.ofNat
    | none => [(shifted? uppercaseShifts c).getD c]

def lowerChar (c : Char) : List Char :=
  if c.toNat < 128 then [c.toLower]
  else if c == 'İ' then ['i', '\u0307']
  else [(shifted? lowercaseShifts c).getD c]

def isUpper (c : Char) : Bool :=
  if c.toNat < 128 then c.isUpper else inRuns uppercaseRuns c

def isLower (c : Char) : Bool :=
  if c.toNat < 128 then c.isLower else inRuns lowercaseRuns c

def isWordChar (c : Char) : Bool :=
  if c.toNat < 128 then c.isAlphanum else inRuns wordRuns c

/-- Whether the first character that matters for case is a cased letter. -/
def meetsCased (l : List Char) : Bool :=
  match l.dropWhile (inRuns caseIgnorableRuns) with
  | c :: _ => inRuns casedRuns c
  | [] => false

/-- The lower-case form of `rest`, the part of a text that follows the reversed part `before`. -/
def lowerFrom (before : List Char) : List Char → List Char
  | [] => []
  | c :: rest =>
    let image :=
      if c == 'Σ' then (if meetsCased before && !meetsCased rest then ['ς'] else ['σ'])
      else lowerChar c
    image ++ lowerFrom (c :: before) rest

def toLower (s : String) : String :=
  String.ofList (lowerFrom [] s.toList)

def toUpper (s : String) : String :=
  String.ofList (s.toList.flatMap upperChar)

/-- What the characters of a word so far say about where it ends. -/
inductive WordMode
  | boundary
  | lower
  | upper
  deriving DecidableEq

/-- The mode after `c`. -/
def WordMode.after (mode : WordMode) (c : Char) : WordMode :=
  if isLower c then .lower else if isUpper c then .upper else mode

/-- The words of a run of letters and digits, of which `word` has been read, reversed. A word ends
before an upper-case letter that follows a lower-case one, and before the last of several upper-case
letters if a lower-case one follows it. -/
def wordsFrom (mode : WordMode) (word : List Char) : List Char → List (List Char)
  | [] => if word.isEmpty then [] else [word.reverse]
  | [c] => [(c :: word).reverse]
  | c :: next :: rest =>
    let after := mode.after c
    if after == .lower && isUpper next then
      (c :: word).reverse :: wordsFrom .boundary [] (next :: rest)
    else if mode == .upper && isUpper c && isLower next then
      word.reverse :: wordsFrom .boundary [c] (next :: rest)
    else wordsFrom after (c :: word) (next :: rest)

/-- The maximal runs of letters and digits. -/
def wordRunsOf : List Char → List (List Char)
  | [] => [[]]
  | c :: rest =>
    if isWordChar c then
      match wordRunsOf rest with
      | [] => [[c]]
      | run :: runs => (c :: run) :: runs
    else [] :: wordRunsOf rest

def words (s : String) : List (List Char) :=
  (wordRunsOf s.toList).flatMap (wordsFrom .boundary [])

/-- A word in lower case; a capital sigma at its end becomes a final sigma. -/
def lowerWord : List Char → List Char
  | [] => []
  | ['Σ'] => ['ς']
  | c :: rest => lowerChar c ++ lowerWord rest

/-- A word with its first character in upper case and the others in lower case. -/
def capitalizeWord : List Char → List Char
  | [] => []
  | c :: rest => upperChar c ++ lowerWord rest

/-- A name as lower-case words with an underscore between neighbours. -/
def snakeCase (s : String) : String :=
  String.ofList (((words s).map lowerWord).intersperse ['_'] |>.flatten)

/-- A name as capitalised words written together. -/
def upperCamelCase (s : String) : String :=
  String.ofList ((words s).flatMap capitalizeWord)

end FlagBinding.Text
