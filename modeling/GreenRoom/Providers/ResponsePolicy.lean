import GreenRoom.Lib.Pattern

/-!
# The response policy

`normalizedPlainText` and `boundedCompleteResponse` of `providers/response-policy.ts`.  A
provider's text loses the marks of bold words, must be plain then, and is cut after its last
complete sentence within the bounds.

## Main definitions

* `normalizedPlainText` — bold marks taken off, and no other markup.
* `scanStep`, `scan` — the loop that looks for the ends of sentences.
* `boundedCompleteResponse`.
-/

namespace GreenRoom.Providers.ResponsePolicy

open JsString

inductive ResponseFailure
  | invalid | unending
  deriving DecidableEq, Repr

def maxResponseSentences : ℕ := 5

def maxResponseWords : ℕ := 160

/-- `toLowerCase` of an ASCII letter. -/
def lowerUnit (u : UInt16) : UInt16 := if 0x41 ≤ u ∧ u ≤ 0x5A then u + 0x20 else u

/-- `[A-Za-z]`. -/
def isAsciiLetter (u : UInt16) : Bool := 0x61 ≤ lowerUnit u && lowerUnit u ≤ 0x7A

/-! ## Markup -/

section Markup

open Pattern

/-- `(^|\n)`. -/
def lineStart : Pattern := .alt .start (.oneOf "\n")

/-- `(?=\n|$)`. -/
def lineEnd : Pattern := .ahead (.alt (.oneOf "\n") .stop)

def indentedCode : Pattern :=
  .seq lineStart
    (.alt (.seq (.literal (ofString "    ")) (.star (.char ' '))) (.literal (ofString "\t")))

/-- Headings, quotes and lists. -/
def blockMark : Pattern :=
  .all [lineStart, .upTo (.oneOf "\t ") 3,
    .alt (.all [.char '#', .upTo (.char '#') 5, .oneOf "\t "])
      (.alt (.all [.char '>', .oneOf "\t "])
        (.alt (.all [.oneOf "-+*", .oneOf "\t "])
          (.all [.plus (.unit isDigit), .oneOf ".)", .oneOf "\t "])))]

def fence : Pattern :=
  .all [lineStart, .upTo (.char ' ') 3, .alt (.atLeast (.oneOf "`") 3) (.atLeast (.char '~') 3)]

/-- Code within a line, and marks of bold words that are left. -/
def inlineMark : Pattern :=
  .alt (.all [.oneOf "`", .star (.noneOf "`\n"), .oneOf "`"])
    (.alt (.literal (ofString "**")) (.literal (ofString "__")))

def ruleOf (mark : Char) : Pattern := .atLeast (.seq (.char mark) (.star (.oneOf " \t"))) 3

def rule : Pattern :=
  .seq (.all [lineStart, .upTo (.char ' ') 3, .alt (ruleOf '*') (.alt (ruleOf '_') (ruleOf '-'))])
    lineEnd

/-- A line with a line of marks under it. -/
def underlined : Pattern :=
  .seq (.all [lineStart, .plus (.noneOf "\n"), .oneOf "\n", .upTo (.char ' ') 3,
    .alt (.plus (.char '=')) (.plus (.char '-')), .star (.oneOf " \t")]) lineEnd

/-- The line under the head of a table. -/
def tableRule : Pattern :=
  .seq (.all [lineStart, .upTo (.char ' ') 3, .ahead (.seq (.star (.noneOf "\n")) (.char '|')),
    .ahead (.seq (.star (.noneOf "\n")) (.char '-')), .plus (.oneOf "|: \t-")]) lineEnd

def emphasis (mark : Char) : Pattern :=
  .seq
    (.seq (.seq (.notBehind (· = JsString.unit mark)) (.char mark))
      (.seq (.notAhead (.unit fun u => isSpace u || u = JsString.unit mark))
        (.all [.star (.unit fun u => u ≠ JsString.unit mark && u ≠ JsString.unit '\n'),
          .unit (!isSpace ·), .char mark])))
    (.notAhead (.char mark))

def link : Pattern :=
  .all [.opt (.char '!'), .char '[', .plus (.noneOf "]\n"), .char ']', .char '(',
    .plus (.noneOf "\n)"), .char ')']

def htmlTag : Pattern :=
  .all [.char '<',
    .alt (.seq (.opt (.char '/')) (.unit isAsciiLetter)) (.alt (.char '!') (.char '?')),
    .star (.noneOf ">"), .char '>']

/-- A letter in either case; without regard to case the long s is an s. -/
def caseless (c : Char) : Pattern :=
  .unit fun u => lowerUnit u = JsString.unit c || (c = 's' && u = 0x17F)

/-- `\w` without regard to case: the long s and the Kelvin sign are letters. -/
def isWordUnit (u : UInt16) : Bool :=
  isAsciiLetter u || isDigit u || u = JsString.unit '_' || u = 0x17F || u = 0x212A

def address : Pattern :=
  .seq (.boundary isWordUnit)
    (.seq (.alt (.all [caseless 'h', caseless 't', caseless 't', caseless 'p',
        .opt (caseless 's'), .char ':', .char '/', .char '/'])
      (.all [caseless 'w', caseless 'w', caseless 'w', .char '.'])) (.plus (.unit (!isSpace ·))))

def markup : List Pattern :=
  [blockMark, fence, inlineMark, rule, underlined, tableRule, emphasis '*', emphasis '_', link,
    htmlTag, address]

end Markup

/-- `([^*\n]*?\S)\*\*` for a mark: what is inside, and what follows. -/
def closeMarks (mark : UInt16) : JsString → Option (JsString × JsString)
  | [] => none
  | u :: rest =>
    if ¬ isSpace u ∧ [mark, mark].isPrefixOf rest then some ([u], rest.drop 2)
    else if u ≠ mark ∧ u ≠ unit '\n' then
      (closeMarks mark rest).map fun found => (u :: found.1, found.2)
    else none

/-- `\*\*(?=\S)([^*\n]*?\S)\*\*` for a mark, where it matches at the start of a text. -/
def openMarks (mark : UInt16) (text : JsString) : Option (JsString × JsString) :=
  if [mark, mark].isPrefixOf text ∧ ((text.drop 2).head?.any fun u => !isSpace u) then
    closeMarks mark (text.drop 2)
  else none

/-- `text.replace(/\*\*(?=\S)([^*\n]*?\S)\*\*/gu, "$1")` for a mark; the number is how far the
search may go. -/
def stripMarks (mark : UInt16) : ℕ → JsString → JsString
  | 0, text => text
  | _ + 1, [] => []
  | fuel + 1, u :: rest =>
    match openMarks mark (u :: rest) with
    | some (inside, after) => inside ++ stripMarks mark fuel after
    | none => u :: stripMarks mark fuel rest

def replaceMarks (mark : Char) (text : JsString) : JsString :=
  stripMarks (unit mark) text.length text

def normalizedPlainText (content : JsString) : Except ResponseFailure JsString :=
  let normalized := replaceMarks '_' (replaceMarks '*' (trim content))
  if markup.any (·.test normalized) || indentedCode.test content then .error .invalid
  else .ok normalized

/-! ## Sentences -/

def nonTerminalAbbreviations : List JsString :=
  ["dr.", "e.g.", "i.e.", "jr.", "mr.", "mrs.", "ms.", "prof.", "sr.", "st."].map ofString

/-- Letters with a period after each. -/
def isInitials : JsString → Bool
  | [] => true
  | u :: v :: rest => isAsciiLetter u && v = unit '.' && isInitials rest
  | [_] => false

def isNonTerminalAbbreviation (text : JsString) (tokenStart punctuationIndex : ℕ) : Bool :=
  let token := (text.take (punctuationIndex + 1)).drop tokenStart
  nonTerminalAbbreviations.any (fun abbreviation => token.map lowerUnit = abbreviation) ||
    (token.length = 2 && token.head?.any isAsciiLetter) ||
    (4 ≤ token.length && isInitials token)

/-- `["'”’»)}\]]`. -/
def isClosing (u : UInt16) : Bool :=
  u ∈ ([0x22, 0x27, 0x201D, 0x2019, 0xBB, 0x29, 0x7D, 0x5D] : List UInt16)

/-- `[.!?]`. -/
def isMark (u : UInt16) : Bool := u = unit '.' || u = unit '!' || u = unit '?'

/-- What may stand between two letters of a word. -/
def joinsWord (u : UInt16) : Bool :=
  u = 0x27 || u = 0x2019 || (0x2010 ≤ u && u ≤ 0x2015) || u = unit '-'

/-- The first place from `i` on whose code unit is not of a class. -/
def skipWhile (test : UInt16 → Bool) (text : JsString) (i : ℕ) : ℕ :=
  i + ((text.drop i).takeWhile test).length

/-- The variables of the loop. -/
structure Scan where
  selectedEnd : ℕ
  sentences : ℕ
  words : ℕ
  inWord : Bool
  tokenStart : ℕ
  index : ℕ
  deriving DecidableEq, Repr

inductive Round
  | next (scan : Scan)
  | stop (scan : Scan)
  deriving DecidableEq, Repr

def Round.scan : Round → Scan
  | .next scan => scan
  | .stop scan => scan

/-- A round of the loop at the marks of punctuation. -/
def markRound (text : JsString) (scan : Scan) (character : UInt16) : Round :=
  let punctuationIndex := scan.index
  let marks := skipWhile isMark text punctuationIndex
  let singlePeriod := marks = punctuationIndex + 1 ∧ character = unit '.'
  let index := skipWhile isClosing text marks
  if index < text.length ∧ ¬ text[index]?.any isSpace then .next { scan with index := index }
  else if singlePeriod ∧ index < text.length ∧
      isNonTerminalAbbreviation text scan.tokenStart punctuationIndex then
    .next { scan with index := index }
  else if scan.words = 0 then .next { scan with index := index }
  else
    let found := { scan with sentences := scan.sentences + 1, selectedEnd := index, index := index }
    if found.sentences = maxResponseSentences then .stop found else .next found

/-- A round of the loop; the letters and numbers of Unicode are a parameter. -/
def scanStep (isWordCharacter : UInt16 → Bool) (text : JsString) (scan : Scan) : Round :=
  let character := text.getD scan.index 0
  if isSpace character then
    .next { scan with inWord := false, tokenStart := scan.index + 1, index := scan.index + 1 }
  else if isWordCharacter character then
    if scan.inWord then .next { scan with index := scan.index + 1 }
    else if maxResponseWords < scan.words + 1 then .stop { scan with words := scan.words + 1 }
    else .next { scan with words := scan.words + 1, inWord := true, index := scan.index + 1 }
  else if joinsWord character ∧ scan.inWord ∧ text[scan.index + 1]?.any isWordCharacter then
    .next { scan with index := scan.index + 1 }
  else if ¬ isMark character then .next { scan with inWord := false, index := scan.index + 1 }
  else markRound text { scan with inWord := false } character

/-- The loop; `none` when it has not ended in so many rounds. -/
def scan (isWordCharacter : UInt16 → Bool) (text : JsString) : ℕ → Scan → Option Scan
  | 0, _ => none
  | fuel + 1, state =>
    if text.length ≤ state.index then some state
    else
      match scanStep isWordCharacter text state with
      | .stop state => some state
      | .next state => scan isWordCharacter text fuel state

def initialScan : Scan where
  selectedEnd := 0
  sentences := 0
  words := 0
  inWord := false
  tokenStart := 0
  index := 0

/-- The loop over a text from its start. -/
def scanText (isWordCharacter : UInt16 → Bool) (text : JsString) : Option Scan :=
  scan isWordCharacter text (text.length + 1) initialScan

def boundedCompleteResponse (isWordCharacter : UInt16 → Bool) (content : JsString) :
    Except ResponseFailure JsString := do
  let normalized ← normalizedPlainText content
  if normalized.length = 0 then throw .invalid
  match scanText isWordCharacter normalized with
  | none => throw .unending
  | some final =>
    if final.selectedEnd = 0 then throw .invalid
    return trim (normalized.take final.selectedEnd)

end GreenRoom.Providers.ResponsePolicy
