import Conlang.Text.CharSet

/-! The strings, blanks and line ends of TOML.

Every function takes the text from where it stands and gives back what it has read and the rest of
the text, or nothing when the text does not fit. -/
namespace Conlang.Toml
open Text

/-- Control characters other than the tab stand nowhere in a line. -/
def isForbidden (c : Char) : Bool := (c < ' ' && c != '\t') || c == '\x7f'

def isGap (c : Char) : Bool := c == ' ' || c == '\t'

def skipGaps (s : List Char) : List Char := s.dropWhile isGap

/-- The text behind a line end at the front. -/
def newline? : List Char → Option (List Char)
  | '\n' :: rest => some rest
  | '\r' :: '\n' :: rest => some rest
  | _ => none

/-- Skips gaps, line ends and comments. A comment runs to the end of its line. -/
def skipLines : (inComment : Bool) → List Char → Option (List Char)
  | _, '\n' :: rest => skipLines false rest
  | _, '\r' :: '\n' :: rest => skipLines false rest
  | true, c :: rest => if isForbidden c then none else skipLines true rest
  | true, [] => none
  | false, c :: rest =>
    if c = '#' then skipLines true rest
    else if isGap c then skipLines false rest
    else some (c :: rest)
  | false, [] => some []

/-- Reads the end of a line: gaps, perhaps a comment, and a line end or the end of the text. -/
def lineEnd (s : List Char) : Option (List Char) :=
  let rest := skipGaps s
  let rest := if rest.head? = some '#' then rest.dropWhile (!isForbidden ·) else rest
  if rest.isEmpty then some [] else newline? rest

/-! ### Escapes -/

def hexNumber (digits : List Char) : Option Nat :=
  digits.foldlM (fun n c => (CharSet.hexDigit? c).map (n * 16 + ·)) 0

/-- A character written with so many hexadecimal digits. -/
def hexChar? (digits : Nat) (s : List Char) : Option (Char × List Char) := do
  let code ← if digits ≤ s.length then hexNumber (s.take digits) else none
  if code.isValidChar then some (.ofNat code, s.drop digits) else none

/-- What a backslash and the characters behind it stand for. -/
def escape? : List Char → Option (Char × List Char)
  | 'b' :: rest => some ('\x08', rest)
  | 't' :: rest => some ('\t', rest)
  | 'n' :: rest => some ('\n', rest)
  | 'f' :: rest => some ('\x0c', rest)
  | 'r' :: rest => some ('\r', rest)
  | '"' :: rest => some ('"', rest)
  | '\\' :: rest => some ('\\', rest)
  | 'u' :: rest => hexChar? 4 rest
  | 'U' :: rest => hexChar? 8 rest
  | _ => none

/-- The text behind a backslash that only joins lines. -/
def joinLines? (s : List Char) : Option (List Char) := do
  let rest ← newline? (skipGaps s)
  some (skipBlank rest)
where
  skipBlank : List Char → List Char
    | '\r' :: '\n' :: rest => skipBlank rest
    | c :: rest => if isGap c || c == '\n' then skipBlank rest else c :: rest
    | [] => []

/-! ### Strings -/

/-- Puts characters in front of a string that has been read. -/
def prepend (cs : List Char) : List Char × List Char → List Char × List Char :=
  fun (text, rest) => (cs ++ text, rest)

/-- How many of the characters at the front are the quote. -/
def quotes (quote : Char) (s : List Char) : Nat := (s.takeWhile (· == quote)).length

/-- The rest of a string of one line. -/
def shortString (quote : Char) : (fuel : Nat) → List Char → Option (List Char × List Char)
  | 0, _ => none
  | _, [] => none
  | fuel + 1, c :: rest =>
    if c = quote then some ([], rest)
    else if c = '\\' && quote = '"' then do
      let (e, rest) ← escape? rest
      prepend [e] <$> shortString quote fuel rest
    else if isForbidden c then none
    else prepend [c] <$> shortString quote fuel rest

/-- The rest of a string of many lines. It ends at three quotes, of which up to two more may stand
in front. -/
def longString (quote : Char) : (fuel : Nat) → List Char → Option (List Char × List Char)
  | 0, _ => none
  | _, [] => none
  | fuel + 1, c :: rest =>
    let run := quotes quote (c :: rest)
    if 3 ≤ run then some (List.replicate (min (run - 3) 2) quote, (c :: rest).drop (min run 5))
    else if c = quote then prepend [c] <$> longString quote fuel rest
    else if c = '\\' && quote = '"' then
      match joinLines? rest with
      | some rest => longString quote fuel rest
      | none => do
        let (e, rest) ← escape? rest
        prepend [e] <$> longString quote fuel rest
    else match newline? (c :: rest) with
      | some rest => prepend ['\n'] <$> longString quote fuel rest
      | none => if isForbidden c then none else prepend [c] <$> longString quote fuel rest

/-- A string, behind its first quote. -/
def readString (quote : Char) (s : List Char) : Option (String × List Char) := do
  let (text, rest) ←
    if quotes quote s < 2 then shortString quote (s.length + 1) s
    else
      let body := s.drop 2
      longString quote (s.length + 1) ((newline? body).getD body)
  some (.ofList text, rest)

end Conlang.Toml
