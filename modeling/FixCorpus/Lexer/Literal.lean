import FixCorpus.Text.Word

/-! Where the literals, comments and names of source code end. Each function
cuts a piece off the front of a text, which may be empty, and gives the piece
and the rest. -/

namespace FixCorpus.Lexer

open Text

def fraction : List Char → List Char × List Char
  | '.' :: text => ('.' :: text.takeWhile Char.isDigit, text.dropWhile Char.isDigit)
  | text => ([], text)

/-- An exponent: the letter, a sign, which is not optional, and at least one digit. -/
def exponent : List Char → List Char × List Char
  | e :: sign :: text =>
    if (e == 'e' || e == 'E') && (sign == '+' || sign == '-') && text.head?.any Char.isDigit then
      (e :: sign :: text.takeWhile Char.isDigit, text.dropWhile Char.isDigit)
    else ([], e :: sign :: text)
  | text => ([], text)

def numberSuffix : List Char → List Char × List Char
  | c :: text => if "flFLdD".toList.contains c then ([c], text) else ([], c :: text)
  | [] => ([], [])

/-- A number. It has one digit before the point, so a longer numeral is several numbers. -/
def number : List Char → List Char × List Char
  | d :: text =>
    if d.isDigit then
      let (digits, afterDigits) := fraction text
      let (power, afterPower) := exponent afterDigits
      let (suffix, rest) := numberSuffix afterPower
      (d :: (digits ++ power ++ suffix), rest)
    else ([], d :: text)
  | [] => ([], [])

/-- A name that begins with a letter or a low line, or with `@` before one of these. -/
def identifier (text : List Char) : List Char × List Char :=
  let (sign, name) := match text with
    | '@' :: text => (['@'], text)
    | text => ([], text)
  if name.head?.any (fun c => isIdentifierChar c && !c.isDigit) then
    (sign ++ name.takeWhile isIdentifierChar, name.dropWhile isIdentifierChar)
  else ([], text)

/-- The inside of a string: a backslash takes the next character with it, and neither of them is
a newline. -/
def quotedBody : List Char → List Char × List Char
  | [] => ([], [])
  | ['\\'] => ([], ['\\'])
  | '\\' :: c :: text =>
    if c == '\n' then ([], '\\' :: c :: text)
    else
      let (body, rest) := quotedBody text
      ('\\' :: c :: body, rest)
  | c :: text =>
    if c == '"' || c == '\n' then ([], c :: text)
    else
      let (body, rest) := quotedBody text
      (c :: body, rest)

/-- The inside of a verbatim string: it runs over lines, and a quote in it is written twice. -/
def verbatimBody : List Char → List Char × List Char
  | [] => ([], [])
  | '"' :: '"' :: text =>
    let (body, rest) := verbatimBody text
    ('"' :: '"' :: body, rest)
  | c :: text =>
    if c == '"' then ([], c :: text)
    else
      let (body, rest) := verbatimBody text
      (c :: body, rest)

def blockBody : List Char → List Char × List Char
  | [] => ([], [])
  | '*' :: '/' :: text => ([], '*' :: '/' :: text)
  | c :: text =>
    let (body, rest) := blockBody text
    (c :: body, rest)

def lineBody (text : List Char) : List Char × List Char :=
  (text.takeWhile (· != '\n'), text.dropWhile (· != '\n'))

theorem fraction_append (text : List Char) : (fraction text).1 ++ (fraction text).2 = text := by
  unfold fraction
  split <;> simp

theorem exponent_append (text : List Char) : (exponent text).1 ++ (exponent text).2 = text := by
  unfold exponent
  split
  · split <;> simp
  · simp

theorem numberSuffix_append (text : List Char) :
    (numberSuffix text).1 ++ (numberSuffix text).2 = text := by
  unfold numberSuffix
  split
  · split <;> simp
  · simp

theorem number_append (text : List Char) : (number text).1 ++ (number text).2 = text := by
  unfold number
  split
  · rename_i d text
    split
    · have digits := fraction_append text
      have power := exponent_append (fraction text).2
      have suffix := numberSuffix_append (exponent (fraction text).2).2
      simp [List.append_assoc, suffix, power, digits]
    · simp
  · simp

theorem identifier_append (text : List Char) :
    (identifier text).1 ++ (identifier text).2 = text := by
  unfold identifier
  split
  rename_i sign name eq
  split
  · split at eq <;> cases eq <;> simp
  · simp

theorem quotedBody_append (text : List Char) :
    (quotedBody text).1 ++ (quotedBody text).2 = text := by
  fun_induction quotedBody text <;> simp_all

theorem verbatimBody_append (text : List Char) :
    (verbatimBody text).1 ++ (verbatimBody text).2 = text := by
  fun_induction verbatimBody text <;> simp_all

theorem blockBody_append (text : List Char) :
    (blockBody text).1 ++ (blockBody text).2 = text := by
  fun_induction blockBody text <;> simp_all

theorem lineBody_append (text : List Char) : (lineBody text).1 ++ (lineBody text).2 = text := by
  simp [lineBody]

theorem length_rest_le {cut : List Char → List Char × List Char}
    (h : ∀ text, (cut text).1 ++ (cut text).2 = text) (text : List Char) :
    (cut text).2.length ≤ text.length := by
  have := congrArg List.length (h text)
  simp only [List.length_append] at this
  omega

end FixCorpus.Lexer
