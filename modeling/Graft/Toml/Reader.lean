import Graft.Toml.Scalar

/-!
Reading TOML texts.

Lines end with a line feed, alone or behind a carriage return, and a comment runs to the
end of its line. Entries and headers have a line each; arrays and tables in braces may
spread over several, with comments in between and a comma behind the last item. Line ends
within a string of several lines are kept as they are. Brackets in brackets and keys of
many parts are refused beyond a bound.

Every step of the reader consumes a character, so the length of the text bounds their
number.
-/

set_option autoImplicit false

namespace Graft.Toml

/-- What is left of a text after its beginning has been read. -/
abbrev Rest := List Char

/-- A blank within a line. -/
def isBlank (c : Char) : Bool :=
  c = ' ' || c = '\t'

/-- A character that can stand for itself in comments and strings. -/
def isPlain (c : Char) : Bool :=
  c = '\t' || (0x20 ≤ c.toNat && c.toNat ≠ 0x7f)

/-- A character of a key without quotes. -/
def isBare (c : Char) : Bool :=
  c.isAlphanum || c = '_' || c = '-'

/-- The text behind leading blanks. -/
def skipBlanks (cs : List Char) : Rest :=
  cs.dropWhile isBlank

/-! ## Between the lines -/

/-- The text behind blanks, line ends and comments. -/
def skipLines? : (inComment : Bool) → List Char → Option Rest
  | _, [] => some []
  | _, '\n' :: rest => skipLines? false rest
  | _, '\r' :: '\n' :: rest => skipLines? false rest
  | true, c :: rest => if isPlain c then skipLines? true rest else none
  | false, c :: rest =>
    if isBlank c then skipLines? false rest
    else if c = '#' then skipLines? true rest
    else some (c :: rest)

/-- The text behind a line that holds nothing more but a comment. -/
def endLine? : (inComment : Bool) → List Char → Option Rest
  | _, [] => some []
  | _, '\n' :: rest => some rest
  | _, '\r' :: '\n' :: rest => some rest
  | true, c :: rest => if isPlain c then endLine? true rest else none
  | false, c :: rest =>
    if isBlank c then endLine? false rest
    else if c = '#' then endLine? true rest
    else none

/-! ## Strings -/

/-- The character of a code in so many hexadecimal digits. -/
def coded? (width : Nat) (cs : List Char) : Option (Char × Rest) := do
  let digits := cs.take width
  guard (digits.length = width)
  let n ← Numeral.digits? 16 digits
  guard (n < 0xd800 || (0xdfff < n && n < 0x110000))
  return (Char.ofNat n, cs.drop width)

/-- The character of an escape, behind its backslash. -/
def escape? : List Char → Option (Char × Rest)
  | 'b' :: rest => some (Char.ofNat 8, rest)
  | 't' :: rest => some ('\t', rest)
  | 'n' :: rest => some ('\n', rest)
  | 'f' :: rest => some (Char.ofNat 12, rest)
  | 'r' :: rest => some ('\r', rest)
  | 'e' :: rest => some (Char.ofNat 27, rest)
  | '"' :: rest => some ('"', rest)
  | '\\' :: rest => some ('\\', rest)
  | 'x' :: rest => coded? 2 rest
  | 'u' :: rest => coded? 4 rest
  | 'U' :: rest => coded? 8 rest
  | _ => none

/-- The text behind blanks and line ends. -/
def skipBlankLines : List Char → Rest
  | [] => []
  | '\n' :: rest => skipBlankLines rest
  | '\r' :: '\n' :: rest => skipBlankLines rest
  | c :: rest => if isBlank c then skipBlankLines rest else c :: rest

/-- The text behind the rest of a line that a backslash ends, and the blanks and line ends
that follow it. -/
def continueLine? (cs : List Char) : Option Rest :=
  match skipBlanks cs with
  | '\n' :: rest => some (skipBlankLines rest)
  | '\r' :: '\n' :: rest => some (skipBlankLines rest)
  | _ => none

/-- The rest of a string on one line behind its opening quote, and what follows the closing
one. In single quotes a backslash stands for itself. -/
def shortString? (quote : Char) : (steps : Nat) → List Char → Option (List Char × Rest)
  | 0, _ => none
  | _ + 1, [] => none
  | steps + 1, c :: rest =>
    if c = quote then some ([], rest)
    else if c = '\\' && quote = '"' then do
      let (d, rest) ← escape? rest
      let (ds, rest) ← shortString? quote steps rest
      return (d :: ds, rest)
    else if isPlain c then do
      let (ds, rest) ← shortString? quote steps rest
      return (c :: ds, rest)
    else none

/-- The rest of a string of several lines behind its opening quotes, and what follows the
closing ones. One or two quotes before the closing ones belong to the string. -/
def longString? (quote : Char) : (steps : Nat) → List Char → Option (List Char × Rest)
  | 0, _ => none
  | _ + 1, [] => none
  | steps + 1, c :: rest =>
    if c = quote && rest.head? = some quote && rest.tail.head? = some quote then
      let rest := rest.drop 2
      let quotes := (rest.take 2).takeWhile (· = quote)
      some (quotes, rest.drop quotes.length)
    else if c = '\\' && quote = '"' then
      match continueLine? rest with
      | some rest => longString? quote steps rest
      | none => do
        let (d, rest) ← escape? rest
        let (ds, rest) ← longString? quote steps rest
        return (d :: ds, rest)
    else if isPlain c || c = '\n' || (c = '\r' && rest.head? = some '\n') then do
      let (ds, rest) ← longString? quote steps rest
      return (c :: ds, rest)
    else none

/-- The text behind a line end, if it begins with one. -/
def skipLineEnd : List Char → Rest
  | '\n' :: rest => rest
  | '\r' :: '\n' :: rest => rest
  | cs => cs

/-- A string, behind the first of its opening quotes. -/
def string? (quote : Char) (cs : List Char) : Option (String × Rest) :=
  let written := fun (s : List Char × Rest) => (String.ofList s.1, s.2)
  match cs with
  | a :: b :: rest =>
    if a = quote && b = quote then
      (longString? quote (rest.length + 1) (skipLineEnd rest)).map written
    else (shortString? quote (cs.length + 1) cs).map written
  | _ => (shortString? quote (cs.length + 1) cs).map written

/-! ## Keys -/

/-- A key without dots. A key in quotes is a string on one line. -/
def simpleKey? : List Char → Option (String × Rest)
  | [] => none
  | c :: rest =>
    if c = '"' || c = '\'' then
      (shortString? c (rest.length + 1) rest).map fun (s, rest) => (String.ofList s, rest)
    else if isBare c then
      let cs := c :: rest
      some (String.ofList (cs.takeWhile isBare), cs.dropWhile isBare)
    else none

/-- A key of one or more parts with dots in between, and what follows it and the blanks
behind it. -/
def key? : (steps : Nat) → List Char → Option (List String × Rest)
  | 0, _ => none
  | steps + 1, cs => do
    let (part, rest) ← simpleKey? (skipBlanks cs)
    match skipBlanks rest with
    | '.' :: rest =>
      let (parts, rest) ← key? steps rest
      return (part :: parts, rest)
    | rest => return ([part], rest)

/-- The parts that a key can have. -/
def longestKey : Nat := 80

/-- A key that is not too long. -/
def path? (cs : List Char) : Option (List String × Rest) :=
  (key? (cs.length + 1) cs).filter fun (parts, _) => parts.length ≤ longestKey

/-! ## Values -/

/-- The brackets that can be open at once. -/
def deepest : Nat := 80

/-- A character that ends a value without quotes. -/
def endsScalar (c : Char) : Bool :=
  isBlank c || c = '\n' || c = '\r' || c = ',' || c = ']' || c = '}' || c = '#'

/-- A value without quotes or brackets. A blank and a digit behind it belong to it. -/
def scalar? (cs : List Char) : Option (Toml × Rest) :=
  let (word, rest) := cs.span (!endsScalar ·)
  let (word, rest) := match rest with
    | ' ' :: d :: more =>
      if d.isDigit then
        let (time, rest) := (d :: more).span (!endsScalar ·)
        (word ++ ' ' :: time, rest)
      else (word, rest)
    | _ => (word, rest)
  (ofWord? word).map fun v => (v, rest)

mutual

/-- A value and what follows it, where so many brackets can be opened. -/
def value? : (steps room : Nat) → List Char → Option (Toml × Rest)
  | 0, _, _ => none
  | steps + 1, room, cs =>
    match skipBlanks cs, room with
    | '"' :: rest, _ => (string? '"' rest).map fun (s, rest) => (text s, rest)
    | '\'' :: rest, _ => (string? '\'' rest).map fun (s, rest) => (text s, rest)
    | '[' :: rest, room + 1 => do
      let (items, rest) ← items? steps room (← skipLines? false rest)
      return (array items, rest)
    | '\x7b' :: rest, room + 1 => do
      let (entries, rest) ← braced? steps room [] (← skipLines? false rest)
      return (table .braced entries, rest)
    | cs, _ => scalar? cs

/-- The items of an array up to its closing bracket. -/
def items? : (steps room : Nat) → List Char → Option (List Toml × Rest)
  | 0, _, _ => none
  | _ + 1, _, ']' :: rest => some ([], rest)
  | steps + 1, room, cs => do
    let (v, rest) ← value? steps room cs
    match ← skipLines? false rest with
    | ',' :: rest =>
      let (vs, rest) ← items? steps room (← skipLines? false rest)
      return (v :: vs, rest)
    | ']' :: rest => return ([v], rest)
    | _ => none

/-- The entries of a table up to its closing brace, behind those that are there. -/
def braced? : (steps room : Nat) → Entries → List Char → Option (Entries × Rest)
  | 0, _, _, _ => none
  | _ + 1, _, t, '\x7d' :: rest => some (t, rest)
  | steps + 1, room, t, cs => do
    let (path, rest) ← path? cs
    match ← skipLines? false rest with
    | '=' :: rest =>
      let (v, rest) ← value? steps room (← skipLines? false rest)
      let t ← addValue? v path t
      match ← skipLines? false rest with
      | ',' :: rest => braced? steps room t (← skipLines? false rest)
      | '\x7d' :: rest => return (t, rest)
      | _ => none
    | _ => none

end

/-! ## Lines -/

/-- The lines of a text. -/
def lines? : (steps : Nat) → List Char → Option (List Line)
  | 0, _ => none
  | steps + 1, cs => do
    match ← skipLines? false cs with
    | [] => return []
    | '[' :: '[' :: rest =>
      match ← path? rest with
      | (path, ']' :: ']' :: rest) =>
        return .seriesHeader path :: (← lines? steps (← endLine? false rest))
      | _ => none
    | '[' :: rest =>
      match ← path? rest with
      | (path, ']' :: rest) => return .header path :: (← lines? steps (← endLine? false rest))
      | _ => none
    | cs =>
      match ← path? cs with
      | (path, '=' :: rest) =>
        let (v, rest) ← value? (2 * rest.length + 2) deepest rest
        return .entry path v :: (← lines? steps (← endLine? false rest))
      | _ => none

/-- The text behind a mark of the byte order, which is no part of it. -/
def skipByteOrderMark : List Char → Rest
  | '\ufeff' :: rest => rest
  | cs => cs

/-- The document of a text. -/
def parse? (text : String) : Option Entries := do
  let cs := skipByteOrderMark text.toList
  assemble? (← lines? (cs.length + 1) cs)

end Graft.Toml
