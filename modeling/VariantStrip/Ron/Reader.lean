/-
Reading RON.

`Ron.parse?` reads a whole text: first the attributes that enable extensions, then one value.
Blank characters and comments may stand between any two tokens.
-/
import VariantStrip.Ron.Value
import VariantStrip.Text.Digit

namespace VariantStrip.Ron

open Text

/-! ### Blank characters and comments -/

/-- Whether a character is blank. -/
def isSpace (c : Char) : Bool := c == ' ' || c == '\n' || c == '\t' || c == '\r'

/-- Where a text is read: between tokens, in a comment to the end of the line, or in nested block
comments. -/
inductive SpaceMode where
  | between
  | line
  | block (level : Nat)

/-- Skips blank characters and comments; `none` if a comment is not closed. -/
def skipSpaceIn (mode : SpaceMode) : List Char → Option (List Char)
  | [] => match mode with
    | .block _ => none
    | _ => some []
  | c :: cs =>
    match mode with
    | .line => if c = '\n' then skipSpaceIn .between cs else skipSpaceIn .line cs
    | .between =>
      if isSpace c then skipSpaceIn .between cs
      else if c = '/' then
        match cs with
        | '/' :: rest => skipSpaceIn .line rest
        | '*' :: rest => skipSpaceIn (.block 0) rest
        | _ => none
      else some (c :: cs)
    | .block level =>
      match c, cs with
      | '/', '*' :: rest => skipSpaceIn (.block (level + 1)) rest
      | '*', '/' :: rest =>
        match level with
        | 0 => skipSpaceIn .between rest
        | level + 1 => skipSpaceIn (.block level) rest
      | _, cs => skipSpaceIn (.block level) cs

/-- Skips blank characters and comments between tokens. -/
def skipSpace (cs : List Char) : Option (List Char) := skipSpaceIn .between cs

/-! ### Identifiers -/

/-- The characters that an identifier may start with. -/
def isWordStart (c : Char) : Bool := c.isAlpha || c == '_'

/-- The characters of identifiers. -/
def isWordChar (c : Char) : Bool := isWordStart c || c.isDigit

/-- The characters of raw identifiers. -/
def isRawChar (c : Char) : Bool := isWordChar c || c == '.' || c == '+' || c == '-'

/-- Reads an identifier. After `r#` it may hold dots and signs; otherwise none of these may follow
it. -/
def identifier? : List Char → Option (String × List Char)
  | 'r' :: '#' :: cs =>
    let name := cs.takeWhile isRawChar
    if name.isEmpty then none else some (String.ofList name, cs.dropWhile isRawChar)
  | 'r' :: '"' :: _ => none
  | c :: cs =>
    if isWordStart c then
      let rest := cs.dropWhile isWordChar
      if rest.head?.any isRawChar then none
      else some (String.ofList (c :: cs.takeWhile isWordChar), rest)
    else none
  | [] => none

/-! ### Characters and strings -/

/-- Reads up to `count` hexadecimal digits before a closing brace. -/
def bracedHex : (count acc : Nat) → List Char → Option (Nat × List Char)
  | 0, acc, '\x7d' :: cs => some (acc, cs)
  | 0, _, _ => none
  | _ + 1, acc, '\x7d' :: cs => some (acc, cs)
  | count + 1, acc, c :: cs => do
    let d ← hexValue? c
    bracedHex count (acc * 16 + d) cs
  | _ + 1, _, [] => none

/-- Reads the escape after a backslash. -/
def escape? : List Char → Option (Char × List Char)
  | '\'' :: cs => some ('\'', cs)
  | '"' :: cs => some ('"', cs)
  | '\\' :: cs => some ('\\', cs)
  | 'n' :: cs => some ('\n', cs)
  | 'r' :: cs => some ('\r', cs)
  | 't' :: cs => some ('\t', cs)
  | '0' :: cs => some ('\x00', cs)
  | 'x' :: a :: b :: cs => do
    let a ← hexValue? a
    let b ← hexValue? b
    return (Char.ofNat (a * 16 + b), cs)
  | 'u' :: '\x7b' :: '\x7d' :: _ => none
  | 'u' :: '\x7b' :: cs => do
    let (n, cs) ← bracedHex 6 0 cs
    return (← charOfNat? n, cs)
  | _ => none

/-- Reads the characters of a string after its opening quote; `fuel` bounds their number. -/
def stringChars : (fuel : Nat) → List Char → Option (List Char × List Char)
  | 0, _ => none
  | _ + 1, [] => none
  | fuel + 1, c :: cs =>
    if c = '"' then some ([], cs)
    else if c = '\\' then do
      let (d, cs) ← escape? cs
      let (ds, cs) ← stringChars fuel cs
      return (d :: ds, cs)
    else do
      let (ds, cs) ← stringChars fuel cs
      return (c :: ds, cs)

/-- Reads the characters of a raw string up to its closing quote and hashes. -/
def rawChars (ending : List Char) : List Char → Option (List Char × List Char)
  | [] => none
  | c :: cs =>
    if ending.isPrefixOf (c :: cs) then some ([], (c :: cs).drop ending.length)
    else (rawChars ending cs).map fun (ds, rest) => (c :: ds, rest)

/-- Reads a raw string after its first letter. -/
def rawString? (cs : List Char) : Option (String × List Char) :=
  let hashes := cs.takeWhile (· == '#')
  match cs.dropWhile (· == '#') with
  | '"' :: rest => (rawChars ('"' :: hashes) rest).map fun (ds, rest) => (String.ofList ds, rest)
  | _ => none

/-- Reads a character after its opening quote. -/
def character? : List Char → Option (List Char)
  | '\\' :: cs => do
    match ← escape? cs with
    | (_, '\'' :: rest) => some rest
    | _ => none
  | c :: '\'' :: rest => if c = '\'' then none else some rest
  | _ => none

/-! ### Numbers -/

/-- The characters of whole numbers. -/
def isIntChar (c : Char) : Bool := c == '_' || (hexValue? c).isSome

/-- The characters of numbers with a point or an exponent. -/
def isFloatChar (c : Char) : Bool :=
  c.isDigit || c == '.' || c == 'e' || c == 'E' || c == '+' || c == '-' || c == '_'

/-- Reads a decimal number, infinity or what is no number, and returns what follows it. -/
def skipFloat (cs : List Char) : Option (List Char) :=
  let word (w : List Char) : Option (List Char) :=
    let rest := (dropSign cs).drop w.length
    if w.isPrefixOf (dropSign cs) ∧ ¬ rest.head?.any isWordChar then some rest else none
  word ['i', 'n', 'f'] <|> word ['N', 'a', 'N'] <|>
    let taken := cs.takeWhile isFloatChar
    if isDecimal (dropSign taken) then some (cs.dropWhile isFloatChar) else none

/-- Reads a whole number after its sign. In base ten it may also be written with a prefix for
another base; underscores may stand between digits; it has 64 bits. -/
def skipInteger (cs : List Char) : Option (List Char) :=
  let (base, cs) := match cs with
    | '0' :: 'x' :: cs => (16, cs)
    | '0' :: 'b' :: cs => (2, cs)
    | '0' :: 'o' :: cs => (8, cs)
    | cs => (10, cs)
  let taken := cs.takeWhile isIntChar
  let digits := taken.filterMap hexValue?
  if taken.isEmpty ∨ taken.head? = some '_' then none
  else if digits.all (· < base) ∧ numberOf base digits < Nat.pow 2 64 then
    some (cs.dropWhile isIntChar)
  else none

/-- Reads a number, and returns what follows it. What is no whole number may still be another. -/
def skipNumber (cs : List Char) : Option (List Char) :=
  let unsigned := dropSign cs
  if (unsigned.takeWhile isIntChar).length < (unsigned.takeWhile isFloatChar).length then
    skipFloat cs
  else skipInteger unsigned <|> skipFloat cs

/-! ### Values -/

/-- Reads blank characters, a character that has to follow, and blank characters. -/
def token (c : Char) (cs : List Char) : Option (List Char) := do
  match ← skipSpace cs with
  | d :: rest => if d = c then skipSpace rest else none
  | [] => none

/-- Reads a comma if one follows; the flag tells whether. -/
def comma (cs : List Char) : Option (Bool × List Char) := do
  match ← skipSpace cs with
  | ',' :: rest => return (true, ← skipSpace rest)
  | rest => return (false, rest)

/-- Whether what follows an opening bracket are fields: an identifier and a colon. -/
def startsFields (cs : List Char) : Option Bool :=
  match identifier? cs with
  | none => some false
  | some (_, rest) => do
    match ← skipSpace rest with
    | c :: _ => return c == ':'
    | [] => none

mutual

/-- Reads a value. -/
def value : (fuel : Nat) → List Char → Option (Ron × List Char)
  | 0, _ => none
  | fuel + 1, cs =>
    match identifier? cs with
    | some ("true", rest) => some (.bool true, rest)
    | some ("false", rest) => some (.bool false, rest)
    | some ("inf", rest) => some (.number, rest)
    | some ("NaN", rest) => some (.number, rest)
    | some ("None", rest) => some (.word "None", rest)
    | some ("Some", rest) => do
      let rest ← token '(' rest
      let (v, rest) ← value fuel rest
      let (_, rest) ← comma rest
      match rest with
      | ')' :: rest => return (.present v, rest)
      | _ => none
    | some (name, rest) => do
      match ← skipSpace rest with
      | '(' :: inner => group fuel (some name) inner
      | _ => return (.word name, rest)
    | none =>
      match cs with
      | '(' :: ')' :: rest => some (.unit, rest)
      | '(' :: inner => group fuel none inner
      | '[' :: inner => do
        let (vs, rest) ← items fuel ']' inner
        return (.list vs, rest)
      | '\x7b' :: inner => do
        let (es, rest) ← entries fuel inner
        return (.map es, rest)
      | '"' :: rest => (stringChars (rest.length + 1) rest).map fun (ds, rest) =>
          (.string (String.ofList ds), rest)
      | 'r' :: rest => (rawString? rest).map fun (s, rest) => (.string s, rest)
      | '\'' :: rest => (character? rest).map fun rest => (.character, rest)
      | c :: _ =>
        if c.isDigit ∨ c = '+' ∨ c = '-' then (skipNumber cs).map fun rest => (.number, rest)
        else if c = '.' then (skipFloat cs).map fun rest => (.number, rest)
        else none
      | [] => none

/-- Reads the values or fields of a group after its opening bracket. -/
def group : (fuel : Nat) → Option String → List Char → Option (Ron × List Char)
  | 0, _, _ => none
  | fuel + 1, name, cs => do
    let cs ← skipSpace cs
    if ← startsFields cs then
      let (fs, rest) ← fields fuel cs
      return (.record name fs, rest)
    else
      let (vs, rest) ← items fuel ')' cs
      return (.tuple name vs, rest)

/-- Reads values with commas between them, up to a closing bracket. -/
def items : (fuel : Nat) → (closing : Char) → List Char → Option (List Ron × List Char)
  | 0, _, _ => none
  | fuel + 1, closing, cs => do
    let cs ← skipSpace cs
    if cs.head? = some closing then return ([], cs.tail)
    let (v, rest) ← value fuel cs
    match ← comma rest with
    | (true, rest) =>
      let (vs, rest) ← items fuel closing rest
      return (v :: vs, rest)
    | (false, rest) => if rest.head? = some closing then return ([v], rest.tail) else none

/-- Reads fields with commas between them, up to a closing bracket. -/
def fields : (fuel : Nat) → List Char → Option (List (String × Ron) × List Char)
  | 0, _ => none
  | fuel + 1, cs => do
    let cs ← skipSpace cs
    if cs.head? = some ')' then return ([], cs.tail)
    let (key, rest) ← identifier? cs
    let rest ← token ':' rest
    let (v, rest) ← value fuel rest
    match ← comma rest with
    | (true, rest) =>
      let (fs, rest) ← fields fuel rest
      return ((key, v) :: fs, rest)
    | (false, rest) => if rest.head? = some ')' then return ([(key, v)], rest.tail) else none

/-- Reads the entries of a map after its opening brace. -/
def entries : (fuel : Nat) → List Char → Option (List (Ron × Ron) × List Char)
  | 0, _ => none
  | fuel + 1, cs => do
    let cs ← skipSpace cs
    if cs.head? = some '\x7d' then return ([], cs.tail)
    let (k, rest) ← value fuel cs
    let rest ← token ':' rest
    let (v, rest) ← value fuel rest
    match ← comma rest with
    | (true, rest) =>
      let (es, rest) ← entries fuel rest
      return ((k, v) :: es, rest)
    | (false, rest) => if rest.head? = some '\x7d' then return ([(k, v)], rest.tail) else none

end

/-! ### Whole texts -/

/-- The extensions with one more enabled. -/
def Extensions.enable? (exts : Extensions) (name : String) : Option Extensions :=
  if name = "implicit_some" then some { exts with implicitSome := true }
  else if name = "unwrap_newtypes" then some exts
  else if name = "unwrap_variant_newtypes" then some { exts with unwrapVariantNewtypes := true }
  else none

/-- Reads the names of extensions up to the closing bracket; `fuel` bounds their number. -/
def extensionNames : (fuel : Nat) → Extensions → List Char → Option (Extensions × List Char)
  | 0, _, _ => none
  | fuel + 1, exts, cs => do
    let (name, rest) ← identifier? cs
    let exts ← exts.enable? name
    match ← comma rest with
    | (true, ')' :: rest) => return (exts, rest)
    | (true, rest) => extensionNames fuel exts rest
    | (false, ')' :: rest) => return (exts, rest)
    | (false, _) => none

/-- Reads attributes at the start of a text; `fuel` bounds their number. -/
def attributes : (fuel : Nat) → Extensions → List Char → Option (Extensions × List Char)
  | 0, _, _ => none
  | fuel + 1, exts, cs => do
    match ← skipSpace cs with
    | '#' :: rest =>
      let rest ← token '!' rest
      let rest ← token '[' rest
      let (name, rest) ← identifier? rest
      if name ≠ "enable" then none
      let rest ← token '(' rest
      let (exts, rest) ← extensionNames (rest.length + 1) exts rest
      let rest ← token ']' rest
      attributes fuel exts rest
    | rest => return (exts, rest)

/-- Reads a text that holds one value, after attributes and between blank characters. -/
def parse? (text : List Char) : Option (Extensions × Ron) := do
  let (exts, rest) ← attributes (text.length + 1) {} text
  let (v, rest) ← value (3 * rest.length + 3) rest
  if (← skipSpace rest).isEmpty then some (exts, v) else none

end VariantStrip.Ron
