/-
Reading TOML.

`Toml.parse?` reads a whole document. The fuel of the recursive functions is the length of the
text; arrays, inline tables and keys with dots may be nested less than `depthLimit` times.
-/
import VariantStrip.Toml.Scalar

namespace VariantStrip.Toml

/-- Arrays, inline tables and the parts of keys stay below this number. -/
def depthLimit : Nat := 80

/-! ### Blanks, comments and ends of lines -/

/-- Skips blank characters within a line. -/
def skipBlank (cs : List Char) : List Char := cs.dropWhile fun c => c == ' ' || c == '\t'

/-- Whether a character may stand in a line: it is no control character but the tab. -/
def isPlain (c : Char) : Bool := c == '\t' || (0x20 ≤ c.toNat && c.toNat != 0x7F)

/-- Reads the end of a line. -/
def newline? : List Char → Option (List Char)
  | '\n' :: cs => some cs
  | '\r' :: '\n' :: cs => some cs
  | _ => none

/-- Skips a comment up to the end of its line. -/
def skipComment : List Char → List Char
  | '#' :: cs => cs.dropWhile isPlain
  | cs => cs

/-- Reads what may follow a statement on its line, and the end of the line or text. -/
def lineEnd? (cs : List Char) : Option (List Char) :=
  match skipComment (skipBlank cs) with
  | [] => some []
  | cs => newline? cs

/-- Skips blanks, comments and ends of lines. -/
def skipLines : (fuel : Nat) → List Char → List Char
  | 0, cs => cs
  | fuel + 1, cs =>
    let cs := skipComment (skipBlank cs)
    match newline? cs with
    | some cs => skipLines fuel cs
    | none => cs

/-! ### Strings -/

/-- Reads the escape after a backslash. -/
def escape? : List Char → Option (Char × List Char)
  | 'b' :: cs => some ('\x08', cs)
  | 't' :: cs => some ('\t', cs)
  | 'n' :: cs => some ('\n', cs)
  | 'f' :: cs => some ('\x0c', cs)
  | 'r' :: cs => some ('\r', cs)
  | '"' :: cs => some ('"', cs)
  | '\\' :: cs => some ('\\', cs)
  | 'u' :: cs => Text.namedChar? 4 cs
  | 'U' :: cs => Text.namedChar? 8 cs
  | _ => none

/-- Reads a string after its opening quote; escapes are read between double quotes only. -/
def string? (quote : Char) : (fuel : Nat) → List Char → Option (List Char × List Char)
  | 0, _ => none
  | _ + 1, [] => none
  | fuel + 1, c :: cs =>
    if c = quote then some ([], cs)
    else if c = '\\' ∧ quote = '"' then do
      let (c, cs) ← escape? cs
      let (body, cs) ← string? quote fuel cs
      return (c :: body, cs)
    else if isPlain c then do
      let (body, cs) ← string? quote fuel cs
      return (c :: body, cs)
    else none

/-- Skips a backslash at the end of a line, with all blanks and ends of lines after it. -/
def continuation? (fuel : Nat) (cs : List Char) : Option (List Char) := do
  let cs ← newline? (skipBlank cs)
  return skip fuel cs
where
  /-- Skips blanks and ends of lines. -/
  skip : (fuel : Nat) → List Char → List Char
    | 0, cs => cs
    | fuel + 1, cs =>
      match newline? (skipBlank cs) with
      | some cs => skip fuel cs
      | none => skipBlank cs

/-- Reads a string of many lines after its opening quotes. It ends with three quotes, before which
up to two more belong to the string. -/
def longString? (quote : Char) : (fuel : Nat) → List Char → Option (List Char × List Char)
  | 0, _ => none
  | _ + 1, [] => none
  | fuel + 1, c :: cs =>
    let quotes := ((c :: cs).takeWhile (· == quote)).length
    if 3 ≤ quotes then
      let kept := min (quotes - 3) 2
      some (List.replicate kept quote, (c :: cs).drop (3 + kept))
    else if c = '\\' ∧ quote = '"' then
      match continuation? cs.length cs with
      | some cs => longString? quote fuel cs
      | none => do
        let (c, cs) ← escape? cs
        let (body, cs) ← longString? quote fuel cs
        return (c :: body, cs)
    else
      match newline? (c :: cs) with
      | some cs => do
        let (body, cs) ← longString? quote fuel cs
        return ('\n' :: body, cs)
      | none =>
        if isPlain c then do
          let (body, cs) ← longString? quote fuel cs
          return (c :: body, cs)
        else none

/-- Reads a string of either kind, from its opening quotes on. An end of line directly after three
quotes is skipped. -/
def quoted? (quote : Char) (cs : List Char) : Option (List Char × List Char) :=
  match cs with
  | a :: b :: c :: rest =>
    if a = quote ∧ b = quote ∧ c = quote then
      longString? quote (rest.length + 1) ((newline? rest).getD rest)
    else if a = quote then string? quote cs.length (b :: c :: rest)
    else none
  | a :: rest => if a = quote then string? quote cs.length rest else none
  | [] => none

/-! ### Keys -/

/-- Whether a character may stand in a key without quotes. -/
def isKeyChar (c : Char) : Bool := c.isAlphanum || c == '_' || c == '-'

/-- Reads one part of a key. -/
def keyPart? (cs : List Char) : Option (String × List Char) :=
  match cs with
  | '"' :: rest => (string? '"' cs.length rest).map fun (s, rest) => (String.ofList s, rest)
  | '\'' :: rest => (string? '\'' cs.length rest).map fun (s, rest) => (String.ofList s, rest)
  | cs =>
    let name := cs.takeWhile isKeyChar
    if name.isEmpty then none else some (String.ofList name, cs.dropWhile isKeyChar)

/-- Reads the parts of a key, with the blanks around them. -/
def keyParts? : (fuel : Nat) → List Char → Option (List String × List Char)
  | 0, _ => none
  | fuel + 1, cs => do
    let (part, cs) ← keyPart? (skipBlank cs)
    match skipBlank cs with
    | '.' :: cs => do
      let (parts, cs) ← keyParts? fuel cs
      return (part :: parts, cs)
    | cs => return ([part], cs)

/-- Reads a key. -/
def key? (cs : List Char) : Option (List String × List Char) :=
  keyParts? (depthLimit - 1) cs

/-! ### Values -/

/-- Whether a character may stand in a number, a time or a word. -/
def isRunChar (c : Char) : Bool :=
  c.isAlphanum || c == '+' || c == '-' || c == '.' || c == '_' || c == ':'

/-- Reads a number, a time or a word. A blank may stand between a day and a time of day. -/
def run? (cs : List Char) : Option (Toml × List Char) :=
  let run := cs.takeWhile isRunChar
  let rest := cs.dropWhile isRunChar
  match day? run, rest with
  | some [], ' ' :: c :: more =>
    if c.isDigit then
      let clock := (c :: more).takeWhile isRunChar
      (scalar? (run ++ 'T' :: clock)).map fun v => (v, (c :: more).dropWhile isRunChar)
    else (scalar? run).map fun v => (v, rest)
  | _, _ => (scalar? run).map fun v => (v, rest)

mutual

/-- Reads a value inside of `depth` arrays and tables. -/
def value? : (fuel depth : Nat) → List Char → Option (Toml × List Char)
  | 0, _, _ => none
  | fuel + 1, depth, cs =>
    match cs with
    | '"' :: _ => (quoted? '"' cs).map fun (s, rest) => (.text (String.ofList s), rest)
    | '\'' :: _ => (quoted? '\'' cs).map fun (s, rest) => (.text (String.ofList s), rest)
    | '[' :: rest =>
      if depth + 1 < depthLimit then
        (items? fuel (depth + 1) rest).map fun (vs, rest) => (.array vs, rest)
      else none
    | '\x7b' :: rest =>
      if depth + 1 < depthLimit then
        match skipBlank rest with
        | '\x7d' :: rest => some (.table .inline [], rest)
        | rest => (fields? fuel (depth + 1) [] rest).map fun (t, rest) => (.table .inline t, rest)
      else none
    | cs => run? cs

/-- Reads the items of an array and its closing bracket. -/
def items? : (fuel depth : Nat) → List Char → Option (List Toml × List Char)
  | 0, _, _ => none
  | fuel + 1, depth, cs =>
    match skipLines cs.length cs with
    | ']' :: rest => some ([], rest)
    | cs => do
      let (v, rest) ← value? fuel depth cs
      match skipLines rest.length rest with
      | ',' :: rest => do
        let (vs, rest) ← items? fuel depth rest
        return (v :: vs, rest)
      | ']' :: rest => return ([v], rest)
      | _ => none

/-- Reads the fields of an inline table that is not empty, and its closing brace. -/
def fields? : (fuel depth : Nat) → TomlTable → List Char → Option (TomlTable × List Char)
  | 0, _, _, _ => none
  | fuel + 1, depth, t, cs => do
    let (keys, rest) ← key? cs
    let (v, rest) ← value? fuel depth (skipBlank (← char? '=' rest))
    let t ← t.assign v true keys
    match skipBlank rest with
    | ',' :: rest => fields? fuel depth t rest
    | '\x7d' :: rest => return (t, rest)
    | _ => none

end

/-! ### Documents -/

/-- Reads a statement up to the end of its line. -/
def statement? (cs : List Char) : Option (TomlLine × List Char) :=
  match cs with
  | '[' :: '[' :: rest => do
    let (keys, rest) ← key? rest
    return (.item keys, ← lineEnd? (← char? ']' (← char? ']' rest)))
  | '[' :: rest => do
    let (keys, rest) ← key? rest
    return (.table keys, ← lineEnd? (← char? ']' rest))
  | cs => do
    let (keys, rest) ← key? cs
    let (v, rest) ← value? (cs.length + 1) 0 (skipBlank (← char? '=' rest))
    return (.assign keys v, ← lineEnd? rest)

/-- Adds the statements of a text to a document. -/
def statements? : (fuel : Nat) → TomlDraft → List Char → Option TomlDraft
  | 0, _, _ => none
  | fuel + 1, d, cs =>
    match skipLines cs.length cs with
    | [] => some d
    | cs => do
      let (line, rest) ← statement? cs
      statements? fuel (← d.add line) rest

/-- Reads a document; a mark of the byte order may stand before it. -/
def parse? (source : List Char) : Option TomlTable :=
  let cs := match source with
    | '\ufeff' :: cs => cs
    | cs => cs
  (statements? (cs.length + 1) {} cs).map (·.root)

end VariantStrip.Toml
