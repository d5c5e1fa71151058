import Percussion.Number.Numeral
import Percussion.Yaml.Gap

/-!
# Quoted scalars

Between single quotes every character stands for itself and a quote is written twice; between
double quotes a backslash begins an escape. In both, lines are folded, and no line may begin with
a document indicator.
-/

namespace Percussion.Yaml.Quoted

/-- Reads on between single quotes after the gap `gap`, with the text so far, last character
first. -/
def singleFrom : List Char → Mark → Gap → List Char → Option (List Char × Cursor)
  | [], _, _, _ => none
  | c :: rest, mark, gap, text =>
    if isSpaceOrTab c then
      singleFrom rest (mark.after c) (gap.addSpace c) text
    else if isBreak c then
      singleFrom rest (mark.after c) (gap.addBreak c) text
    else if atDocumentIndicator mark (c :: rest) then
      none
    else if c == '\'' then
      match rest with
      | '\'' :: rest => singleFrom rest (mark.right 2) Gap.none ('\'' :: (gap.folded ++ text))
      | _ => some ((gap.folded ++ text).reverse, ⟨rest, mark.right 1⟩)
    else
      singleFrom rest (mark.after c) Gap.none (c :: (gap.folded ++ text))

/-- Reads a scalar between single quotes, from the first quote on. -/
def single? (cur : Cursor) : Option (List Char × Cursor) :=
  let cur := cur.skip 1
  singleFrom cur.rest cur.mark Gap.none []

/-- The character for which a backslash and a letter stand. -/
def escaped? : Char → Option Char
  | '0' => some '\x00'
  | 'a' => some '\x07'
  | 'b' => some '\x08'
  | 't' => some '\t'
  | '\t' => some '\t'
  | 'n' => some '\n'
  | 'v' => some '\x0B'
  | 'f' => some '\x0C'
  | 'r' => some '\r'
  | 'e' => some '\x1B'
  | ' ' => some ' '
  | '"' => some '"'
  | '/' => some '/'
  | '\\' => some '\\'
  | 'N' => some '\u0085'
  | '_' => some '\u00A0'
  | 'L' => some '\u2028'
  | 'P' => some '\u2029'
  | _ => none

/-- How many hexadecimal digits follow a backslash and a letter. -/
def codeLength? : Char → Option Nat
  | 'x' => some 2
  | 'u' => some 4
  | 'U' => some 8
  | _ => none

/-- The character with a code, if there is one. -/
def ofCode? (n : Nat) : Option Char :=
  if n.isValidChar then some (Char.ofNat n) else none

/-- Reads on between double quotes after the gap `gap`, with the text so far, last character
first. Inside an escape by code, `code` holds how many digits are still to come and the value of
those before. -/
def doubleFrom :
    List Char → Mark → Gap → Option (Nat × Nat) → List Char → Option (List Char × Cursor)
  | [], _, _, _, _ => none
  | c :: rest, mark, gap, some (left, value), text => do
    let value := value * 16 + (← Number.digitValue? c)
    if left ≤ 1 then
      doubleFrom rest (mark.after c) gap none ((← ofCode? value) :: text)
    else
      doubleFrom rest (mark.after c) gap (some (left - 1, value)) text
  | c :: rest, mark, gap, none, text =>
    if isSpaceOrTab c then
      doubleFrom rest (mark.after c) (gap.addSpace c) none text
    else if isBreak c then
      doubleFrom rest (mark.after c) (gap.addBreak c) none text
    else if atDocumentIndicator mark (c :: rest) then
      none
    else if c == '"' then
      some ((gap.folded ++ text).reverse, ⟨rest, mark.right 1⟩)
    else if c == '\\' then
      match rest with
      | [] => none
      | e :: rest =>
        let mark := (mark.right 1).after e
        let text := gap.folded ++ text
        if isBreak e then
          doubleFrom rest mark Gap.escaped none text
        else
          match codeLength? e with
          | some length => doubleFrom rest mark Gap.none (some (length, 0)) text
          | none => do doubleFrom rest mark Gap.none none ((← escaped? e) :: text)
    else
      doubleFrom rest (mark.after c) Gap.none none (c :: (gap.folded ++ text))

/-- Reads a scalar between double quotes, from the first quote on. -/
def double? (cur : Cursor) : Option (List Char × Cursor) :=
  let cur := cur.skip 1
  doubleFrom cur.rest cur.mark Gap.none none []

end Percussion.Yaml.Quoted
