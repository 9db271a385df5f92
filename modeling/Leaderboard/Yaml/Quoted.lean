import Leaderboard.Json.Reader
import Leaderboard.Yaml.Line

set_option autoImplicit false

namespace Leaderboard.Yaml

-- What is written as an escape is never taken for spacing.
structure Glyph where
  char : Char
  escaped : Bool

-- A backslash at the end joins the next line directly.
inductive LineEnd
  | closed (rest : Line)
  | folded
  | joined

def singleLine : Line → List Glyph × LineEnd
  | [] => ([], .folded)
  | '\'' :: '\'' :: rest =>
    let (glyphs, ending) := singleLine rest
    (⟨'\'', true⟩ :: glyphs, ending)
  | '\'' :: rest => ([], .closed rest)
  | c :: rest =>
    let (glyphs, ending) := singleLine rest
    (⟨c, false⟩ :: glyphs, ending)

def escapes : List (Char × Nat) := [
  ('0', 0), ('a', 7), ('b', 8), ('t', 9), ('\t', 9), ('n', 10), ('v', 11), ('f', 12), ('r', 13),
  ('e', 0x1B), (' ', 0x20), ('"', 0x22), ('/', 0x2F), ('\\', 0x5C), ('N', 0x85), ('_', 0xA0),
  ('L', 0x2028), ('P', 0x2029)]

def escapeWidth? (c : Char) : Option Nat :=
  if c == 'x' then some 2
  else if c == 'u' then some 4
  else if c == 'U' then some 8
  else none

def scalarValue? (n : Nat) : Option Char := if n.isValidChar then some (Char.ofNat n) else none

def hexChar? (digits : List Char) : Option Char := do
  let values ← digits.mapM Json.hexDigit?
  scalarValue? (values.foldl (fun n d => n * 16 + d) 0)

-- The first argument counts characters that belong to the escape before.
def doubleLine : Nat → Line → Option (List Glyph × LineEnd)
  | _, [] => some ([], .folded)
  | skip + 1, _ :: rest => doubleLine skip rest
  | 0, '"' :: rest => some ([], .closed rest)
  | 0, ['\\'] => some ([], .joined)
  | 0, '\\' :: c :: rest =>
    match escapeWidth? c with
    | some width =>
      if rest.length < width then none
      else do
        let char ← hexChar? (rest.take width)
        let (glyphs, ending) ← doubleLine width rest
        return (⟨char, true⟩ :: glyphs, ending)
    | none => do
      let char ← (escapes.lookup c).map Char.ofNat
      let (glyphs, ending) ← doubleLine 0 rest
      return (⟨char, true⟩ :: glyphs, ending)
  | 0, c :: rest => do
    let (glyphs, ending) ← doubleLine 0 rest
    return (⟨c, false⟩ :: glyphs, ending)

def isSpacing (g : Glyph) : Bool := !g.escaped && isGap g.char

def glyphText (goesOn : Bool) (glyphs : List Glyph) : List Char :=
  let kept := if goesOn then (glyphs.reverse.dropWhile isSpacing).reverse else glyphs
  kept.map (·.char)

def quotedParts (read : Line → Option (List Glyph × LineEnd)) :
    Line → List Line → Option (List Line × Cursor)
  | line, below =>
    match read line with
    | none => none
    | some (glyphs, .closed rest) => some ([glyphText false glyphs], ⟨rest, below⟩)
    | some (glyphs, ending) =>
      match below with
      | [] => none
      | next :: more =>
        match quotedParts read (skipGap next) more with
        | none => none
        | some (parts, after) =>
          match ending, parts with
          | .joined, part :: rest => some ((glyphs.map (·.char) ++ part) :: rest, after)
          | _, _ => some (glyphText true glyphs :: parts, after)

def quoted? (read : Line → Option (List Glyph × LineEnd)) (c : Cursor) :
    Option (String × Cursor) :=
  (quotedParts read c.line c.below).map (fun (parts, after) =>
    (String.ofList (foldLines parts), after))

def readQuoted? (c : Cursor) : Option (String × Cursor) :=
  match c.line with
  | '\'' :: rest => quoted? (fun line => some (singleLine line)) ⟨rest, c.below⟩
  | '"' :: rest => quoted? (doubleLine 0) ⟨rest, c.below⟩
  | _ => none

end Leaderboard.Yaml
