import TagAudit.Text.Places

/-!
# Breaking lines

A line that is too broad is broken before the words that do not fit on it any more. What separates
two words stands with the first of them, and is left out at the end of a line as far as there is no
room for it. A word that is too broad by itself begins a line and is broken where the line is full.

Every code point is taken to need at least one place.
-/

namespace TagAudit.Text

/-- The number of places that are enough for a text, one at least for each code point. -/
def breadth : Text → Nat
  | [] => 0
  | c :: rest => max 1 c.places + breadth rest

/-- The words of a line, each with the separators after it, and the first with those before it as
    well. -/
def wholeWords : Text → List Text
  | [] => []
  | c :: rest =>
    match wholeWords rest with
    | [] => if c.separatesWords then [] else [c :: rest]
    | word :: others =>
      let front := word.takeWhile CodePoint.separatesWords
      if c.separatesWords || front.isEmpty then (c :: word) :: others
      else (c :: front) :: word.drop front.length :: others

/-- The breadth of a text without the separators at its end. -/
def bareBreadth (t : Text) : Nat := breadth (t.reverse.dropWhile CodePoint.separatesWords)

/-- The rest of a text broken wherever a line is full, given what stands on the first line. -/
def stretches (width : Nat) : (line : Text) → (rest : Text) → List Text
  | line, [] => [line]
  | line, c :: rest =>
    if line.isEmpty || breadth (line ++ [c]) ≤ width then stretches width (line ++ [c]) rest
    else line :: stretches width [c] rest

/-- Words laid on lines, given what stands on the first line if anything does. -/
def laidWords (width : Nat) : (line? : Option Text) → (words : List Text) → List Text
  | line?, [] => line?.toList
  | line?, word :: rest =>
    let line := line?.getD []
    if breadth line + bareBreadth word ≤ width then laidWords width (some (line ++ word)) rest
    else if bareBreadth word ≤ width then line?.toList ++ laidWords width (some word) rest
    else
      let pieces := stretches width [] word
      line?.toList ++ pieces.dropLast ++ laidWords width pieces.getLast? rest

/-- A line without the separators at its end for which there is no room. The line is given from its
    end on. -/
def croppedBack (width : Nat) : Text → Text
  | [] => []
  | c :: before =>
    if c.separatesWords && decide (width < breadth (c :: before)) then croppedBack width before
    else c :: before

/-- A line broken into lines of a width. -/
def wrapped (width : Nat) (line : Text) : List Text :=
  let lines := match wholeWords line with
    | [] => [line]
    | words => laidWords width none words
  lines.map fun line => (croppedBack width line.reverse).reverse

end TagAudit.Text
