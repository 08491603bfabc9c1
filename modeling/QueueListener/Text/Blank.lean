/-!
# White space and lists in text

**Blank characters** are those with the Unicode property White_Space.

* `trim` — the text without blank characters at either end;
* `segments` — the pieces of a text between separators, at least one;
* `listItems` — a comma separated list: trimmed pieces, the empty ones left out.
-/

namespace QueueListener.Text

/-- The code points with the Unicode property White_Space. -/
def blankPoints : List Nat :=
  [0x09, 0x0A, 0x0B, 0x0C, 0x0D, 0x20, 0x85, 0xA0, 0x1680, 0x2000, 0x2001, 0x2002, 0x2003, 0x2004,
    0x2005, 0x2006, 0x2007, 0x2008, 0x2009, 0x200A, 0x2028, 0x2029, 0x202F, 0x205F, 0x3000]

/-- White space in the sense of Unicode. -/
def isBlank (c : Char) : Bool := blankPoints.contains c.toNat

/-- The characters without the blank ones at the front. -/
def trimFront (cs : List Char) : List Char := cs.dropWhile isBlank

/-- The characters without the blank ones at either end. -/
def trimChars (cs : List Char) : List Char := (trimFront (trimFront cs).reverse).reverse

/-- The text without white space at either end. -/
def trim (s : String) : String := String.ofList (trimChars s.toList)

/-- Whether nothing but white space is in the text. -/
def isBlankText (s : String) : Bool := s.toList.all isBlank

/-- The pieces between separators: one more than there are separators. -/
def segments (separator : Char) : List Char → List (List Char)
  | [] => [[]]
  | c :: rest =>
    if c = separator then [] :: segments separator rest
    else match segments separator rest with
      | [] => [[c]]
      | piece :: pieces => (c :: piece) :: pieces

/-- The items of a comma separated list, trimmed, without the empty ones, in order. -/
def listItems (s : String) : List String :=
  (((segments ',' s.toList).map trimChars).filter (! ·.isEmpty)).map String.ofList

/-- An ASCII capital as a small letter; any other character as it is. -/
def lowerAscii (c : Char) : Char :=
  if 'A' ≤ c ∧ c ≤ 'Z' then Char.ofNat (c.toNat + 32) else c

/-- The text with its ASCII capitals made small. -/
def lower (s : String) : String := String.ofList (s.toList.map lowerAscii)

/-- Equality up to the case of ASCII letters. -/
def sameIgnoringCase (s t : String) : Bool := lower s == lower t

end QueueListener.Text
