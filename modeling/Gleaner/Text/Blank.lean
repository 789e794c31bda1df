/-!
White space of all scripts, and trimming.
-/

namespace Gleaner.Text

/-- White space: the ASCII blanks, the four information separators, and every character of
bidirectional class WS, B or S beyond ASCII. -/
def isBlank (c : Char) : Bool :=
  let n := c.toNat
  (9 ≤ n && n ≤ 13) || (28 ≤ n && n ≤ 32) || n = 0x85 || n = 0xA0 || n = 0x1680 ||
    (0x2000 ≤ n && n ≤ 0x200A) || n = 0x2028 || n = 0x2029 || n = 0x202F || n = 0x205F || n = 0x3000

/-- White space by the property of that name: all blanks but the information separators. -/
def isSpace (c : Char) : Bool := isBlank c && !(28 ≤ c.toNat && c.toNat ≤ 31)

/-- Drops the characters of a class from both ends. -/
def trimOf (p : Char → Bool) (cs : List Char) : List Char :=
  ((cs.dropWhile p).reverse.dropWhile p).reverse

def trim (s : String) : String := String.ofList (trimOf isBlank s.toList)

/-- The parts of a text between the occurrences of a separator: one more than there are
separators. -/
def splitAt (sep : Char) : List Char → List (List Char)
  | [] => [[]]
  | c :: cs =>
    if c = sep then [] :: splitAt sep cs
    else match splitAt sep cs with
      | [] => [[c]]
      | part :: parts => (c :: part) :: parts

/-- What stands before and after the first occurrence of a separator. -/
def cutAt? (sep : Char) : List Char → Option (List Char × List Char)
  | [] => none
  | c :: cs =>
    if c = sep then some ([], cs) else (cutAt? sep cs).map fun (a, b) => (c :: a, b)

/-- What stands before and after the last occurrence of a separator. -/
def cutAtLast? (sep : Char) (cs : List Char) : Option (List Char × List Char) :=
  (cutAt? sep cs.reverse).map fun (a, b) => (b.reverse, a.reverse)

/-- The longest parts of a text without characters of a class, in order. -/
def wordsOf (p : Char → Bool) (cs : List Char) : List (List Char) :=
  let (word, done) := cs.foldr (fun c (word, done) =>
    if p c then ([], if word.isEmpty then done else word :: done)
    else (c :: word, done)) (([] : List Char), ([] : List (List Char)))
  if word.isEmpty then done else word :: done

/-- What remains after a leading word, if the text starts with it. -/
def after? : List Char → List Char → Option (List Char)
  | [], cs => some cs
  | _ :: _, [] => none
  | w :: ws, c :: cs => if w = c then after? ws cs else none

end Gleaner.Text
