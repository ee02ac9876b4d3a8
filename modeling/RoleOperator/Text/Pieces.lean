/-!
# White space and pieces of a text

The characters with the White_Space property, trimming, and cutting a text at its marks. A text that
trims to the empty text is blank.
-/
namespace RoleOperator.Text

/-- The White_Space property of the character standard. -/
def isBlank (c : Char) : Bool :=
  let n := c.val.toNat
  (9 ≤ n && n ≤ 13) || n == 0x20 || n == 0x85 || n == 0xA0 || n == 0x1680
    || (0x2000 ≤ n && n ≤ 0x200A) || n == 0x2028 || n == 0x2029 || n == 0x202F || n == 0x205F
    || n == 0x3000

/-- Drop the characters with property `p` at the front. -/
def trimStart (p : Char → Bool) (cs : List Char) : List Char := cs.dropWhile p

/-- Drop the characters with property `p` at the end. -/
def trimEnd (p : Char → Bool) (cs : List Char) : List Char := (cs.reverse.dropWhile p).reverse

/-- Drop the characters with property `p` at both ends. -/
def trimBoth (p : Char → Bool) (cs : List Char) : List Char := trimEnd p (trimStart p cs)

/-- The text without white space at its ends. -/
def trim (s : String) : String := String.ofList (trimBoth isBlank s.toList)

/-- Pieces between the characters with property `p`; one more than there are such characters. -/
def pieces (p : Char → Bool) : List Char → List (List Char)
  | [] => [[]]
  | c :: cs =>
    if p c then [] :: pieces p cs
    else
      match pieces p cs with
      | [] => [[c]]
      | x :: xs => (c :: x) :: xs

/-- Text before the first of a mark and the text behind it, if the mark is there. -/
def cut (mark : Char) (cs : List Char) : List Char × Option (List Char) :=
  let first := cs.takeWhile (· ≠ mark)
  match cs.drop first.length with
  | [] => (first, none)
  | _ :: rest => (first, some rest)

/-- Text before the last of a mark, if the mark is there, and the text behind it. -/
def cutLast (mark : Char) (cs : List Char) : Option (List Char) × List Char :=
  let last := (cs.reverse.takeWhile (· ≠ mark)).reverse
  if last.length < cs.length then (some (cs.take (cs.length - last.length - 1)), last)
  else (none, cs)

end RoleOperator.Text
