import RoleOperator.Text.Pieces

/-!
# Internet addresses

Addresses of four bytes, written as up to four numbers, the last of which fills the bytes that are
left; and addresses of eight groups, of which a run of zeros may be left out.
-/
namespace RoleOperator.Url

def isHex (c : Char) : Bool :=
  c.isDigit || ('a' ≤ c && c ≤ 'f') || ('A' ≤ c && c ≤ 'F')

def hexValue (c : Char) : Nat :=
  if c.isDigit then c.toNat - 48 else if 'a' ≤ c then c.toNat - 87 else c.toNat - 55

/-- The number that digits of a base make up. -/
def numeral (base : Nat) (ds : List Char) : Nat := ds.foldl (fun n c => n * base + hexValue c) 0

/-! ## Four bytes -/

/-- A decimal number, or an octal or hexadecimal one that begins with a zero. -/
def addressNumber? : List Char → Option Nat
  | [] => none
  | '0' :: 'x' :: ds | '0' :: 'X' :: ds => if ds.all isHex then some (numeral 16 ds) else none
  | '0' :: d :: ds =>
    if (d :: ds).all fun c => '0' ≤ c && c ≤ '7' then some (numeral 8 (d :: ds)) else none
  | ds => if ds.all Char.isDigit then some (numeral 10 ds) else none

/-- The parts of a name; a dot at its end does not count. -/
def nameParts (name : List Char) : List (List Char) :=
  let parts := Text.pieces (· = '.') name
  if parts.length > 1 && parts.getLast? = some [] then parts.dropLast else parts

/-- A name whose last part is a number can be nothing but an address. -/
def endsInNumber (name : List Char) : Bool :=
  match (nameParts name).getLast? with
  | none | some [] => false
  | some last => last.all Char.isDigit || (addressNumber? last).isSome

/-- The four bytes as one number. -/
def ipv4? (name : List Char) : Option Nat := do
  let numbers ← (nameParts name).mapM addressNumber?
  let last ← numbers.getLast?
  let front := numbers.dropLast
  if numbers.length ≤ 4 && front.all (· ≤ 255) && last < Nat.pow 256 (4 - front.length) then
    some (front.foldl (fun n b => n * 256 + b) 0 * Nat.pow 256 (4 - front.length) + last)
  else none

def ipv4Text (n : Nat) : String :=
  ".".intercalate ([n / 16777216, n / 65536 % 256, n / 256 % 256, n % 256].map toString)

/-! ## Eight groups -/

/-- A byte without leading zeros. -/
def byte? (ds : List Char) : Option Nat :=
  if ds.isEmpty || !ds.all Char.isDigit || (ds.length > 1 && ds.head? = some '0') then none
  else if numeral 10 ds ≤ 255 then some (numeral 10 ds)
  else none

/-- Two groups from four bytes in decimal. -/
def lastGroups? (cs : List Char) : Option (List Nat) := do
  match ← (Text.pieces (· = '.') cs).mapM byte? with
  | [a, b, c, d] => some [a * 256 + b, c * 256 + d]
  | _ => none

/-- The groups of a text, behind those in `groups`; `gap` tells which one stands for a run of
zeros, counted from one. -/
def groups? (groups : List Nat) (gap : Option Nat) :
    Nat → List Char → Option (List Nat × Option Nat)
  | _, [] => some (groups, gap)
  | 0, _ => none
  | fuel + 1, c :: cs =>
    if groups.length = 8 then none
    else if c = ':' then
      if gap.isSome then none
      else groups? (groups ++ [0]) (some (groups.length + 1)) fuel cs
    else
      let ds := ((c :: cs).take 4).takeWhile isHex
      let next := groups ++ [numeral 16 ds]
      match (c :: cs).drop ds.length with
      | [] => some (next, gap)
      | ':' :: rest => if rest.isEmpty then none else groups? next gap fuel rest
      | '.' :: _ =>
        if ds.isEmpty || groups.length > 6 then none
        else (lastGroups? (c :: cs)).map fun two => (groups ++ two, gap)
      | _ => none

/-- Eight groups. -/
def ipv6? (cs : List Char) : Option (List Nat) := do
  let (groups, gap) ← match cs with
    | ':' :: ':' :: rest => groups? [0] (some 1) rest.length rest
    | ':' :: _ => none
    | _ => if cs.length < 2 then none else groups? [] none cs.length cs
  match gap with
  | some i => some (groups.take i ++ List.replicate (8 - groups.length) 0 ++ groups.drop i)
  | none => if groups.length = 8 then some groups else none

/-- Start and length of the first of the longest runs of zeros. -/
def longestZeros (groups : List Nat) : Nat × Nat :=
  (List.range groups.length).foldl (fun best i =>
    let length := ((groups.drop i).takeWhile (· = 0)).length
    if best.2 < length then (i, length) else best) (0, 0)

def groupsText (groups : List Nat) : String :=
  ":".intercalate (groups.map fun n => String.ofList (Nat.toDigits 16 n))

/-- The address with its longest run of zeros left out, a single one aside. -/
def ipv6Text (groups : List Nat) : String :=
  let (start, length) := longestZeros groups
  if length < 2 then groupsText groups
  else groupsText (groups.take start) ++ "::" ++ groupsText (groups.drop (start + length))

end RoleOperator.Url
