import RoleOperator.Text.Percent

/-!
# Paths

The path of a web address in its normal form: segments between slashes, those of one or two dots
resolved, and what a path cannot hold percent-encoded. A drive letter at the end of a path is never
taken off with what follows it. A path is kept last character first while it grows.
-/
namespace RoleOperator.Url

def inQuery (c : Char) : Bool := c = ' ' || c = '"' || c = '#' || c = '<' || c = '>'

def inPath (c : Char) : Bool := inQuery c || c = '?' || c = '\x60' || c = '\x7b' || c = '\x7d'

/-- How a scheme reads its addresses. -/
inductive SchemeKind where
  | file
  | web
  | other
  deriving DecidableEq, Repr

def SchemeKind.isSpecial (k : SchemeKind) : Bool := k ≠ .other

def SchemeKind.isSlash (k : SchemeKind) (c : Char) : Bool := c = '/' || (k.isSpecial && c = '\\')

/-! ## Drive letters -/

/-- A letter and a colon or bar, at the end or in front of a mark. -/
def startsWithDrive : List Char → Bool
  | a :: b :: rest =>
    a.isAlpha && (b = ':' || b = '|')
      && match rest with
        | [] => true
        | c :: _ => c = '/' || c = '\\' || c = '?' || c = '#'
  | _ => false

def isDrive (segment : List Char) : Bool := segment.length = 2 && startsWithDrive segment

def isNormalDrive (segment : List Char) : Bool := isDrive segment && segment.getLast? = some ':'

/-! ## Dots -/

/-- A segment with its encoded dots written out. -/
def plainDots : List Char → List Char
  | '%' :: '2' :: e :: rest =>
    if e = 'e' || e = 'E' then '.' :: plainDots rest else '%' :: '2' :: e :: plainDots rest
  | c :: rest => c :: plainDots rest
  | [] => []

/-- The last segment of a path and what is before it. -/
def lastSegment (path : List Char) : List Char × List Char :=
  let last := path.takeWhile (· ≠ '/')
  (last.reverse, path.drop last.length)

/-- Without the slash at the end, unless it is the only one or follows a drive letter. -/
def dropSlash : List Char → List Char
  | '/' :: path =>
    let (segment, before) := lastSegment path
    if before.isEmpty || startsWithDrive (segment ++ ['/']) then '/' :: path else path
  | path => path

/-- Without the last segment, a drive letter of a file aside. -/
def dropSegment (kind : SchemeKind) (path : List Char) : List Char :=
  let (segment, before) := lastSegment path
  if kind = .file && isNormalDrive segment then path else before

/-- One level up. -/
def up (kind : SchemeKind) (path : List Char) : List Char :=
  let path := dropSlash path
  let bare := (path.filter (· ≠ '/')).reverse
  let oneSegment := ((path.dropWhile (· = '/')).dropWhile (· ≠ '/')).all (· = '/')
  if kind = .file && oneSegment && isNormalDrive bare then path else dropSegment kind path

def ensureSlash (path : List Char) : List Char :=
  if path.head? = some '/' then path else '/' :: path

/-! ## Segments -/

/-- A path and whether the host is still there: an absolute drive letter leaves no room for one. -/
structure Path where
  text : List Char := []
  keepsHost : Bool := true
  deriving Repr

/-- Add a segment, with the slash that follows it if there is one. -/
def Path.add (kind : SchemeKind) (p : Path) (segment : List Char) (slash : Bool) : Path :=
  let finish := fun (text : List Char) => if slash then '/' :: text else text
  match plainDots segment with
  | ['.', '.'] =>
    let text := up kind p.text
    { p with text := if slash then ensureSlash text else text }
  | ['.'] => { p with text := ensureSlash p.text }
  | _ =>
    if kind = .file && p.text.length = 1 && isDrive segment then
      ⟨finish (':' :: segment.take 1 ++ p.text), false⟩
    else
      let encoded := (Text.percentEncode inPath segment).toList
      { p with text := finish (encoded.reverse ++ p.text) }

/-- Add the segments up to a query or fragment; what is left begins with its mark. -/
def Path.extend (kind : SchemeKind) : Nat → Path → List Char → Path × List Char
  | 0, p, cs => (p, cs)
  | fuel + 1, p, cs =>
    let segment := cs.takeWhile fun c => !kind.isSlash c && c ≠ '?' && c ≠ '#'
    match cs.drop segment.length with
    | [] => (p.add kind segment false, [])
    | c :: rest =>
      if kind.isSlash c then (p.add kind segment true).extend kind fuel rest
      else (p.add kind segment false, c :: rest)

/-- The path that begins with `start` and goes on with a text, whether the host is still there, and
what is left of the text. A file has one slash in front. -/
def readPath (kind : SchemeKind) (start cs : List Char) : String × Bool × List Char :=
  let (p, rest) := Path.extend kind (cs.length + 1) ⟨start, true⟩ cs
  let text := p.text.reverse
  let text := if kind = .file then '/' :: text.dropWhile (· = '/') else text
  (String.ofList text, p.keepsHost, rest)

end RoleOperator.Url
