/-
**Reading addresses.**

Reading an address normalises it.  Blanks around it and line breaks inside it vanish; it is cut at
the first `#` and the first `?`; what stands in front of the first colon is the scheme.  For the
usual schemes a backslash counts as a slash, any number of them leads to the host, and the path
ends up with at least one segment.  Segments `.` and `..`, also with escaped points, are carried
out, though none leads out of a drive.  Credentials in front of the host are taken out: they travel
apart from the address.

The address of a file has a host behind two slashes only, which may be missing and has neither port
nor credentials; on the own machine it is left out, and so it is in front of a drive.

Main definitions:

* `MediaTree.Url.Fault` — why a text is no address;
* `MediaTree.Url.Place` — credentials, host and port;
* `MediaTree.Url.addSegments` — a path with its dot segments carried out;
* `MediaTree.Url.parse` — reading.
-/

import MediaTree.Url.Basic
import MediaTree.Url.Host

set_option autoImplicit false
set_option relaxedAutoImplicit false

namespace MediaTree.Url

/-- Why a text is no address. -/
inductive Fault where
  /-- There is no scheme. -/
  | relative
  | host
  | port
deriving DecidableEq, Repr

/-! ### Cutting -/

/-- Cuts at the first character of a kind: what stands in front of it, and what stands behind it if
there is one. -/
def cut (at_ : Char → Bool) : List Char → List Char × Option (List Char)
  | [] => ([], none)
  | c :: cs =>
    if at_ c then ([], some cs)
    else
      let (front, back) := cut at_ cs
      (c :: front, back)

/-- The text without blanks and control characters around it and line breaks and tabs inside it. -/
def clean (cs : List Char) : List Char :=
  let blank := fun c : Char => c.toNat ≤ 0x20
  ((cs.dropWhile blank).reverse.dropWhile blank).reverse.filter
    fun c => c ≠ '\t' ∧ c ≠ '\n' ∧ c ≠ '\r'

/-- Letters of ASCII. -/
def isLetter (c : Char) : Bool := ('a' ≤ c && c ≤ 'z') || ('A' ≤ c && c ≤ 'Z')

/-- The characters of a scheme behind its first letter. -/
def isSchemeChar (c : Char) : Bool :=
  Text.Percent.isAlphanumeric c || c == '+' || c == '-' || c == '.'

/-- The lower case of an ASCII character. -/
def lowerAscii (c : Char) : Char :=
  if 'A' ≤ c ∧ c ≤ 'Z' then Char.ofNat (c.toNat + 0x20) else c

/-- A scheme in lower case, and what stands behind its colon. -/
def schemeOf? (cs : List Char) : Option (String × List Char) :=
  match cut (· == ':') cs with
  | (c :: name, some rest) =>
    if isLetter c ∧ name.all isSchemeChar then
      some (String.ofList ((c :: name).map lowerAscii), rest)
    else none
  | _ => none

/-- The schemes with a host, and their usual ports. -/
def usualPort? (scheme : String) : Option Nat :=
  if scheme = "http" ∨ scheme = "ws" then some 80
  else if scheme = "https" ∨ scheme = "wss" then some 443
  else if scheme = "ftp" then some 21
  else none

/-- Both slashes separate. -/
def isSlash (c : Char) : Bool := c == '/' || c == '\\'

/-! ### Host and port -/

/-- What stands between the slashes and the path. -/
structure Place where
  /-- What stands in front of the last `@`, if there is one. -/
  credentials : Option (List Char)
  host : List Char
  /-- What stands behind the colon, if there is one. -/
  port : Option (List Char)
deriving DecidableEq, Repr

/-- Host and port: cut at the first colon outside brackets. -/
def cutPort : Bool → List Char → List Char × Option (List Char)
  | _, [] => ([], none)
  | inside, c :: cs =>
    if c = ':' ∧ !inside then ([], some cs)
    else
      let (front, back) := cutPort (if c = '[' then true else if c = ']' then false else inside) cs
      (c :: front, back)

/-- The parts of the text in front of the path. -/
def Place.of (cs : List Char) : Place :=
  let behind := (cs.reverse.takeWhile (· != '@')).reverse
  let (host, port) := cutPort false behind
  ⟨if behind.length < cs.length then some (cs.take (cs.length - behind.length - 1)) else none,
    host, port⟩

/-- The credentials name somebody: a user, or a password behind the first colon. -/
def areMeant (credentials : List Char) : Bool :=
  let (user, password) := cut (· == ':') credentials
  !user.isEmpty || password.any fun p => !p.isEmpty

/-- A port in decimal; an empty one is none. -/
def portOf (cs : List Char) : Except Fault (Option Nat) :=
  if cs.isEmpty then .ok none
  else if cs.all Char.isDigit then
    match Host.number? 10 cs with
    | some n => if n < 65536 then .ok (some n) else .error .port
    | none => .error .port
  else .error .port

/-- The port of a place, the usual one left out. -/
def Place.portFor (p : Place) (scheme : String) : Except Fault (Option Nat) := do
  let port ← match p.port with
    | some cs => portOf cs
    | none => pure none
  pure (if port = usualPort? scheme then none else port)

/-- The host of a place in its normal form. -/
def Place.hostBy (p : Place) (normal? : List Char → Option String) : Except Fault String :=
  match normal? p.host with
  | some h => .ok h
  | none => .error .host

/-! ### Paths -/

/-- Characters that stand for themselves in a path. -/
def isPathChar (c : Char) : Bool :=
  0x20 < c.toNat && c.toNat < 0x7f && !(c ∈ ['"', '#', '<', '>', '?', '`', '\x7b', '\x7d'])

/-- Characters that stand for themselves behind `?`. -/
def isQueryChar (usual : Bool) (c : Char) : Bool :=
  0x20 < c.toNat && c.toNat < 0x7f && !(c ∈ ['"', '#', '<', '>']) && !(usual && c == '\'')

/-- Characters that stand for themselves behind `#`. -/
def isFragmentChar (c : Char) : Bool :=
  0x20 < c.toNat && c.toNat < 0x7f && !(c ∈ ['"', '<', '>', '`'])

/-- Characters that stand for themselves in a text that is no path. -/
def isOpaqueChar (c : Char) : Bool := 0x20 ≤ c.toNat && c.toNat < 0x7f

/-- The part with all other octets escaped. -/
def escaped (plain : Char → Bool) (cs : List Char) : String :=
  String.ofList (Text.Percent.encode plain (String.ofList cs))

/-- Reads escaped points as points. -/
def points : List Char → List Char
  | '%' :: '2' :: 'e' :: rest | '%' :: '2' :: 'E' :: rest => '.' :: points rest
  | c :: rest => c :: points rest
  | [] => []

/-- What a segment does to the path. -/
inductive Segment where
  | here
  | up
  | down (name : String)
deriving DecidableEq, Repr

/-- The meaning of a segment. -/
def Segment.of (cs : List Char) : Segment :=
  if points cs = ['.'] then .here
  else if points cs = ['.', '.'] then .up
  else .down (escaped isPathChar cs)

/-- A drive: a letter and a colon or a bar. -/
def isDrive : List Char → Bool
  | [c, d] => isLetter c && (d == ':' || d == '|')
  | _ => false

/-- A segment that no dots lead out of: a drive, possibly with a backslash behind it. -/
def staysInside (segment : String) : Bool :=
  match segment.toList with
  | c :: d :: '\\' :: _ => isDrive [c, d]
  | cs => isDrive cs

/-- One segment up from a path that is given last segment first. -/
def up : List String → List String
  | [] => []
  | s :: ss => if staysInside s then s :: ss else ss

/-- Carries out segments behind a path that is given last segment first.  A path that ends in a dot
segment ends in a slash. -/
def addSegments : List String → List (List Char) → List String
  | path, [] => path
  | path, [s] =>
    match Segment.of s with
    | .here => "" :: path
    | .up => "" :: up path
    | .down name => name :: path
  | path, s :: t :: ss =>
    match Segment.of s with
    | .here => addSegments path (t :: ss)
    | .up => addSegments (up path) (t :: ss)
    | .down name => addSegments (name :: path) (t :: ss)

/-- The parts of a path between slashes. -/
def splitPath (slash : Char → Bool) : List Char → List (List Char)
  | [] => [[]]
  | c :: cs =>
    if slash c then [] :: splitPath slash cs
    else match splitPath slash cs with
      | [] => [[c]]
      | p :: ps => (c :: p) :: ps

/-- The normal form of a path that begins with a slash, given what stands behind that slash. -/
def pathOf (slash : Char → Bool) (cs : List Char) : Path :=
  .segments (addSegments [] (splitPath slash cs)).reverse

/-! ### Files -/

/-- The path of a file as far as it is read. -/
structure FilePath where
  /-- The segments, last one first. -/
  path : List String
  /-- A drive came first. -/
  onDrive : Bool

/-- The next segment of the path of a file; some are to come or not.  A drive that comes first is
written with a colon. -/
def FilePath.next (p : FilePath) (s : List Char) (isLast : Bool) : FilePath :=
  let end_ (path : List String) := if isLast then "" :: path else path
  if p.path.isEmpty && isDrive s then ⟨[String.ofList (s.take 1 ++ [':'])], true⟩
  else
    match Segment.of s with
    | .here => { p with path := end_ p.path }
    | .up => { p with path := end_ (up p.path) }
    | .down name => { p with path := name :: p.path }

/-- Carries out the segments of the path of a file. -/
def FilePath.add : FilePath → List (List Char) → FilePath
  | p, [] => p
  | p, s :: ss => (p.next s ss.isEmpty).add ss

/-- The segments of the path, without empty ones in front. -/
def FilePath.segments (p : FilePath) : List String :=
  match p.path.reverse.dropWhile String.isEmpty with
  | [] => [""]
  | ss => ss

/-- The host of a file; the own machine is none. -/
def fileHost (cs : List Char) : Except Fault (Option String) :=
  if cs.isEmpty then .ok none
  else
    match Host.normal? cs with
    | some "localhost" => .ok none
    | some h => .ok (some h)
    | none => .error .host

/-- The address of a file, given what stands behind the colon of its scheme. -/
def parseFile (cs : List Char) (query fragment : Option String) : Except Fault Url :=
  let file (host : Option String) (path : List Char) : Url :=
    let p := FilePath.add ⟨[], false⟩ (splitPath isSlash path)
    let host := if p.onDrive then "" else host.getD ""
    ⟨"file", some host, none, .segments p.segments, query, fragment⟩
  match cs with
  | a :: b :: rest =>
    if isSlash a && isSlash b then
      let (host, path) := cut isSlash rest
      if isDrive host then .ok (file none rest)
      else do
        let h ← fileHost host
        pure (file h (path.getD []))
    else .ok (file none (if isSlash a then b :: rest else cs))
  | [a] => .ok (file none (if isSlash a then [] else cs))
  | [] => .ok (file none [])

/-! ### The whole address -/

/-- An address of one of the usual schemes, given what stands behind its colon. -/
def parseUsual (scheme : String) (cs : List Char) (query fragment : Option String) :
    Except Fault Url := do
  let (place, path) := cut isSlash (cs.dropWhile isSlash)
  let p := Place.of place
  let host ← p.hostBy Host.normal?
  let port ← p.portFor scheme
  pure ⟨scheme, some host, port, pathOf isSlash (path.getD []), query, fragment⟩

/-- An address of another scheme whose host is given, and the text from there on.  A backslash
behind the port starts the path. -/
def parsePlaced (scheme : String) (cs : List Char) (query fragment : Option String) :
    Except Fault Url := do
  let slash := (· == '/')
  let (text, path) := cut slash cs
  let p := Place.of text
  let host ← p.hostBy Host.opaqueHost?
  if host.isEmpty && (p.port.isSome || p.credentials.any areMeant) then throw .host
  let isFollowed := path.isSome || query.isSome || fragment.isSome
  if p.credentials == some [] && host.isEmpty && p.port.isNone && isFollowed then throw .host
  let digits := p.port.map fun ds => ds.takeWhile (· != '\\')
  let rest := (p.port.getD []).drop (digits.getD []).length
  let port ← { p with port := digits }.portFor scheme
  let path := match rest, path with
    | [], none => .segments []
    | [], some ss => pathOf slash ss
    | rest, none => pathOf slash rest
    | rest, some ss => pathOf slash (rest ++ '/' :: ss)
  pure ⟨scheme, some host, port, path, query, fragment⟩

/-- An address of another scheme, given what stands behind its colon. -/
def parseOther (scheme : String) (cs : List Char) (query fragment : Option String) :
    Except Fault Url :=
  match cs with
  | '/' :: '/' :: rest => parsePlaced scheme rest query fragment
  | '/' :: rest => .ok ⟨scheme, none, none, pathOf (· == '/') rest, query, fragment⟩
  | cs => .ok ⟨scheme, none, none, .whole (escaped isOpaqueChar cs), query, fragment⟩

/-- Reads an address. -/
def parse (s : String) : Except Fault Url :=
  let (front, fragment) := cut (· == '#') (clean s.toList)
  let (front, query) := cut (· == '?') front
  match schemeOf? front with
  | none => .error .relative
  | some (scheme, rest) =>
    let isFile := scheme = "file"
    let usual := (usualPort? scheme).isSome
    let query := query.map (escaped (isQueryChar (usual || isFile)))
    let fragment := fragment.map (escaped isFragmentChar)
    if isFile then parseFile rest query fragment
    else if usual then parseUsual scheme rest query fragment
    else parseOther scheme rest query fragment

end MediaTree.Url
