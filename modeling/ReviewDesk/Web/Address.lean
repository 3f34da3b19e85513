import ReviewDesk.Number.Numeral
import ReviewDesk.Text.Quoted
import ReviewDesk.Web.Percent

set_option autoImplicit false

namespace ReviewDesk.Web

open Text

structure Address where
  scheme : List Char
  authority : List Char
  path : List Char
  query : Option (List Char)
deriving DecidableEq

namespace Address

inductive Fault where
  | tooLong
  | partTooLong (part : String)
  | control (c : Char) (position : Nat)
  | badPort (written : String)
  | doubleSlash
  | leadingColon
  | unknownScheme (scheme : String)
deriving DecidableEq

def Fault.message : Fault → String
  | tooLong => "URL too long"
  | partTooLong part => "URL component '" ++ part ++ "' too long"
  | control c position =>
    "Invalid non-printable ASCII character in URL, " ++ quoted (String.singleton c) ++
      " at position " ++ toString position ++ "."
  | badPort written => "Invalid port: " ++ quoted written
  | doubleSlash => "Relative URLs cannot have a path starting with '//'"
  | leadingColon => "Relative URLs cannot have a path starting with ':'"
  | unknownScheme scheme => quoted scheme

def lengthLimit : Nat := 65536

def isControl (c : Char) : Bool := c < ' ' || c == '\x7f'

def isSchemeChar (c : Char) : Bool := c.isAlphanum || c == '+' || c == '.' || c == '-'

def splitScheme (text : List Char) : List Char × List Char :=
  let name := text.takeWhile isSchemeChar
  match text.dropWhile isSchemeChar with
  | ':' :: rest => if name.head?.all Char.isAlpha then (name, rest) else ([], text)
  | _ => ([], text)

def isMark (c : Char) : Bool := c == '/' || c == '?' || c == '#'

def splitAuthority : List Char → List Char × List Char
  | '/' :: '/' :: rest => (rest.takeWhile (!isMark ·), rest.dropWhile (!isMark ·))
  | text => ([], text)

def queryOf : List Char → Option (List Char)
  | '?' :: rest => some (rest.takeWhile (· ≠ '#'))
  | _ => none

def split (text : List Char) : Address :=
  let (scheme, text) := splitScheme text
  let (authority, text) := splitAuthority text
  let isPathChar (c : Char) : Bool := !(c == '?' || c == '#')
  ⟨scheme, authority, text.takeWhile isPathChar, queryOf (text.dropWhile isPathChar)⟩

-- What stands before the last at sign names a user.
def hostAndPort (address : Address) : List Char :=
  (address.authority.reverse.takeWhile (· ≠ '@')).reverse

def host (address : Address) : List Char :=
  (address.hostAndPort.takeWhile (· ≠ ':')).map Char.toLower

def port (address : Address) : List Char := (address.hostAndPort.dropWhile (· ≠ ':')).drop 1

def isAbsolute (address : Address) : Bool := !address.scheme.isEmpty && !address.host.isEmpty

def schemeName (address : Address) : String := String.ofList (address.scheme.map Char.toLower)

def usualPort? : String → Option Int
  | "http" => some 80
  | "https" => some 443
  | _ => none

def fault? (text : List Char) : Option Fault :=
  let address := split text
  let position := (text.takeWhile (!isControl ·)).length
  let isBare := address.scheme.isEmpty && address.host.isEmpty && address.port.isEmpty
  if lengthLimit < text.length then some .tooLong
  else
    match text.drop position with
    | c :: _ => some (.control c position)
    | [] =>
      if !address.port.isEmpty && (Number.integer? address.port).isNone then
        some (.badPort (String.ofList address.port))
      else if isBare && startsWith ['/', '/'] address.path then some .doubleSlash
      else if isBare && startsWith [':'] address.path then some .leadingColon
      else none

-- The parts kept so far come last first.
def dropDots (kept : List (List Char)) : List (List Char) → List (List Char)
  | [] => kept.reverse
  | ['.'] :: rest => dropDots kept rest
  | ['.', '.'] :: rest => dropDots (if kept = [[]] then kept else kept.drop 1) rest
  | part :: rest => dropDots (part :: kept) rest

def normalized (path : List Char) : List Char :=
  ['/'].intercalate (dropDots [] (path.splitOn '/'))

def isQueryChar (c : Char) : Bool :=
  ' ' < c && c < '\x7f' && c != '"' && c != '#' && c != '<' && c != '>'

def isPathChar (c : Char) : Bool :=
  isQueryChar c && c != '?' && c != '\x60' && c != '{' && c != '}'

end Address

structure Target where
  origin : List Char
  path : List Char
  query : List Char
deriving DecidableEq

namespace Target

def checkedLength (part : String) (text : List Char) : Except Address.Fault (List Char) :=
  if Address.lengthLimit < text.length then .error (.partTooLong part) else .ok text

def sentPath (address : Address) : List Char :=
  let path := percentEncode Address.isPathChar (Address.normalized
    (if address.isAbsolute then address.path
    else if address.scheme.isEmpty && address.authority.isEmpty then
      '/' :: trimStart (· == '/') address.path
    else '/' :: trimStart (· == '/') (Address.normalized address.path)))
  if path.isEmpty then ['/'] else path

def portText (address : Address) (usual : Int) : String :=
  match Number.integer? address.port with
  | some n => if n = usual then "" else ":" ++ toString n
  | none => ""

def originOf (origin : List Char) (address : Address) : Except Address.Fault (List Char) :=
  if address.isAbsolute then
    match Address.usualPort? address.schemeName with
    | some usual =>
      .ok ((address.schemeName ++ "://").toList ++ address.host ++
        (portText address usual).toList)
    | none => .error (.unknownScheme address.schemeName)
  else .ok origin

def resolve (origin text : String) (parameters : Option Pairs) : Except Address.Fault Target :=
  match Address.fault? text.toList with
  | some fault => .error fault
  | none => do
    let address := Address.split text.toList
    let path ← checkedLength "path" (sentPath address)
    let written ← checkedLength "query"
      (percentEncode Address.isQueryChar (address.query.getD []))
    let query ← checkedLength "query" ((parameters.map Pairs.encode).getD written)
    let origin ← originOf origin.toList address
    return ⟨origin, percentDecode (percentDecode path), query⟩

end Target

end ReviewDesk.Web
