import StatusTimeline.Internet.Host

/-!
This module contains the reading of uniform resource locators as far as they name a host, a user and a query.
Controls and spaces around one do not count, nor do tabs and line breaks within it.
-/

namespace StatusTimeline.Internet

inductive UrlFlaw where
  | relative
  | host (why : HostFlaw)
  | socket
deriving DecidableEq, Inhabited, Repr

def UrlFlaw.message : UrlFlaw → String
  | relative => "relative URL without a base"
  | host why => why.message
  | socket => "invalid port number"

structure Url where
  host : List Char := []
  user : List Char := []
  password : List Char := []
  query : List Char := []
deriving DecidableEq, Inhabited, Repr

namespace Url

/--
How a locator goes on after its scheme: that of a server on the web, of a file, or in a form of the scheme's
own.
-/
inductive Kind where
  | web
  | file
  | general
deriving DecidableEq, Inhabited, Repr

def Kind.ofScheme (scheme : String) : Kind :=
  if scheme = "file" then file
  else if ["http", "https", "ws", "wss", "ftp"].contains scheme then web
  else general

/--
A text without the controls and spaces around it and without tabs and line breaks.
-/
def cleaned (cs : List Char) : List Char :=
  let isEdge (c : Char) : Bool := c.toNat ≤ 0x20
  let inner := ((cs.dropWhile isEdge).reverse.dropWhile isEdge).reverse
  inner.filter fun c => c ≠ '\t' && c ≠ '\n' && c ≠ '\r'

def takeScheme (cs : List Char) : Option (String × List Char) :=
  let isSchemeChar (c : Char) : Bool := c.isAlphanum || c = '+' || c = '-' || c = '.'
  match cs with
  | [] => none
  | c :: _ =>
    match cs.dropWhile isSchemeChar with
    | ':' :: rest =>
      if c.isAlpha then some (asciiLower (.ofList (cs.takeWhile isSchemeChar)), rest) else none
    | _ => none

def Kind.isSlash (kind : Kind) (c : Char) : Bool := c = '/' || (c = '\\' && kind ≠ .general)

def Kind.endsAuthority (kind : Kind) (c : Char) : Bool := kind.isSlash c || c = '?' || c = '#'

def queryOf (cs : List Char) : List Char :=
  match cs.dropWhile fun c => c ≠ '?' && c ≠ '#' with
  | '?' :: query => query.takeWhile (· ≠ '#')
  | _ => []

/--
Split off the user and the password, up to the last at sign before the host ends. A host must follow an at sign
with nothing before it.
-/
def takeCredentials (kind : Kind) (cs : List Char) : Except UrlFlaw (Url × List Char) :=
  let region := cs.takeWhile (!kind.endsAuthority ·)
  if !region.contains '@' then .ok ({}, cs)
  else
    let hostLength := (region.reverse.takeWhile (· ≠ '@')).length
    let credentials := region.take (region.length - hostLength - 1)
    let rest := cs.drop (credentials.length + 1)
    if credentials.isEmpty && rest.head?.any kind.endsAuthority then .error (.host .empty)
    else
      .ok ({
        user := credentials.takeWhile (· ≠ ':')
        password := (credentials.dropWhile (· ≠ ':')).drop 1 }, rest)

/--
Split off the host: it ends at a colon outside brackets.
-/
def spanHost (kind : Kind) : (inBrackets : Bool) → List Char → List Char × List Char
  | _, [] => ([], [])
  | inBrackets, c :: cs =>
    if kind.endsAuthority c || (c = ':' && !inBrackets) then ([], c :: cs)
    else
      let inBrackets := if c = '[' then true else if c = ']' then false else inBrackets
      let (host, rest) := spanHost kind inBrackets cs
      (c :: host, rest)

/--
Split off the number of a socket after its colon. It may have no digits.
-/
def skipSocket (n : Nat) : List Char → Except UrlFlaw (List Char)
  | [] => .ok []
  | c :: cs =>
    match digit? c with
    | some d => if n * 10 + d < 65536 then skipSocket (n * 10 + d) cs else .error .socket
    | none => if Kind.web.endsAuthority c then .ok (c :: cs) else .error .socket

def Kind.hostFlaw? (kind : Kind) (host : List Char) : Option HostFlaw :=
  if kind = .general then generalHostFlaw? host
  else if host.isEmpty then some .empty
  else webHostFlaw? host

/--
Read what follows the two slashes of a locator that names a host. The host may be empty where the scheme takes
that, but not with a socket or a user.
-/
def ofAuthority (kind : Kind) (cs : List Char) : Except UrlFlaw Url := do
  let (url, rest) ← takeCredentials kind cs
  let (host, rest) := spanHost kind false rest
  if let some flaw := kind.hostFlaw? host then throw (.host flaw)
  let rest ← match rest with
    | ':' :: digits => if host.isEmpty then throw (.host .empty) else skipSocket 0 digits
    | _ => pure rest
  if host.isEmpty && !(url.user.isEmpty && url.password.isEmpty) then throw (.host .empty)
  return { url with host, query := queryOf rest }

def isDrive : List Char → Bool
  | [letter, mark] => letter.isAlpha && (mark = ':' || mark = '|')
  | _ => false

/--
Read what follows the scheme of a file. The file may be on a host.
-/
def ofFile (cs : List Char) : Except UrlFlaw Url := do
  match cs with
  | a :: b :: rest =>
    if Kind.file.isSlash a && Kind.file.isSlash b then
      let host := rest.takeWhile (!Kind.file.endsAuthority ·)
      if host.isEmpty || isDrive host then return { query := queryOf cs }
      if let some flaw := webHostFlaw? host then throw (.host flaw)
      return { host := if host = "localhost".toList then [] else host, query := queryOf cs }
    return { query := queryOf cs }
  | _ => return { query := queryOf cs }

def ofText (s : String) : Except UrlFlaw Url :=
  match takeScheme (cleaned s.toList) with
  | none => .error .relative
  | some (scheme, rest) =>
    match Kind.ofScheme scheme, rest with
    | .web, rest => ofAuthority .web (rest.dropWhile Kind.web.isSlash)
    | .file, rest => ofFile rest
    | .general, '/' :: '/' :: rest => ofAuthority .general rest
    | .general, rest => .ok { query := queryOf rest }

end Url

end StatusTimeline.Internet
