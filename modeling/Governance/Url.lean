import Governance.Url.Host

/-!
# Absolute URLs

Whether a text is an absolute URL, and what is wrong with it if it is not. Blanks and control characters
around it do not count, nor do tabs and line ends inside it. Everything is decided by the scheme and
the authority: no path, query or fragment is ever at fault.
-/

namespace Governance.Url

/-- The text without blanks and control characters at its ends, and without tabs and line ends. -/
def clean (cs : List Char) : List Char :=
  let blank := fun c : Char => decide (c.toNat ≤ 0x20)
  let inner := ((cs.dropWhile blank).reverse.dropWhile blank).reverse
  inner.filter fun c => !(c == '\t' || c == '\n' || c == '\r')

/-- Splits off a scheme, in lower case, and its colon. -/
def readScheme : List Char → Option (List Char × List Char)
  | [] => none
  | c :: cs =>
    let rest := cs.dropWhile fun d => d.isAlphanum || d == '+' || d == '-' || d == '.'
    match rest with
    | ':' :: after =>
      if c.isAlpha then some ((c :: cs.take (cs.length - rest.length)).map Char.toLower, after) else none
    | _ => none

/-- How a scheme treats what follows it. -/
inductive Style
  /-- The schemes of the web: an authority always follows. -/
  | web
  | file
  | other
  deriving DecidableEq

/-- The style of a scheme. -/
def Style.ofScheme (scheme : List Char) : Style :=
  let name := String.ofList scheme
  if ["http", "https", "ws", "wss", "ftp"].contains name then .web
  else if name = "file" then .file
  else .other

/-- Whether a character ends an authority. -/
def endsAuthority (style : Style) (c : Char) : Bool :=
  c == '/' || c == '?' || c == '#' || (c == '\\' && style != .other)

/-- Splits a text at the last occurrence of a mark. -/
def splitLast (mark : Char) (cs : List Char) : Option (List Char × List Char) :=
  if cs.contains mark then
    let after := (cs.reverse.takeWhile (· ≠ mark)).reverse
    some (cs.take (cs.length - after.length - 1), after)
  else none

/-- Splits a host from the port behind it: a colon between brackets belongs to the host. -/
def splitPort : Bool → List Char → List Char × Option (List Char)
  | _, [] => ([], none)
  | bracketed, c :: cs =>
    if c = ':' ∧ !bracketed then ([], some cs)
    else
      let (host, port) := splitPort (if c = '[' then true else if c = ']' then false else bracketed) cs
      (c :: host, port)

/-- Checks a port: digits only, at most 65535; in the schemes that are not of the web a backslash ends
it like the end of the authority does. -/
def checkPort (port : List Char) : Except Fault Unit :=
  let run := port.takeWhile Char.isDigit
  let rest := port.drop run.length
  if Text.numberOf run ≤ 65535 ∧ (rest = [] ∨ rest.head? = some '\\') then .ok () else .error .port

/-- Checks an authority: credentials up to the last `@`, a host and a port. -/
def checkAuthority (style : Style) (cs : List Char) : Except Fault Unit := do
  let authority := cs.takeWhile fun c => !endsAuthority style c
  let (credentials, hostAndPort) := (splitLast '@' authority).getD ([], authority)
  let (host, port) := splitPort false hostAndPort
  if style = .web then
    if host = [] then throw .emptyHost
    checkHost host
  else
    checkOpaqueHost host
    let named := credentials ≠ [] ∧ credentials ≠ [':']
    if host = [] ∧ (port.isSome ∨ named ∨ (authority.head? = some '@' ∧ credentials = [] ∧
        cs.drop authority.length ≠ [])) then
      throw .emptyHost
  match port with
  | none => return ()
  | some port => checkPort port

/-- Whether a text is a drive letter: a letter and a colon or bar. -/
def isDriveLetter : List Char → Bool
  | [c, d] => c.isAlpha && (d == ':' || d == '|')
  | _ => false

/-- Checks what follows the scheme of a file: a host comes after two slashes only, and may be missing. -/
def checkFile : List Char → Except Fault Unit
  | a :: b :: cs =>
    let slash := fun c : Char => c == '/' || c == '\\'
    if slash a && slash b then
      let host := cs.takeWhile fun c => !endsAuthority .file c
      if host.isEmpty || isDriveLetter host then .ok () else checkHost host
    else .ok ()
  | _ => .ok ()

/-- Checks that a text is an absolute URL. -/
def check (text : String) : Except Fault Unit :=
  match readScheme (clean text.toList) with
  | none => .error .relative
  | some (scheme, rest) =>
    match Style.ofScheme scheme with
    | .web => checkAuthority .web (rest.dropWhile fun c => c == '/' || c == '\\')
    | .file => checkFile rest
    | .other =>
      match rest with
      | '/' :: '/' :: cs => checkAuthority .other cs
      | _ => .ok ()

end Governance.Url
