import Sandwich.Url.Host

/-! Which texts are the address of a node: a scheme, then a host and a port.
What comes after them may be anything. Beside them stands how an address of the
web is written out again. -/

namespace Sandwich

namespace Url

/-- Whether the text behind the colon is a port and then the rest of an address. -/
def checkPort (text : List Char) : Except UrlError Unit :=
  let digits := text.takeWhile Char.isDigit
  let rest := text.dropWhile Char.isDigit
  if 65535 < numeralValue 10 digits then .error .invalidPort
  else
    match rest.head? with
    | none => .ok ()
    | some c => if "/\\?#".contains c then .ok () else .error .invalidPort

/-- The host at the front of a text: up to a colon out of brackets or the end of the authority. -/
def hostOf (isEnd : Char → Bool) : (inBrackets : Bool) → List Char → List Char
  | _, [] => []
  | inBrackets, c :: cs =>
    if c = ':' && !inBrackets || isEnd c then []
    else c :: hostOf isEnd (c = '[' || (c ≠ ']' && inBrackets)) cs

/-- The name of a user at the front of a text if any, the host, and what comes after it. -/
def split (isWeb : Bool) (text : List Char) : List Char × List Char × List Char :=
  let isEnd (c : Char) : Bool := c = '/' || c = '?' || c = '#' || (isWeb && c = '\\')
  let authority := text.takeWhile (!isEnd ·)
  let afterUser := (authority.reverse.takeWhile (· ≠ '@')).length
  let user := authority.take (authority.length - afterUser)
  let text := text.drop user.length
  let host := hostOf isEnd false text
  (user, host, text.drop host.length)

/-- Whether there are a host and a port at the front of a text, after the name of a user if
any. The host may be missing outside the web, but not if a user or a port is named. -/
def checkAuthority (isWeb : Bool) (text : List Char) : Except UrlError Unit := do
  let (user, host, rest) := split isWeb text
  let isNamed := user ≠ [] && user ≠ [':', '@'] && (user ≠ ['@'] || rest ≠ [])
  if host.isEmpty then
    if isWeb || isNamed || rest.head? = some ':' then throw .emptyHost
  else if isWeb then checkHost host
  else checkOpaqueHost host
  match rest with
  | ':' :: port => checkPort port
  | _ => return

/-- Whether the host of a local file, which may be missing, is one. -/
def checkFile (text : List Char) : Except UrlError Unit :=
  let isSlash (c : Char) : Bool := c = '/' || c = '\\'
  match text with
  | a :: b :: rest =>
    let host := rest.takeWhile fun c => !isSlash c && c ≠ '?' && c ≠ '#'
    let isDrive := match host with
      | [c, d] => c.isAlpha && (d = ':' || d = '|')
      | _ => false
    if isSlash a && isSlash b && !host.isEmpty && !isDrive then checkHost host else .ok ()
  | _ => .ok ()

/-- The scheme in lower case, and what comes behind its colon. -/
def scheme? (text : List Char) : Option (List Char × List Char) :=
  let inScheme (c : Char) : Bool := c.isAlphanum || c = '+' || c = '-' || c = '.'
  let scheme := text.takeWhile inScheme
  match text.dropWhile inScheme with
  | ':' :: rest =>
    if (scheme.head?.map Char.isAlpha).getD false then some (scheme.map Char.toLower, rest)
    else none
  | _ => none

/-- The schemes of the web. -/
def webSchemes : List String := ["http", "https", "ws", "wss", "ftp"]

/-- The text without what is ignored in an address: blanks and control characters around it,
line ends and tabs within. -/
def strip (text : List Char) : List Char :=
  let isOuter (c : Char) : Bool := c ≤ ' '
  let text := ((text.dropWhile isOuter).reverse.dropWhile isOuter).reverse
  text.filter fun c => c ≠ '\t' && c ≠ '\n' && c ≠ '\r'

/-- The text behind the scheme of an address of the web, without its slashes. -/
def afterSlashes (rest : List Char) : List Char := rest.dropWhile fun c => c = '/' || c = '\\'

/-- Whether a text is an address. -/
def check (text : List Char) : Except UrlError Unit :=
  match scheme? (strip text) with
  | none => .error .relative
  | some (scheme, rest) =>
    let scheme := String.ofList scheme
    if scheme = "file" then checkFile rest
    else if scheme ∈ webSchemes then checkAuthority true (afterSlashes rest)
    else
      match rest with
      | '/' :: '/' :: rest => checkAuthority false rest
      | _ => .ok ()

/-! ### Writing out -/

/-- The port that a scheme of the web has unless another one is given. -/
def usualPort (scheme : String) : Nat :=
  if scheme = "https" || scheme = "wss" then 443 else if scheme = "ftp" then 21 else 80

/-- What is written of the text behind a host: the port, unless it is the usual one of the
scheme, and then the path, which is a slash at least. -/
def afterHost (scheme : String) (rest : List Char) : List Char :=
  let (port, path) := match rest with
    | ':' :: rest => (rest.takeWhile Char.isDigit, rest.dropWhile Char.isDigit)
    | _ => ([], rest)
  let number := numeralValue 10 port
  let port :=
    if port.isEmpty || number = usualPort scheme then [] else ':' :: Nat.toDigits 10 number
  let path := if path.head? = some '/' then path else '/' :: path
  port ++ path

/-- An address of the web as it is shown: the scheme and the host in lower case, and no name of
a user. Host and path are otherwise left in the notation that they have. -/
def shown (text : List Char) : List Char :=
  match scheme? (strip text) with
  | none => text
  | some (scheme, rest) =>
    let (_, host, rest) := split true (afterSlashes rest)
    scheme ++ [':', '/', '/'] ++ host.map Char.toLower ++ afterHost (String.ofList scheme) rest

end Url

end Sandwich
