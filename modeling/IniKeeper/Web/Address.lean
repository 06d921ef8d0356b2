import IniKeeper.Web.Host

/-!
# Web addresses

An address begins with a scheme. The web's own schemes need a host and take slashes and backslashes
alike; other schemes have a host only after two slashes. White space and controls around an address
and line breaks and tabs anywhere in it are ignored. Only addresses of the schemes `http` and
`https` can be fetched.
-/

namespace IniKeeper

namespace Web

namespace Address

/-- Whether a character is ignored at the ends of an address. -/
def isPadding (c : Char) : Bool := c.toNat ≤ 0x20

/-- Whether a character is ignored anywhere in an address. -/
def isIgnored (c : Char) : Bool := c == '\t' || c == '\n' || c == '\r'

/-- The characters of an address that count. -/
def significant (text : Text) : Text :=
  let inner := ((text.dropWhile isPadding).reverse.dropWhile isPadding).reverse
  inner.filter (!isIgnored ·)

/-- Whether a character may stand in a scheme. -/
def isSchemeChar (c : Char) : Bool := c.isAlphanum || c == '+' || c == '-' || c == '.'

/-- The scheme of an address and what follows its colon. -/
def scheme? (text : Text) : Option (Text × Text) :=
  match text.takeWhile isSchemeChar, text.dropWhile isSchemeChar with
  | first :: more, ':' :: rest =>
    if first.isAlpha then some (Text.lowerAscii (first :: more), rest) else none
  | _, _ => none

/-- The schemes of the web other than that of files. -/
def isSpecial (scheme : Text) : Bool :=
  ["http", "https", "ws", "wss", "ftp"].contains (String.ofList scheme)

/-- Whether a character separates the parts of a path; backslashes do in the web's own schemes. -/
def isSlash (special : Bool) (c : Char) : Bool := c == '/' || (special && c == '\\')

/-- Whether a character ends the part of an address with the user and the host. -/
def endsAuthority (special : Bool) (c : Char) : Bool := isSlash special c || c == '?' || c == '#'

/-- The host at the start of a text, and what follows it: a colon inside brackets is part of it. -/
def splitHost (special : Bool) (inBrackets : Bool) : Text → Text × Text
  | [] => ([], [])
  | c :: rest =>
    if (c == ':' && !inBrackets) || endsAuthority special c then ([], c :: rest)
    else
      let within := if c == '[' then true else if c == ']' then false else inBrackets
      let (host, after) := splitHost special within rest
      (c :: host, after)

/-- The defect of the number that follows a host and a colon, if it has one. -/
def numberDefect? : Text → Option Defect
  | ':' :: rest =>
    let digits := rest.takeWhile Char.isDigit
    let ended :=
      match rest.dropWhile Char.isDigit with
      | [] => true
      | c :: _ => endsAuthority true c
    if ended && Nat.ofDigitChars 10 digits 0 ≤ 65535 then none else some .badNumber
  | _ => none

/-- The user in front of the last at sign of an authority, if there is one, and what follows. -/
def splitUser (authority : Text) : Option Text × Text :=
  match (authority.splitOn '@').reverse with
  | named :: before :: more => (some (['@'].intercalate (before :: more).reverse), named)
  | _ => (none, authority)

/-- Whether a user has a name or a password; a colon alone has neither. -/
def hasCredentials (user : Option Text) : Bool := !(user.getD []).isEmpty && user != some [':']

/-- The defect of an address from its authority on, if it has one. A host may be missing only
outside the web's own schemes, and there neither a user, nor a number, nor an at sign with more of
the address behind it can do without one. -/
def authorityDefect? (special : Bool) (text : Text) : Option Defect :=
  let authority := text.takeWhile (!endsAuthority special ·)
  let more := text.dropWhile (!endsAuthority special ·)
  let (user, named) := splitUser authority
  let (host, number) := splitHost special false named
  if host.isEmpty then
    let isNeeded := special || hasCredentials user || number.head? == some ':' ||
      (user == some [] && !more.isEmpty)
    if isNeeded then some .emptyHost else none
  else
    match if special then Host.defect? host else Host.opaqueDefect? host with
    | some defect => some defect
    | none => numberDefect? number

/-- Whether a host is the letter of a drive, which file addresses read as part of the path. -/
def isDrive : Text → Bool
  | [letter, mark] => letter.isAlpha && (mark == ':' || mark == '|')
  | _ => false

/-- The defect of a file address after its colon, if it has one. -/
def fileDefect? (text : Text) : Option Defect :=
  match text with
  | a :: b :: rest =>
    if isSlash true a && isSlash true b then
      let host := rest.takeWhile (!endsAuthority true ·)
      if host.isEmpty || isDrive host then none else Host.defect? host
    else none
  | _ => none

/-- The scheme of an address, or why the address is not valid. -/
def parse (text : Text) : Except Defect Text :=
  match scheme? (significant text) with
  | none => .error .relative
  | some (scheme, rest) =>
    let found :=
      if scheme = "file".toList then fileDefect? rest
      else if isSpecial scheme then authorityDefect? true (rest.dropWhile (isSlash true))
      else
        match rest with
        | '/' :: '/' :: after => authorityDefect? false after
        | _ => none
    match found with
    | some defect => .error defect
    | none => .ok scheme

/-- Whether a scheme is one that can be fetched. -/
def isFetched (scheme : Text) : Bool := scheme = "http".toList || scheme = "https".toList

/-- Whether a text is an address that can be fetched. -/
def isWeb (text : Text) : Bool :=
  match parse text with
  | .ok scheme => isFetched scheme
  | .error _ => false

/-- The content behind an address, given how to download it, or why there is none. -/
def fetch (download : Text → Except Text Text) (text : Text) : Except Text Text :=
  match parse text with
  | .error defect => .error defect.message
  | .ok scheme =>
    if isFetched scheme then download text
    else .error "only HTTP/HTTPS URLs are supported".toList

end Address

end Web

end IniKeeper
