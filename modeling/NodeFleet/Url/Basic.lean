import NodeFleet.Url.Host

/-!
URLs.

`read?` takes an absolute URL apart as browsers do: blanks at the ends and line breaks anywhere are
dropped, backslashes separate like slashes in the URLs of the web, and characters that a part may
not have are written as percent signs with hexadecimal digits. A URL of another kind is only
checked. `WebUrl.chars` writes a URL in its canonical form.
-/

namespace NodeFleet.Url

/-- A URL with one of the schemes of the web. User, password and the texts after the host are
percent-encoded. -/
structure WebUrl where
  scheme : List Char
  username : List Char
  password : List Char
  host : Host
  /-- The port, unless it is the usual one of the scheme. -/
  port : Option Nat
  /-- The parts of the path between slashes. -/
  path : List (List Char)
  query : Option (List Char)
  fragment : Option (List Char)
  deriving DecidableEq

/-- A URL that has been read; of those with other schemes only the scheme is kept. -/
inductive Reading where
  | web (url : WebUrl)
  | other (scheme : List Char)

/-- The usual ports of the schemes of the web. -/
def usualPort? (scheme : List Char) : Option Nat :=
  [("http", 80), ("https", 443), ("ws", 80), ("wss", 443), ("ftp", 21)].lookup
    (String.ofList scheme)

/-- Whether a character is a control or beyond ASCII. -/
def isControl (c : Char) : Bool := c.toNat < 0x20 || 0x7F ≤ c.toNat

/-- What is encoded in a fragment. -/
def encodedInFragment (c : Char) : Bool := isControl c || " \"<>`".toList.contains c

/-- What is encoded in a path. -/
def encodedInPath (c : Char) : Bool := encodedInFragment c || "#?\x7b\x7d".toList.contains c

/-- What is encoded in a query. -/
def encodedInQuery (c : Char) : Bool := isControl c || " \"#<>'".toList.contains c

/-- What is encoded in a user and a password. -/
def encodedInUser (c : Char) : Bool := encodedInPath c || "/:;=@[\\]^|".toList.contains c

namespace WebUrl

/-- User and password before the host. -/
def userChars (u : WebUrl) : List Char :=
  if u.username.isEmpty && u.password.isEmpty then []
  else
    let password := if u.password.isEmpty then [] else ':' :: u.password
    u.username ++ password ++ ['@']

/-- The port after the host. -/
def portChars (u : WebUrl) : List Char :=
  match u.port with
  | some n => ':' :: Nat.toDigits 10 n
  | none => []

/-- The path, each part after a slash. -/
def pathChars (u : WebUrl) : List Char := u.path.flatMap fun part => '/' :: part

/-- A text after its mark. -/
def markedChars (mark : Char) : Option (List Char) → List Char
  | some cs => mark :: cs
  | none => []

/-- The characters of a URL. -/
def chars (u : WebUrl) : List Char :=
  u.scheme ++ ("://".toList ++ (u.userChars ++ (u.host.chars ++ (u.portChars ++ (u.pathChars
    ++ (markedChars '?' u.query ++ markedChars '#' u.fragment))))))

end WebUrl

/-- The characters of a URL that count: without blanks and controls at the ends, and without tabs
and line breaks. -/
def significant (cs : List Char) : List Char :=
  let outer (c : Char) : Bool := c.toNat ≤ 0x20
  (((cs.dropWhile outer).reverse.dropWhile outer).reverse).filter fun c =>
    c ≠ '\t' ∧ c ≠ '\n' ∧ c ≠ '\r'

/-- A letter of ASCII in lower case. -/
def lowerAscii (c : Char) : Char :=
  if 'A' ≤ c && c ≤ 'Z' then Char.ofNat (c.toNat + 32) else c

/-- Whether a character is a letter of ASCII. -/
def isLetter (c : Char) : Bool := 'a' ≤ lowerAscii c && lowerAscii c ≤ 'z'

/-- Whether a character may stand in a scheme. -/
def isSchemeChar (c : Char) : Bool :=
  isLetter c || (Text.digit? c).isSome || "+-.".toList.contains c

/-- The scheme in lower case, and the text after its colon. -/
def readScheme? (cs : List Char) : Option (List Char × List Char) :=
  let scheme := cs.takeWhile isSchemeChar
  match scheme, cs.drop scheme.length with
  | c :: _, ':' :: rest => if isLetter c then some (scheme.map lowerAscii, rest) else none
  | _, _ => none

/-- The parts of a text around the last character of a kind. -/
def splitLast? (sep : Char) (cs : List Char) : Option (List Char × List Char) :=
  (Text.splitFirst? sep cs.reverse).map fun (after, before) => (before.reverse, after.reverse)

/-- Cuts a host off a port: at the first colon outside brackets. -/
def splitPort (inside : Bool) : List Char → List Char × Option (List Char)
  | [] => ([], none)
  | c :: cs =>
    if c = ':' ∧ !inside then ([], some cs)
    else
      let inside := if c = '[' then true else if c = ']' then false else inside
      let (host, port) := splitPort inside cs
      (c :: host, port)

/-- The number of a port; no number for no digits. -/
def readPort? (cs : List Char) : Option (Option Nat) :=
  if cs.isEmpty then some none
  else
    match Text.readDigits 65535 .tooLarge 0 cs with
    | .ok n => some (some n)
    | .error _ => none

/-- A part of a path that names the place itself. -/
def isSingleDot (part : List Char) : Bool :=
  [".", "%2e"].contains (String.ofList (part.map lowerAscii))

/-- A part of a path that names the place above. -/
def isDoubleDot (part : List Char) : Bool :=
  ["..", ".%2e", "%2e.", "%2e%2e"].contains (String.ofList (part.map lowerAscii))

/-- A part of a path that looks like the letter of a drive; it is not left. -/
def isDrive (part : List Char) : Bool :=
  match part with
  | [letter, mark] => isLetter letter && (mark = ':' || mark = '|')
  | _ => false

/-- Leaves the last part of a path, given in reverse. -/
def leave : List (List Char) → List (List Char)
  | [] => []
  | part :: rest => if isDrive part then part :: rest else rest

/-- Resolves the dots in the parts of a path; `above` are the parts before, in reverse. -/
def resolve (above : List (List Char)) : List (List Char) → List (List Char)
  | [] => above.reverse
  | [part] =>
    if isDoubleDot part then ([] :: leave above).reverse
    else if isSingleDot part then ([] :: above).reverse
    else (part :: above).reverse
  | part :: rest =>
    if isDoubleDot part then resolve (leave above) rest
    else if isSingleDot part then resolve above rest
    else resolve (part :: above) rest

/-- The parts of a path between slashes and backslashes. -/
def readPath (cs : List Char) : List (List Char) :=
  let slashes := cs.map fun c => if c = '\\' then '/' else c
  let relative := match slashes with
    | '/' :: rest => rest
    | rest => rest
  resolve [] ((Text.splitAll '/' relative).map (Text.percentEncode encodedInPath))

/-- Whether a character ends the authority of a URL of the web. -/
def endsAuthority (c : Char) : Bool := c = '/' || c = '\\' || c = '?' || c = '#'

/-- Cuts user and password off a host: at the last at-sign. -/
def splitUser (authority : List Char) : List Char × List Char :=
  (splitLast? '@' authority).getD ([], authority)

/-- Cuts a user off a password: at the first colon. -/
def splitPassword (user : List Char) : List Char × List Char :=
  (Text.splitFirst? ':' user).getD (user, [])

/-- A host that has to be there. -/
def readHost? (cs : List Char) : Option Host := if cs.isEmpty then none else Host.read? cs

/-- User, password, host and port of an authority. -/
def readAuthority? (scheme authority : List Char) :
    Option (List Char × List Char × Host × Option Nat) := do
  let (user, rest) := splitUser authority
  let (username, password) := splitPassword user
  let (host, port) := splitPort false rest
  let host ← readHost? host
  let port ← readPort? (port.getD [])
  some (Text.percentEncode encodedInUser username, Text.percentEncode encodedInUser password, host,
    if port = usualPort? scheme then none else port)

/-- Path, query and fragment after an authority. -/
def readTail (cs : List Char) : List (List Char) × Option (List Char) × Option (List Char) :=
  let path := cs.takeWhile fun c => c ≠ '?' && c ≠ '#'
  let rest := cs.drop path.length
  let query := rest.takeWhile (· ≠ '#')
  let fragment := rest.drop query.length
  (readPath path, query.tail?.map (Text.percentEncode encodedInQuery),
    fragment.tail?.map (Text.percentEncode encodedInFragment))

/-- A URL of the web, after its scheme. -/
def readWeb? (scheme cs : List Char) : Option WebUrl := do
  let rest := cs.dropWhile fun c => c = '/' || c = '\\'
  let authority := rest.takeWhile fun c => !endsAuthority c
  let (username, password, host, port) ← readAuthority? scheme authority
  let (path, query, fragment) := readTail (rest.drop authority.length)
  some { scheme, username, password, host, port, path, query, fragment }

/-- Whether the authority of a URL that is none of the web's can be read. -/
def isOtherAuthority (cs : List Char) : Bool :=
  let authority := cs.takeWhile fun c => c ≠ '/' && c ≠ '?' && c ≠ '#'
  let (user?, rest) := match splitLast? '@' authority with
    | some (user, rest) => (some user, rest)
    | none => (none, authority)
  let (host, port) := splitPort false rest
  let portFits := match port with
    | none => true
    | some digits => !host.isEmpty && (readPort? (digits.takeWhile (· ≠ '\\'))).isSome
  let userFits := match user? with
    | none => true
    | some user =>
      !host.isEmpty || (if user.isEmpty then cs.length = authority.length else user = [':'])
  Host.isOpaque host && portFits && userFits

/-- Whether the host of a URL of a file can be read. -/
def isFileHost (cs : List Char) : Bool :=
  let host := cs.takeWhile fun c => !endsAuthority c
  host.isEmpty || isDrive host || (Host.read? host).isSome

/-- Whether a URL that is none of the web's can be read, after its scheme. -/
def isOther (scheme cs : List Char) : Bool :=
  let slashes := if scheme = "file".toList then ['/', '\\'] else ['/']
  match cs with
  | a :: b :: rest =>
    if slashes.contains a && slashes.contains b then
      if scheme = "file".toList then isFileHost rest else isOtherAuthority rest
    else true
  | _ => true

/-- Reads an absolute URL. -/
def read? (s : String) : Option Reading := do
  let (scheme, rest) ← readScheme? (significant s.toList)
  if (usualPort? scheme).isSome then some (.web (← readWeb? scheme rest))
  else if isOther scheme rest then some (.other scheme)
  else none

end NodeFleet.Url
