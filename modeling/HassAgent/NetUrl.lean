/-!
# The parts of `net/url`, `path` and `strconv` the URL helpers use

`generateAPIURL` and `generateWebsocketURL` parse the server address with
`url.Parse`, set `Scheme`, call `JoinPath` and print the result with `String`,
and wrap `Parse`'s error, which quotes the address with `%q`. This module
follows Go's code for those functions: the scheme scan of `getScheme`, the
control-character, colon, port and userinfo checks with their error texts,
percent-decoding and -encoding per URL component, the `path.Join` cleaning
that `JoinPath` applies, and `strconv.Quote`.

Text is a list of characters. Go scans bytes, which agrees on ASCII. Beyond
it: `escape` writes a character above U+007F as the `%XX` of each of its UTF-8
bytes, as Go does; `unescape` turns `%XX` into the character with code `XX`,
where Go keeps the raw byte, so the two differ for codes 0x80 and above; and
`quote` takes every character above U+00A0 other than U+00AD as printable,
where Go consults the Unicode tables.
-/

set_option autoImplicit false

namespace HassAgent.NetUrl

/-! ## `strconv.Quote` -/

def lowerhex (n : Nat) : Char := if n < 10 then Char.ofNat (48 + n) else Char.ofNat (87 + n)

def upperhex (n : Nat) : Char := if n < 10 then Char.ofNat (48 + n) else Char.ofNat (55 + n)

def hexDigits : Nat → Nat → List Char
  | 0, _ => []
  | k + 1, n => hexDigits k (n / 16) ++ [lowerhex (n % 16)]

def isPrint (c : Char) : Bool :=
  (0x20 ≤ c.toNat && c.toNat ≤ 0x7e) || (0xa0 < c.toNat && c.toNat != 0xad)

def escapedControl : Nat → Option Char
  | 7 => some 'a'
  | 8 => some 'b'
  | 12 => some 'f'
  | 10 => some 'n'
  | 13 => some 'r'
  | 9 => some 't'
  | 11 => some 'v'
  | _ => none

-- `appendEscapedRune` with `"` as the quote; 34 is `"` and 92 the backslash
def quoteChar (c : Char) : List Char :=
  if c.toNat = 34 ∨ c.toNat = 92 then ['\\', c]
  else if isPrint c then [c]
  else match escapedControl c.toNat with
    | some e => ['\\', e]
    | none =>
      if c.toNat < 0x20 ∨ c.toNat = 0x7f then ['\\', 'x'] ++ hexDigits 2 c.toNat
      else if c.toNat < 0x10000 then ['\\', 'u'] ++ hexDigits 4 c.toNat
      else ['\\', 'U'] ++ hexDigits 8 c.toNat

def quote (s : String) : String :=
  String.mk (Char.ofNat 34 :: s.toList.flatMap quoteChar ++ [Char.ofNat 34])

/-! ## Escaping -/

inductive Encoding where
  | encodePath
  | encodeUserPassword
  | encodeHost
  | encodeZone
  | encodeFragment
  deriving DecidableEq

-- 39 is the apostrophe and 34 `"`
def shouldEscape (c : Char) (mode : Encoding) : Bool :=
  if c.isAlphanum then false
  else if (mode = .encodeHost ∨ mode = .encodeZone) ∧
      ("!$&()*+,;=:[]<>".toList.contains c || c.toNat = 39 || c.toNat = 34) then false
  else if "-_.~".toList.contains c then false
  else if "$&+,/:;=?@".toList.contains c then
    match mode with
    | .encodePath => c == '?'
    | .encodeUserPassword => c == '@' || c == '/' || c == '?' || c == ':'
    | .encodeFragment => false
    | .encodeHost | .encodeZone => true
  else if mode = .encodeFragment ∧ "!()*".toList.contains c then false
  else true

def ishex (c : Char) : Bool :=
  c.isDigit || ('a' ≤ c && c ≤ 'f') || ('A' ≤ c && c ≤ 'F')

def unhex (c : Char) : Nat :=
  if c.isDigit then c.toNat - 48
  else if 'a' ≤ c ∧ c ≤ 'f' then c.toNat - 87
  else if 'A' ≤ c ∧ c ≤ 'F' then c.toNat - 55
  else 0

def escapeError (s : List Char) : String := "invalid URL escape " ++ quote (String.mk s)

def unescape (mode : Encoding) : List Char → Except String (List Char)
  | [] => .ok []
  | '%' :: a :: b :: rest =>
    if !(ishex a && ishex b) then .error (escapeError ['%', a, b])
    else if mode = .encodeHost ∧ unhex a < 8 ∧ [a, b] ≠ ['2', '5'] then .error (escapeError ['%', a, b])
    else if mode = .encodeZone ∧ [a, b] ≠ ['2', '5'] ∧ unhex a * 16 + unhex b ≠ 32 ∧
        shouldEscape (Char.ofNat (unhex a * 16 + unhex b)) .encodeHost then
      .error (escapeError ['%', a, b])
    else (unescape mode rest).map (Char.ofNat (unhex a * 16 + unhex b) :: ·)
  | '%' :: rest => .error (escapeError ('%' :: rest))
  | c :: rest =>
    if (mode = .encodeHost ∨ mode = .encodeZone) ∧ c.toNat < 0x80 ∧ shouldEscape c mode then
      .error ("invalid character " ++ quote (String.mk [c]) ++ " in host name")
    else (unescape mode rest).map (c :: ·)

def utf8Bytes (c : Char) : List Nat :=
  if c.toNat < 0x80 then [c.toNat] else (String.utf8EncodeChar c).map (·.toNat)

def escape (s : List Char) (mode : Encoding) : List Char :=
  s.flatMap fun c =>
    if shouldEscape c mode then (utf8Bytes c).flatMap fun b => ['%', upperhex (b / 16), upperhex (b % 16)]
    else [c]

def validEncoded (s : List Char) (mode : Encoding) : Bool :=
  s.all fun c => "!$&()*+,;=:@[]%".toList.contains c || c.toNat = 39 || !shouldEscape c mode

def unescapesTo (s : List Char) (mode : Encoding) (t : List Char) : Bool :=
  match unescape mode s with
  | .ok r => r == t
  | .error _ => false

/-! ## Splitting -/

def cut (c : Char) (s : List Char) : List Char × List Char :=
  match s.span (· != c) with
  | (before, _ :: after) => (before, after)
  | (before, []) => (before, [])

def splitLast (c : Char) (s : List Char) : Option (List Char × List Char) :=
  match s.reverse.span (· != c) with
  | (after, _ :: before) => some (before.reverse, after.reverse)
  | (_, []) => none

def splitZone : List Char → Option (List Char × List Char)
  | [] => none
  | '%' :: '2' :: '5' :: rest => some ([], '%' :: '2' :: '5' :: rest)
  | c :: rest => (splitZone rest).map fun p => (c :: p.1, p.2)

def splitSlash : List Char → List (List Char)
  | [] => [[]]
  | c :: rest =>
    match splitSlash rest with
    | [] => [[c]]
    | seg :: segs => if c = '/' then [] :: seg :: segs else (c :: seg) :: segs

def firstSegmentHasColon (s : List Char) : Bool := (s.takeWhile (· != '/')).contains ':'

/-! ## `path.Join` -/

-- `path.Clean` over the elements, `acc` holding those kept so far, last first
def cleanElems (rooted : Bool) : List (List Char) → List (List Char) → List (List Char)
  | acc, [] => acc.reverse
  | acc, e :: es =>
    if e = [] ∨ e = ['.'] then cleanElems rooted acc es
    else if e = ['.', '.'] then
      match acc with
      | top :: acc' => if top = ['.', '.'] then cleanElems rooted (e :: acc) es else cleanElems rooted acc' es
      | [] => if rooted then cleanElems rooted [] es else cleanElems rooted [e] es
    else cleanElems rooted (e :: acc) es

def clean (p : List Char) : List Char :=
  let rooted := p.head? = some '/'
  let body := List.intercalate ['/'] (cleanElems rooted [] (splitSlash p))
  if rooted then '/' :: body else if body = [] then ['.'] else body

def joinElems : List (List Char) → List Char
  | [] => []
  | e :: es => if e = [] then joinElems es else e ++ es.flatMap ('/' :: ·)

def pathJoin (elem : List (List Char)) : List Char :=
  let joined := joinElems elem
  if joined = [] then [] else clean joined

/-! ## `url.URL` -/

structure Userinfo where
  username : String
  password : String
  passwordSet : Bool
  deriving DecidableEq

structure URL where
  scheme : String
  -- Go's `Opaque`
  rootless : String
  user : Option Userinfo
  host : String
  path : String
  rawPath : String
  omitHost : Bool
  forceQuery : Bool
  rawQuery : String
  fragment : String
  rawFragment : String
  deriving DecidableEq

def URL.empty : URL := ⟨"", "", none, "", "", "", false, false, "", "", ""⟩

def URL.setPath (u : URL) (p : List Char) : Except String URL :=
  match unescape .encodePath p with
  | .error e => .error e
  | .ok path =>
    .ok { u with path := String.mk path, rawPath := if p = escape path .encodePath then "" else String.mk p }

def URL.setFragment (u : URL) (f : List Char) : Except String URL :=
  match unescape .encodeFragment f with
  | .error e => .error e
  | .ok frag =>
    .ok { u with fragment := String.mk frag,
                 rawFragment := if f = escape frag .encodeFragment then "" else String.mk f }

def URL.escapedPath (u : URL) : List Char :=
  if u.rawPath ≠ "" ∧ validEncoded u.rawPath.toList .encodePath ∧
      unescapesTo u.rawPath.toList .encodePath u.path.toList then u.rawPath.toList
  else if u.path = "*" then ['*']
  else escape u.path.toList .encodePath

def URL.escapedFragment (u : URL) : List Char :=
  if u.rawFragment ≠ "" ∧ validEncoded u.rawFragment.toList .encodeFragment ∧
      unescapesTo u.rawFragment.toList .encodeFragment u.fragment.toList then u.rawFragment.toList
  else escape u.fragment.toList .encodeFragment

def Userinfo.string (ui : Userinfo) : List Char :=
  escape ui.username.toList .encodeUserPassword ++
    if ui.passwordSet then ':' :: escape ui.password.toList .encodeUserPassword else []

def URL.string (u : URL) : String :=
  let scheme := if u.scheme = "" then [] else u.scheme.toList ++ [':']
  let body :=
    if u.rootless ≠ "" then u.rootless.toList
    else
      let authority :=
        if (u.scheme ≠ "" ∨ u.host ≠ "" ∨ u.user.isSome) ∧ ¬(u.omitHost ∧ u.host = "" ∧ u.user.isNone) then
          (if u.host ≠ "" ∨ u.path ≠ "" ∨ u.user.isSome then ['/', '/'] else []) ++
            (match u.user with
              | some ui => ui.string ++ ['@']
              | none => []) ++
            escape u.host.toList .encodeHost
        else []
      let path := u.escapedPath
      let slash := if path ≠ [] ∧ path.head? ≠ some '/' ∧ u.host ≠ "" then ['/'] else []
      let dot := if scheme ++ authority ++ slash = [] ∧ firstSegmentHasColon path then ['.', '/'] else []
      authority ++ slash ++ dot ++ path
  let query := if u.forceQuery ∨ u.rawQuery ≠ "" then '?' :: u.rawQuery.toList else []
  let fragment := if u.fragment ≠ "" then '#' :: u.escapedFragment else []
  String.mk (scheme ++ body ++ query ++ fragment)

/-! ## `url.Parse` -/

def getSchemeScan (rawURL : List Char) : List Char → List Char → Except String (List Char × List Char)
  | _, [] => .ok ([], rawURL)
  | seen, c :: rest =>
    if c.isAlpha then getSchemeScan rawURL (c :: seen) rest
    else if c.isDigit ∨ c = '+' ∨ c = '-' ∨ c = '.' then
      if seen = [] then .ok ([], rawURL) else getSchemeScan rawURL (c :: seen) rest
    else if c = ':' then
      if seen = [] then .error "missing protocol scheme" else .ok (seen.reverse, rest)
    else .ok ([], rawURL)

def getScheme (rawURL : List Char) : Except String (List Char × List Char) := getSchemeScan rawURL [] rawURL

def validOptionalPort : List Char → Bool
  | [] => true
  | c :: digits => c == ':' && digits.all Char.isDigit

def invalidPort (colonPort : List Char) : String := "invalid port " ++ quote (String.mk colonPort) ++ " after host"

def parseHost (host : List Char) : Except String (List Char) :=
  if host.head? = some '[' then
    match splitLast ']' host with
    | none => .error "missing \x27]\x27 in host"
    | some (literal, colonPort) =>
      if !validOptionalPort colonPort then .error (invalidPort colonPort)
      else match splitZone literal with
        | some (host1, zone) => do
          let host1 ← unescape .encodeHost host1
          let host2 ← unescape .encodeZone zone
          let host3 ← unescape .encodeHost (']' :: colonPort)
          pure (host1 ++ host2 ++ host3)
        | none => unescape .encodeHost host
  else match splitLast ':' host with
    | some (_, port) =>
      if !validOptionalPort (':' :: port) then .error (invalidPort (':' :: port)) else unescape .encodeHost host
    | none => unescape .encodeHost host

def validUserinfo (s : List Char) : Bool :=
  s.all fun c => c.isAlphanum || "-._:~!$&()*+,;=%@".toList.contains c || c.toNat = 39

def parseAuthority (authority : List Char) : Except String (Option Userinfo × List Char) :=
  match splitLast '@' authority with
  | none => (parseHost authority).map fun host => (none, host)
  | some (userinfo, hostPart) => do
    let host ← parseHost hostPart
    if !validUserinfo userinfo then .error "net/url: invalid userinfo"
    else if !userinfo.contains ':' then
      let username ← unescape .encodeUserPassword userinfo
      pure (some ⟨String.mk username, "", false⟩, host)
    else
      let username ← unescape .encodeUserPassword (cut ':' userinfo).1
      let password ← unescape .encodeUserPassword (cut ':' userinfo).2
      pure (some ⟨String.mk username, String.mk password, true⟩, host)

def parseReference (rawURL : List Char) : Except String URL :=
  if rawURL.any fun c => c.toNat < 0x20 || c.toNat = 0x7f then .error "net/url: invalid control character in URL"
  else if rawURL = ['*'] then .ok { URL.empty with path := "*" }
  else match getScheme rawURL with
  | .error e => .error e
  | .ok (scheme, rest) =>
    let scheme := String.mk (scheme.map Char.toLower)
    let (rest, forceQuery, rawQuery) :=
      if rest.getLast? = some '?' ∧ rest.count '?' = 1 then (rest.dropLast, true, [])
      else ((cut '?' rest).1, false, (cut '?' rest).2)
    let url := { URL.empty with scheme, forceQuery, rawQuery := String.mk rawQuery }
    if rest.head? ≠ some '/' ∧ scheme ≠ "" then .ok { url with rootless := String.mk rest }
    else if rest.head? ≠ some '/' ∧ firstSegmentHasColon rest then
      .error "first path segment in URL cannot contain colon"
    else if (scheme ≠ "" ∨ ¬rest.take 3 = ['/', '/', '/']) ∧ rest.take 2 = ['/', '/'] then
      match parseAuthority ((rest.drop 2).takeWhile (· != '/')) with
      | .error e => .error e
      | .ok (user, host) => { url with user, host := String.mk host }.setPath ((rest.drop 2).dropWhile (· != '/'))
    else { url with omitHost := scheme ≠ "" ∧ rest.head? = some '/' }.setPath rest

def parse (rawURL : String) : Except String URL :=
  let (u, frag) := cut '#' rawURL.toList
  match parseReference u with
  | .error e => .error ("parse " ++ quote (String.mk u) ++ ": " ++ e)
  | .ok url =>
    if frag = [] then .ok url
    else match url.setFragment frag with
      | .error e => .error ("parse " ++ quote rawURL ++ ": " ++ e)
      | .ok url => .ok url

def URL.joinPath (u : URL) (elem : List String) : URL :=
  let first := u.escapedPath
  let rooted := first.head? = some '/'
  let elems := (if rooted then first else '/' :: first) :: elem.map String.toList
  let p := if rooted then pathJoin elems else (pathJoin elems).drop 1
  let p := if (elems.getLast?.getD []).getLast? = some '/' ∧ p.getLast? ≠ some '/' then p ++ ['/'] else p
  match u.setPath p with
  | .ok url => url
  | .error _ => u

end HassAgent.NetUrl
