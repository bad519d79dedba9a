import PrivateAiWorkspace.Python.Builtins
import PrivateAiWorkspace.Python.IpAddress

/-!
# `urllib.parse.urlsplit`

The parts of a URL and what the result object derives from its network location:
user name, password, host name and port. Reading a port that is no number in
range raises.
-/

namespace PrivateAiWorkspace.Python

namespace Str

/-- `text.rpartition(separator)[0]`. -/
def beforeLast (separator : Char) (text : String) : String :=
  String.ofList ((text.toList.reverse.dropWhile (· != separator)).drop 1).reverse

/-- `text.rpartition(separator)[2]`. -/
def afterLast (separator : Char) (text : String) : String :=
  String.ofList (text.toList.reverse.takeWhile (· != separator)).reverse

/-- `c in text`. -/
def hasChar (text : String) (c : Char) : Bool := text.toList.contains c

/-- `text.isdigit() and text.isascii()`. -/
def isAsciiDigits (text : String) : Bool :=
  !text.toList.isEmpty && text.toList.all Char.isDigit

end Str

/-- `SplitResult`, without the fragment. -/
structure SplitResult where
  scheme : String
  netloc : String
  path : String
  query : String
  deriving DecidableEq, Repr

namespace SplitResult

/-- Name and password in front of the last `@`. -/
def userinfo (parts : SplitResult) : Option String × Option String :=
  if Str.hasChar parts.netloc '@' then
    let userinfo := Str.beforeLast '@' parts.netloc
    (some (Str.before ':' userinfo),
      if Str.hasChar userinfo ':' then some (Str.after ':' userinfo) else none)
  else (none, none)

/-- `username`. -/
def username (parts : SplitResult) : Option String := parts.userinfo.1

/-- `password`. -/
def password (parts : SplitResult) : Option String := parts.userinfo.2

/-- Host and port behind the last `@`; brackets protect the colons of a host. -/
def hostinfo (parts : SplitResult) : String × String :=
  let hostinfo := Str.afterLast '@' parts.netloc
  if Str.hasChar hostinfo '[' then
    let bracketed := Str.after '[' hostinfo
    (Str.before ']' bracketed, Str.after ':' (Str.after ']' bracketed))
  else (Str.before ':' hostinfo, Str.after ':' hostinfo)

/-- `hostname`: in lower case, except for the zone of a scoped address. -/
def hostname (builtins : Builtins) (parts : SplitResult) : Option String :=
  let host := parts.hostinfo.1
  if host = "" then none
  else
    some (builtins.lower (Str.before '%' host) ++
      if Str.hasChar host '%' then "%" ++ Str.after '%' host else "")

/-- `port`. -/
def port (parts : SplitResult) : Except PyException (Option Nat) :=
  let port := parts.hostinfo.2
  if port = "" then .ok none
  else if Str.isAsciiDigits port && decide (port.toList.length ≤ Str.maxDigits) then
    let value := port.toList.foldl
      (fun value c => value * 10 + (c.toNat - '0'.toNat)) 0
    if value ≤ 65535 then .ok (some value) else .error .valueError
  else .error .valueError

end SplitResult

namespace Url

/-- `scheme_chars`. -/
def isSchemeChar (c : Char) : Bool :=
  (c.toNat < 128 && c.isAlphanum) || c = '+' || c = '-' || c = '.'

/-- Control characters and the blank. -/
def isC0OrSpace (c : Char) : Bool := c.toNat ≤ 0x20

/-- Characters `urlsplit` removes wherever they stand. -/
def isUnsafe (c : Char) : Bool := c = '\t' || c = '\r' || c = '\n'

/-- Scheme, in lower case, and the rest. -/
def splitScheme (url : List Char) : String × List Char :=
  let scheme := url.takeWhile (· != ':')
  match scheme, url.dropWhile (· != ':') with
  | first :: _, ':' :: rest =>
      if first.toNat < 128 && first.isAlpha && scheme.all isSchemeChar then
        (Str.asciiLower (String.ofList scheme), rest)
      else ("", url)
  | _, _ => ("", url)

/-- `_splitnetloc` behind two slashes. -/
def splitNetloc : List Char → String × List Char
  | '/' :: '/' :: rest =>
      let inNetloc := fun c : Char => c != '/' && c != '?' && c != '#'
      (String.ofList (rest.takeWhile inNetloc), rest.dropWhile inNetloc)
  | url => ("", url)

/-- `_check_bracketed_host`: an IPv6 address or a future version. -/
def bracketedHostOk (host : String) : Bool :=
  match host.toList with
  | 'v' :: rest =>
      let digits := rest.takeWhile fun c => (IpAddress.hexDigit? c).isSome
      match rest.drop digits.length with
      | '.' :: c :: _ => !digits.isEmpty && c != '\n'
      | _ => false
  | _ =>
      match IpAddress.ofString host with
      | .ok (.v6 _ _) => true
      | _ => false

/-- The checks of `urlsplit` on brackets in a network location. -/
def bracketsOk (netloc : String) : Bool :=
  if Str.hasChar netloc '[' && Str.hasChar netloc ']' then
    let hostinfo := Str.afterLast '@' netloc
    if Str.hasChar hostinfo '[' then
      let bracketed := Str.after '[' hostinfo
      let port := Str.after ']' bracketed
      Str.before '[' hostinfo = "" && (port = "" || Str.startsWith port ":") &&
        bracketedHostOk (Str.before ']' bracketed)
    else bracketedHostOk (Str.before ':' hostinfo)
  else !Str.hasChar netloc '[' && !Str.hasChar netloc ']'

/-- `_checknetloc`: no character that normalizes to a delimiter. -/
def netlocOk (builtins : Builtins) (netloc : String) : Bool :=
  if Str.isAscii netloc then true
  else
    let kept := String.ofList (netloc.toList.filter fun c =>
      c != '@' && c != ':' && c != '#' && c != '?')
    let normal := builtins.nfkc kept
    normal = kept || ['/', '?', '#', '@', ':'].all fun c => !Str.hasChar normal c

/-- `urlsplit(url)`. -/
def urlsplit (builtins : Builtins) (url : String) :
    Except PyException SplitResult :=
  let trimmed := (url.toList.dropWhile isC0OrSpace).filter (!isUnsafe ·)
  let (scheme, rest) := splitScheme trimmed
  let (netloc, rest) := splitNetloc rest
  if !bracketsOk netloc then .error .valueError
  else
    let rest := rest.takeWhile (· != '#')
    if !netlocOk builtins netloc then .error .valueError
    else .ok
      { scheme, netloc, path := String.ofList (rest.takeWhile (· != '?')),
        query := String.ofList ((rest.dropWhile (· != '?')).drop 1) }

theorem urlsplit_error {builtins : Builtins} {url : String}
    {error : PyException} (raised : urlsplit builtins url = .error error) :
    error = .valueError := by
  simp only [urlsplit] at raised
  repeat' split at raised
  all_goals cases raised
  all_goals rfl

theorem port_error {parts : SplitResult} {error : PyException}
    (raised : parts.port = .error error) : error = .valueError := by
  simp only [SplitResult.port] at raised
  repeat' split at raised
  all_goals cases raised
  all_goals rfl

end Url

end PrivateAiWorkspace.Python
