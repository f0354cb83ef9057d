import NplLifecycle.Uri.Host
import NplLifecycle.Uri.Strict

/-!
# Authorities

Behind two slashes an address may name a user, a host and the number of a service there.  Only
whether they are well-formed matters here.  A scheme of the web needs a host; another one does
not, unless a user or a service is named.
-/

namespace NplLifecycle.Uri.Authority

/-- Does a character end an authority?  A backslash does so in an address of the web. -/
def isEnd (ofWeb : Bool) (c : Char) : Bool :=
  c == '/' || c == '?' || c == '#' || (ofWeb && c == '\\')

/-- Cuts off the user, which ends at the last `@` of the authority. -/
def cutUser (ofWeb : Bool) (text : List Char) : Option (List Char) × List Char :=
  let authority := text.takeWhile (! isEnd ofWeb ·)
  if authority.contains '@' then
    let length := (authority.reverse.dropWhile (· ≠ '@')).length
    (some (authority.take (length - 1)), text.drop length)
  else (none, text)

/-- Cuts off the host, which ends at a colon outside of brackets. -/
def cutHost (ofWeb : Bool) (inBrackets : Bool) : List Char → List Char × List Char
  | [] => ([], [])
  | c :: rest =>
    if isEnd ofWeb c || (c == ':' && ! inBrackets) then ([], c :: rest)
    else
      let (host, behind) := cutHost ofWeb ((inBrackets || c == '[') && c ≠ ']') rest
      (c :: host, behind)

def isNamed (user : List Char) : Bool :=
  user.head?.any (· ≠ ':') || 1 < user.length

/-- Is the number of a service well-formed?  It fits sixteen bits, or is left out behind its
colon. -/
def isService (text : List Char) : Bool :=
  text.all isDigit && (text.isEmpty || (Number.readUnsigned? 65536 text).isSome)

/-- Is what follows two slashes well-formed, as far as the authority goes? -/
def isValid (ofWeb : Bool) (text : List Char) : Bool :=
  let (user, behindUser) := cutUser ofWeb text
  let (host, behindHost) := cutHost ofWeb false behindUser
  let hostIsValid := if ofWeb then (Host.ofText? host).isSome else Host.isPlausible host
  let service? := if behindHost.head? = some ':' then
      some ((behindHost.drop 1).takeWhile (! isEnd true ·))
    else none
  let emptyIsValid := ! ofWeb && service?.isNone && ! user.any isNamed &&
    ! (user = some [] && ! behindUser.isEmpty)
  hostIsValid && service?.all isService && (! host.isEmpty || emptyIsValid)

end NplLifecycle.Uri.Authority
