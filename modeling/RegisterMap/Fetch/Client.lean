import RegisterMap.Fetch.Url
import RegisterMap.Fetch.Status

/-!
Downloading a header: a fetcher sends a GET request with its user agent and takes the body of a
`200` answer. Its checks come in a fixed order; the network is a parameter that says which host
answers, and how.
-/

namespace RegisterMap

namespace Fetch

def defaultUserAgent : String := "mmio-gen (+https://omibyte.io)"

structure Reply where
  code : Nat
  body : String
  deriving DecidableEq, Repr

abbrev Network := Bytes → Option Reply

def Network.none : Network := fun _ => Option.none

inductive FetchError where
  | noUserAgent
  | status (url : String) (code : Nat) (line : String)
  | canceled (text : String)
  | failed (text : String)
  deriving DecidableEq, Repr

def FetchError.message : FetchError → String
  | .noUserAgent => "fetch: user agent is unset"
  | .status url _ line => "fetch " ++ url ++ ": " ++ line
  | .canceled t => t
  | .failed t => t

structure Fetcher where
  userAgent : String := defaultUserAgent
  limited : Bool := true
  deriving DecidableEq, Repr

/-- The outcome of a download, with the user agent a server saw, empty if no server was
reached. -/
structure Attempt where
  result : Except FetchError String
  agentSeen : String := ""

def validHeaderValue (s : String) : Bool :=
  s.toList.all fun c => c == '\t' || (32 ≤ c.toNat && c.toNat != 127)

def hostName (host : Bytes) : Bytes :=
  match host with
  | 91 :: rest => rest.takeWhile (· != 93)
  | _ => host.takeWhile (· != 58)

def portText (host : Bytes) : Bytes :=
  let digits := host.reverse.takeWhile fun b => 48 ≤ b && b ≤ 57
  if (host.reverse.drop digits.length).head? == some 58 then digits.reverse else []

def portNumber (port : Bytes) : Nat := port.foldl (fun n b => n * 10 + (b.toNat - 48)) 0

def Fetcher.fetch (f : Fetcher) (net : Network) (canceled : Bool) (url : String) : Attempt :=
  if f.userAgent.isEmpty then { result := .error .noUserAgent }
  else
    match Url.parse (Bytes.ofString url) with
    | .error (shown, e) =>
      { result := .error (.failed ("parse " ++ Bytes.quote shown ++ ": " ++ e.message)) }
    | .ok u =>
      let u := { u with host := Url.dropEmptyPort u.host }
      if f.limited && canceled then { result := .error (.canceled "context canceled") }
      else
        let shown := Bytes.quote u.redacted
        let failure (text : String) : Attempt := { result := .error (.failed ("Get " ++ shown ++ ": " ++ text)) }
        let isWeb := u.scheme == Bytes.ofString "http" || u.scheme == Bytes.ofString "https"
        if isWeb && !validHeaderValue f.userAgent then
          failure "net/http: invalid header field value for \"User-Agent\""
        else if !isWeb then failure ("unsupported protocol scheme " ++ Bytes.quote u.scheme)
        else if u.host.isEmpty then failure "http: no Host in request URL"
        else if canceled then
          { result := .error (.canceled ("Get " ++ shown ++ ": context canceled")) }
        else if 65535 < portNumber (portText u.host) then
          failure ("dial tcp: address " ++ Bytes.toLossy (portText u.host) ++ ": invalid port")
        else
          match net u.host with
          | none => failure ("dial tcp: lookup " ++ Bytes.toLossy (hostName u.host) ++ ": no such host")
          | some r =>
            { result := if r.code == 200 then .ok r.body else .error (.status url r.code (statusLine r.code)),
              agentSeen := f.userAgent }

end Fetch

end RegisterMap
