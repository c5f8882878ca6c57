import RapidUpload.Fault

/-!
# Settings of the HTTP client

Where the service is, how the client presents itself, the proxy, the certificates and the limits.

* `HttpConfig.urlFor`: the address of an endpoint.
* `HttpConfig.verification`: how certificates are checked.
-/

namespace RapidUpload

/-- A span of time in seconds, kept in the form it was given in. -/
inductive Seconds where
  /-- Without end. -/
  | unlimited
  | whole (n : Int)
  | fractional (x : Double)

/-- The limits on the time a request takes. -/
structure Timeouts where
  total : Seconds
  connect : Seconds
  read : Seconds

/-- A number of seconds as a binary64 number. -/
def Seconds.ofNat (n : Nat) : Seconds := .fractional (Double.ofRatio false n 1)

/-- Five minutes in all, half a minute to connect, one minute between bytes. -/
def Timeouts.standard : Timeouts := ⟨.ofNat 300, .ofNat 30, .ofNat 60⟩

/-- How certificates are checked. -/
inductive Verification where
  | off
  /-- Against the system's certificates and those at a path. -/
  | certificates (extra : Option String)

/-- The settings. -/
structure HttpConfig where
  base : String
  userAgent : String
  referer : String
  proxy : Option String
  verify : Bool
  certificates : Option String
  timeouts : Timeouts
  extraHeaders : List (String × String)
  logLevel : Int
  connectionLimit : Int

namespace HttpConfig

/-- The settings when none are given. -/
def standard : HttpConfig :=
  { base := "https://api.aliyundrive.com"
    userAgent := "alidrive/1.0.0"
    referer := "https://www.aliyundrive.com/"
    proxy := none
    verify := true
    certificates := none
    timeouts := .standard
    extraHeaders := []
    logLevel := 20
    connectionLimit := 10 }

/-- Takes a proxy and the wish to skip verification; an empty proxy is none. -/
def withOptions (c : HttpConfig) (proxy : Option String) (insecure : Bool) : HttpConfig :=
  { c with proxy := proxy.filter (· != ""), verify := !insecure }

/-- A text without the slashes at its end. -/
def trimEnd (s : String) : String :=
  String.ofList ((s.toList.reverse.dropWhile (· == '/')).reverse)

/-- A text without the slashes at its start. -/
def trimStart (s : String) : String :=
  String.ofList (s.toList.dropWhile (· == '/'))

/-- Names a place on its own. -/
def isAddress (endpoint : String) : Bool :=
  "http://".toList.isPrefixOf endpoint.toList || "https://".toList.isPrefixOf endpoint.toList

/-- The address of an endpoint: itself when it is one, else below the base with one slash
between. -/
def urlFor (c : HttpConfig) (endpoint : String) : String :=
  if isAddress endpoint then endpoint else trimEnd c.base ++ "/" ++ trimStart endpoint

/-- How certificates are checked. -/
def verification (c : HttpConfig) : Verification :=
  if c.verify then .certificates (c.certificates.filter (· != "")) else .off

/-- Sets a header; a name keeps its place and takes its last value. -/
def setHeader (headers : List (String × String)) (h : String × String) : List (String × String) :=
  match headers with
  | [] => [h]
  | (k, v) :: rest => if k = h.1 then h :: rest else (k, v) :: setHeader rest h

/-- The headers of every request of a session. -/
def headers (c : HttpConfig) : List (String × String) :=
  c.extraHeaders.foldl setHeader [("User-Agent", c.userAgent), ("Referer", c.referer)]

end HttpConfig

end RapidUpload
