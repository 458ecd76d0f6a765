import V2rayA.Encoding.Url
import V2rayA.Kernel.Selection

/-!
# SOCKS and AnyTLS nodes

Two protocols of the program, as instances of what it asks of a node: a SOCKS node writes its share
link from its fields, an AnyTLS node keeps the link that it was read from.
-/

namespace V2rayA

/-- A SOCKS5 proxy. -/
structure SOCKS where
  name : String := ""
  server : String := ""
  port : ℤ := 0
  username : String := ""
  password : String := ""
  protocol : String := "socks5"
  deriving DecidableEq, Repr, Inhabited

/-- The share link of a SOCKS node. -/
def SOCKS.exportToURL (h : SOCKS) : String :=
  let user :=
    if h.username ≠ "" ∧ h.password ≠ "" then
      URL.escape .userPassword h.username ++ ":" ++ URL.escape .userPassword h.password ++ "@"
    else ""
  let scheme := if h.protocol = "" then "" else h.protocol ++ ":"
  let fragment := if h.name = "" then "" else "#" ++ URL.escape .fragment h.name
  scheme ++ "//" ++ user ++ URL.escape .host (Go.joinHostPort h.server (toString h.port)) ++
    fragment

instance : ServerObj SOCKS where
  getProtocol := SOCKS.protocol
  getHostname := SOCKS.server
  getPort := SOCKS.port
  getName := SOCKS.name
  exportToURL := SOCKS.exportToURL

example : exportToURL ({ name := "a b", server := "h.example", port := 1080 } : SOCKS) =
    "socks5://h.example:1080#a%20b" := by decide

/-- An AnyTLS proxy. -/
structure AnyTLS where
  name : String := ""
  server : String := ""
  port : ℤ := 0
  protocol : String := "anytls"
  link : String := ""
  deriving DecidableEq, Repr

instance : ServerObj AnyTLS where
  getProtocol := AnyTLS.protocol
  getHostname := AnyTLS.server
  getPort := AnyTLS.port
  getName := AnyTLS.name
  exportToURL := AnyTLS.link

end V2rayA
