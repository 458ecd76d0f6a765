import Mathlib

/-!
# The configuration of the core

The objects that the configuration of a core is made of. Of an outbound, the parts that only its
protocol reads are left out, and so are the fields of an inbound that describe the TUN device.
-/

namespace V2rayA

/-- A user of an upstream proxy. -/
structure OutboundUser where
  user : String
  pass : String := ""
  level : ℤ := 0
  deriving DecidableEq, Repr

/-- An upstream proxy. -/
structure Server where
  address : String
  port : ℤ
  users : List OutboundUser := []
  deriving DecidableEq, Repr

/-- The settings of an outbound. -/
structure Settings where
  servers : List Server := []
  domainStrategy : String := ""
  redirect : String := ""
  userLevel : Option ℤ := none
  deriving DecidableEq, Repr

/-- The options of a socket. -/
structure Sockopt where
  mark : Option ℤ := none
  interface : String := ""
  tcpFastOpen : Option Bool := none
  tproxy : Option String := none
  deriving DecidableEq, Repr

/-- How the traffic of an inbound or an outbound is carried. -/
structure StreamSettings where
  sockopt : Option Sockopt := none
  deriving DecidableEq, Repr

/-- The multiplexing of an outbound. -/
structure Mux where
  enabled : Bool
  concurrency : ℤ
  deriving DecidableEq, Repr

/-- An outbound. -/
structure OutboundObject where
  tag : String
  protocol : String
  settings : Settings := {}
  streamSettings : Option StreamSettings := none
  mux : Option Mux := none
  /-- The groups that choose among this outbound and others. -/
  balancers : List String := []
  deriving DecidableEq, Repr

/-- What an inbound learns from the traffic itself. -/
structure Sniffing where
  enabled : Bool := false
  destOverride : List String := []
  domainsExcluded : List String := []
  routeOnly : Bool := false
  deriving DecidableEq, Repr

/-- An account of an inbound. -/
structure Account where
  user : String
  pass : String
  deriving DecidableEq, Repr

/-- The settings of an inbound. -/
structure InboundSettings where
  auth : String := ""
  udp : Bool := false
  accounts : List Account := []
  /-- The identifiers of the clients. -/
  clients : List String := []
  network : String := ""
  address : String := ""
  followRedirect : Bool := false
  deriving DecidableEq, Repr

/-- An inbound. -/
structure Inbound where
  port : ℤ := 0
  protocol : String
  listen : String := ""
  sniffing : Sniffing := {}
  settings : Option InboundSettings := none
  streamSettings : Option StreamSettings := none
  tag : String
  deriving DecidableEq, Repr

/-- A routing rule: the connections that it applies to, and where they go. -/
structure RoutingRule where
  type : String := "field"
  outboundTag : String := ""
  balancerTag : String := ""
  inboundTag : List String := []
  domain : List String := []
  ip : List String := []
  network : String := ""
  port : String := ""
  sourcePort : String := ""
  protocol : List String := []
  source : List String := []
  user : List String := []
  deriving DecidableEq, Repr

/-- A group that chooses among outbounds. -/
structure Balancer where
  tag : String
  /-- The tags of the outbounds begin with one of these. -/
  selector : List String
  /-- The type of the strategy. -/
  strategy : String
  observerTag : String
  fallbackTag : String
  deriving DecidableEq, Repr

/-- The observer of a group. -/
structure ObservatoryItem where
  tag : String
  subjectSelector : List String
  probeURL : String
  /-- In nanoseconds. -/
  probeInterval : ℤ
  deriving DecidableEq, Repr

/-- The API of the core. -/
structure APIObject where
  tag : String
  services : List String
  deriving DecidableEq, Repr

/-- The log of the core. -/
structure Log where
  access : String
  error : String
  loglevel : String
  deriving DecidableEq, Repr

end V2rayA
