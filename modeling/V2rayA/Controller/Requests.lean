import V2rayA.Service.Connect
import V2rayA.Service.Import
import V2rayA.Service.Touch
import V2rayA.ToMathlib.Transition

/-!
# The requests that change the store

The handlers of the API for connections, groups, the catalog and subscriptions, and the system
in which they are served one after the other: `Api.system`. Requests are serialized by the
turn that `beginMutation` hands out, so a request is one step. Between two requests the core
may start, stop or crash, and settings and custom inbounds may change.

The bodies of the requests are given here; a body that cannot be decoded is answered without
any effect.
-/

namespace V2rayA

variable {ν : Type}

/-- `BAD_REQUEST`. -/
def badRequest (field text : String) : Go.Error where
  text := text
  code := "BAD_REQUEST"
  params := [("field", .text field)]

/-! ### Members of a group -/

/-- A touch in the body of `PutOutboundConnections`. -/
structure TouchInput where
  id : ℤ
  /-- The field `_type`. -/
  type : String := ""
  /-- The field `type`, which is read if `_type` is missing. -/
  typeAlias : String := ""
  sub : Option ℤ := none
  deriving DecidableEq, Repr

/-- The type that a text names, in any case and with or without hyphens and underscores. -/
def normalizeTouchType (raw : String) : Option TouchType :=
  let normalized := Go.toLower (Go.removeAll '-' (Go.removeAll '_' raw))
  if normalized = "server" then some .server
  else if normalized = "subscriptionserver" then some .subscriptionServer
  else none

/-- The reference that a touch stands for. -/
def TouchInput.toNodeRef (outbound : String) (touch : TouchInput × ℕ) :
    Except Go.Error NodeRef :=
  let (w, i) := touch
  let rawType := if w.type = "" then w.typeAlias else w.type
  match normalizeTouchType rawType with
  | none =>
    .error {
      text := s!"touches[{i}]._type " ++ Go.quote rawType ++
        " is not valid; expected server or subscriptionServer" }
  | some type =>
    if w.id ≤ 0 then .error { text := s!"touches[{i}].id {w.id} must be positive" }
    else
      let sub := w.sub.getD 0
      if type = .subscriptionServer ∧ sub < 0 then
        .error { text := s!"touches[{i}].sub {sub} must be non-negative" }
      else .ok { type, id := w.id, sub := if type = .server then 0 else sub, outbound }

/-- The references that the touches of a request stand for. -/
def parseTouches (outbound : String) (touches : List TouchInput) :
    Except Go.Error (List NodeRef) :=
  touches.zipIdx.mapM (TouchInput.toNodeRef outbound)

/-- `PutOutboundConnections`. -/
def putOutboundConnections [ServerObj ν] (outbound : String) (touches : List TouchInput) :
    Go.Op (World ν) := fun w =>
  if (w.store.getOutboundSetting outbound).autoAdd then
    (some { automaticGroup outbound with code := "AUTOMATIC_GROUP" }, w)
  else
    match parseTouches outbound touches with
    | .error e => (some e, w)
    | .ok whiches => replaceOutboundConnections outbound whiches false w

/-! ### Groups -/

/-- `PostOutbound`: create a group. -/
def postOutbound (outbound : String) : Go.Op (World ν) := fun w =>
  if hne : outbound = "" then
    (some (badRequest "outbound"
      "request body must be a JSON object with a non-empty \"outbound\" string"), w)
  else
    match w.store.addOutbound outbound hne with
    | .error e => (some e, w)
    | .ok store => (none, { w with store })

/-- The refusal to delete a group that custom inbounds are bound to. -/
def boundGroup (outbound : String) (bound : List CustomInbound) : Go.Error where
  text := "cannot delete outbound group '" ++ outbound ++
    "': the following custom inbounds are bound to it:\n" ++
    String.intercalate "\n"
      (bound.map fun ci => ci.tag ++ s!" (port {ci.port}, " ++ ci.protocol.text ++ ")") ++
    "\nPlease unbind them first"

/-- Disconnect all members of a group that is to be deleted. -/
def clearGroup [ServerObj ν] (outbound : String) : Go.Op (World ν) := fun w =>
  match w.store.getConnectedServersByOutbound outbound with
  | none => (none, w)
  | some _ => disconnect { type := .other "", id := 0, sub := 0, outbound } true w

/-- Make a group automatic again that could not be deleted. -/
def restoreAutomatic (outbound : String) (setting : OutboundSetting) (s : Store ν) : Store ν :=
  if setting.autoAdd then
    match s.setOutboundSetting outbound setting with
    | .ok store => store
    | .error _ => s
  else s

/-- `DeleteOutbound`: delete a group. An automatic group is made a manual one first, so that
its members can be disconnected. -/
def deleteOutbound [ServerObj ν] (outbound : String) : Go.Op (World ν) := fun w =>
  if outbound = "" then
    (some (badRequest "outbound"
      "request body must be a JSON object with a non-empty \"outbound\" string"), w)
  else if outbound = "proxy" then
    (some { text := "outbound \"proxy\" cannot be deleted" }, w)
  else
    let bound := w.store.getCustomInboundsByOutbound outbound
    if bound.length > 0 then (some (boundGroup outbound bound), w)
    else
      let setting := w.store.getOutboundSetting outbound
      match if setting.autoAdd then
          w.store.setOutboundSetting outbound { setting with autoAdd := false }
        else .ok w.store with
      | .error e => (some e, w)
      | .ok store =>
        match clearGroup outbound { w with store } with
        | (none, w) => (none, { w with store := w.store.removeOutbound outbound })
        | (some e, w) => (some e, { w with store := restoreAutomatic outbound setting w.store })

/-! ### Subscriptions -/

/-- `PutSubscription`: update a subscription. -/
def putSubscription [ServerObj ν] (data : NodeRef) (status : String) (fetched : Fetched ν) :
    Go.Op (World ν) := fun w =>
  let index := data.id - 1
  if data.type ≠ .subscription ∨ index < 0 ∨ index ≥ w.store.getLenSubscriptions then
    (some (badRequest "subscription" ("request body must be a subscription item with _type " ++
      "\"subscription\" and an existing positive id")), w)
  else updateSubscription index status fetched false w

/-! ### Serving requests -/

/-- A request that changes the store, with the outcome of what it asks the network and the
system for, or a change from elsewhere. -/
inductive Request (ν : Type)
  | connect (which : Option NodeRef) (support : Option Go.Error)
  | disconnect (which : NodeRef)
  | putOutboundConnections (outbound : String) (touches : List TouchInput)
  | deleteWhich (rt : Go.Runtime) (touches : List Which)
  | importServer (links : Links ν) (which : Option NodeRef)
  | importSubscription (address status : String) (fetched : Fetched ν)
  | putSubscription (data : NodeRef) (status : String) (fetched : Fetched ν)
  | postOutbound (outbound : String)
  | deleteOutbound (outbound : String)
  /-- The core is started, is stopped or crashes. -/
  | core (running : Bool)
  /-- The setting of a group is stored, by a request or by the worker. -/
  | setting (outbound : String) (setting : OutboundSetting)
  /-- The custom inbounds are stored. -/
  | customInbounds (inbounds : List CustomInbound)

/-- Serve a request. -/
def Request.handle [ServerObj ν] : Request ν → Go.Op (World ν)
  | .connect which support => V2rayA.connect which support
  | .disconnect which => V2rayA.disconnect which false
  | .putOutboundConnections outbound touches => V2rayA.putOutboundConnections outbound touches
  | .deleteWhich rt touches => V2rayA.deleteWhich rt touches
  | .importServer links which => V2rayA.importServer links which
  | .importSubscription address status fetched =>
    V2rayA.importSubscription address status fetched
  | .putSubscription data status fetched => V2rayA.putSubscription data status fetched
  | .postOutbound outbound => V2rayA.postOutbound outbound
  | .deleteOutbound outbound => V2rayA.deleteOutbound outbound
  | .core running => fun w => (none, { w with running })
  | .setting outbound next => fun w =>
    match w.store.setOutboundSetting outbound next with
    | .error e => (some e, w)
    | .ok store => (none, { w with store })
  | .customInbounds inbounds => fun w =>
    (none, { w with store := { w.store with customInbounds := inbounds } })

/-- Requests are served one after the other, beginning with an empty store. -/
def Api.system (ν : Type) [ServerObj ν] : Transition.System (World ν) (Request ν) where
  init w := w.store = {}
  next w request := some (request.handle w).2

end V2rayA
