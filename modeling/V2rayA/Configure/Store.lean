import V2rayA.Configure.Which
import V2rayA.Go.Duration
import V2rayA.ToMathlib.Except
import V2rayA.ToMathlib.List
import V2rayA.ToMathlib.Renumbering

/-!
# The configuration store

The catalog (servers and subscriptions), the outbound groups with their settings, and the
connected servers of each group, as `db/configure` keeps them. A server is found by its
position in its list, so a list stands for the rows of the table in the order of their
`sort` column. The nodes themselves are of an arbitrary type `ν`.

Every write of a single value succeeds; the errors below are those that the program itself
returns. The writes of one transaction are one write here.

* `Store.locate`: resolving a reference.
* `Store.overwriteConnects`, `Store.removeNodes` and `Store.setSubscriptionAndConnects`:
  the three writes that file references by the group each of them names.
* `Store.resolves_iff_locate`: a reference resolves when its ordinals are in range.
* `Store.members_removeNodes` and `Store.setSubscriptionAndConnects_ok`: what a deletion and
  the update of a subscription leave.
-/

namespace V2rayA

open List

/-- The protocol of a custom inbound. -/
inductive InboundProtocol
  | socks
  | http
  | other (raw : String)
  deriving DecidableEq, Repr

/-- The text that is stored for a protocol. -/
def InboundProtocol.text : InboundProtocol → String
  | socks => "socks"
  | http => "http"
  | other raw => raw

/-- How a custom inbound is bound to its group. -/
inductive OutboundBinding
  | direct
  | routingA
  | other (raw : String)
  deriving DecidableEq, Repr

/-- A proxy port of the user. -/
structure CustomInbound where
  tag : String
  protocol : InboundProtocol
  port : ℤ
  /-- The group that it is bound to. -/
  outbound : String
  outboundType : OutboundBinding
  /-- The RoutingA text of a `routingA` binding. -/
  routingARules : String := ""
  username : String := ""
  password : String := ""
  deriving DecidableEq, Repr

/-- A stored node with its last latency. -/
structure ServerRaw (ν : Type) where
  serverObj : ν
  latency : String := ""
  deriving DecidableEq, Repr

/-- When a subscription is updated without being asked. -/
inductive SubscriptionUpdateMode
  | disabled
  | onStart
  | atInterval
  | intervalFailsafe
  | other (raw : String)
  deriving DecidableEq, Repr

/-- A stored subscription. -/
structure SubscriptionRaw (ν : Type) where
  /-- The key of its row, which it keeps when positions change. -/
  databaseID : ℤ := 0
  updateMode : SubscriptionUpdateMode := .other ""
  updateIntervalMinutes : ℤ := 0
  failureIntervalMinutes : ℤ := 0
  allowDirectRecovery : Bool := false
  remarks : String := ""
  address : String := ""
  /-- The time of the last update, or an error. -/
  status : String := ""
  servers : List (ServerRaw ν) := []
  /-- What the provider says about the account. -/
  info : String := ""
  autoSelect : Bool := false
  deriving DecidableEq, Repr

/-- How a group with several members chooses among them. -/
inductive ObservatoryType
  | leastPing
  | keepCurrent
  | roundRobin
  | random
  | other (raw : String)
  deriving DecidableEq, Repr

/-- The setting of an outbound group. -/
structure OutboundSetting where
  /-- The worker manages the members of the group. -/
  autoAdd : Bool := false
  probeURL : String := ""
  probeInterval : String := ""
  type : ObservatoryType := .other ""
  /-- The share link of the only member to route through; empty for all members. -/
  selected : String := ""
  /-- The fingerprint of the member that a `keepCurrent` group stays with. -/
  stickyCurrent : String := ""
  deriving DecidableEq, Repr

/-- The setting of a group that has none stored. -/
def defaultOutboundSetting : OutboundSetting where
  probeURL := "https://www.gstatic.com/generate_204"
  probeInterval := "60s"
  type := .leastPing

/-- An empty group of this setting still needs a core, so that its traffic ends in a
blackhole. -/
def OutboundSetting.FailClosed (setting : OutboundSetting) : Prop :=
  setting.autoAdd = true ∨ setting.type = .keepCurrent

instance : DecidablePred OutboundSetting.FailClosed := fun setting =>
  inferInstanceAs (Decidable (setting.autoAdd = true ∨ setting.type = .keepCurrent))

/-- The name of the group that always exists. -/
def defaultOutboundName : String := "proxy"

/-- The stored configuration. -/
structure Store (ν : Type) where
  servers : List (ServerRaw ν) := []
  subscriptions : List (SubscriptionRaw ν) := []
  /-- The key that the table of subscriptions assigned last. -/
  lastSubscriptionID : ℤ := 0
  /-- The names of the groups. -/
  outboundNames : List String := []
  /-- The name is the primary key of its table. -/
  outboundNames_nodup : outboundNames.Nodup := by
    first | exact List.nodup_nil | exact List.nodup_singleton _ | simp
  /-- A request to create a group has to name it. -/
  outboundNames_ne_empty : "" ∉ outboundNames := by first | exact List.not_mem_nil | simp
  /-- The connected servers in the bucket of a group; `none` when nothing is stored there. -/
  connectedServers : String → Option (List NodeRef) := fun _ => none
  /-- The setting in the bucket of a group. -/
  outboundSetting : String → Option OutboundSetting := fun _ => none
  customInbounds : List CustomInbound := []

namespace Store

variable {ν : Type}

/-! ### Reading -/

/-- The groups: `proxy` first and the others by name. -/
def getOutbounds (s : Store ν) : List String :=
  defaultOutboundName ::
    (s.outboundNames.filter (· ≠ defaultOutboundName)).insertionSort (· ≤ ·)

/-- The connected servers of one group. The empty name means `proxy`. -/
def getConnectedServersByOutbound (s : Store ν) (outbound : String) : Option (List NodeRef) :=
  s.connectedServers (if outbound = "" then defaultOutboundName else outbound)

/-- The references that stand in the bucket of a group. -/
def members (s : Store ν) (outbound : String) : List NodeRef :=
  (s.connectedServers outbound).getD []

/-- The connected servers of all groups, group after group. -/
def getConnectedServers (s : Store ν) : List NodeRef :=
  s.getOutbounds.flatMap fun outbound => (s.getConnectedServersByOutbound outbound).getD []

/-- The setting of a group. -/
def getOutboundSetting (s : Store ν) (outbound : String) : OutboundSetting :=
  (s.outboundSetting outbound).getD defaultOutboundSetting

/-- Whether an empty group still needs a core. -/
def hasFailClosedGroup (s : Store ν) : Bool :=
  s.getOutbounds.any fun outbound => (s.getOutboundSetting outbound).FailClosed

/-- The custom inbounds that are bound to a group. -/
def getCustomInboundsByOutbound (s : Store ν) (outbound : String) : List CustomInbound :=
  s.customInbounds.filter fun ci => ci.outbound = outbound

/-- The number of servers. -/
def getLenServers (s : Store ν) : ℤ := s.servers.length

/-- The number of subscriptions. -/
def getLenSubscriptions (s : Store ν) : ℤ := s.subscriptions.length

/-- The number of servers of the subscription at an index that exists. -/
def getLenSubscriptionServers (s : Store ν) (index : ℤ) : ℤ :=
  match s.subscriptions[index.toNat]? with
  | some sub => sub.servers.length
  | none => 0

/-- The subscription at an index. -/
def getSubscription (s : Store ν) (index : ℤ) : Option (SubscriptionRaw ν) :=
  if 0 ≤ index then s.subscriptions[index.toNat]? else none

/-- `SERVER_NOT_FOUND`. -/
def serverNotFound (id count : ℤ) : Go.Error where
  text := s!"server #{id} does not exist (there are {count} servers); reload the page"
  code := "SERVER_NOT_FOUND"
  params := [("id", .int id), ("count", .int count)]

/-- `SUBSCRIPTION_SERVER_NOT_FOUND`. -/
def subscriptionServerNotFound (id sub : ℤ) : Go.Error where
  text := s!"server #{id} of subscription #{sub + 1} does not exist; reload the page"
  code := "SUBSCRIPTION_SERVER_NOT_FOUND"
  params := [("id", .int id), ("sub", .int (sub + 1))]

/-- `UNKNOWN_ITEM_TYPE`. -/
def unknownItemType (type : TouchType) : Go.Error where
  text := "unknown item type " ++ Go.quote type.text ++ "; expected " ++
    Go.quote TouchType.server.text ++ " or " ++ Go.quote TouchType.subscriptionServer.text
  code := "UNKNOWN_ITEM_TYPE"
  params := [("type", .text type.text)]

/-- `Locator.Locate`: the node that a reference names. -/
def locate (s : Store ν) (w : NodeRef) : Except Go.Error (ServerRaw ν) :=
  let ind := w.id - 1
  match w.type with
  | .server =>
    if ind < 0 then .error (serverNotFound w.id s.servers.length)
    else
      match s.servers[ind.toNat]? with
      | some sr => .ok sr
      | none => .error (serverNotFound w.id s.servers.length)
  | .subscriptionServer =>
    if w.sub < 0 ∨ ind < 0 then .error (subscriptionServerNotFound w.id w.sub)
    else
      match s.subscriptions[w.sub.toNat]?.bind fun sub => sub.servers[ind.toNat]? with
      | some sr => .ok sr
      | none => .error (subscriptionServerNotFound w.id w.sub)
  | type => .error (unknownItemType type)

/-- A reference resolves: it names a server, or a server of a subscription, that exists. -/
def Resolves (s : Store ν) (w : NodeRef) : Prop :=
  match w.type with
  | .server => 1 ≤ w.id ∧ w.id ≤ s.servers.length
  | .subscriptionServer =>
    0 ≤ w.sub ∧ w.sub < s.subscriptions.length ∧
      1 ≤ w.id ∧ w.id ≤ s.getLenSubscriptionServers w.sub
  | _ => False

instance (s : Store ν) : DecidablePred s.Resolves
  | ⟨.server, _, _, _⟩ => inferInstanceAs (Decidable (_ ∧ _))
  | ⟨.subscriptionServer, _, _, _⟩ => inferInstanceAs (Decidable (_ ∧ _))
  | ⟨.subscription, _, _, _⟩ => inferInstanceAs (Decidable False)
  | ⟨.other _, _, _, _⟩ => inferInstanceAs (Decidable False)

/-- The range check of `Whiches.GetNonDuplicated`. -/
def inRange (s : Store ν) (v : NodeRef) : Bool :=
  let ind := v.id - 1
  match v.type with
  | .subscription => 0 ≤ ind ∧ ind < s.getLenSubscriptions
  | .server => 0 ≤ ind ∧ ind < s.getLenServers
  | .subscriptionServer =>
    0 ≤ v.sub ∧ v.sub < s.getLenSubscriptions ∧ 0 ≤ ind ∧
      ind < s.getLenSubscriptionServers v.sub
  | .other _ => false

/-- `Whiches.GetNonDuplicated` on the touches `ws`: those in range, one for each reference.
The map is visited in the order of the runtime. -/
def getNonDuplicated (s : Store ν) (rt : Go.Runtime) (ws : List Which) : List Which :=
  let ts : AList fun _ : NodeRef => Which :=
    ws.foldl (fun ts v => if s.inRange v.toNodeRef then ts.insert v.toNodeRef v else ts) ∅
  rt.mapOrder 0 (ts.entries.map Sigma.snd)

/-! ### Writing -/

/-- Store the connected servers of a group. -/
def setConnects (s : Store ν) (outbound : String) (ws : List NodeRef) : Store ν :=
  { s with connectedServers := Function.update s.connectedServers outbound (some ws) }

/-- Empty a group. -/
def clearConnects (s : Store ν) (outbound : String) : Store ν :=
  s.setConnects (if outbound = "" then defaultOutboundName else outbound) []

/-- The reference with the default group in place of an empty one. -/
def normalizeOutbound (w : NodeRef) : NodeRef :=
  if w.outbound = "" then { w with outbound := defaultOutboundName } else w

/-- Add a member to its group, unless it is one. The stored references are normalized
on the way. -/
def addConnect (s : Store ν) (wt : NodeRef) : Store ν :=
  let wt := normalizeOutbound wt
  let wcs := (s.members wt.outbound).map normalizeOutbound
  if wcs.any fun v => v.equalTo wt then s else s.setConnects wt.outbound (wcs ++ [wt])

/-- Remove the first stored reference that equals `wt` from its group. -/
def removeConnect (s : Store ν) (wt : NodeRef) : Except Go.Error (Store ν) :=
  let wt := normalizeOutbound wt
  let wcs := (s.members wt.outbound).map normalizeOutbound
  match wcs.findIdx? fun v => v.equalTo wt with
  | some i => .ok (s.setConnects wt.outbound (wcs.eraseIdx i))
  | none =>
    .error {
      text := s!"server #{wt.id} (" ++ wt.type.text ++
        ") is not in the connected list of outbound " ++ Go.quote wt.outbound ++
        "; reload the page" }

/-- The references by the group each of them names. -/
def byOutbound (ws : List NodeRef) (outbound : String) : Option (List NodeRef) :=
  if ∃ w ∈ ws, w.outbound = outbound then some (ws.filter (·.outbound = outbound)) else none

/-- Replace the members of every group that `ws` mentions. -/
def overwriteConnects (s : Store ν) (ws : List NodeRef) : Store ν :=
  { s with connectedServers := fun out => (byOutbound ws out).or (s.connectedServers out) }

/-- Delete catalog entries by index together with the connected lists that were renumbered
for the deletion. A group that `connected` does not mention is emptied. -/
def removeNodes (s : Store ν) (subscriptions servers : List ℤ) (connected : List NodeRef) :
    Store ν :=
  { s with
    servers := s.servers.removeIdxs fun i => (i : ℤ) ∈ servers
    subscriptions := s.subscriptions.removeIdxs fun i => (i : ℤ) ∈ subscriptions
    connectedServers := fun out =>
      if out ∈ s.getOutbounds then some ((byOutbound connected out).getD [])
      else (byOutbound connected out).or (s.connectedServers out) }

/-- The columns of a subscription as the table stores them. -/
def subscriptionRow (databaseID : ℤ) (sub : SubscriptionRaw ν) : SubscriptionRaw ν :=
  { sub with
    databaseID
    updateMode := if sub.updateMode = .other "" then .disabled else sub.updateMode
    failureIntervalMinutes := max 1 sub.failureIntervalMinutes }

/-- Replace the subscription at an index; its row keeps its key. -/
def setSubscription (s : Store ν) (index : ℤ) (sub : SubscriptionRaw ν) :
    Except Go.Error (Store ν) :=
  match s.getSubscription index with
  | none => .error { text := s!"ListSet: subscription at index {index} not found" }
  | some old =>
    .ok { s with subscriptions :=
            s.subscriptions.set index.toNat (subscriptionRow old.databaseID sub) }

/-- Replace a subscription and file the references `ws` by group. A group that had members
and that `ws` does not mention is emptied. -/
def setSubscriptionAndConnects (s : Store ν) (index : ℤ) (sub : SubscriptionRaw ν)
    (ws : List NodeRef) : Except Go.Error (Store ν) := do
  let s' ← s.setSubscription index sub
  return { s' with
    connectedServers := fun out =>
      if ∃ w ∈ s.getConnectedServers, w.outbound = out then
        some ((byOutbound ws out).getD [])
      else (byOutbound ws out).or (s.connectedServers out) }

/-- Replace the server at an index. -/
def setServer (s : Store ν) (index : ℤ) (server : ServerRaw ν) : Except Go.Error (Store ν) :=
  if 0 ≤ index ∧ index < s.servers.length then
    .ok { s with servers := s.servers.set index.toNat server }
  else .error { text := s!"ListSet: server at index {index} not found" }

/-- Append a server. -/
def appendServer (s : Store ν) (server : ServerRaw ν) : Store ν :=
  { s with servers := s.servers ++ [server] }

/-- Append a subscription under a new key. -/
def appendSubscription (s : Store ν) (sub : SubscriptionRaw ν) : Store ν :=
  { s with
    subscriptions := s.subscriptions ++ [subscriptionRow (s.lastSubscriptionID + 1) sub]
    lastSubscriptionID := s.lastSubscriptionID + 1 }

/-- Store the setting of a group, if its probe interval is a duration. -/
def setOutboundSetting (s : Store ν) (outbound : String) (setting : OutboundSetting) :
    Except Go.Error (Store ν) := do
  let _ ← Go.parseDuration setting.probeInterval
  return { s with
    outboundSetting := Function.update s.outboundSetting outbound (some setting) }

lemma setOutboundSetting_eq_ok {s s' : Store ν} {outbound : String} {setting : OutboundSetting}
    (h : s.setOutboundSetting outbound setting = .ok s') :
    s' = { s with
      outboundSetting := Function.update s.outboundSetting outbound (some setting) } := by
  obtain ⟨_, -, h⟩ := Except.bind_eq_ok_iff.mp h
  exact (Except.ok.inj h).symm

/-- Add a name to the set of groups. -/
def insertOutboundName (s : Store ν) (outbound : String) (hne : outbound ≠ "") : Store ν :=
  { s with
    outboundNames := s.outboundNames.insert outbound
    outboundNames_nodup := s.outboundNames_nodup.insert
    outboundNames_ne_empty := fun h =>
      (List.mem_insert_iff.mp h).elim (fun h => hne h.symm) s.outboundNames_ne_empty }

/-- Create a group with the default setting. Its caller has checked that the name is not
empty. -/
def addOutbound (s : Store ν) (outbound : String) (hne : outbound ≠ "") :
    Except Go.Error (Store ν) :=
  if outbound ∈ ["proxy", "direct", "block"] then
    .error {
      text := Go.quote outbound ++
        " is a reserved outbound name (proxy, direct, block); choose another" }
  else (s.insertOutboundName outbound hne).setOutboundSetting outbound defaultOutboundSetting

/-- Whether clearing the bucket of the group `outbound` clears the bucket of `name`. The
keys are compared with `LIKE`, which ignores the case of ASCII letters, and a bucket ends
at a colon, which a name may contain. -/
def clearsBucket (outbound name : String) : Bool :=
  ((outbound ++ ":").toList.map Char.toLower).isPrefixOf
    ((name ++ ":").toList.map Char.toLower)

/-- Delete a group with everything stored for it. -/
def removeOutbound (s : Store ν) (outbound : String) : Store ν :=
  { s with
    outboundNames := s.outboundNames.erase outbound
    outboundNames_nodup := s.outboundNames_nodup.erase outbound
    outboundNames_ne_empty := fun h => s.outboundNames_ne_empty (List.mem_of_mem_erase h)
    connectedServers := fun name =>
      if clearsBucket outbound name then none else s.connectedServers name
    outboundSetting := fun name =>
      if clearsBucket outbound name then none else s.outboundSetting name }

/-! ### What reading returns -/

section Reading

variable (s : Store ν)

variable {outbound : String}

@[simp]
lemma mem_getOutbounds :
    outbound ∈ s.getOutbounds ↔
      outbound = defaultOutboundName ∨ outbound ∈ s.outboundNames := by
  by_cases h : outbound = defaultOutboundName <;> simp [getOutbounds, h]

lemma nodup_getOutbounds : s.getOutbounds.Nodup := by
  refine nodup_cons.mpr ⟨by simp, ?_⟩
  exact (perm_insertionSort _ _).nodup_iff.mpr (s.outboundNames_nodup.filter _)

lemma ne_empty_of_mem_getOutbounds (h : outbound ∈ s.getOutbounds) :
    outbound ≠ "" := by
  rintro rfl
  rcases s.mem_getOutbounds.mp h with h | h
  · exact absurd h (by decide)
  · exact s.outboundNames_ne_empty h

/-- The connected servers are the members of the groups. -/
lemma getConnectedServers_eq : s.getConnectedServers = s.getOutbounds.flatMap s.members := by
  refine flatMap_congr fun outbound h => ?_
  simp [getConnectedServersByOutbound, members, s.ne_empty_of_mem_getOutbounds h]

variable {w : NodeRef}

lemma mem_getConnectedServers :
    w ∈ s.getConnectedServers ↔ ∃ outbound ∈ s.getOutbounds, w ∈ s.members outbound := by
  rw [getConnectedServers_eq, mem_flatMap]

/-- Every connected reference names the group that it is stored in. -/
def Tagged : Prop := ∀ outbound ∈ s.getOutbounds, ∀ w ∈ s.members outbound, w.outbound = outbound

variable {s} in
/-- Of the connected servers, those that name a group are its members. -/
lemma Tagged.filter_getConnectedServers (h : s.Tagged) (hout : outbound ∈ s.getOutbounds) :
    s.getConnectedServers.filter (·.outbound = outbound) = s.members outbound := by
  rw [getConnectedServers_eq, filter_flatMap,
    flatMap_eq_of_nodup s.nodup_getOutbounds hout]
  · exact filter_eq_self.mpr fun w hw => by simpa using h outbound hout w hw
  · intro other hother hne
    refine filter_eq_nil_iff.mpr fun w hw => ?_
    simpa [h other hother w hw] using hne

variable {sr : ServerRaw ν}

/-- A server is located by its position. -/
lemma locate_server (htype : w.type = .server) {i : ℕ} (hid : w.id = i + 1) :
    s.locate w = .ok sr ↔ s.servers[i]? = some sr := by
  have hind : w.id - 1 = i := by omega
  have hnonneg : ¬(i : ℤ) < 0 := by omega
  simp only [locate, htype, hind, hnonneg, Int.toNat_natCast]
  cases s.servers[i]? <;> simp

/-- A server of a subscription is located by the two positions. -/
lemma locate_subscriptionServer (htype : w.type = .subscriptionServer) {i j : ℕ}
    (hsub : w.sub = i) (hid : w.id = j + 1) :
    s.locate w = .ok sr ↔
      (s.subscriptions[i]?.bind fun sub => sub.servers[j]?) = some sr := by
  have hind : w.id - 1 = j := by omega
  have hnonneg : ¬((i : ℤ) < 0 ∨ (j : ℤ) < 0) := by omega
  simp only [locate, htype, hsub, hind, hnonneg, Int.toNat_natCast]
  cases s.subscriptions[i]?.bind fun sub => sub.servers[j]? <;> simp

/-- A server of a subscription is located in that subscription. -/
lemma locate_of_getSubscription (htype : w.type = .subscriptionServer) {sub : SubscriptionRaw ν}
    (hsub : s.getSubscription w.sub = some sub) {j : ℕ} (hid : w.id = j + 1) :
    s.locate w = .ok sr ↔ sub.servers[j]? = some sr := by
  unfold getSubscription at hsub
  split_ifs at hsub with hnonneg
  have hnat : w.sub = (w.sub.toNat : ℤ) := by omega
  rw [s.locate_subscriptionServer htype hnat hid, hsub, Option.bind_some]

/-- The positions of a reference that is located. -/
lemma cases_of_locate (h : s.locate w = .ok sr) :
    (∃ i : ℕ, w.type = .server ∧ w.id = i + 1 ∧ s.servers[i]? = some sr) ∨
      ∃ (i j : ℕ) (sub : SubscriptionRaw ν), w.type = .subscriptionServer ∧ w.sub = i ∧
        w.id = j + 1 ∧ s.subscriptions[i]? = some sub ∧ sub.servers[j]? = some sr := by
  obtain ⟨type, id, sub, outbound⟩ := w
  cases type with
  | server =>
    by_cases hneg : id - 1 < 0
    · simp [locate, hneg] at h
    · have hid : id = (id - 1).toNat + 1 := by omega
      exact .inl ⟨_, rfl, hid, (s.locate_server rfl hid).mp h⟩
  | subscriptionServer =>
    by_cases hneg : sub < 0 ∨ id - 1 < 0
    · simp only [locate, hneg, if_true, reduceCtorEq] at h
    · have hsub : sub = sub.toNat := by omega
      have hid : id = (id - 1).toNat + 1 := by omega
      obtain ⟨raw, hraw, hsr⟩ :=
        Option.bind_eq_some_iff.mp ((s.locate_subscriptionServer rfl hsub hid).mp h)
      exact .inr ⟨_, _, raw, rfl, hsub, hid, hraw, hsr⟩
  | subscription => cases h
  | other raw => cases h

/-- A reference resolves exactly when it can be located. -/
lemma resolves_iff_locate : s.Resolves w ↔ ∃ sr, s.locate w = .ok sr := by
  constructor
  · intro h
    cases htype : w.type with
    | server =>
      rw [Resolves, htype] at h
      have hid : w.id = (w.id - 1).toNat + 1 := by omega
      exact ⟨_, (s.locate_server htype hid).mpr (getElem?_eq_getElem (by omega))⟩
    | subscriptionServer =>
      rw [Resolves, htype] at h
      have hsub : w.sub = w.sub.toNat := by omega
      have hid : w.id = (w.id - 1).toNat + 1 := by omega
      have hget : s.subscriptions[w.sub.toNat]? = some _ := getElem?_eq_getElem (by omega)
      simp only [getLenSubscriptionServers, hget] at h
      simp only [s.locate_subscriptionServer htype hsub hid, hget]
      exact ⟨_, getElem?_eq_getElem (by omega)⟩
    | subscription | other raw => simp [Resolves, htype] at h
  · rintro ⟨sr, h⟩
    rcases s.cases_of_locate h with
      ⟨i, htype, hid, hget⟩ | ⟨i, j, sub, htype, hsub, hid, hget, hsr⟩
    · have hi := (List.getElem?_eq_some_iff.mp hget).1
      rw [Resolves, htype]
      omega
    · have hi := (List.getElem?_eq_some_iff.mp hget).1
      have hj := (List.getElem?_eq_some_iff.mp hsr).1
      rw [Resolves, htype]
      simp only [getLenSubscriptionServers, hsub, Int.toNat_natCast, hget]
      omega

/-- The map of `GetNonDuplicated`: every touch stands under its own reference, and the keys
are the references in range. -/
private lemma foldl_insert_spec (ws : List Which) (ts : AList fun _ : NodeRef => Which) :
    let ts' := ws.foldl
      (fun ts v => if s.inRange v.toNodeRef then ts.insert v.toNodeRef v else ts) ts
    (∀ e ∈ ts'.entries, e ∈ ts.entries ∨ e.2 ∈ ws ∧ e.2.toNodeRef = e.1) ∧
      ∀ r, r ∈ ts' ↔ r ∈ ts ∨ ∃ w ∈ ws, s.inRange w.toNodeRef ∧ w.toNodeRef = r := by
  induction ws generalizing ts with
  | nil => simp
  | cons w ws ih =>
    by_cases hw : s.inRange w.toNodeRef
    · obtain ⟨hentries, hkeys⟩ := ih (ts.insert w.toNodeRef w)
      simp only [foldl_cons, hw, if_true]
      refine ⟨fun e he => ?_, fun r => ?_⟩
      · rcases hentries e he with he | ⟨he, hself⟩
        · rcases mem_cons.mp he with rfl | he
          · exact .inr ⟨mem_cons_self, rfl⟩
          · exact .inl ((kerase_sublist _ _).subset he)
        · exact .inr ⟨mem_cons_of_mem _ he, hself⟩
      · simp only [hkeys r, AList.mem_insert, mem_cons, exists_eq_or_imp]
        tauto
    · obtain ⟨hentries, hkeys⟩ := ih ts
      simp only [foldl_cons, hw]
      refine ⟨fun e he => (hentries e he).imp_right (And.imp_left (mem_cons_of_mem _)), ?_⟩
      simpa [hw] using hkeys

/-- The entries of the map. -/
private lemma mem_of_mem_entries {ws : List Which} {e : Sigma fun _ : NodeRef => Which}
    (he : e ∈ (ws.foldl (fun (ts : AList fun _ : NodeRef => Which) v =>
      if s.inRange v.toNodeRef then ts.insert v.toNodeRef v else ts) ∅).entries) :
    e.2 ∈ ws ∧ e.2.toNodeRef = e.1 :=
  ((s.foldl_insert_spec ws ∅).1 e he).resolve_left (by simp)

/-- No reference occurs twice among the touches that `GetNonDuplicated` keeps. -/
lemma nodup_getNonDuplicated (rt : Go.Runtime) (ws : List Which) :
    ((s.getNonDuplicated rt ws).map Which.toNodeRef).Nodup := by
  refine ((rt.mapOrder_perm 0 _).map Which.toNodeRef).nodup_iff.mpr ?_
  rw [map_map]
  refine (congrArg Nodup (map_congr_left fun e he => ?_)).mpr (AList.keys_nodup _)
  exact (s.mem_of_mem_entries he).2

/-- `GetNonDuplicated` keeps the references in range. -/
lemma exists_mem_getNonDuplicated_iff (rt : Go.Runtime) (ws : List Which) (r : NodeRef) :
    (∃ w ∈ s.getNonDuplicated rt ws, w.toNodeRef = r) ↔
      ∃ w ∈ ws, s.inRange w.toNodeRef ∧ w.toNodeRef = r := by
  have hr := (s.foldl_insert_spec ws ∅).2 r
  simp only [AList.notMem_empty, false_or] at hr
  rw [← hr, AList.mem_keys, AList.keys, keys]
  simp only [getNonDuplicated, Go.Runtime.mem_mapOrder, mem_map]
  constructor
  · rintro ⟨w, ⟨e, he, rfl⟩, rfl⟩
    exact ⟨e, he, (s.mem_of_mem_entries he).2.symm⟩
  · rintro ⟨e, he, rfl⟩
    exact ⟨e.2, ⟨e, he, rfl⟩, (s.mem_of_mem_entries he).2⟩

lemma mem_of_mem_getNonDuplicated {rt : Go.Runtime} {ws : List Which} {w : Which}
    (h : w ∈ s.getNonDuplicated rt ws) : w ∈ ws := by
  rw [getNonDuplicated, Go.Runtime.mem_mapOrder, mem_map] at h
  obtain ⟨e, he, rfl⟩ := h
  exact (s.mem_of_mem_entries he).1

/-- A catalog that has grown: no list has become shorter. -/
structure CatalogLE (s s' : Store ν) : Prop where
  servers : s.servers.length ≤ s'.servers.length
  subscriptions : ∀ (i : ℕ) (sub : SubscriptionRaw ν), s.subscriptions[i]? = some sub →
    ∃ sub', s'.subscriptions[i]? = some sub' ∧ sub.servers.length ≤ sub'.servers.length

variable {s} in
lemma CatalogLE.of_eq {s' : Store ν} (hservers : s'.servers = s.servers)
    (hsubs : s'.subscriptions = s.subscriptions) : s.CatalogLE s' :=
  ⟨by rw [hservers], fun i sub h => ⟨sub, by rw [hsubs, h], le_rfl⟩⟩

variable {s} in
/-- A reference still resolves when the catalog has grown. -/
lemma Resolves.mono (h : s.Resolves w) {s' : Store ν} (hle : s.CatalogLE s') :
    s'.Resolves w := by
  cases htype : w.type with
  | server =>
    simp only [Resolves, htype] at h ⊢
    have := hle.servers
    omega
  | subscriptionServer =>
    simp only [Resolves, htype, getLenSubscriptionServers] at h ⊢
    obtain ⟨sub, hsub⟩ : ∃ sub, s.subscriptions[w.sub.toNat]? = some sub :=
      ⟨_, List.getElem?_eq_getElem (by omega)⟩
    obtain ⟨sub', hsub', hlength⟩ := hle.subscriptions _ _ hsub
    have hlt := (List.getElem?_eq_some_iff.mp hsub').1
    rw [hsub] at h
    rw [hsub']
    dsimp only at h ⊢
    omega
  | subscription => simp [Resolves, htype] at h
  | other raw => simp [Resolves, htype] at h

/-- Only the range check looks at the store. -/
lemma getNonDuplicated_congr {s s' : Store ν} (rt : Go.Runtime) {ws : List Which}
    (h : ∀ w ∈ ws, s.inRange w.toNodeRef = s'.inRange w.toNodeRef) :
    s.getNonDuplicated rt ws = s'.getNonDuplicated rt ws := by
  unfold getNonDuplicated
  rw [foldl_ext _ _ _ fun ts w hw => by rw [h w hw]]

end Reading

/-! ### What writing leaves -/

section Writing

variable (s : Store ν)

lemma getD_byOutbound (ws : List NodeRef) (outbound : String) :
    (byOutbound ws outbound).getD [] = ws.filter (·.outbound = outbound) := by
  unfold byOutbound
  split_ifs with h
  · rfl
  · push Not at h
    simpa using h

@[simp]
lemma members_setConnects (outbound : String) (ws : List NodeRef) (out : String) :
    (s.setConnects outbound ws).members out = if out = outbound then ws else s.members out := by
  by_cases h : out = outbound <;> simp [members, setConnects, h]

/-- Overwriting leaves, in each group that a new reference names, the references that name
it. -/
lemma members_overwriteConnects (ws : List NodeRef) (outbound : String) :
    (s.overwriteConnects ws).members outbound =
      if ∃ w ∈ ws, w.outbound = outbound then ws.filter (·.outbound = outbound)
      else s.members outbound := by
  unfold members overwriteConnects byOutbound
  dsimp only
  split_ifs <;> rfl

variable {outbound : String} {ws : List NodeRef}

/-- Overwriting with references to one group replaces its members. -/
lemma members_overwriteConnects_of_forall (hws : ws ≠ []) (h : ∀ w ∈ ws, w.outbound = outbound)
    (out : String) :
    (s.overwriteConnects ws).members out = if out = outbound then ws else s.members out := by
  rw [members_overwriteConnects]
  by_cases hout : out = outbound
  · subst hout
    obtain ⟨w, hw⟩ := exists_mem_of_ne_nil ws hws
    rw [if_pos ⟨w, hw, h w hw⟩, if_pos rfl]
    exact filter_eq_self.mpr fun w hw => by simpa using h w hw
  · rw [if_neg, if_neg hout]
    rintro ⟨w, hw, hwout⟩
    exact hout (hwout.symm.trans (h w hw))

/-- A deletion leaves in each group the references that name it. -/
lemma members_removeNodes (subscriptions servers : List ℤ) (connected : List NodeRef)
    (h : outbound ∈ s.getOutbounds) :
    (s.removeNodes subscriptions servers connected).members outbound =
      connected.filter (·.outbound = outbound) := by
  simp only [members, removeNodes, h, if_true, Option.getD_some, getD_byOutbound]

/-- Under a name that is not a group, a deletion writes only what names it. -/
lemma members_removeNodes_of_not_mem (subscriptions servers : List ℤ) (connected : List NodeRef)
    (h : outbound ∉ s.getOutbounds) :
    (s.removeNodes subscriptions servers connected).members outbound =
      if ∃ w ∈ connected, w.outbound = outbound then connected.filter (·.outbound = outbound)
      else s.members outbound := by
  simp only [members, removeNodes, byOutbound]
  split_ifs <;> rfl

lemma byOutbound_eq_none (h : ¬∃ w ∈ ws, w.outbound = outbound) :
    byOutbound ws outbound = none := by
  rw [byOutbound, if_neg h]

/-- The update of a subscription that exists is written. -/
lemma exists_setSubscriptionAndConnects {s : Store ν} {index : ℤ} {old : SubscriptionRaw ν}
    (hold : s.getSubscription index = some old) (sub : SubscriptionRaw ν) (ws : List NodeRef) :
    ∃ s', s.setSubscriptionAndConnects index sub ws = .ok s' := by
  unfold setSubscriptionAndConnects setSubscription
  rw [hold]
  exact ⟨_, rfl⟩

/-- The update of a subscription replaces it and leaves, in each group that a stored or a new
reference names, the new references that name it. -/
lemma setSubscriptionAndConnects_ok {s s' : Store ν} {index : ℤ} {sub : SubscriptionRaw ν}
    (h : s.setSubscriptionAndConnects index sub ws = .ok s') :
    ∃ old, s.getSubscription index = some old ∧ s'.servers = s.servers ∧
      s'.subscriptions = s.subscriptions.set index.toNat (subscriptionRow old.databaseID sub) ∧
      s'.outboundNames = s.outboundNames ∧ s'.outboundSetting = s.outboundSetting ∧
      ∀ outbound, s'.members outbound =
        if ∃ w ∈ s.getConnectedServers ++ ws, w.outbound = outbound
          then ws.filter (·.outbound = outbound) else s.members outbound := by
  unfold setSubscriptionAndConnects setSubscription at h
  cases hold : s.getSubscription index with
  | none => simp [hold] at h
  | some old =>
    simp only [hold, bind, Except.bind, pure, Except.pure, Except.ok.injEq] at h
    subst h
    refine ⟨old, rfl, rfl, rfl, rfl, rfl, fun outbound => ?_⟩
    unfold members
    simp only [mem_append, or_and_right, exists_or]
    by_cases hconn : ∃ w ∈ s.getConnectedServers, w.outbound = outbound
    · rw [if_pos hconn, if_pos (.inl hconn), Option.getD_some, getD_byOutbound]
    · rw [if_neg hconn]
      by_cases hws : ∃ w ∈ ws, w.outbound = outbound
      · rw [if_pos (.inr hws), byOutbound, if_pos hws]
        rfl
      · rw [if_neg (not_or.mpr ⟨hconn, hws⟩), byOutbound_eq_none hws]
        rfl

lemma normalizeOutbound_ne_empty (w : NodeRef) : (normalizeOutbound w).outbound ≠ "" := by
  unfold normalizeOutbound
  split_ifs with h
  · exact (by decide : defaultOutboundName ≠ "")
  · exact h

lemma normalizeOutbound_of_ne {w : NodeRef} (h : w.outbound ≠ "") :
    normalizeOutbound w = w := by
  rw [normalizeOutbound, if_neg h]

variable {s} in
lemma getConnectedServersByOutbound_of_ne (hne : outbound ≠ "") :
    s.getConnectedServersByOutbound outbound = s.connectedServers outbound := by
  rw [getConnectedServersByOutbound, if_neg hne]

variable {s} in
lemma members_clearConnects (hne : outbound ≠ "") (out : String) :
    (s.clearConnects outbound).members out = if out = outbound then [] else s.members out := by
  rw [clearConnects, if_neg hne, members_setConnects]

end Writing

end Store

end V2rayA
