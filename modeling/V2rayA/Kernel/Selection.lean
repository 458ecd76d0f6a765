import V2rayA.Configure.Store

/-!
# The connected nodes of a core configuration

The nodes a core configuration is made of: every connected reference is located, and of a
group that is pinned to one member, or that stays with its current one, only that member is
kept.
-/

namespace V2rayA

/-- What the program asks of a node of any protocol. -/
class ServerObj (ν : Type) where
  getProtocol : ν → String
  getHostname : ν → String
  getPort : ν → ℤ
  getName : ν → String
  /-- The share link. -/
  exportToURL : ν → String

export ServerObj (getProtocol getHostname getPort getName exportToURL)

/-- A node in its group. -/
structure ServerInfo (ν : Type) where
  info : ν
  outboundName : String
  /-- The local port of the plugin that the node needs; zero for none. -/
  pluginPort : ℤ := 0
  deriving DecidableEq, Repr

section Selection

variable {ν : Type} [ServerObj ν] (nodeFingerprint : String → String)
  (settingOf : String → OutboundSetting)

/-- The group of a node is pinned to the node. -/
def manualMatch (info : ServerInfo ν) : Bool :=
  let setting := settingOf info.outboundName
  setting.selected ≠ "" ∧ exportToURL info.info = setting.selected

/-- The group of a node stays with the node. -/
def stickyMatch (info : ServerInfo ν) : Bool :=
  let setting := settingOf info.outboundName
  setting.type = .keepCurrent ∧ setting.stickyCurrent ≠ "" ∧
    nodeFingerprint (exportToURL info.info) = setting.stickyCurrent

/-- The second loop of `applySelection`: `kept` and the groups in `keptChoice` for which the
one member has been found. -/
def keepStep (serverInfos : List (ServerInfo ν)) (acc : List (ServerInfo ν) × List String)
    (info : ServerInfo ν) : List (ServerInfo ν) × List String :=
  let outbound := info.outboundName
  let setting := settingOf outbound
  let link := exportToURL info.info
  let manualMatched := serverInfos.any fun i =>
    i.outboundName = outbound ∧ manualMatch settingOf i
  let stickyMatched := serverInfos.any fun i =>
    i.outboundName = outbound ∧ stickyMatch nodeFingerprint settingOf i
  if manualMatched then
    if link = setting.selected ∧ outbound ∉ acc.2 then (acc.1 ++ [info], outbound :: acc.2)
    else acc
  else if setting.type = .keepCurrent then
    if stickyMatched ∧ nodeFingerprint link = setting.stickyCurrent ∧ outbound ∉ acc.2 then
      (acc.1 ++ [info], outbound :: acc.2)
    else acc
  else (acc.1 ++ [info], acc.2)

/-- Apply the manual pin of each group, or else keep the member that a `keepCurrent` group
stays with. -/
def applySelection (serverInfos : List (ServerInfo ν)) : List (ServerInfo ν) :=
  (serverInfos.foldl (keepStep nodeFingerprint settingOf serverInfos) ([], [])).1

end Selection

/-- The node that a reference names, for the group that it names. -/
def serverInfo {ν : Type} (s : Store ν) (cs : NodeRef) : Except Go.Error (ServerInfo ν) :=
  match s.locate cs with
  | .error e => .error e
  | .ok sr => .ok { info := sr.serverObj, outboundName := cs.outbound }

/-- The nodes of the connected servers after the selection. -/
def getConnectedServerObjs {ν : Type} [ServerObj ν] (nodeFingerprint : String → String)
    (s : Store ν) : Except Go.Error (List (ServerInfo ν)) :=
  match s.getConnectedServers.mapM (serverInfo s) with
  | .error e => .error e
  | .ok serverInfos => .ok (applySelection nodeFingerprint s.getOutboundSetting serverInfos)

end V2rayA
