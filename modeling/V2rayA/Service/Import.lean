import V2rayA.Service.Subscription

/-!
# Importing servers and subscriptions

`ImportServer`, `ImportSubscription` and `UpdateSubscription` once the links have been parsed
and the subscription has been fetched; the outcome of both is an argument here, with the error
that the operation returns for it.
-/

namespace V2rayA

open ServerObj (exportToURL getName)

variable {ν : Type}

/-- What the text of an import stands for. -/
inductive Links (ν : Type)
  /-- Several lines or a JSON document, resolved by `ResolveByLines`. -/
  | lines (infos : Except Go.Error (List ν))
  /-- One link, resolved by `ResolveURL`. -/
  | single (obj : Except Go.Error ν)

/-- What fetching a subscription returns: the nodes and the state of the account. -/
abbrev Fetched (ν : Type) : Type := Except Go.Error (List ν × String)

/-- Replace the node `which` of the catalog. A node of a subscription lives inside its
subscription. -/
def modifyServer (which : NodeRef) (obj : ν) (s : Store ν) : Except Go.Error (Store ν) :=
  let ind := which.id - 1
  match which.type with
  | .server =>
    if ind < 0 ∨ ind ≥ s.getLenServers then .error (Store.serverNotFound which.id s.getLenServers)
    else s.setServer ind { serverObj := obj }
  | .subscriptionServer =>
    match if ind < 0 then none else s.getSubscription which.sub with
    | none => .error (Store.subscriptionServerNotFound which.id which.sub)
    | some sub =>
      if ind ≥ sub.servers.length then
        .error (Store.subscriptionServerNotFound which.id which.sub)
      else
        s.setSubscription which.sub
          { sub with servers := sub.servers.set ind.toNat { serverObj := obj } }
  | type =>
    .error {
      text := "cannot edit an item of type " ++ Go.quote type.text ++
        "; only server and subscriptionServer can be edited" }

variable [ServerObj ν]

/-- Reload the core once for each connected reference that is given, until that fails. -/
def reloadFor : List NodeRef → Go.Op (World ν)
  | [], w => (none, w)
  | _ :: refs, w =>
    match World.updateV2RayConfig w with
    | (none, w) => reloadFor refs w
    | (some e, w) => (some e, w)

lemma store_reloadFor (refs : List NodeRef) (w : World ν) :
    (reloadFor refs w).2.store = w.store := by
  induction refs generalizing w with
  | nil => rfl
  | cons r refs ih =>
    unfold reloadFor
    rcases hupd : World.updateV2RayConfig w with ⟨_ | e, w₁⟩
    · exact (ih w₁).trans (World.store_of_updateConfig hupd)
    · exact World.store_of_updateConfig hupd

/-- `ImportServer`: append servers to the catalog, or replace the node `which`. -/
def importServer (links : Links ν) (which : Option NodeRef) : Go.Op (World ν) := fun w =>
  match links with
  | .lines (.error e) => (some (e.wrap "failed to resolve addresses"), w)
  | .lines (.ok infos) =>
    (none, { w with store := infos.foldl (fun s info => s.appendServer ⟨info, ""⟩) w.store })
  | .single (.error e) => (some e, w)
  | .single (.ok obj) =>
    match which.filter fun which => which.id > 0 with
    | none => (none, { w with store := w.store.appendServer ⟨obj, ""⟩ })
    | some which =>
      match modifyServer which obj w.store with
      | .error e => (some e, w)
      | .ok store =>
        let w := { w with store }
        -- The subscription is not compared: a node with the ordinal in any of them counts.
        reloadFor (w.store.getConnectedServers.filter fun cs =>
          which.type = cs.type ∧ which.id = cs.id) w

/-- The nodes of a fetched subscription, each share link once. -/
def uniqueServers (infos : List ν) : List (ServerRaw ν) :=
  infos.foldl (fun servers info =>
    if servers.any fun sr => exportToURL sr.serverObj = exportToURL info then servers
    else servers ++ [⟨info, ""⟩]) []

/-- `ImportSubscription`: store a fetched subscription as a new one. -/
def importSubscription (address status : String) (fetched : Fetched ν) : Go.Op (World ν) :=
  fun w =>
  match fetched with
  | .error e => (some e, w)
  | .ok (infos, info) =>
    let sub : SubscriptionRaw ν := { address, status, servers := uniqueServers infos, info }
    (none, { w with store := w.store.appendSubscription sub })

/-- `UpdateSubscription`: fetch a subscription again and store what has been fetched. -/
def updateSubscription (index : ℤ) (status : String) (fetched : Fetched ν) (disconnect : Bool) :
    Go.Op (World ν) := fun w =>
  match w.store.getSubscription index with
  | none =>
    (some
      { text := s!"subscription #{index + 1} no longer exists; reload the page"
        code := "SUBSCRIPTION_NOT_FOUND"
        params := [("id", .int (index + 1))] }, w)
  | some old =>
    match fetched with
    | .error e => (some e, w)
    | .ok (nodes, info) => storeSubscriptionUpdate index old nodes status info disconnect w

end V2rayA
