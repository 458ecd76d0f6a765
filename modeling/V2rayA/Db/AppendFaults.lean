import V2rayA.Db.ListOp

/-!
# Appends in which a statement fails

`ServersAppend` and `SubscriptionsAppend` run one statement for each row that they insert, outside of
a transaction, and `ImportServer` calls the former once for each link. A call stops at the first
statement that fails, and the rows before it stay.

* `AppendCall.run_of_forall_none`: without failures this is what the calls of `V2rayA.Db.ListOp` do.
* `append_atomic_iff`: a failed call leaves the lists alone if and only if no statement succeeds
  before the failure.
-/

namespace V2rayA

open Sql ServerColumns List Db

variable {ρ σ : Type}

/-- A statement of an append. -/
inductive InsertStatement (ρ : Type)
  | server (config : ρ)
  | subscription (fields : SubscriptionFields)
  | node (config : ρ) (sort : ℕ)
  deriving Repr

/-- The database in the middle of an append, with the key of the subscription that was inserted
last. -/
structure Appending (ρ σ : Type) where
  db : Db ρ σ
  subID : ℤ := 0

/-- What a statement does if it succeeds. -/
def InsertStatement.exec (ids : RowIDs) (a : Appending ρ σ) : InsertStatement ρ → Appending ρ σ
  | .server config => { a with db := a.db.appendServer ids config }
  | .subscription fields =>
    { db := { a.db with
        subscriptions :=
          a.db.subscriptions.insert ids (nextSort a.db.subscriptionRows) fields.stored }
      subID := a.db.subscriptions.newID ids }
  | .node config sort =>
    { a with db := { a.db with
        servers := a.db.servers.insert ids sort (.subscriptionServer a.subID config) } }

/-- An append. -/
inductive AppendCall (ρ : Type)
  | servers (val : Encoded ρ)
  | subscriptions (val : Encoded (SubscriptionJSON ρ))
  /-- `ImportServer` with several links: each node with its name. -/
  | importServer (infos : List (ρ × String))

/-- The statements for a subscription. -/
def SubscriptionJSON.inserts (sub : SubscriptionJSON ρ) : List (InsertStatement ρ) :=
  .subscription sub.fields :: sub.servers.zipIdx.map fun e => .node e.1 e.2

/-- The statements of a call. -/
def AppendCall.statements : AppendCall ρ → List (InsertStatement ρ)
  | .servers val => val.servers.map .server
  | .subscriptions val => val.subscriptions.flatMap SubscriptionJSON.inserts
  | .importServer infos => infos.map fun info => .server info.1

/-- The error that a call returns for that of its statement `n`. -/
def AppendCall.error (call : AppendCall ρ) (n : ℕ) (e : Go.Error) : Go.Error :=
  match call with
  | .servers _ => e
  | .subscriptions _ =>
    match call.statements[n]? with
    | some (.node _ _) => e.wrap "ListAppend: failed to insert subscription server"
    | _ => e
  | .importServer infos =>
    let name := (infos[n]?.map Prod.snd).getD ""
    let position := n + 1
    let count := infos.length
    e.wrap s!"failed to import server {position}/{count} ({name})"

/-- Run statements until one fails. `faults n` is the error of statement `n`. -/
def runStatements (ids : RowIDs) (faults : ℕ → Option Go.Error) :
    ℕ → List (InsertStatement ρ) → Appending ρ σ → Option (ℕ × Go.Error) × Appending ρ σ
  | _, [], a => (none, a)
  | n, st :: rest, a =>
    match faults n with
    | some e => (some (n, e), a)
    | none => runStatements ids faults (n + 1) rest (st.exec ids a)

/-- `ServersAppend`, `SubscriptionsAppend` and `ImportServer`. -/
def AppendCall.run (ids : RowIDs) (faults : ℕ → Option Go.Error) (call : AppendCall ρ) :
    Go.Op (Db ρ σ) := fun db =>
  let (failed, a) := runStatements ids faults 0 call.statements { db }
  (failed.map fun f => call.error f.1 f.2, a.db)

/-! ### Without failures -/

section NoFaults

variable {ids : RowIDs} {faults : ℕ → Option Go.Error} {a : Appending ρ σ}

lemma runStatements_of_forall_none {sts : List (InsertStatement ρ)} {n : ℕ}
    (h : ∀ m, n ≤ m → m < n + sts.length → faults m = none) :
    runStatements ids faults n sts a = (none, sts.foldl (InsertStatement.exec ids) a) := by
  induction sts generalizing n a with
  | nil => rfl
  | cons st rest ih =>
    rw [runStatements, h n le_rfl (by simp)]
    exact ih fun m hn hm => h m (by omega) (by rw [length_cons]; omega)

lemma db_foldl_server (configs : List ρ) :
    ((configs.map InsertStatement.server).foldl (InsertStatement.exec ids) a).db =
      configs.foldl (appendServer ids) a.db := by
  induction configs generalizing a with
  | nil => rfl
  | cons config configs ih => exact ih

lemma db_foldl_node (nodes : List (ρ × ℕ)) :
    ((nodes.map fun e => InsertStatement.node e.1 e.2).foldl (InsertStatement.exec ids) a).db =
      { a.db with
        servers := nodes.foldl
          (fun t e => t.insert ids e.2 (.subscriptionServer a.subID e.1)) a.db.servers } := by
  induction nodes generalizing a with
  | nil => rfl
  | cons e nodes ih => exact ih

lemma db_foldl_inserts (subs : List (SubscriptionJSON ρ)) :
    ((subs.flatMap SubscriptionJSON.inserts).foldl (InsertStatement.exec ids) a).db =
      subs.foldl (appendSubscription ids) a.db := by
  induction subs generalizing a with
  | nil => rfl
  | cons sub subs ih =>
    rw [flatMap_cons, foldl_append, ih, foldl_cons]
    refine congrArg (foldl (appendSubscription ids) · subs) ?_
    exact db_foldl_node sub.servers.zipIdx

end NoFaults

/-! ### Failures -/

section Faults

variable {ids : RowIDs} {faults : ℕ → Option Go.Error} {a : Appending ρ σ}

/-- The number of servers and subscriptions that are read. -/
def Db.elements (db : Db ρ σ) : ℕ := db.serversGetAll.length + db.subscriptionsGetAll.length

lemma Db.elements_eq (db : Db ρ σ) :
    db.elements = db.serverRows.length + db.subscriptionRows.length := by
  simp [elements, serversGetAll, subscriptionsGetAll, orderBySort]

/-- A statement that begins a call inserts a row that is read, and no statement hides one. -/
lemma elements_exec (st : InsertStatement ρ) :
    (st.exec ids a).db.elements =
      a.db.elements + match st with | .node _ _ => 0 | _ => 1 := by
  rw [elements_eq, elements_eq]
  cases st <;>
    simp [InsertStatement.exec, appendServer, serverRows, subscriptionRows,
      Table.list_insert, isServer] <;> omega

variable {sts : List (InsertStatement ρ)}

lemma elements_le_runStatements {n : ℕ} :
    a.db.elements ≤ (runStatements ids faults n sts a).2.db.elements := by
  induction sts generalizing n a with
  | nil => exact le_rfl
  | cons st rest ih =>
    rw [runStatements]
    split
    · exact le_rfl
    · refine le_trans ?_ ih
      rw [elements_exec]
      exact Nat.le_add_right _ _

lemma isSome_runStatements_iff {n : ℕ} :
    (runStatements ids faults n sts a).1.isSome ↔
      ∃ m, n ≤ m ∧ m < n + sts.length ∧ faults m ≠ none := by
  induction sts generalizing n a with
  | nil =>
    simp only [runStatements, Option.isSome_none, Bool.false_eq_true, false_iff]
    rintro ⟨m, hn, hm, -⟩
    rw [length_nil] at hm
    omega
  | cons st rest ih =>
    rw [runStatements, length_cons]
    cases hfault : faults n with
    | some e =>
      exact iff_of_true rfl ⟨n, le_rfl, by omega, by simp [hfault]⟩
    | none =>
      refine ih.trans ⟨fun ⟨m, hn, hm, hne⟩ => ⟨m, by omega, by omega, hne⟩, ?_⟩
      rintro ⟨m, hn, hm, hne⟩
      have hnm : n ≠ m := fun heq => hne (heq ▸ hfault)
      exact ⟨m, by omega, by omega, hne⟩

/-- The first statement of a call is not that of a node. -/
lemma AppendCall.statements_cases (call : AppendCall ρ) :
    call.statements = [] ∨ ∃ st rest, call.statements = st :: rest ∧
      ∀ config sort, st ≠ .node config sort := by
  cases call with
  | servers val =>
    cases hval : val.servers with
    | nil => exact .inl (by simp [statements, hval])
    | cons config configs =>
      exact .inr ⟨_, _, by rw [statements, hval, map_cons], fun _ _ h => by cases h⟩
  | subscriptions val =>
    cases hval : val.subscriptions with
    | nil => exact .inl (by simp [statements, hval])
    | cons sub subs =>
      exact .inr ⟨_, _, by rw [statements, hval]; rfl, fun _ _ h => by cases h⟩
  | importServer infos =>
    cases infos with
    | nil => exact .inl rfl
    | cons info infos => exact .inr ⟨_, _, rfl, fun _ _ h => by cases h⟩

/-- The lists are as before. -/
def SameRows (db db' : Db ρ σ) : Prop :=
  db'.serversGetAll = db.serversGetAll ∧ db'.subscriptionsGetAll = db.subscriptionsGetAll

/-- A call that returns an error has changed nothing if and only if its first statement fails or no
statement does. -/
theorem append_atomic_iff (ids : RowIDs) (faults : ℕ → Option Go.Error) (call : AppendCall ρ)
    (db : Db ρ σ) :
    ((call.run ids faults db).1.isSome → SameRows db (call.run ids faults db).2) ↔
      (faults 0 = none → ∀ n < call.statements.length, faults n = none) := by
  have herror : (call.run ids faults db).1.isSome ↔
      ∃ m < call.statements.length, faults m ≠ none := by
    rw [AppendCall.run, Option.isSome_map, isSome_runStatements_iff]
    simp
  rcases call.statements_cases with hnil | ⟨st, rest, hcons, hst⟩
  · simp [herror, hnil]
  cases hfault : faults 0 with
  | some e =>
    refine iff_of_true (fun _ => ?_) nofun
    rw [AppendCall.run, hcons, runStatements, hfault]
    exact ⟨rfl, rfl⟩
  | none =>
    -- the first row stays, whatever happens to the others
    have hchanged : ¬SameRows db (call.run ids faults db).2 := by
      rintro ⟨hservers, hsubs⟩
      have hlt : db.elements < (call.run ids faults db).2.elements := by
        rw [AppendCall.run, hcons, runStatements, hfault]
        refine lt_of_lt_of_le ?_ elements_le_runStatements
        rw [elements_exec]
        cases st with
        | node config sort => exact absurd rfl (hst config sort)
        | _ => exact Nat.lt_succ_self _
      rw [elements, elements, hservers, hsubs] at hlt
      exact lt_irrefl _ hlt
    constructor
    · intro h _ n hn
      by_contra hne
      exact hchanged (h (herror.mpr ⟨n, hn, hne⟩))
    · intro h hsome
      obtain ⟨m, hm, hne⟩ := herror.mp hsome
      exact absurd (h rfl m hm) hne

/-- Two servers, the second of which cannot be inserted: the first one stays. -/
theorem not_append_atomic :
    let faults (n : ℕ) : Option Go.Error := if n = 1 then some { text := "disk full" } else none
    let result := (AppendCall.servers (.array [1, 2])).run sequentialIDs faults
      ({ other := () } : Db ℕ Unit)
    result.1 = some { text := "disk full" } ∧ result.2.serversGetAll = [1] :=
  ⟨rfl, rfl⟩

end Faults

end V2rayA
