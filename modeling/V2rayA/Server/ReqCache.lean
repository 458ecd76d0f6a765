import V2rayA.ToMathlib.Lru
import V2rayA.ToMathlib.Transition

/-!
# Replayed requests

A client may name a request by an id. `Response` keeps the answers of the last ten ids, and the
middleware `ReqCache` answers a request with a known id from there; a request with an id that is not
known waits until no other handler runs for it. The authentication middleware comes before `ReqCache`
and answers with `Response` too.

Each access to the cache and each critical section is one step.

* `Locked.moves`: the table of locks, their counters and their holders belong together.
* `Replaying.moves`: an answer of a handler stays cached while fewer than ten other ids are answered.
* `deduplicated_of_reachable`: both together, if no refused request has the id of one that is let
  through.
* `staysWithRequester_of_reachable`: who receives an answer.
-/

namespace V2rayA.ReqCache

open List Function Option

/-! ### Responses -/

/-- `Code`. -/
inductive Code
  | success
  | fail
  | unauthorized
  deriving DecidableEq, Repr

/-- The data of a response, as `Response` tells it apart. -/
inductive RespData (δ : Type)
  | text (message : String)
  | coded (message errorCode : String) (params : Option δ)
  | other (data : δ)
  deriving DecidableEq, Repr

/-- The body of a response. -/
structure RespBody (δ : Type) where
  code : Code
  message : Option String := none
  data : Option (RespData δ) := none
  errorCode : Option String := none
  params : Option δ := none
  deriving DecidableEq, Repr

/-- `Resp`. -/
structure Resp (δ : Type) where
  status : ℕ
  body : RespBody δ
  deriving DecidableEq, Repr

variable {δ : Type}

/-- What `Response` makes of its arguments. -/
def respOf (code : Code) (data : RespData δ) : Resp δ :=
  let status := if code = .unauthorized then 401 else 200
  match code, data with
  | .success, data => ⟨status, { code := .success, data }⟩
  | _, .text message => ⟨status, { code := .fail, message }⟩
  | _, .coded message errorCode params => ⟨status, { code := .fail, message, errorCode, params }⟩
  | _, .other data => ⟨status, { code := .fail, data := some (.other data) }⟩

/-! ### Requests -/

/-- The routes in front of which there is no authentication. -/
def noAuthRoutes : List (String × String) :=
  [("GET", "version"), ("POST", "login"), ("GET", "account"), ("POST", "account")]

/-- A request. `refused` is the answer of the authentication middleware if it does not let the
request through. -/
structure Request (δ : Type) where
  /-- The request id, empty if there is none. -/
  id : String
  method : String
  path : String
  refused : Option (Resp δ) := none

/-- Where the handling of a request stands. -/
inductive Phase (δ : Type)
  /-- The authentication middleware is about to call `Response`. -/
  | rejecting (resp : Resp δ)
  /-- It found nothing in the cache and is about to add its answer. -/
  | refusing (resp : Resp δ)
  /-- `ReqCache` is about to lock `reqMu`. -/
  | entering
  /-- The request is registered and waits for the lock. -/
  | waiting (mu : ℕ)
  /-- It has the lock and is about to look into the cache again. -/
  | checking (mu : ℕ)
  /-- The handler runs. -/
  | running (mu : Option ℕ)
  /-- The handler found nothing in the cache and is about to add its answer. -/
  | storing (mu : Option ℕ) (resp : Resp δ)
  /-- The request is about to unlock. -/
  | leaving (mu : ℕ)
  /-- It is about to deregister. -/
  | deregistering (mu : ℕ)
  | done

/-- The lock for which a request is registered. -/
def Phase.lock : Phase δ → Option ℕ
  | .waiting mu | .checking mu | .leaving mu | .deregistering mu => some mu
  | .running mu | .storing mu _ => mu
  | _ => none

/-- The lock that a request holds. -/
def Phase.held : Phase δ → Option ℕ
  | .checking mu | .leaving mu => some mu
  | .running mu | .storing mu _ => mu
  | _ => none

/-- A handler runs for the request. -/
def Phase.Handling : Phase δ → Prop
  | .running _ | .storing _ _ => True
  | _ => False

/-- A request and where it stands. -/
structure Conn (δ : Type) where
  request : Request δ
  phase : Phase δ

/-- A cached answer, and the request for which it was made. -/
structure Answer (δ : Type) where
  resp : Resp δ
  producer : ℕ

/-- Where an answer comes from. -/
inductive Origin
  | handler
  | middleware
  | cache
  deriving DecidableEq, Repr

/-- A request received an answer. -/
structure Event (δ : Type) where
  request : ℕ
  id : String
  answer : Answer δ
  origin : Origin

/-- The server: its requests in the order in which they arrived, `RespCache` and `reqGlen`, and the
answers, the last one first. A lock is known by its number; `users` and `holder` are what a lock
holds. -/
structure Server (δ : Type) where
  conns : List (Conn δ) := []
  respCache : Go.Map String (Answer δ) := []
  reqIdMu : String → Option ℕ := fun _ => none
  users : ℕ → ℕ := fun _ => 0
  holder : ℕ → Option ℕ := fun _ => none
  /-- The number of locks that were made. -/
  made : ℕ := 0
  log : List (Event δ) := []

namespace Server

variable (s : Server δ) (i : ℕ) (c : Conn δ)

/-- A request goes on to another phase. -/
def moved (p : Phase δ) : Server δ := { s with conns := s.conns.set i { c with phase := p } }

/-- A request is answered from the cache. -/
def replay (a : Answer δ) (p : Phase δ) : Server δ :=
  { s.moved i c p with
    respCache := s.respCache.put c.request.id a
    log := ⟨i, c.request.id, a, .cache⟩ :: s.log }

/-- `Response`, up to the deferred `Add`. -/
def response (origin : Origin) (resp : Resp δ) (missed after : Phase δ) : Server δ :=
  if c.request.id = "" then
    { s.moved i c after with log := ⟨i, "", ⟨resp, i⟩, origin⟩ :: s.log }
  else
    match s.respCache.get? c.request.id with
    | some a => s.replay i c a after
    | none => s.moved i c missed

/-- The deferred `Add` of `Response`. -/
def add (origin : Origin) (resp : Resp δ) (after : Phase δ) : Server δ :=
  { s.moved i c after with
    respCache := Lru.add 10 s.respCache c.request.id ⟨resp, i⟩
    log := ⟨i, c.request.id, ⟨resp, i⟩, origin⟩ :: s.log }

/-- The first critical section of `ReqCache`, if the id is not cached. -/
def register : Server δ :=
  match s.reqIdMu c.request.id with
  | some mu =>
    { s.moved i c (.waiting mu) with users := Function.update s.users mu (s.users mu + 1) }
  | none =>
    { s.moved i c (.waiting s.made) with
      reqIdMu := Function.update s.reqIdMu c.request.id (some s.made)
      users := Function.update s.users s.made 1
      made := s.made + 1 }

/-- The last critical section of `ReqCache`. -/
def deregister (mu : ℕ) : Server δ :=
  { s.moved i c .done with
    users := Function.update s.users mu (s.users mu - 1)
    reqIdMu :=
      if s.users mu - 1 = 0 then Function.update s.reqIdMu c.request.id none else s.reqIdMu }

/-- One step of a request. A running handler returns. -/
def advance : Option (Server δ) :=
  match c.phase with
  | .rejecting resp => some (s.response i c .middleware resp (.refusing resp) .done)
  | .refusing resp => some (s.add i c .middleware resp .done)
  | .entering =>
    if c.request.id = "" then some (s.moved i c (.running none))
    else
      match s.respCache.get? c.request.id with
      | some a => some (s.replay i c a .done)
      | none => some (s.register i c)
  | .waiting mu =>
    if s.holder mu = none then
      some { s.moved i c (.checking mu) with holder := Function.update s.holder mu (some i) }
    else none
  | .checking mu =>
    match s.respCache.get? c.request.id with
    | some a => some (s.replay i c a (.leaving mu))
    | none => some (s.moved i c (.running (some mu)))
  | .running (some mu) => some (s.moved i c (.leaving mu))
  | .running none => some (s.moved i c .done)
  | .storing mu resp => some (s.add i c .handler resp (.running mu))
  | .leaving mu =>
    some { s.moved i c (.deregistering mu) with holder := Function.update s.holder mu none }
  | .deregistering mu => some (s.deregister i c mu)
  | .done => none

end Server

/-- What happens: a request arrives, a request takes its next step, or its handler calls
`Response`. -/
inductive ServerStep (δ : Type)
  | arrive (request : Request δ)
  | advance (i : ℕ)
  | respond (i : ℕ) (code : Code) (data : RespData δ)

/-- The state after one step. -/
def Server.next (s : Server δ) : ServerStep δ → Option (Server δ)
  | .arrive request =>
    match request.refused with
    | none => some { s with conns := s.conns ++ [⟨request, .entering⟩] }
    | some resp =>
      if (request.method, request.path) ∈ noAuthRoutes then none
      else some { s with conns := s.conns ++ [⟨request, .rejecting resp⟩] }
  | .advance i =>
    match s.conns[i]? with
    | some c => s.advance i c
    | none => none
  | .respond i code data =>
    match s.conns[i]? with
    | some ⟨request, .running mu⟩ =>
      let resp := respOf code data
      some (s.response i ⟨request, .running mu⟩ .handler resp (.storing mu resp) (.running mu))
    | _ => none

/-- The server that begins without requests. -/
def server (δ : Type) : Transition.System (Server δ) (ServerStep δ) where
  init s := s = {}
  next := Server.next

/-! ### What a step does -/

namespace Server

/-- The requests that arrived. -/
def requests (s : Server δ) : List (Request δ) := s.conns.map Conn.request

/-- The phases that a request can be in: the authentication middleware answers only what it refuses,
and requests without id have nothing to do with the locks and the cache. -/
def Fits (r : Request δ) : Phase δ → Prop
  | .rejecting _ => r.refused ≠ none
  | .refusing _ => r.refused ≠ none ∧ r.id ≠ ""
  | .entering | .running none => r.refused = none
  | .done => True
  | _ => r.refused = none ∧ r.id ≠ ""

/-- What one step of the request `i` can do. -/
inductive Moves (s : Server δ) (i : ℕ) (c : Conn δ) : Server δ → Prop
  /-- Neither the locks nor the answers change. A handler runs, or is about to answer, only if the
  id is not cached. -/
  | quiet {p : Phase δ} (hlock : p.lock = c.phase.lock) (hheld : p.held = c.phase.held)
      (hfits : Fits c.request p)
      (hhandling : p.Handling → c.request.id ≠ "" →
        s.respCache.get? c.request.id = none ∧ (c.phase.Handling ∨ p.held ≠ none)) :
      Moves s i c (s.moved i c p)
  | replay {a : Answer δ} {p : Phase δ} (hlock : p.lock = c.phase.lock)
      (hheld : p.held = c.phase.held) (hfits : Fits c.request p) (hp : ¬p.Handling ∨ p = c.phase)
      (hid : c.request.id ≠ "") (ha : s.respCache.get? c.request.id = some a) :
      Moves s i c (s.replay i c a p)
  | direct {o : Origin} {resp : Resp δ} {p : Phase δ} (hlock : p.lock = c.phase.lock)
      (hheld : p.held = c.phase.held) (hfits : Fits c.request p)
      (ho : o = .handler → c.request.refused = none) (hid : c.request.id = "") :
      Moves s i c { s.moved i c p with log := ⟨i, c.request.id, ⟨resp, i⟩, o⟩ :: s.log }
  | store {mu : Option ℕ} {resp : Resp δ} (hphase : c.phase = .storing mu resp) :
      Moves s i c (s.add i c .handler resp (.running mu))
  | refuse {resp : Resp δ} (hphase : c.phase = .refusing resp) :
      Moves s i c (s.add i c .middleware resp .done)
  | register (hphase : c.phase = .entering) (hid : c.request.id ≠ "") :
      Moves s i c (s.register i c)
  | acquire {mu : ℕ} (hphase : c.phase = .waiting mu) (hfree : s.holder mu = none) :
      Moves s i c
        { s.moved i c (.checking mu) with holder := Function.update s.holder mu (some i) }
  | release {mu : ℕ} (hphase : c.phase = .leaving mu) :
      Moves s i c
        { s.moved i c (.deregistering mu) with holder := Function.update s.holder mu none }
  | deregister {mu : ℕ} (hphase : c.phase = .deregistering mu) :
      Moves s i c (s.deregister i c mu)

variable {s t : Server δ} {i j : ℕ} {c d : Conn δ} {p : Phase δ} {a : ServerStep δ}

lemma moves_response {o : Origin} {resp : Resp δ} {missed after : Phase δ}
    (hlock : missed.lock = c.phase.lock ∧ after.lock = c.phase.lock)
    (hheld : missed.held = c.phase.held ∧ after.held = c.phase.held)
    (hfits : (c.request.id ≠ "" → Fits c.request missed) ∧ Fits c.request after)
    (ho : o = .handler → c.request.refused = none)
    (hmissed : missed.Handling → c.phase.Handling) (hafter : ¬after.Handling ∨ after = c.phase) :
    Moves s i c (s.response i c o resp missed after) := by
  unfold response
  split_ifs with hid
  · rw [← hid]
    exact .direct hlock.2 hheld.2 hfits.2 ho hid
  · split
    · next a ha => exact .replay hlock.2 hheld.2 hfits.2 hafter hid ha
    · next ha =>
      exact .quiet hlock.1 hheld.1 (hfits.1 hid) fun hp _ => ⟨ha, .inl (hmissed hp)⟩

lemma moves_advance (hc : Fits c.request c.phase) (h : s.advance i c = some t) :
    Moves s i c t := by
  obtain ⟨r, p⟩ := c
  cases p with
  | rejecting resp =>
    cases h
    exact moves_response ⟨rfl, rfl⟩ ⟨rfl, rfl⟩ ⟨fun hid => ⟨hc, hid⟩, trivial⟩ nofun False.elim
      (.inl id)
  | refusing resp =>
    cases h
    exact .refuse rfl
  | entering =>
    simp only [advance] at h
    split_ifs at h with hid
    · cases h
      exact .quiet rfl rfl hc fun _ hne => absurd hid hne
    · split at h
      · next a ha =>
        cases h
        exact .replay rfl rfl trivial (.inl id) hid ha
      · cases h
        exact .register rfl hid
  | waiting mu =>
    simp only [advance] at h
    split_ifs at h with hfree
    cases h
    exact .acquire rfl hfree
  | checking mu =>
    simp only [advance] at h
    split at h
    · next a ha =>
      cases h
      exact .replay rfl rfl hc (.inl id) hc.2 ha
    · next ha =>
      cases h
      exact .quiet rfl rfl hc fun _ _ => ⟨ha, .inr (Option.some_ne_none mu)⟩
  | running mu =>
    cases mu with
    | none =>
      cases h
      exact .quiet rfl rfl trivial False.elim
    | some mu =>
      cases h
      exact .quiet rfl rfl hc False.elim
  | storing mu resp =>
    cases h
    exact .store rfl
  | leaving mu =>
    cases h
    exact .release rfl
  | deregistering mu =>
    cases h
    exact .deregister rfl
  | done => cases h

/-- Every request is in a phase that it can be in. -/
def Fitting (s : Server δ) : Prop :=
  ∀ (i : ℕ) (c : Conn δ), s.conns[i]? = some c → Fits c.request c.phase

/-- What a step does. -/
lemma Fitting.next_cases (hs : s.Fitting) (h : s.next a = some t) :
    (∃ r p, a = .arrive r ∧ (p = .entering ∨ ∃ resp, p = .rejecting resp) ∧ Fits r p ∧
      t = { s with conns := s.conns ++ [⟨r, p⟩] }) ∨
    ∃ i c, s.conns[i]? = some c ∧ Moves s i c t := by
  cases a with
  | arrive r =>
    refine .inl ?_
    simp only [next] at h
    split at h
    · next hr =>
      cases h
      exact ⟨r, _, rfl, .inl rfl, hr, rfl⟩
    · next resp hr =>
      split_ifs at h
      cases h
      exact ⟨r, _, rfl, .inr ⟨resp, rfl⟩, by simp [Fits, hr], rfl⟩
  | advance i =>
    refine .inr ?_
    simp only [next] at h
    split at h
    · next c hc => exact ⟨i, c, hc, moves_advance (hs i c hc) h⟩
    · cases h
  | respond i code data =>
    refine .inr ?_
    simp only [next] at h
    split at h
    · next r mu hc =>
      cases h
      have hr : r.refused = none := by
        have hfits := hs _ _ hc
        cases mu with
        | none => exact hfits
        | some mu => exact hfits.1
      exact ⟨i, _, hc, moves_response ⟨rfl, rfl⟩ ⟨rfl, rfl⟩
        ⟨fun hid => ⟨hr, hid⟩, hs _ _ hc⟩ (fun _ => hr) (fun _ => trivial) (.inr rfl)⟩
    · cases h

lemma getElem?_moved (hc : s.conns[i]? = some c) :
    (s.moved i c p).conns[j]? = if j = i then some { c with phase := p } else s.conns[j]? := by
  rw [moved]
  grind

lemma countP_moved (hc : s.conns[i]? = some c) (f : Conn δ → Bool) :
    (s.moved i c p).conns.countP f + (if f c then 1 else 0) =
      s.conns.countP f + if f { c with phase := p } then 1 else 0 := by
  obtain ⟨hlt, rfl⟩ := List.getElem?_eq_some_iff.mp hc
  have hle : (if f s.conns[i] then 1 else 0) ≤ s.conns.countP f := by
    split_ifs with hf
    · exact List.countP_pos_iff.mpr ⟨_, List.getElem_mem hlt, hf⟩
    · exact Nat.zero_le _
  rw [moved, List.countP_set hlt]
  omega

lemma requests_moved (hc : s.conns[i]? = some c) : (s.moved i c p).requests = s.requests := by
  refine ext_getElem? fun j => ?_
  simp only [requests, getElem?_map, getElem?_moved hc]
  split_ifs with hj
  · rw [hj, hc]
    rfl
  · rfl

/-- A step of a request changes the phase of this request only. -/
lemma Moves.exists_phase (hs : Fits c.request c.phase) (h : Moves s i c t) :
    ∃ p, t.conns = (s.moved i c p).conns ∧ Fits c.request p := by
  cases h with
  | quiet _ _ hfits _ | replay _ _ hfits _ _ _ | direct _ _ hfits _ _ => exact ⟨_, rfl, hfits⟩
  | @store mu resp hphase =>
    rw [hphase] at hs
    cases mu with
    | none => exact ⟨_, rfl, hs.1⟩
    | some mu => exact ⟨_, rfl, hs⟩
  | refuse | deregister => exact ⟨_, rfl, trivial⟩
  | register hphase hid =>
    rw [hphase] at hs
    unfold Server.register
    split
    · exact ⟨_, rfl, hs, hid⟩
    · exact ⟨_, rfl, hs, hid⟩
  | acquire hphase _ | release hphase =>
    rw [hphase] at hs
    exact ⟨_, rfl, hs⟩

lemma Fitting.step (hs : s.Fitting) (h : s.next a = some t) : t.Fitting := by
  intro j d hd
  obtain ⟨r, p, -, -, hfits, rfl⟩ | ⟨i, c, hc, hmoves⟩ := hs.next_cases h
  · rcases mem_append.mp (mem_of_getElem? hd) with hmem | hmem
    · obtain ⟨j, hj⟩ := mem_iff_getElem?.mp hmem
      exact hs j d hj
    · obtain rfl := mem_singleton.mp hmem
      exact hfits
  · obtain ⟨p, hconns, hfits⟩ := hmoves.exists_phase (hs i c hc)
    rw [hconns, getElem?_moved hc] at hd
    split_ifs at hd
    · cases hd
      exact hfits
    · exact hs j d hd

/-- The requests after a step. -/
lemma Fitting.requests_next (hs : s.Fitting) (h : s.next a = some t) :
    t.requests = s.requests ∨ ∃ r, a = .arrive r ∧ t.requests = s.requests ++ [r] := by
  obtain ⟨r, p, ha, -, -, rfl⟩ | ⟨i, c, hc, hmoves⟩ := hs.next_cases h
  · exact .inr ⟨r, ha, by simp [requests]⟩
  · obtain ⟨p, hconns, -⟩ := hmoves.exists_phase (hs i c hc)
    refine .inl (.trans ?_ (requests_moved hc (p := p)))
    rw [requests, hconns]
    rfl

/-! ### The locks -/

/-- The table has the lock of an id if a request is registered for it, and the lock counts them. -/
structure Registered (s : Server δ) : Prop where
  users : ∀ mu, s.users mu = s.conns.countP (·.phase.lock = some mu)
  table : ∀ {j : ℕ} {d : Conn δ} {mu : ℕ}, s.conns[j]? = some d → d.phase.lock = some mu →
    s.reqIdMu d.request.id = some mu
  registered : ∀ {k : String} {mu : ℕ}, s.reqIdMu k = some mu →
    ∃ (j : ℕ) (d : Conn δ), s.conns[j]? = some d ∧ d.request.id = k ∧ d.phase.lock = some mu
  made : ∀ {k : String} {mu : ℕ}, s.reqIdMu k = some mu → mu < s.made
  injective : ∀ {k k' : String} {mu : ℕ}, s.reqIdMu k = some mu → s.reqIdMu k' = some mu → k = k'

/-- A lock knows its holder, and a handler for an id runs only under a lock. -/
structure Holding (s : Server δ) : Prop where
  holder : ∀ {j mu : ℕ},
    s.holder mu = some j ↔ ∃ d : Conn δ, s.conns[j]? = some d ∧ d.phase.held = some mu
  handling : ∀ {j : ℕ} {d : Conn δ}, s.conns[j]? = some d → d.phase.Handling →
    d.request.id ≠ "" → d.phase.held ≠ none

section

variable (hc : s.conns[i]? = some c)
include hc

lemma Registered.countP (h : s.Registered) (mu : ℕ) :
    (s.moved i c p).conns.countP (·.phase.lock = some mu) +
        (if c.phase.lock = some mu then 1 else 0) =
      s.users mu + if p.lock = some mu then 1 else 0 := by
  simpa [h.users mu] using countP_moved (p := p) hc (·.phase.lock = some mu)

/-- A request that stays registered as it is. -/
lemma Registered.moved (h : s.Registered) (hlock : p.lock = c.phase.lock)
    (hconns : t.conns = (s.moved i c p).conns)
    (hshared : (t.users, t.reqIdMu, t.made) = (s.users, s.reqIdMu, s.made)) : t.Registered := by
  simp at hshared
  obtain ⟨husers, htable, hmade⟩ := hshared
  refine ⟨fun mu => ?_, fun {j d mu} hd hmu => ?_, fun {k mu} hk => ?_, ?_, ?_⟩
  · have hcount := h.countP (p := p) hc mu
    rw [hlock] at hcount
    rw [husers, hconns]
    exact (Nat.add_right_cancel hcount).symm
  · rw [hconns, getElem?_moved hc] at hd
    rw [htable]
    split_ifs at hd
    · cases hd
      exact h.table (d := c) hc (hlock ▸ hmu)
    · exact h.table hd hmu
  · obtain ⟨j, d, hd, hid, hmu⟩ := h.registered (htable ▸ hk)
    simp only [hconns, getElem?_moved hc]
    by_cases hj : j = i
    · obtain rfl : c = d := by simpa [hj, hc] using hd
      exact ⟨i, _, if_pos rfl, hid, hlock ▸ hmu⟩
    · exact ⟨j, d, by rw [if_neg hj, hd], hid, hmu⟩
  · rw [htable, hmade]
    exact h.made
  · rw [htable]
    exact h.injective

/-- Who is registered for another lock than a request that moves still is. -/
lemma Registered.kept (h : s.Registered) {k : String} {mu : ℕ} (hk : s.reqIdMu k = some mu)
    (hne : c.phase.lock ≠ some mu) :
    ∃ (j : ℕ) (d : Conn δ), (s.moved i c p).conns[j]? = some d ∧ d.request.id = k ∧
      d.phase.lock = some mu := by
  obtain ⟨j, d, hd, hid, hmu⟩ := h.registered hk
  refine ⟨j, d, ?_, hid, hmu⟩
  rw [getElem?_moved hc, if_neg, hd]
  rintro rfl
  obtain rfl := some.inj (hc.symm.trans hd)
  exact hne hmu

lemma Registered.register (h : s.Registered) (hlock : c.phase.lock = none) :
    (s.register i c).Registered := by
  have hcount (mu mu' : ℕ) := h.countP (p := .waiting mu) hc mu'
  simp only [hlock] at hcount
  unfold Server.register
  split
  · next mu hmu =>
    refine ⟨fun mu' => ?_, fun {j d mu'} hd hmu' => ?_,
      fun hk => h.kept hc hk (by simp [hlock]), h.made, h.injective⟩
    · rw [show List.countP _ _ = _ from hcount mu mu']
      by_cases hne : mu' = mu
      · simp [hne, Phase.lock]
      · simp [hne, Ne.symm hne, Phase.lock]
    · rw [getElem?_moved hc] at hd
      split_ifs at hd
      · cases hd
        cases hmu'
        exact hmu
      · exact h.table hd hmu'
  · next hnone =>
    have htable {k : String} {mu : ℕ} :
        update s.reqIdMu c.request.id (some s.made) k = some mu ↔
          k = c.request.id ∧ mu = s.made ∨ s.reqIdMu k = some mu := by
      rw [update_apply]
      split_ifs with hk
      · simp [hk, hnone, eq_comm]
      · simp [hk]
    -- nobody else has the number of the new lock
    have hnew : s.users s.made = 0 := by
      rw [h.users]
      refine List.countP_eq_zero.mpr fun d hd hmu => ?_
      obtain ⟨j, hj⟩ := List.mem_iff_getElem?.mp hd
      exact absurd (h.made (h.table hj (by simpa using hmu))) (Nat.lt_irrefl _)
    refine ⟨fun mu => ?_, fun {j d mu} hd hmu => htable.mpr ?_, fun {k mu} hk => ?_,
      fun {k mu} hk => ?_, fun {k k' mu} hk hk' => ?_⟩
    · rw [show List.countP _ _ = _ from hcount s.made mu]
      by_cases hmu : mu = s.made
      · simp [hmu, hnew, Phase.lock]
      · simp [hmu, Ne.symm hmu, Phase.lock]
    · rw [getElem?_moved hc] at hd
      split_ifs at hd
      · cases hd
        cases hmu
        exact .inl ⟨rfl, rfl⟩
      · exact .inr (h.table hd hmu)
    · rcases htable.mp hk with ⟨rfl, rfl⟩ | hk
      · exact ⟨i, { c with phase := .waiting s.made }, by rw [getElem?_moved hc, if_pos rfl], rfl, rfl⟩
      · exact h.kept hc hk (by simp [hlock])
    · rcases htable.mp hk with ⟨-, rfl⟩ | hk
      · exact Nat.lt_succ_self _
      · exact Nat.lt_succ_of_lt (h.made hk)
    · rcases htable.mp hk with ⟨rfl, rfl⟩ | hk <;> rcases htable.mp hk' with ⟨rfl, hmu⟩ | hk'
      · rfl
      · exact absurd (h.made hk') (Nat.lt_irrefl _)
      · exact absurd (hmu ▸ h.made hk) (Nat.lt_irrefl _)
      · exact h.injective hk hk'

variable {mu : ℕ}

lemma Registered.deregister (h : s.Registered) (hlock : c.phase.lock = some mu) :
    (s.deregister i c mu).Registered := by
  have hcount (mu' : ℕ) := h.countP (p := .done) hc mu'
  have hdone : (Phase.done : Phase δ).lock = none := rfl
  simp only [hlock, hdone, reduceCtorEq, if_false, some.injEq] at hcount
  have hcmu := h.table hc hlock
  have hleft : (s.moved i c .done).conns.countP (·.phase.lock = some mu) = s.users mu - 1 := by
    have := hcount mu
    rw [if_pos rfl] at this
    omega
  -- who is registered now was registered before
  have hold {j : ℕ} {d : Conn δ} {mu' : ℕ} (hd : (s.moved i c .done).conns[j]? = some d)
      (hmu' : d.phase.lock = some mu') : s.conns[j]? = some d := by
    rw [getElem?_moved hc] at hd
    split_ifs at hd
    · cases hd
      cases hmu'
    · exact hd
  have husers (mu' : ℕ) : update s.users mu (s.users mu - 1) mu' =
      (s.moved i c .done).conns.countP (·.phase.lock = some mu') := by
    rw [update_apply]
    split_ifs with hmu'
    · rw [hmu', hleft]
    · have := hcount mu'
      rw [if_neg (Ne.symm hmu')] at this
      exact this.symm
  unfold Server.deregister
  split_ifs with hzero
  · have htable {k : String} {mu' : ℕ} :
        update s.reqIdMu c.request.id none k = some mu' ↔
          k ≠ c.request.id ∧ s.reqIdMu k = some mu' := by
      rw [update_apply]
      split_ifs with hk
      · simp [hk]
      · simp [hk]
    refine ⟨husers, fun {j d mu'} hd hmu' => htable.mpr ⟨fun hid => ?_, h.table (hold hd hmu') hmu'⟩,
      fun {k mu'} hk => ?_, fun hk => h.made (htable.mp hk).2,
      fun hk hk' => h.injective (htable.mp hk).2 (htable.mp hk').2⟩
    · -- the last one has left
      have hmu := h.table (hold hd hmu') hmu'
      rw [hid, hcmu] at hmu
      rw [hzero] at hleft
      exact countP_eq_zero.mp hleft d (mem_of_getElem? hd) (by rw [hmu', hmu]; simp)
    · obtain ⟨hne, hold⟩ := htable.mp hk
      refine h.kept hc hold fun hmu' => hne (h.injective hold ?_)
      exact h.table hc hmu'
  · refine ⟨husers, fun hd hmu' => h.table (hold hd hmu') hmu', fun {k mu'} hk => ?_, h.made,
      h.injective⟩
    by_cases hmu' : mu' = mu
    · subst hmu'
      obtain ⟨d, hd, hdmu⟩ := countP_pos_iff.mp
        (Nat.pos_of_ne_zero (hleft.trans_ne hzero))
      obtain ⟨j, hj⟩ := mem_iff_getElem?.mp hd
      have hdmu : d.phase.lock = some mu' := by simpa using hdmu
      exact ⟨j, d, hj, h.injective (h.table (hold hj hdmu) hdmu) hk, hdmu⟩
    · exact h.kept hc hk (by simpa [hlock] using Ne.symm hmu')

/-- A request that keeps the lock, or has none. -/
lemma Holding.moved (h : s.Holding) (hheld : p.held = c.phase.held)
    (hhandling : p.Handling → c.request.id ≠ "" → c.phase.Handling ∨ p.held ≠ none)
    (hconns : t.conns = (s.moved i c p).conns) (hholder : t.holder = s.holder) : t.Holding := by
  refine ⟨fun {j mu} => ?_, fun {j d} hd hp hid => ?_⟩
  · simp only [hconns, hholder, getElem?_moved hc]
    refine h.holder.trans ?_
    split_ifs with hj
    · simp [hj, hc, hheld]
    · rfl
  · rw [hconns, getElem?_moved hc] at hd
    split_ifs at hd
    · cases hd
      exact (hhandling hp hid).elim (fun hp => hheld ▸ h.handling hc hp hid) id
    · exact h.handling hd hp hid

/-- A request that takes or leaves a lock. -/
lemma Holding.update (h : s.Holding) {o : Option ℕ} (hp : ¬p.Handling)
    (hfree : ∀ j ≠ i, s.holder mu ≠ some j) (ho : ∀ j, o = some j ↔ i = j ∧ p.held = some mu)
    (hheld : ∀ mu' ≠ mu, p.held = some mu' ↔ c.phase.held = some mu') :
    Holding { s.moved i c p with holder := update s.holder mu o } := by
  refine ⟨fun {j mu'} => ?_, fun {j d} hd hhandling hid => ?_⟩
  · simp only [getElem?_moved hc, update_apply]
    have hold : s.holder mu' = some j ↔ _ := h.holder
    split_ifs with hmu hj hj
    · simp [hmu, hj, ho]
    · simpa [hmu, ho, Ne.symm hj, hfree j hj] using hold
    · simpa [hj, hc, hheld mu' hmu] using hold
    · exact hold
  · rw [getElem?_moved hc] at hd
    split_ifs at hd
    · cases hd
      exact absurd hhandling hp
    · exact h.handling hd hhandling hid

end

/-- The table of locks, their counters and their holders belong together. -/
structure Locked (s : Server δ) : Prop extends s.Registered, s.Holding

lemma Phase.lock_of_held (h : p.held = some mu) : p.lock = some mu := by
  cases p <;> first | exact h | cases h

/-- At most one handler runs for an id. -/
lemma Locked.exclusive (h : s.Locked) (hc : s.conns[i]? = some c) (hd : s.conns[j]? = some d)
    (hid : c.request.id = d.request.id) (hne : c.request.id ≠ "") (hcp : c.phase.Handling)
    (hdp : d.phase.Handling) : i = j := by
  obtain ⟨mu, hmu⟩ := ne_none_iff_exists'.mp (h.handling hc hcp hne)
  obtain ⟨mu', hmu'⟩ := ne_none_iff_exists'.mp (h.handling hd hdp (hid ▸ hne))
  have htable := h.table hc (Phase.lock_of_held hmu)
  rw [hid, h.table hd (Phase.lock_of_held hmu')] at htable
  cases htable
  exact some.inj ((h.holder.mpr ⟨c, hc, hmu⟩).symm.trans (h.holder.mpr ⟨d, hd, hmu'⟩))

lemma Locked.moves (h : s.Locked) (hc : s.conns[i]? = some c) (hmoves : Moves s i c t) :
    t.Locked := by
  cases hmoves with
  | quiet hlock hheld _ hhandling =>
    exact ⟨h.toRegistered.moved hc hlock rfl rfl,
      h.toHolding.moved hc hheld (fun hp hid => (hhandling hp hid).2) rfl rfl⟩
  | replay hlock hheld _ hp =>
    refine ⟨h.toRegistered.moved hc hlock rfl rfl, h.toHolding.moved hc hheld ?_ rfl rfl⟩
    exact fun hhandling _ => .inl (hp.elim (absurd hhandling) (· ▸ hhandling))
  | direct hlock hheld _ _ hid =>
    exact ⟨h.toRegistered.moved hc hlock rfl rfl,
      h.toHolding.moved hc hheld (fun _ hne => absurd hid hne) rfl rfl⟩
  | store hphase =>
    exact ⟨h.toRegistered.moved hc (by rw [hphase]; rfl) rfl rfl,
      h.toHolding.moved hc (by rw [hphase]; rfl) (fun _ _ => .inl (by rw [hphase]; trivial)) rfl rfl⟩
  | refuse hphase =>
    exact ⟨h.toRegistered.moved hc (by rw [hphase]; rfl) rfl rfl,
      h.toHolding.moved hc (by rw [hphase]; rfl) False.elim rfl rfl⟩
  | register hphase =>
    refine ⟨h.toRegistered.register hc (by rw [hphase]; rfl), ?_⟩
    unfold Server.register
    split
    · exact h.toHolding.moved hc (by rw [hphase]; rfl) False.elim rfl rfl
    · exact h.toHolding.moved hc (by rw [hphase]; rfl) False.elim rfl rfl
  | acquire hphase hfree =>
    exact ⟨h.toRegistered.moved hc (by rw [hphase]; rfl) rfl rfl,
      h.toHolding.update hc not_false (by simp [hfree]) (by simp [Phase.held])
        (by simp [hphase, Phase.held, eq_comm])⟩
  | release hphase =>
    have hmine := h.holder.mpr ⟨c, hc, by rw [hphase]; rfl⟩
    exact ⟨h.toRegistered.moved hc (by rw [hphase]; rfl) rfl rfl,
      h.toHolding.update hc not_false (by simp [hmine, eq_comm]) (by simp [Phase.held])
        (by simp [hphase, Phase.held, eq_comm])⟩
  | deregister hphase =>
    exact ⟨h.toRegistered.deregister hc (by rw [hphase]; rfl),
      h.toHolding.moved hc (by rw [hphase]; rfl) False.elim rfl rfl⟩

variable {r : Request δ}

lemma getElem?_arrived (hd : (s.conns ++ [⟨r, p⟩])[j]? = some d) :
    s.conns[j]? = some d ∨ d = ⟨r, p⟩ := by
  rcases getElem?_append .. ▸ hd with hd
  split_ifs at hd
  · exact .inl hd
  · exact .inr (mem_singleton.mp (mem_of_getElem? hd))

lemma getElem?_append_of_some {l : List (Conn δ)} (hd : s.conns[j]? = some d) :
    (s.conns ++ l)[j]? = some d := by
  rw [List.getElem?_append_left (List.getElem?_eq_some_iff.mp hd).1, hd]

/-- A request that arrives is not registered. -/
lemma Locked.arrive (h : s.Locked) (hp : p = .entering ∨ ∃ resp, p = .rejecting resp) :
    Locked { s with conns := s.conns ++ [⟨r, p⟩] } := by
  have hlock : p.lock = none := by rcases hp with rfl | ⟨resp, rfl⟩ <;> rfl
  have hheld : p.held = none := by rcases hp with rfl | ⟨resp, rfl⟩ <;> rfl
  have hhandling : ¬p.Handling := by rcases hp with rfl | ⟨resp, rfl⟩ <;> exact id
  refine ⟨⟨fun mu => ?_, fun {j d mu} hd hmu => ?_, fun {k mu} hk => ?_, h.made, h.injective⟩,
    ⟨fun {j mu} => ?_, fun {j d} hd hp hid => ?_⟩⟩
  · simp [h.users, hlock]
  · rcases getElem?_arrived hd with hd | rfl
    · exact h.table hd hmu
    · rw [hlock] at hmu
      cases hmu
  · obtain ⟨j, d, hd, hrest⟩ := h.registered hk
    exact ⟨j, d, getElem?_append_of_some hd, hrest⟩
  · refine h.holder.trans ⟨?_, ?_⟩
    · rintro ⟨d, hd, hmu⟩
      exact ⟨d, getElem?_append_of_some hd, hmu⟩
    · rintro ⟨d, hd, hmu⟩
      rcases getElem?_arrived hd with hd | rfl
      · exact ⟨d, hd, hmu⟩
      · rw [hheld] at hmu
        cases hmu
  · rcases getElem?_arrived hd with hd | rfl
    · exact h.handling hd hp hid
    · exact absurd hp hhandling

/-! ### The answers -/

/-- The ids, other than `k`, that were answered. -/
def others (k : String) (log : List (Event δ)) : Finset String :=
  ((log.map Event.id).filter fun j => j ≠ k ∧ j ≠ "").toFinset

/-- What holds after the answer `e` of a handler, as long as not too many other ids are answered. -/
structure Window (s : Server δ) (e : Event δ) (since : List (Event δ)) : Prop where
  recent : Lru.Recent s.respCache e.id e.answer (others e.id since)
  same : ∀ e' ∈ since, e'.id = e.id → e'.answer = e.answer
  alone : ∀ {j : ℕ} {d : Conn δ}, s.conns[j]? = some d → d.request.id = e.id →
    d.phase.Handling → j = e.request ∧ ∃ mu, d.phase = .running mu

/-- The answer of a handler is cached while fewer than ten other ids are answered. -/
structure Replaying (s : Server δ) : Prop where
  distinct : Lru.Distinct s.respCache
  handled : ∀ e ∈ s.log, e.origin = .handler →
    ∃ r ∈ s.requests, r.id = e.id ∧ r.refused = none
  window : ∀ {since : List (Event δ)} {e : Event δ} {before : List (Event δ)},
    s.log = since ++ e :: before → e.origin = .handler → e.id ≠ "" →
    (others e.id since).card < 10 → s.Window e since

variable {e : Event δ}

lemma others_cons {k : String} {l : List (Event δ)} :
    others k (e :: l) = if e.id = k ∨ e.id = "" then others k l else insert e.id (others k l) := by
  unfold others
  rw [map_cons, filter_cons]
  split_ifs <;> simp_all

/-- A request goes on without an answer. A handler begins only if the id is not cached. -/
lemma Replaying.moved (h : s.Replaying) (hc : s.conns[i]? = some c)
    (hmissed : p.Handling → c.request.id ≠ "" → s.respCache.get? c.request.id = none)
    (hconns : t.conns = (s.moved i c p).conns)
    (hshared : (t.respCache, t.log) = (s.respCache, s.log)) : t.Replaying := by
  simp at hshared
  obtain ⟨hcache, hlog⟩ := hshared
  refine ⟨hcache ▸ h.distinct, ?_, fun {since e before} hsplit ho hid hcard => ?_⟩
  · rw [hlog, requests, hconns, show map _ _ = s.requests from requests_moved hc]
    exact h.handled
  · have hwindow := h.window (hlog ▸ hsplit) ho hid hcard
    refine ⟨hcache ▸ hwindow.recent, hwindow.same, fun {j d} hd hdid hdp => ?_⟩
    rw [hconns, getElem?_moved hc] at hd
    split_ifs at hd
    · cases hd
      have hnone := hmissed hdp (by rw [← hdid] at hid; exact hid)
      rw [show c.request.id = e.id from hdid, hwindow.recent.get? h.distinct] at hnone
      cases hnone
    · exact hwindow.alone hd hdid hdp

/-- A request is answered. -/
lemma Replaying.event (h : s.Replaying) (hc : s.conns[i]? = some c) {e₀ : Event δ}
    (he₀ : e₀.id = c.request.id) (hconns : t.conns = (s.moved i c p).conns)
    (hlog : t.log = e₀ :: s.log) (hdistinct : Lru.Distinct t.respCache)
    (hhandler : e₀.origin = .handler → c.request.refused = none)
    (hother : ∀ {k v l}, k ≠ c.request.id → k ≠ "" → Lru.Recent s.respCache k v (others k l) →
      (others k (e₀ :: l)).card < 10 → Lru.Recent t.respCache k v (others k (e₀ :: l)))
    (hsame : ∀ {e since}, e ∈ s.log → e.origin = .handler → e.id = c.request.id → e.id ≠ "" →
      s.Window e since → t.Window e (e₀ :: since))
    (hnew : e₀.origin = .handler → e₀.id ≠ "" → t.Window e₀ []) : t.Replaying := by
  refine ⟨hdistinct, fun e he ho => ?_, fun {since e before} hsplit ho hid hcard => ?_⟩
  · rw [requests, hconns, show map _ _ = s.requests from requests_moved hc]
    rw [hlog] at he
    rcases mem_cons.mp he with rfl | he
    · exact ⟨c.request, mem_map_of_mem (mem_of_getElem? hc), he₀.symm, hhandler ho⟩
    · exact h.handled e he ho
  · rw [hlog] at hsplit
    obtain ⟨rfl, hcons⟩ | ⟨since, rfl, hlog'⟩ := cons_eq_append_iff.mp hsplit
    · obtain ⟨rfl, rfl⟩ := cons_eq_cons.mp hcons
      exact hnew ho hid
    · have hle : (others e.id since).card ≤ (others e.id (e₀ :: since)).card := by
        refine Finset.card_le_card ?_
        rw [others_cons]
        split_ifs
        · exact subset_rfl
        · exact Finset.subset_insert _ _
      have hwindow := h.window hlog' ho hid (hle.trans_lt hcard)
      by_cases hk : e.id = c.request.id
      · exact hsame (by rw [hlog']; simp) ho hk hid hwindow
      · refine ⟨hother hk hid hwindow.recent hcard, fun e' he' hid' => ?_,
          fun {j d} hd hdid hdp => ?_⟩
        · rcases mem_cons.mp he' with rfl | he'
          · exact absurd (hid'.symm.trans he₀) hk
          · exact hwindow.same e' he' hid'
        · rw [hconns, getElem?_moved hc] at hd
          split_ifs at hd
          · cases hd
            exact absurd hdid.symm hk
          · exact hwindow.alone hd hdid hdp

/-- Requests with one id agree on `f`. -/
def Agree {α : Type} (f : Request δ → α) (s : Server δ) : Prop :=
  ∀ r ∈ s.requests, ∀ r' ∈ s.requests, r.id = r'.id → r.id ≠ "" → f r = f r'

lemma others_cons_of_ne {k : String} {l : List (Event δ)} (hk : k ≠ e.id) (he : e.id ≠ "") :
    others k (e :: l) = insert e.id (others k l) := by
  rw [others_cons, if_neg (by simp [he, hk.symm])]

lemma Replaying.moves (h : s.Replaying) (hlocked : s.Locked) (hfits : Fits c.request c.phase)
    (hagree : s.Agree (·.refused.isSome)) (hc : s.conns[i]? = some c) (hmoves : Moves s i c t) :
    t.Replaying := by
  cases hmoves with
  | quiet _ _ _ hhandling =>
    exact h.moved hc (fun hp hid => (hhandling hp hid).1) rfl rfl
  | @replay a p _ _ _ hp hid ha =>
    refine h.event hc rfl rfl rfl (Go.Map.nodup_put h.distinct) nofun ?_ ?_ nofun
    · intro k v l hk _ hrecent _
      rw [others_cons_of_ne hk hid]
      exact hrecent.put (Ne.symm hk)
    · intro e since _ _ hid' _ hwindow
      -- the cached answer is the one of the handler
      have hanswer : a = e.answer := by
        have hget := hwindow.recent.get? h.distinct
        rw [hid', ha] at hget
        exact some.inj hget
      refine ⟨?_, fun e' he' hid' => ?_, fun {j d} hd hdid hdp => ?_⟩
      · rw [hid', ← hanswer]
        exact Lru.recent_put.mono (Finset.empty_subset _)
      · rcases mem_cons.mp he' with rfl | he'
        · exact hanswer
        · exact hwindow.same e' he' hid'
      · rw [show (s.replay i c a p).conns = (s.moved i c p).conns from rfl,
          getElem?_moved hc] at hd
        split_ifs at hd with hj
        · cases hd
          obtain rfl := hp.resolve_left (not_not_intro hdp)
          exact hj ▸ hwindow.alone hc hdid hdp
        · exact hwindow.alone hd hdid hdp
  | direct _ _ _ ho hid =>
    refine h.event hc rfl rfl rfl h.distinct ho ?_ ?_ ?_
    · intro k v l hk _ hrecent _
      rw [others_cons, if_pos (.inr hid)]
      exact hrecent
    · exact fun _ _ hid' hne => absurd (hid'.trans hid) hne
    · exact fun _ hne => absurd hid hne
  | @store mu resp hphase =>
    rw [hphase] at hfits
    have hhandling : c.phase.Handling := by rw [hphase]; trivial
    refine h.event hc rfl rfl rfl (Lru.Distinct.add h.distinct) (fun _ => hfits.1) ?_ ?_ ?_
    · intro k v l hk _ hrecent hcard
      rw [others_cons_of_ne hk hfits.2] at hcard ⊢
      exact hrecent.add h.distinct (Ne.symm hk) hcard
    · intro e since _ _ hid _ hwindow
      -- a handler that is about to store its answer has found the id not cached
      obtain ⟨-, mu', hrunning⟩ := hwindow.alone hc hid.symm hhandling
      rw [hphase] at hrunning
      cases hrunning
    · refine fun _ hid => ⟨Lru.recent_add h.distinct (by decide), nofun, fun {j d} hd hdid hdp => ?_⟩
      rw [show (s.add i c .handler resp (.running mu)).conns = (s.moved i c (.running mu)).conns
        from rfl, getElem?_moved hc] at hd
      split_ifs at hd with hj
      · cases hd
        exact ⟨hj, mu, rfl⟩
      · exact absurd (hlocked.exclusive hc hd hdid.symm hid hhandling hdp).symm hj
  | refuse hphase =>
    rw [hphase] at hfits
    refine h.event hc rfl rfl rfl (Lru.Distinct.add h.distinct) nofun ?_ ?_ nofun
    · intro k v l hk _ hrecent hcard
      rw [others_cons_of_ne hk hfits.2] at hcard ⊢
      exact hrecent.add h.distinct (Ne.symm hk) hcard
    · intro e since he ho hid hne _
      -- a refused request does not have the id of a request with a handler
      obtain ⟨r, hr, hrid, hrefused⟩ := h.handled e he ho
      have hsame := hagree r hr c.request (mem_map_of_mem (mem_of_getElem? hc))
        (hrid.trans hid) (hrid ▸ hne)
      simp [hrefused, hfits.1] at hsame
  | register =>
    unfold Server.register
    split
    · exact h.moved hc False.elim rfl rfl
    · exact h.moved hc False.elim rfl rfl
  | acquire | release | deregister => exact h.moved hc False.elim rfl rfl

lemma Replaying.arrive (h : s.Replaying) (hp : p = .entering ∨ ∃ resp, p = .rejecting resp) :
    Replaying { s with conns := s.conns ++ [⟨r, p⟩] } := by
  refine ⟨h.distinct, fun e he ho => ?_, fun {since e before} hsplit ho hid hcard => ?_⟩
  · obtain ⟨r', hr', hrest⟩ := h.handled e he ho
    exact ⟨r', by simpa [requests] using .inl (mem_map.mp hr'), hrest⟩
  · have hwindow := h.window hsplit ho hid hcard
    refine ⟨hwindow.recent, hwindow.same, fun {j d} hd hdid hdp => ?_⟩
    rcases getElem?_arrived hd with hd | rfl
    · exact hwindow.alone hd hdid hdp
    · rcases hp with rfl | ⟨resp, rfl⟩ <;> exact hdp.elim

/-! ### Runs -/

/-- A request that arrives agrees on `f` with those that came with its id. -/
def Consistent {α : Type} (f : Request δ → α) (s : Server δ) : ServerStep δ → Prop
  | .arrive r => r.id ≠ "" → ∀ r' ∈ s.requests, r'.id = r.id → f r' = f r
  | _ => True

instance {α : Type} [DecidableEq α] {f : Request δ → α} : Decidable (s.Consistent f a) :=
  match a with
  | .arrive r => inferInstanceAs (Decidable (r.id ≠ "" → ∀ r' ∈ s.requests, r'.id = r.id → f r' = f r))
  | .advance _ | .respond _ _ _ => .isTrue trivial

lemma Agree.step {α : Type} {f : Request δ → α} (h : s.Agree f) (hs : s.Fitting)
    (ha : s.Consistent f a) (hnext : s.next a = some t) : t.Agree f := by
  obtain heq | ⟨r, rfl, heq⟩ := hs.requests_next hnext
  · rwa [Agree, heq]
  · intro r₁ hr₁ r₂ hr₂ hid hne
    rw [heq] at hr₁ hr₂
    rcases mem_append.mp hr₁ with hold₁ | hnew₁ <;>
      rcases mem_append.mp hr₂ with hold₂ | hnew₂
    · exact h r₁ hold₁ r₂ hold₂ hid hne
    · obtain rfl := mem_singleton.mp hnew₂
      exact ha (hid ▸ hne) r₁ hold₁ hid
    · obtain rfl := mem_singleton.mp hnew₁
      exact (ha hne r₂ hold₂ hid.symm).symm
    · rw [mem_singleton.mp hnew₁, mem_singleton.mp hnew₂]

/-- What is known between any two steps. -/
structure Sound (s : Server δ) : Prop where
  fitting : s.Fitting
  locked : s.Locked
  replaying : s.Replaying
  agree : s.Agree (·.refused.isSome)

lemma Sound.step (h : s.Sound) (ha : s.Consistent (·.refused.isSome) a)
    (hnext : s.next a = some t) : t.Sound := by
  have hfitting := h.fitting.step hnext
  have hagree := h.agree.step h.fitting ha hnext
  obtain ⟨r, p, rfl, hp, -, rfl⟩ | ⟨i, c, hc, hmoves⟩ := h.fitting.next_cases hnext
  · exact ⟨hfitting, h.locked.arrive hp, h.replaying.arrive hp, hagree⟩
  · exact ⟨hfitting, h.locked.moves hc hmoves,
      h.replaying.moves h.locked (h.fitting i c hc) h.agree hc hmoves, hagree⟩

lemma sound_init : Sound ({} : Server δ) where
  fitting i c hc := by simp at hc
  locked := by constructor <;> constructor <;> simp
  replaying := ⟨.nil, by simp, by simp⟩
  agree r hr := by simp [requests] at hr

/-- The locks are in order in every run, also with refused requests. -/
theorem locked_of_reachable (h : (server δ).Reachable s) : s.Locked := by
  suffices hs : s.Fitting ∧ s.Locked from hs.2
  refine h.invariant (I := fun s => s.Fitting ∧ s.Locked)
    (fun s hinit => hinit ▸ ⟨sound_init.fitting, sound_init.locked⟩) ?_
  rintro s a t ⟨hfits, hlocked⟩ - hnext
  refine ⟨hfits.step hnext, ?_⟩
  obtain ⟨r, p, -, hp, -, rfl⟩ | ⟨i, c, hc, hmoves⟩ := hfits.next_cases hnext
  · exact hlocked.arrive hp
  · exact hlocked.moves hc hmoves

/-- Requests with an id are answered once. -/
structure Deduplicated (s : Server δ) : Prop where
  /-- At most one handler runs for an id. -/
  exclusive : ∀ {i j : ℕ} {c d : Conn δ}, s.conns[i]? = some c → s.conns[j]? = some d →
    c.request.id = d.request.id → c.request.id ≠ "" → c.phase.Handling → d.phase.Handling → i = j
  /-- After the answer `e` of a handler, and while fewer than ten other ids are answered, all answers
  to this id are the same, no other handler runs for it, and a request that looks into the cache is
  answered from there. -/
  replayed : ∀ {since : List (Event δ)} {e : Event δ} {before : List (Event δ)},
    s.log = since ++ e :: before → e.origin = .handler → e.id ≠ "" →
    (others e.id since).card < 10 →
    (∀ e' ∈ since, e'.id = e.id → e'.answer.resp = e.answer.resp) ∧
    ∀ {j : ℕ} {d : Conn δ}, s.conns[j]? = some d → d.request.id = e.id →
      (d.phase.Handling → j = e.request) ∧
      (d.phase = .entering ∨ (∃ mu, d.phase = .checking mu) →
        ∃ t, s.next (.advance j) = some t ∧ t.log = ⟨j, e.id, e.answer, .cache⟩ :: s.log)
  /-- A request that cannot go on waits for another one with its id. -/
  independent : ∀ {i : ℕ} {c : Conn δ}, s.conns[i]? = some c → c.phase ≠ .done →
    s.next (.advance i) = none → ∃ (j : ℕ) (d : Conn δ), s.conns[j]? = some d ∧ j ≠ i ∧
      d.request.id = c.request.id ∧ c.request.id ≠ ""
  /-- The table has no entry without a registered request. -/
  registered : ∀ {k : String} {mu : ℕ}, s.reqIdMu k = some mu →
    ∃ (j : ℕ) (d : Conn δ), s.conns[j]? = some d ∧ d.request.id = k ∧ d.phase.lock = some mu

lemma Sound.independent (h : s.Sound) (hc : s.conns[i]? = some c) (hphase : c.phase ≠ .done)
    (hnext : s.next (.advance i) = none) : ∃ (j : ℕ) (d : Conn δ), s.conns[j]? = some d ∧ j ≠ i ∧
      d.request.id = c.request.id ∧ c.request.id ≠ "" := by
  have hfits := h.fitting i c hc
  simp only [next, hc] at hnext
  obtain ⟨r, p⟩ := c
  cases p with
  | waiting mu =>
    cases hholder : s.holder mu with
    | none => simp [advance, hholder] at hnext
    | some j =>
      obtain ⟨d, hd, hheld⟩ := h.locked.holder.mp hholder
      refine ⟨j, d, hd, ?_, h.locked.injective (h.locked.table hd (Phase.lock_of_held hheld))
        (h.locked.table hc rfl), hfits.2⟩
      rintro rfl
      obtain rfl := some.inj (hd.symm.trans hc)
      cases hheld
  | entering =>
    simp only [advance] at hnext
    split_ifs at hnext
    split at hnext <;> cases hnext
  | checking mu =>
    simp only [advance] at hnext
    split at hnext <;> cases hnext
  | running mu => cases mu <;> cases hnext
  | done => exact absurd rfl hphase
  | rejecting | refusing | storing | leaving | deregistering => cases hnext

lemma Sound.replayed (h : s.Sound) {since : List (Event δ)} (hwindow : s.Window e since)
    (hd : s.conns[j]? = some d) (hid : d.request.id = e.id) (hne : e.id ≠ "")
    (hphase : d.phase = .entering ∨ ∃ mu, d.phase = .checking mu) :
    ∃ t, s.next (.advance j) = some t ∧ t.log = ⟨j, e.id, e.answer, .cache⟩ :: s.log := by
  have hget := hwindow.recent.get? h.replaying.distinct
  rw [← hid] at hget hne ⊢
  obtain ⟨r, p⟩ := d
  rcases hphase with rfl | ⟨mu, rfl⟩
  · exact ⟨s.replay j ⟨r, .entering⟩ e.answer .done, by simp_all [next, advance], rfl⟩
  · exact ⟨s.replay j ⟨r, .checking mu⟩ e.answer (.leaving mu), by simp_all [next, advance], rfl⟩

/-- In every run in which no refused request comes with the id of a request that is let through,
requests with an id are answered once. -/
theorem deduplicated_of_reachable
    (h : (server δ).ReachableWhen (Consistent (·.refused.isSome)) s) : s.Deduplicated := by
  have hs : s.Sound := h.invariant (fun _ hinit => hinit ▸ sound_init)
    fun _ _ _ hs ha hnext => hs.step ha hnext
  refine ⟨hs.locked.exclusive, fun hsplit ho hid hcard => ?_, hs.independent, hs.locked.registered⟩
  have hwindow := hs.replaying.window hsplit ho hid hcard
  exact ⟨fun e' he' hid' => by rw [hwindow.same e' he' hid'], fun hd hdid =>
    ⟨fun hp => (hwindow.alone hd hdid hp).1, hs.replayed hwindow hd hdid hid⟩⟩

/-! ### Who receives an answer -/

/-- Answers are cached under the id of the request for which they were made. -/
structure Traced (s : Server δ) : Prop where
  cached : ∀ {k : String} {a : Answer δ}, (k, a) ∈ s.respCache → k ≠ "" ∧
    ∃ r, s.requests[a.producer]? = some r ∧ r.id = k
  logged : ∀ e ∈ s.log, e.answer.producer = e.request ∨ ∃ r r', s.requests[e.request]? = some r ∧
    s.requests[e.answer.producer]? = some r' ∧ r.id = r'.id ∧ r.id ≠ ""

lemma Traced.mono (h : s.Traced) (hshared : (t.respCache, t.log) = (s.respCache, s.log))
    (hrequests : ∀ {j : ℕ} {r : Request δ}, s.requests[j]? = some r → t.requests[j]? = some r) :
    t.Traced := by
  simp at hshared
  obtain ⟨hcache, hlog⟩ := hshared
  refine ⟨fun {k a} ha => ?_, fun e he => ?_⟩
  · obtain ⟨hk, r, hr, hid⟩ := h.cached (hcache ▸ ha)
    exact ⟨hk, r, hrequests hr, hid⟩
  · refine (h.logged e (hlog ▸ he)).imp_right ?_
    rintro ⟨r, r', hr, hr', hrest⟩
    exact ⟨r, r', hrequests hr, hrequests hr', hrest⟩

/-- A request is answered with what was made for it, or with what is cached. -/
lemma Traced.event (h : s.Traced) (hc : s.conns[i]? = some c)
    (hconns : t.conns = (s.moved i c p).conns) (hlog : t.log = e :: s.log) (he : e.request = i)
    (hcache : ∀ {k a}, (k, a) ∈ t.respCache →
      (k, a) ∈ s.respCache ∨ k = c.request.id ∧ a = e.answer ∧ c.request.id ≠ "")
    (hanswer : e.answer.producer = i ∨ (c.request.id, e.answer) ∈ s.respCache) : t.Traced := by
  have hrequests : t.requests = s.requests := by
    rw [requests, hconns]
    exact requests_moved hc
  have hmine : s.requests[i]? = some c.request := by simp [requests, hc]
  have hmade : e.answer.producer = i ∨ c.request.id ≠ "" ∧
      ∃ r, s.requests[e.answer.producer]? = some r ∧ r.id = c.request.id :=
    hanswer.imp_right h.cached
  refine ⟨fun {k a} ha => ?_, fun e' he' => ?_⟩
  · rw [hrequests]
    obtain ha | ⟨rfl, rfl, hne⟩ := hcache ha
    · exact h.cached ha
    · exact ⟨hne, hmade.elim (fun hi => ⟨_, hi ▸ hmine, rfl⟩) (·.2)⟩
  · rw [hrequests]
    rw [hlog] at he'
    rcases mem_cons.mp he' with rfl | he'
    · rw [he]
      refine hmade.imp_right ?_
      rintro ⟨hne, r, hr, hid⟩
      exact ⟨c.request, r, hmine, hr, hid.symm, hne⟩
    · exact h.logged e' he'

lemma Traced.moves (h : s.Traced) (hfits : Fits c.request c.phase) (hc : s.conns[i]? = some c)
    (hmoves : Moves s i c t) : t.Traced := by
  have hquiet {t : Server δ} {p : Phase δ} (hconns : t.conns = (s.moved i c p).conns)
      (hshared : (t.respCache, t.log) = (s.respCache, s.log)) : t.Traced :=
    h.mono hshared fun hr => by rwa [requests, hconns, show map _ _ = _ from requests_moved hc]
  have hput {k : String} {a b : Answer δ} (hne : c.request.id ≠ "")
      (hmem : (k, b) ∈ s.respCache.put c.request.id a) :
      (k, b) ∈ s.respCache ∨ k = c.request.id ∧ b = a ∧ c.request.id ≠ "" :=
    (Go.Map.mem_put.mp hmem).elim (fun h => .inr ⟨h.1, h.2, hne⟩) fun h => .inl h.2
  cases hmoves with
  | quiet | acquire | release | deregister => exact hquiet rfl rfl
  | register =>
    unfold Server.register
    split
    · exact hquiet rfl rfl
    · exact hquiet rfl rfl
  | replay _ _ _ _ hid ha =>
    exact h.event hc rfl rfl rfl (hput hid) (.inr (Go.Map.mem_of_get? ha))
  | direct => exact h.event hc rfl rfl rfl .inl (.inl rfl)
  | store hphase | refuse hphase =>
    rw [hphase] at hfits
    exact h.event hc rfl rfl rfl (fun hmem => hput hfits.2 (Lru.mem_add hmem)) (.inl rfl)

/-- The answer of a handler is returned to another request only if that is for the same method and
path, and the authentication middleware lets it through. -/
def StaysWithRequester (s : Server δ) : Prop :=
  ∀ e ∈ s.log, ∀ r r', s.requests[e.request]? = some r →
    s.requests[e.answer.producer]? = some r' → r'.refused = none → e.request ≠ e.answer.producer →
      r.method = r'.method ∧ r.path = r'.path ∧ r.refused = none

/-- In every run in which requests with one id are for one method and path, and either all refused or
all let through, no answer of a handler goes to a request for which it is not meant. -/
theorem staysWithRequester_of_reachable
    (h : (server δ).ReachableWhen
      (Consistent fun r => (r.method, r.path, r.refused.isSome)) s) : s.StaysWithRequester := by
  have hs : s.Fitting ∧ s.Agree (fun r => (r.method, r.path, r.refused.isSome)) ∧ s.Traced := by
    refine h.invariant (I := fun s => s.Fitting ∧
      s.Agree (fun r => (r.method, r.path, r.refused.isSome)) ∧ s.Traced) ?_ ?_
    · rintro s rfl
      exact ⟨sound_init.fitting, fun r hr => by simp [requests] at hr, by constructor <;> simp⟩
    · rintro s a t ⟨hfitting, hagree, htraced⟩ ha hnext
      refine ⟨hfitting.step hnext, hagree.step hfitting ha hnext, ?_⟩
      obtain ⟨r, p, -, -, -, rfl⟩ | ⟨i, c, hc, hmoves⟩ := hfitting.next_cases hnext
      · refine htraced.mono rfl fun {j r'} hr' => ?_
        rw [requests, List.map_append]
        exact (List.getElem?_append_left (List.getElem?_eq_some_iff.mp hr').1).trans hr'
      · exact htraced.moves (hfitting i c hc) hc hmoves
  obtain ⟨-, hagree, htraced⟩ := hs
  intro e he r r' hr hr' hrefused hne
  obtain heq | ⟨r₁, r₁', hr₁, hr₁', hid, hid'⟩ := htraced.logged e he
  · exact absurd heq.symm hne
  · obtain rfl := some.inj (hr.symm.trans hr₁)
    obtain rfl := some.inj (hr'.symm.trans hr₁')
    have hsame := hagree r (List.mem_of_getElem? hr) r' (List.mem_of_getElem? hr') hid hid'
    simpa [hrefused] using hsame

end Server

/-! ### Refused requests -/

/-- A request with an id that is let through. -/
def readSetting : Request ℕ := { id := "a", method := "GET", path := "setting" }

/-- The same request without a token. -/
def readSettingUnauthorized : Request ℕ :=
  { readSetting with refused := some (respOf .unauthorized (.coded "no token" "SESSION_INVALID" none)) }

/-- A request is let through, and its handler answers with `data`. -/
def answered (data : ℕ) : List (ServerStep ℕ) :=
  [.arrive readSetting, .advance 0, .advance 0, .advance 0, .respond 0 .success (.other data),
    .advance 0]

/-- The refused request receives what the handler made for the other one. -/
theorem refused_receives_answer :
    ∃ s, (server ℕ).run {} (answered 7 ++ [.arrive readSettingUnauthorized, .advance 1]) = some s ∧
      ¬s.StaysWithRequester := by
  refine ⟨_, rfl, fun h => ?_⟩
  have hrefused := h _ (mem_cons_self ..) readSettingUnauthorized readSetting rfl rfl rfl
    (by decide)
  cases hrefused.2.2

/-- A request that is sent again receives the answer, too. -/
theorem staysWithRequester_replayed :
    ∃ s, (server ℕ).run {} (answered 7 ++ [.arrive readSetting, .advance 1]) = some s ∧
      s.StaysWithRequester :=
  ⟨_, rfl, Server.staysWithRequester_of_reachable
    (.run (.init rfl) (answered 7 ++ [.arrive readSetting, .advance 1]) rfl)⟩

theorem locked_answered : ∃ s, (server ℕ).run {} (answered 7) = some s ∧ s.Locked :=
  ⟨_, rfl, Server.locked_of_reachable (.run (.init rfl) (answered 7) rfl)⟩

/-- A refused request finds its id not cached before the handler answers, and overwrites the answer
afterwards. A third request with this id then receives the refusal. -/
theorem refusal_replaces_answer :
    ∃ s, (server ℕ).run {} [.arrive readSettingUnauthorized, .advance 0, .arrive readSetting,
      .advance 1, .advance 1, .advance 1, .respond 1 .success (.other 7), .advance 1, .advance 0,
      .arrive readSetting, .advance 2] = some s ∧ ¬s.Deduplicated := by
  refine ⟨_, rfl, fun h => ?_⟩
  have hsame := (@Server.Deduplicated.replayed _ _ h [_, _] _ [] rfl rfl (by decide)
    (by decide)).1 _ (mem_cons_self ..) rfl
  exact absurd (congrArg Resp.status hsame) (by decide)

theorem deduplicated_replayed :
    ∃ s, (server ℕ).run {} (answered 7 ++ [.arrive readSetting, .advance 1]) = some s ∧
      s.Deduplicated :=
  ⟨_, rfl, Server.deduplicated_of_reachable
    (.run (.init rfl) (answered 7 ++ [.arrive readSetting, .advance 1]) rfl)⟩

end V2rayA.ReqCache
