import V2rayA.Core.Dns.Message

/-!
# The cache of the DNS module

A cache of a bounded number of responses. `entries` is the list in which the source orders the
entries by their last use, the most recent first; its map from keys to entries is looked up by
searching the list. Times are in nanoseconds.

* `exists_of_get`, `mem_set`: where what is served and stored comes from.
-/

namespace V2rayA.Dns

open List

/-- `CacheKey`. -/
structure CacheKey where
  upstreamAddr : String
  proxyTag : String
  name : String
  qtype : ℕ
  deriving DecidableEq, Repr

/-- `CacheEntry`. -/
structure CacheEntry where
  key : CacheKey
  response : DnsResponse
  originalTTL : ℕ
  effectiveTTL : ℕ
  storedAt : ℤ
  expiresAt : ℤ
  hitCount : ℕ := 0
  negative : Bool
  deriving DecidableEq, Repr

/-- `CacheStats`. -/
structure CacheStats where
  size : ℕ := 0
  hits : ℕ := 0
  misses : ℕ := 0
  evictions : ℕ := 0
  deriving DecidableEq, Repr

/-- `DnsCache`. -/
structure DnsCache where
  config : CacheConfig := {}
  maxSize : ℕ := 4096
  entries : List CacheEntry := []
  stats : CacheStats := {}
  deriving DecidableEq, Repr

/-- `NewDnsCache`. -/
def newDnsCache (config : CacheConfig) : DnsCache :=
  { config, maxSize := if config.size ≤ 0 then 4096 else config.size.toNat }

/-! ### Lifetimes -/

/-- `calculateEffectiveTTL`. -/
def calculateEffectiveTTL (originalTTL : ℕ) (minTTL maxTTL : ℤ) : ℕ :=
  let minTTL := if minTTL ≤ 0 then 60 else minTTL.toNat % 2 ^ 32
  let maxTTL := if maxTTL ≤ 0 then 86400 else maxTTL.toNat % 2 ^ 32
  min (max originalTTL minTTL) maxTTL

/-- `negativeTTL`. -/
def negativeTTL (rcode : ℕ) : ℕ :=
  if rcode = rcodeNameError then 60
  else if rcode = rcodeServerFailure then 30
  else if rcode = rcodeRefused then 10
  else 5

/-- `computeEffectiveTTL`. -/
def computeEffectiveTTL (resp : DnsResponse) (originalTTL : ℕ) (config : CacheConfig) : ℕ :=
  if resp.rcode ≠ rcodeSuccess then negativeTTL resp.rcode
  else calculateEffectiveTTL originalTTL config.minTTL config.maxTTL

/-- `decreaseRecordTTLs`. -/
def decreaseRecordTTLs (elapsed minTTL : ℕ) (records : List RR) : List RR :=
  records.map fun r =>
    if r.rrtype = RR.typeOPT ∨ r.rrtype = RR.typeTSIG then r
    else r.modifyTTL fun ttl => max (ttl - elapsed) minTTL

/-- `copyCachedResponse`. -/
def copyCachedResponse (response : DnsResponse) (elapsed configuredMinTTL : ℤ) : DnsResponse :=
  let minTTL := if configuredMinTTL > 0 then configuredMinTTL.toNat % 2 ^ 32 else 60
  let seconds := (elapsed / Go.Duration.second).toNat % 2 ^ 32
  let answer := decreaseRecordTTLs seconds minTTL (response.rawMsg.elim response.answer Msg.answer)
  let authority := decreaseRecordTTLs seconds minTTL (response.rawMsg.elim response.authority Msg.ns)
  let additional :=
    decreaseRecordTTLs seconds minTTL (response.rawMsg.elim response.additional Msg.extra)
  { response with
    rawMsg := response.rawMsg.map fun m => { m with answer, ns := authority, extra := additional }
    answer, authority, additional
    ttl := if answer = [] then response.ttl else shortestTTL answer
    cached := true }

/-! ### Operations -/

namespace DnsCache

/-- `Get`. -/
def get (c : DnsCache) (now : ℤ) (key : CacheKey) : Option DnsResponse × DnsCache :=
  let miss (entries : List CacheEntry) : Option DnsResponse × DnsCache :=
    (none, { c with entries, stats := { c.stats with misses := c.stats.misses + 1 } })
  let others := c.entries.filter (·.key ≠ key)
  match c.entries.find? (·.key = key) with
  | none => miss c.entries
  | some entry =>
    if entry.expiresAt < now then miss others
    else
      (some (copyCachedResponse entry.response (now - entry.storedAt) c.config.minTTL),
        { c with
          entries := { entry with hitCount := entry.hitCount + 1 } :: others
          stats := { c.stats with hits := c.stats.hits + 1 } })

/-- `Set`. -/
def set (c : DnsCache) (now : ℤ) (key : CacheKey) (resp : DnsResponse) (originalTTL : ℕ) :
    DnsCache :=
  if ¬c.config.negativeCache ∧
      resp.rcode ∈ [rcodeNameError, rcodeServerFailure, rcodeRefused] then c
  else
    let effectiveTTL := computeEffectiveTTL resp originalTTL c.config
    let entry : CacheEntry :=
      { key, response := resp, originalTTL, effectiveTTL, storedAt := now
        expiresAt := now + effectiveTTL * Go.Duration.second
        hitCount := ((c.entries.find? (·.key = key)).map CacheEntry.hitCount).getD 0
        negative := resp.rcode ≠ rcodeSuccess }
    let entries := entry :: c.entries.filter (·.key ≠ key)
    if (c.entries.find? (·.key = key)).isSome then
      { c with entries, stats := { c.stats with size := entries.length } }
    else if c.maxSize < entries.length then
      -- the entry that was not used for longest makes room
      { c with
        entries := entries.dropLast
        stats := { c.stats with
          size := entries.length - 1
          evictions := c.stats.evictions + 1 } }
    else { c with entries, stats := { c.stats with size := entries.length } }

end DnsCache

/-! ### Where entries come from -/

variable {c : DnsCache} {now : ℤ} {key : CacheKey}

/-- The entries after a look-up were there before, up to the number of their uses. -/
lemma exists_of_mem_get {e : CacheEntry} (h : e ∈ (c.get now key).2.entries) :
    ∃ e' ∈ c.entries, e'.key = e.key ∧ e'.response = e.response := by
  unfold DnsCache.get at h
  cases hfind : c.entries.find? (·.key = key) with
  | none =>
    simp only [hfind] at h
    exact ⟨e, h, rfl, rfl⟩
  | some entry =>
    simp only [hfind] at h
    split at h
    · exact ⟨e, mem_of_mem_filter h, rfl, rfl⟩
    · rcases mem_cons.mp h with rfl | h
      · exact ⟨entry, mem_of_find?_eq_some hfind, rfl, rfl⟩
      · exact ⟨e, mem_of_mem_filter h, rfl, rfl⟩

/-- What is served from the cache is an entry with the key that was looked up. -/
lemma exists_of_get {resp : DnsResponse} (h : (c.get now key).1 = some resp) :
    ∃ e ∈ c.entries, e.key = key ∧ e.response.query = resp.query ∧
      e.response.rcode = resp.rcode := by
  unfold DnsCache.get at h
  cases hfind : c.entries.find? (·.key = key) with
  | none => simp [hfind] at h
  | some entry =>
    simp only [hfind] at h
    split at h
    · cases h
    · cases h
      exact ⟨entry, mem_of_find?_eq_some hfind, by simpa using find?_some hfind, rfl, rfl⟩

/-- An entry after a response was stored is the one for it or was there before. -/
lemma mem_set {resp : DnsResponse} {ttl : ℕ} {e : CacheEntry}
    (h : e ∈ (c.set now key resp ttl).entries) :
    (e.key = key ∧ e.response = resp) ∨ e ∈ c.entries := by
  unfold DnsCache.set at h
  split at h
  · exact .inr h
  · have hcons {entry : CacheEntry} (hentry : entry.key = key ∧ entry.response = resp)
        (h : e ∈ entry :: c.entries.filter (·.key ≠ key)) :
        (e.key = key ∧ e.response = resp) ∨ e ∈ c.entries := by
      rcases mem_cons.mp h with rfl | h
      · exact .inl hentry
      · exact .inr (mem_of_mem_filter h)
    simp only at h
    split at h
    · exact hcons ⟨rfl, rfl⟩ h
    · split at h
      · exact hcons ⟨rfl, rfl⟩ ((dropLast_sublist _).subset h)
      · exact hcons ⟨rfl, rfl⟩ h

end V2rayA.Dns
