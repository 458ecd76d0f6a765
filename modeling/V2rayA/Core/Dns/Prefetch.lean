import V2rayA.Core.Dns.Cache
import V2rayA.ToMathlib.Transition

/-!
# Prefetching without negative answers

An entry that is about to expire is asked for again when it is served. If negative answers are not
to be cached, that never puts one in the place of the entry.
-/

namespace V2rayA.Dns

/-- What an entry remembers of prefetching. -/
structure PrefetchMark where
  prefetching : Bool := false
  failCount : ℕ := 0
  lastFail : ℤ := 0
  deriving DecidableEq

/-- The cache, with what the entry for a key remembers. -/
structure PrefetchCache where
  cache : DnsCache
  mark : CacheKey → PrefetchMark := fun _ => {}

/-- The operations of the cache, each of which holds its lock. -/
inductive CacheOp
  | get (now : ℤ) (key : CacheKey)
  | set (now : ℤ) (key : CacheKey) (resp : DnsResponse) (originalTTL : ℕ)
  | setPrefetching (key : CacheKey) (status : Bool)
  | recordPrefetchFailure (now : ℤ) (key : CacheKey)
  | recordPrefetchSuccess (key : CacheKey)

/-- The answers that are not cached if negative answers are not. -/
def DnsResponse.isNegative (resp : DnsResponse) : Bool :=
  resp.rcode ∈ [rcodeNameError, rcodeServerFailure, rcodeRefused]

namespace PrefetchCache

/-- Change what an entry remembers, if there is one. -/
def modify (c : PrefetchCache) (key : CacheKey) (f : PrefetchMark → PrefetchMark) : PrefetchCache :=
  if c.cache.entries.any (·.key = key) then
    { c with mark := Function.update c.mark key (f (c.mark key)) }
  else c

def run (c : PrefetchCache) : CacheOp → PrefetchCache
  | .get now key => { c with cache := (c.cache.get now key).2 }
  | .set now key resp originalTTL =>
    let cache := c.cache.set now key resp originalTTL
    if ¬c.cache.config.negativeCache ∧ resp.isNegative then c
    else if c.cache.entries.any (·.key = key) then
      { c.modify key fun p =>
          { p with
            prefetching := false
            failCount := if resp.rcode = rcodeSuccess then 0 else p.failCount } with cache }
    else { cache, mark := Function.update c.mark key {} }
  | .setPrefetching key status => c.modify key ({ · with prefetching := status })
  | .recordPrefetchFailure now key => c.modify key fun p =>
    { prefetching := false, failCount := p.failCount + 1, lastFail := now }
  | .recordPrefetchSuccess key => c.modify key ({ · with prefetching := false, failCount := 0 })

@[simp] lemma cache_modify (c : PrefetchCache) (key : CacheKey) (f : PrefetchMark → PrefetchMark) :
    (c.modify key f).cache = c.cache := by
  unfold modify
  split_ifs <;> rfl

end PrefetchCache

/-- Calls of the cache in any order. -/
def prefetchSystem (config : CacheConfig) : Transition.System PrefetchCache CacheOp where
  init c := c = { cache := newDnsCache config }
  next c op := some (c.run op)

variable {config : CacheConfig} {c : PrefetchCache}

/-- No answer in the cache is negative. -/
structure Positive (config : CacheConfig) (c : DnsCache) : Prop where
  config : c.config = config
  entries : ∀ e ∈ c.entries, e.response.isNegative = false

lemma set_of_isNegative {c : DnsCache} {resp : DnsResponse} (now : ℤ) (key : CacheKey) (ttl : ℕ)
    (hoff : c.config.negativeCache = false) (h : resp.isNegative) :
    c.set now key resp ttl = c := by
  rw [DnsCache.set, if_pos ⟨by simp [hoff], by simpa [DnsResponse.isNegative] using h⟩]

lemma Positive.run (hoff : config.negativeCache = false) (h : Positive config c.cache)
    (op : CacheOp) : Positive config (c.run op).cache := by
  cases op with
  | get now key =>
    refine ⟨?_, fun e he => ?_⟩
    · rw [← h.config]
      simp only [PrefetchCache.run, DnsCache.get]
      split <;> [rfl; split <;> rfl]
    · obtain ⟨e', he', -, hresp⟩ := exists_of_mem_get he
      exact hresp ▸ h.entries e' he'
  | set now key resp ttl =>
    have hcache : (c.run (.set now key resp ttl)).cache = c.cache.set now key resp ttl := by
      dsimp only [PrefetchCache.run]
      split_ifs with hneg
      · rw [set_of_isNegative _ _ _ (by simpa using hneg.1) hneg.2]
      all_goals rfl
    rw [hcache]
    refine ⟨?_, fun e he => ?_⟩
    · rw [← h.config, DnsCache.set]
      dsimp only
      split_ifs <;> rfl
    · by_cases hneg : resp.isNegative = true
      · rw [set_of_isNegative _ _ _ (h.config ▸ hoff) hneg] at he
        exact h.entries e he
      · rcases mem_set he with ⟨-, rfl⟩ | he
        · simpa using hneg
        · exact h.entries e he
  | setPrefetching key status => simpa [PrefetchCache.run] using h
  | recordPrefetchFailure now key => simpa [PrefetchCache.run] using h
  | recordPrefetchSuccess key => simpa [PrefetchCache.run] using h

/-- If negative answers are not cached, none is served, and a prefetch that gets one leaves the
cache as it is. -/
theorem not_isNegative_of_reachable (hoff : config.negativeCache = false)
    (hc : (prefetchSystem config).Reachable c) (now : ℤ) (key : CacheKey) (resp : DnsResponse) :
    ((c.cache.get now key).1 = some resp → resp.isNegative = false) ∧
      (resp.isNegative → ∀ ttl,
        ((c.run (.set now key resp ttl)).run (.recordPrefetchSuccess key)).cache = c.cache) := by
  have hpos : Positive config c.cache := by
    refine hc.invariant (I := fun c : PrefetchCache => Positive config c.cache) ?_ ?_
    · rintro _ rfl
      exact ⟨rfl, by simp [newDnsCache]⟩
    · rintro s op t h - ht
      exact Option.some.inj ht ▸ h.run hoff op
  refine ⟨fun hget => ?_, fun hneg ttl => ?_⟩
  · obtain ⟨e, he, -, -, hrcode⟩ := exists_of_get hget
    rw [DnsResponse.isNegative, ← hrcode]
    exact hpos.entries e he
  · have hrun : c.run (.set now key resp ttl) = c := if_pos ⟨by simp [hpos.config, hoff], hneg⟩
    rw [hrun]
    exact PrefetchCache.cache_modify ..

/-- A cached answer that is asked for again. -/
theorem not_isNegative_textAnswer :
    let key : CacheKey := ⟨"8.8.8.8:53", "direct", "example.com.", 1⟩
    let resp : DnsResponse := { query := ⟨"example.com.", 1, []⟩ }
    let c := PrefetchCache.run { cache := newDnsCache { negativeCache := false } } (.set 0 key resp 60)
    ((c.run (.set 50 key { resp with rcode := rcodeServerFailure } 0)).run
      (.recordPrefetchSuccess key)).cache = c.cache :=
  (not_isNegative_of_reachable rfl (.step (.init rfl) trivial rfl) 50 _ _).2 rfl 0

end V2rayA.Dns
