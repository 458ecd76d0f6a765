import V2rayA.Go.Strings

/-!
# Go network addresses

The parts of the package `net` that take texts with a host and a port apart and that classify IP
addresses. `splitHostPort_joinHostPort` is the round trip; it needs a host without brackets.
-/

namespace Go

open List

/-! ### Hosts with ports -/

/-- `net.JoinHostPort`. -/
def joinHostPort (host port : String) : String :=
  if ':' ∈ host.toList then "[" ++ host ++ "]:" ++ port else host ++ ":" ++ port

/-- `net.SplitHostPort`, `none` for an error. -/
def splitHostPort (s : String) : Option (String × String) :=
  match s.toList with
  | '[' :: rest =>
    -- the first closing bracket has to stand right before the last colon
    match rest.dropWhile (· ≠ ']') with
    | ']' :: ':' :: port =>
      if '[' ∈ rest ∨ ':' ∈ port ∨ ']' ∈ port then none
      else some (String.ofList (rest.takeWhile (· ≠ ']')), String.ofList port)
    | _ => none
  | cs =>
    match cs.dropWhile (· ≠ ':') with
    | ':' :: port =>
      if ':' ∈ port ∨ '[' ∈ cs ∨ ']' ∈ cs then none
      else some (String.ofList (cs.takeWhile (· ≠ ':')), String.ofList port)
    | _ => none

example : splitHostPort "dns.google:53" = some ("dns.google", "53") := by decide
example : splitHostPort "[2001:db8::1]:53" = some ("2001:db8::1", "53") := by decide
example : (splitHostPort "dns.google", splitHostPort "2001:db8::1", splitHostPort "[::1]") =
    (none, none, none) := by decide

/-- A text without brackets, as the hosts that `splitHostPort` returns. -/
def Unbracketed (s : String) : Prop := '[' ∉ s.toList ∧ ']' ∉ s.toList

instance (s : String) : Decidable (Unbracketed s) := inferInstanceAs (Decidable (_ ∧ _))

/-- A text that can stand after the last colon of an address. -/
def IsPort (s : String) : Prop := ':' ∉ s.toList ∧ Unbracketed s

instance (s : String) : Decidable (IsPort s) := inferInstanceAs (Decidable (_ ∧ _))

private lemma dropWhile_append_cons {c : Char} {l : List Char} (h : c ∉ l) (rest : List Char) :
    (l ++ c :: rest).dropWhile (· ≠ c) = c :: rest ∧
      (l ++ c :: rest).takeWhile (· ≠ c) = l := by
  have hall : ∀ x ∈ l, decide (x ≠ c) := fun x hx => by
    simpa using fun heq : x = c => h (heq ▸ hx)
  rw [dropWhile_append_of_pos hall, takeWhile_append_of_pos hall]
  simp

private lemma eq_append_of_dropWhile {c d : Char} {l rest : List Char}
    (h : l.dropWhile (· ≠ c) = d :: rest) :
    d = c ∧ l = l.takeWhile (· ≠ c) ++ c :: rest ∧ c ∉ l.takeWhile (· ≠ c) := by
  have hd : d = c := by
    have := head?_dropWhile_not (fun x => decide (x ≠ c)) l
    rw [h] at this
    simpa using this
  refine ⟨hd, ?_, fun hmem => ?_⟩
  · rw [← hd] at h ⊢
    rw [← h, takeWhile_append_dropWhile]
  · simpa using mem_takeWhile_imp hmem

/-- `net.SplitHostPort` undoes `net.JoinHostPort`. -/
lemma splitHostPort_joinHostPort {host port : String} (hhost : Unbracketed host)
    (hport : IsPort port) : splitHostPort (joinHostPort host port) = some (host, port) := by
  obtain ⟨hopen, hclose⟩ := hhost
  obtain ⟨hpcolon, hpopen, hpclose⟩ := hport
  unfold joinHostPort
  split
  next hcolon =>
    -- a host with colons is put in brackets
    have htext : ("[" ++ host ++ "]:" ++ port).toList =
        '[' :: (host.toList ++ ']' :: ':' :: port.toList) := by simp
    obtain ⟨hdrop, htake⟩ := dropWhile_append_cons hclose (':' :: port.toList)
    unfold splitHostPort
    rw [htext]
    simp only [hdrop, htake]
    rw [if_neg (by simp [hopen, hpcolon, hpopen, hpclose])]
    simp
  next hcolon =>
    have htext : (host ++ ":" ++ port).toList = host.toList ++ ':' :: port.toList := by simp
    obtain ⟨hdrop, htake⟩ := dropWhile_append_cons hcolon port.toList
    unfold splitHostPort
    rw [htext]
    split
    next rest heq =>
      -- the text does not start with a bracket
      have hmem : '[' ∈ host.toList ++ ':' :: port.toList := heq ▸ mem_cons_self
      simp [hopen, hpopen] at hmem
    next =>
      simp only [hdrop, htake]
      rw [if_neg (by simp [hopen, hclose, hpcolon, hpopen, hpclose])]
      simp

variable {s host port : String}

section

variable (h : splitHostPort s = some (host, port))
include h

/-- What `net.SplitHostPort` takes apart. -/
lemma splitHostPort_cases :
    (Unbracketed host ∧ IsPort port) ∧
      (s.toList = host.toList ++ ':' :: port.toList ∨
        s.toList = '[' :: (host.toList ++ ']' :: ':' :: port.toList)) := by
  unfold splitHostPort at h
  split at h
  next rest hs =>
    split at h
    next port' hdrop =>
      split at h
      next => cases h
      next hno =>
        cases h
        obtain ⟨-, heq, hclose⟩ := eq_append_of_dropWhile hdrop
        simp at hno
        obtain ⟨hopen, hcolon, hclose'⟩ := hno
        rw [hs, String.toList_ofList, String.toList_ofList]
        refine ⟨?_, .inr (congrArg _ heq)⟩
        rw [heq] at hopen
        simp only [mem_append, mem_cons, not_or] at hopen
        simp only [Unbracketed, IsPort, String.toList_ofList]
        exact ⟨⟨hopen.1, hclose⟩, hcolon, hopen.2.2.2, hclose'⟩
    next => cases h
  next =>
    split at h
    next port' hdrop =>
      split at h
      next => cases h
      next hno =>
        cases h
        obtain ⟨-, heq, -⟩ := eq_append_of_dropWhile hdrop
        simp at hno
        obtain ⟨hcolon, hopen, hclose⟩ := hno
        rw [String.toList_ofList, String.toList_ofList]
        refine ⟨?_, .inl heq⟩
        rw [heq] at hopen hclose
        simp only [mem_append, mem_cons, not_or] at hopen hclose
        simp only [Unbracketed, IsPort, String.toList_ofList]
        exact ⟨⟨hopen.1, hclose.1⟩, hcolon, hopen.2.2, hclose.2.2⟩
    next => cases h

/-- The host and the port that `net.SplitHostPort` returns can be joined again. -/
lemma unbracketed_of_splitHostPort :
    Unbracketed host ∧ IsPort port :=
  (splitHostPort_cases h).1

/-- What is not part of the syntax is found in the host or in the port. -/
lemma mem_iff_of_splitHostPort {c : Char}
    (hspecial : c ∉ ['[', ']', ':']) :
    c ∈ s.toList ↔ c ∈ host.toList ∨ c ∈ port.toList := by
  simp only [mem_cons, not_or] at hspecial
  rcases (splitHostPort_cases h).2 with heq | heq <;> simp [heq, hspecial]

end

variable {host : String}

/-- Appending a port to a text with a colon does not make it a host with a port: outside brackets
there may be one colon only. -/
lemma splitHostPort_append_of_mem (hhost : Unbracketed host) (hcolon : ':' ∈ host.toList)
    (port : String) : splitHostPort (host ++ ":" ++ port) = none := by
  have htext : (host ++ ":" ++ port).toList = host.toList ++ ':' :: port.toList := by simp
  unfold splitHostPort
  rw [htext]
  split
  next rest heq =>
    -- the text does not start with a bracket: its first character is one of the host
    obtain ⟨c, cs, hcs⟩ := exists_cons_of_ne_nil (ne_nil_of_mem hcolon)
    rw [hcs, cons_append, cons.injEq] at heq
    exact absurd (hcs ▸ heq.1 ▸ mem_cons_self) hhost.1
  next =>
    obtain ⟨l, r, heq, hl⟩ := eq_append_cons_of_mem hcolon
    rw [heq, append_assoc, cons_append]
    obtain ⟨hdrop, -⟩ := dropWhile_append_cons hl (r ++ ':' :: port.toList)
    simp only [hdrop]
    rw [if_pos (by simp)]

/-- An address in brackets has no port. -/
lemma splitHostPort_brackets (hhost : Unbracketed host) :
    splitHostPort ("[" ++ host ++ "]") = none := by
  have htext : ("[" ++ host ++ "]").toList = '[' :: (host.toList ++ [']']) := by simp
  obtain ⟨hdrop, -⟩ := dropWhile_append_cons hhost.2 []
  unfold splitHostPort
  rw [htext]
  simp only [hdrop]

/-- An address in brackets is put in brackets once more, and then it is none. -/
lemma splitHostPort_joinHostPort_brackets (hcolon : ':' ∈ host.toList) (port : String) :
    splitHostPort (joinHostPort ("[" ++ host ++ "]") port) = none := by
  have htext : (joinHostPort ("[" ++ host ++ "]") port).toList =
      '[' :: '[' :: (host.toList ++ ']' :: ']' :: ':' :: port.toList) := by
    unfold joinHostPort
    rw [if_pos (by simp [hcolon])]
    simp
  unfold splitHostPort
  rw [htext]
  split
  next rest heq =>
    obtain rfl : _ = rest := (cons.inj heq).2
    split
    next =>
      rw [if_pos (by simp)]
    next => rfl
  next hno => exact absurd rfl (hno _)

/-! ### IP addresses -/

/-- `net.IP`: the bytes of an address, none of them for `nil`. -/
abbrev IP : Type := List UInt8

namespace IP

/-- `To4`: the four bytes of an IPv4 address, in whichever of its two forms. -/
def to4 (ip : IP) : Option IP :=
  if ip.length = 4 then some ip
  else if ip.length = 16 ∧ ip.take 12 = [0, 0, 0, 0, 0, 0, 0, 0, 0, 0, 0xff, 0xff] then
    some (ip.drop 12)
  else none

/-- The byte at a position. -/
def byte (ip : IP) (i : ℕ) : UInt8 := ip.getD i 0

/-- `IsLoopback`. -/
def isLoopback (ip : IP) : Bool :=
  match ip.to4 with
  | some ip4 => ip4.byte 0 = 127
  | none => ip = List.replicate 15 0 ++ [1]

/-- `IsPrivate`. -/
def isPrivate (ip : IP) : Bool :=
  match ip.to4 with
  | some ip4 =>
    ip4.byte 0 = 10 ∨ (ip4.byte 0 = 172 ∧ ip4.byte 1 &&& 0xf0 = 16) ∨
      (ip4.byte 0 = 192 ∧ ip4.byte 1 = 168)
  | none => ip.length = 16 ∧ ip.byte 0 &&& 0xfe = 0xfc

/-- `IsLinkLocalUnicast`. -/
def isLinkLocalUnicast (ip : IP) : Bool :=
  match ip.to4 with
  | some ip4 => ip4.byte 0 = 169 ∧ ip4.byte 1 = 254
  | none => ip.length = 16 ∧ ip.byte 0 = 0xfe ∧ ip.byte 1 &&& 0xc0 = 0x80

/-- `IsMulticast`. -/
def isMulticast (ip : IP) : Bool :=
  match ip.to4 with
  | some ip4 => ip4.byte 0 &&& 0xf0 = 0xe0
  | none => ip.length = 16 ∧ ip.byte 0 = 0xff

/-- `IsUnspecified`. -/
def isUnspecified (ip : IP) : Bool :=
  ip.to4 = some [0, 0, 0, 0] ∨ ip = List.replicate 16 0

/-- `IsGlobalUnicast`. -/
def isGlobalUnicast (ip : IP) : Bool :=
  (ip.length = 4 ∨ ip.length = 16) ∧ ip.to4 ≠ some [255, 255, 255, 255] ∧ ¬ip.isUnspecified ∧
    ¬ip.isLoopback ∧ ¬ip.isMulticast ∧ ¬ip.isLinkLocalUnicast

end IP

/-- `net.IPNet`. -/
structure IPNet where
  ip : IP
  mask : List UInt8
  deriving DecidableEq, Repr

/-- `networkNumberAndMask`. -/
def IPNet.numberAndMask (n : IPNet) : IP × List UInt8 :=
  let ip := n.ip.to4.getD n.ip
  if ip.length ≠ 4 ∧ ip.length ≠ 16 then ([], [])
  else if n.mask.length = 4 then if ip.length = 4 then (ip, n.mask) else ([], [])
  else if n.mask.length = 16 then (ip, if ip.length = 4 then n.mask.drop 12 else n.mask)
  else ([], [])

/-- `Contains`. -/
def IPNet.contains (n : IPNet) (ip : IP) : Bool :=
  let (number, mask) := n.numberAndMask
  let ip := ip.to4.getD ip
  ip.length = number.length ∧
    (List.zipWith (· &&& ·) number mask) = List.zipWith (· &&& ·) ip mask

example : (⟨[10, 0, 0, 0], [255, 0, 0, 0]⟩ : IPNet).contains [10, 1, 2, 3] = true := by decide

end Go
