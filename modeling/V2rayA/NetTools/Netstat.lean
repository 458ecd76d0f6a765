import V2rayA.Go.Strings

/-!
# The processes of sockets

The name and the parent of a process are read from its `stat` file, which is split at white space.

* `getProcessInfo_eq_iff`: this works if and only if there is no white space in the name.
-/

namespace V2rayA.Netstat

open List

/-- Bytes as Go decodes them: characters, and bytes that belong to none. -/
abbrev Bytes : Type := List (Char ⊕ UInt8)

def bytes (s : String) : Bytes := s.toList.map .inl

def isSpace : Char ⊕ UInt8 → Bool
  | .inl c => Go.isSpace c
  | .inr _ => false

/-- `bytes.Fields`. -/
def fields (b : Bytes) : List Bytes := (b.splitOnP isSpace).filter (· ≠ [])

/-- `getProcName`. -/
def getProcName (s : Bytes) : Bytes :=
  let s := (s.dropWhile (· ≠ .inl '(')).tail
  (s.reverse.dropWhile (· ≠ .inl ')')).tail.reverse

/-- `getProcessInfo`, on the contents of the file. The result is `none` if the program panics. -/
def getProcessInfo (b : Bytes) : Option (Bytes × Bytes) := do
  let sp := fields b
  return (getProcName (← sp[1]?), ← sp[3]?)

/-- What the kernel says of a process. -/
structure ProcStat where
  pid : ℕ
  comm : Bytes
  state : Char
  ppid : ℕ
  rest : Bytes
  state_isSpace : isSpace (.inl state) = false

/-- The line of a process. -/
def ProcStat.line (p : ProcStat) : Bytes :=
  bytes (toString p.pid) ++ .inl ' ' :: (.inl '(' :: p.comm ++ [.inl ')'] ++ .inl ' ' ::
    ([.inl p.state] ++ .inl ' ' :: (bytes (toString p.ppid) ++ .inl ' ' :: p.rest)))

variable {s rest : Bytes}

lemma fields_append (hs : ∀ r ∈ s, isSpace r = false) (hne : s ≠ []) {sep : Char ⊕ UInt8}
    (hsep : isSpace sep) : fields (s ++ sep :: rest) = s :: fields rest := by
  rw [fields, splitOnP_append_cons _ _ hsep, splitOnP_eq_singleton hs]
  simp [hne, fields]

lemma fields_number (n : ℕ) : fields (bytes (toString n) ++ .inl ' ' :: rest) =
    bytes (toString n) :: fields rest := by
  obtain ⟨hne, hdigits⟩ := Go.all_isDigit_toString_nat n
  refine fields_append (fun r hr => ?_) (by simp [bytes]) rfl
  obtain ⟨c, hc, rfl⟩ := mem_map.mp hr
  have hdigit := all_eq_true.mp hdigits c hc
  simp [isSpace, Go.isSpace, Char.isDigit, UInt32.le_iff_toNat_le] at hdigit ⊢
  omega

/-- Name and parent are read if and only if there is no white space in the name. -/
theorem getProcessInfo_eq_iff (p : ProcStat) :
    getProcessInfo p.line = some (p.comm, bytes (toString p.ppid)) ↔
      ∀ r ∈ p.comm, isSpace r = false := by
  rw [getProcessInfo, ProcStat.line, fields_number]
  cases hfind : p.comm.find? isSpace with
  | none =>
    have hcomm : ∀ r ∈ p.comm, isSpace r = false := by simpa using find?_eq_none.mp hfind
    have hfield : ∀ r ∈ .inl '(' :: p.comm ++ [.inl ')'], isSpace r = false :=
      forall_mem_append.mpr ⟨forall_mem_cons.mpr ⟨rfl, hcomm⟩, forall_mem_singleton.mpr rfl⟩
    rw [fields_append hfield (by simp) rfl,
      fields_append (by simpa using p.state_isSpace) (by simp) rfl, fields_number]
    simpa [getProcName] using hcomm
  | some r =>
    obtain ⟨hr, name, more, hcomm, hname⟩ := find?_eq_some_iff_append.mp hfind
    generalize Sum.inl ' ' :: ([Sum.inl p.state] ++ _) = more'
    have hsplit : .inl '(' :: p.comm ++ [.inl ')'] ++ more' =
        (.inl '(' :: name) ++ r :: (more ++ .inl ')' :: more') := by simp [hcomm]
    have hfield : ∀ r ∈ .inl '(' :: name, isSpace r = false := by
      simp only [Bool.not_eq_true'] at hname
      exact forall_mem_cons.mpr ⟨rfl, hname⟩
    rw [hsplit, fields_append hfield (by simp) hr]
    refine iff_of_false (fun h => ?_) fun h => ?_
    · -- the field ends where the white space begins, so that the name is too short
      have hlength := (dropWhile_sublist (l := name.reverse) (· ≠ Sum.inl ')')).length_le
      simp only [getElem?_cons_succ, getElem?_cons_zero, Option.bind_eq_bind, Option.bind_some] at h
      obtain ⟨_, -, h⟩ := Option.bind_eq_some_iff.mp h
      have hshort := congrArg (fun x => x.1.length) (Option.some.inj h)
      simp [getProcName, hcomm] at hshort hlength
      omega
    · simp [h r (by simp [hcomm])] at hr

/-- A process whose name has a blank. -/
def webContent : ProcStat := ⟨7, bytes "Web Content", 'S', 1, [], rfl⟩

theorem getProcessInfo_webContent : getProcessInfo webContent.line = some ([], bytes "S") := by
  decide +kernel

end V2rayA.Netstat
