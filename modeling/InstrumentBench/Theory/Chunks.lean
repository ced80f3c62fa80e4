/-
# Theory.Chunks -- a byte stream that arrives in chunks

A receiver asks for at most so many bytes and gets some of those that have arrived, at
least one, or none when the stream has ended.  How the bytes are split is the network's
choice; reading an exact count is independent of it (`readExact_of_enough`,
`readExact_of_short`).
-/
import InstrumentBench.Theory.Text

namespace InstrumentBench.Theory

set_option autoImplicit false

/-- What a stream still delivers; every chunk holds something. -/
structure ChunkStream where
  chunks : List Bytes
  filled : ∀ chunk ∈ chunks, chunk ≠ []

namespace ChunkStream

def bytes (s : ChunkStream) : Bytes := s.chunks.flatten

/-- `recv(count)` -/
def recv : ChunkStream → Nat → Bytes × ChunkStream
  | ⟨[], filled⟩, _ => ([], ⟨[], filled⟩)
  | ⟨chunk :: rest, filled⟩, count =>
      if short : count < chunk.length then
        (chunk.take count, ⟨chunk.drop count :: rest, by
          intro other member
          rcases List.mem_cons.1 member with rfl | later
          · intro empty
            have := congrArg List.length empty
            rw [List.length_drop, List.length_nil] at this
            omega
          · exact filled other (List.mem_cons_of_mem _ later)⟩)
      else (chunk, ⟨rest, fun other later => filled other (List.mem_cons_of_mem _ later)⟩)

/-- What is received and what is left are what there was. -/
theorem recv_bytes (s : ChunkStream) (count : Nat) :
    (s.recv count).1 ++ (s.recv count).2.bytes = s.bytes := by
  obtain ⟨chunks, filled⟩ := s
  cases chunks with
  | nil => rfl
  | cons chunk rest =>
      rw [recv]
      split
      · show chunk.take count ++ (chunk.drop count :: rest).flatten = _
        rw [List.flatten_cons, ← List.append_assoc, List.take_append_drop]
        rfl
      · rfl

theorem recv_length_le (s : ChunkStream) (count : Nat) : (s.recv count).1.length ≤ count := by
  obtain ⟨chunks, filled⟩ := s
  cases chunks with
  | nil => exact Nat.zero_le count
  | cons chunk rest =>
      rw [recv]
      split
      · show (chunk.take count).length ≤ count
        rw [List.length_take]
        omega
      · rename_i whole
        show chunk.length ≤ count
        omega

/-- Nothing is received only from a stream that has ended. -/
theorem recv_eq_nil {s : ChunkStream} {count : Nat} (positive : 0 < count)
    (nothing : (s.recv count).1 = []) : s.bytes = [] := by
  obtain ⟨chunks, filled⟩ := s
  cases chunks with
  | nil => rfl
  | cons chunk rest =>
      have some : chunk ≠ [] := filled chunk List.mem_cons_self
      rw [recv] at nothing
      split at nothing
      · rcases List.take_eq_nil_iff.1 nothing with zero | empty
        · omega
        · exact absurd empty some
      · exact absurd nothing some

/-- The loop that collects `remaining` more bytes; where the stream ends too early it
gives up what it got. -/
def readLoop (remaining : Nat) (got : Bytes) (s : ChunkStream) :
    Except Bytes (Bytes × ChunkStream) :=
  if remaining = 0 then .ok (got, s)
  else
    if (s.recv remaining).1 = [] then .error got
    else
      readLoop (remaining - (s.recv remaining).1.length) (got ++ (s.recv remaining).1)
        (s.recv remaining).2
termination_by remaining
decreasing_by
  have some : (s.recv remaining).1.length ≠ 0 := by
    simpa using ‹¬ (s.recv remaining).1 = []›
  omega

/-- Exactly `count` bytes. -/
def readExact (s : ChunkStream) (count : Nat) : Except Bytes (Bytes × ChunkStream) :=
  readLoop count [] s

theorem readLoop_of_enough (remaining : Nat) (got : Bytes) (s : ChunkStream)
    (enough : remaining ≤ s.bytes.length) :
    ∃ left, readLoop remaining got s = .ok (got ++ s.bytes.take remaining, left) ∧
      left.bytes = s.bytes.drop remaining := by
  induction remaining, got, s using readLoop.induct with
  | case1 got s =>
      refine ⟨s, ?_, rfl⟩
      rw [readLoop]
      simp
  | case2 remaining got s positive nothing =>
      have ended := recv_eq_nil (by omega) nothing
      rw [ended, List.length_nil] at enough
      omega
  | case3 remaining got s positive something ih =>
      have whole := recv_bytes s remaining
      have most := recv_length_le s remaining
      obtain ⟨left, read, rest⟩ := ih (by
        rw [← whole, List.length_append] at enough
        omega)
      refine ⟨left, ?_, ?_⟩
      · rw [readLoop, if_neg positive, if_neg something, read, ← whole, List.take_append, List.take_of_length_le most,
          List.append_assoc]
      · rw [rest, ← whole, List.drop_append, List.drop_eq_nil_of_le most, List.nil_append]

theorem readLoop_of_short (remaining : Nat) (got : Bytes) (s : ChunkStream)
    (short : s.bytes.length < remaining) :
    readLoop remaining got s = .error (got ++ s.bytes) := by
  induction remaining, got, s using readLoop.induct with
  | case1 got s => omega
  | case2 remaining got s positive nothing =>
      have ended := recv_eq_nil (by omega) nothing
      rw [readLoop, if_neg positive, if_pos nothing, ended, List.append_nil]
  | case3 remaining got s positive something ih =>
      have whole := recv_bytes s remaining
      have most := recv_length_le s remaining
      have read := ih (by
        rw [← whole, List.length_append] at short
        omega)
      rw [readLoop, if_neg positive, if_neg something, read, ← whole, List.append_assoc]

/-- **Enough bytes are read however they arrive.** -/
theorem readExact_of_enough {s : ChunkStream} {count : Nat} (enough : count ≤ s.bytes.length) :
    ∃ left, s.readExact count = .ok (s.bytes.take count, left) ∧
      left.bytes = s.bytes.drop count :=
  readLoop_of_enough count [] s enough

/-- **A stream that ends too early gives up all it held.** -/
theorem readExact_of_short {s : ChunkStream} {count : Nat} (short : s.bytes.length < count) :
    s.readExact count = .error s.bytes :=
  readLoop_of_short count [] s short

theorem readExact_ok {s left : ChunkStream} {count : Nat} {got : Bytes}
    (read : s.readExact count = .ok (got, left)) :
    got ++ left.bytes = s.bytes ∧ got.length = count := by
  by_cases enough : count ≤ s.bytes.length
  · obtain ⟨left', read', rest⟩ := readExact_of_enough enough
    cases read.symm.trans read'
    rw [rest, List.take_append_drop, List.length_take]
    exact ⟨rfl, by omega⟩
  · rw [readExact_of_short (by omega)] at read
    cases read

end ChunkStream

end InstrumentBench.Theory
