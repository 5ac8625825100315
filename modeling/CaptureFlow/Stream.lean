import CaptureFlow.Stream.Fault

/-!
# Octet streams

A stream hands out the octets of a file, read by read. Behind it the octets come
in stretches: a read gathers stretches until it has as much as it asks for, or
until a stretch has used up what lay ready of the file. A file that needs no
decompression lies ready as a whole; a damaged one ends in failing reads. A read
never hands out more than the stream holds, so reading on comes to an end.
-/

namespace CaptureFlow

/-- What the reads after the last octet do. -/
inductive Ending where
  /-- They report the end of the file. -/
  | clean
  /-- The first one fails, the others report the end of the file. -/
  | once (fault : ReadFault)
  /-- They all fail. -/
  | always (fault : ReadFault)
  deriving DecidableEq, Repr

namespace Ending

/-- The fault of the next read at this ending, if it fails. -/
def fault? : Ending → Option ReadFault
  | clean => none
  | once fault => some fault
  | always fault => some fault

/-- What is left of an ending once a read has met it. -/
def afterRead : Ending → Ending
  | clean => clean
  | once _ => clean
  | always fault => always fault

end Ending

/-- The octets of a file that no read has reached yet. -/
inductive Supply where
  /-- A stretch with more behind it. If it uses up what lay ready of the file, a
  read that has gathered something does not wait for more. -/
  | stretch (octets : Bytes) (usesUp : Bool) (rest : Supply)
  /-- The last octets, and what the reads after them do. -/
  | last (octets : Bytes) (ending : Ending)
  /-- The last octets, of which the read that reaches them takes what it asks
  for; the rest is lost, and the reads after it fail. -/
  | torn (octets : Bytes) (fault : ReadFault)
  /-- A fault of all reads, which takes along what the first of them has
  gathered. -/
  | broken (fault : ReadFault)
  deriving DecidableEq, Repr

/-- The number of octets of a supply. -/
def Supply.size : Supply → Nat
  | stretch octets _ rest => octets.length + rest.size
  | last octets _ => octets.length
  | torn octets _ => octets.length
  | broken _ => 0

/-- A file being read. -/
structure Stream where
  /-- The octets of stretches already gathered. -/
  ready : Bytes
  /-- The octets behind them. -/
  supply : Supply
  deriving DecidableEq, Repr

namespace Stream

/-- The stream of octets that lie ready as a whole. -/
def ofBytes (bytes : Bytes) : Stream :=
  ⟨bytes, .last [] .clean⟩

/-- The stream of which all reads fail. -/
def failing (fault : ReadFault) : Stream :=
  ⟨[], .last [] (.always fault)⟩

/-- The number of octets of a stream. -/
def size (stream : Stream) : Nat :=
  stream.ready.length + stream.supply.size

/-- A read of what is gathered last; without anything it meets the ending. -/
def readLast (request : Nat) (gathered : Bytes) (ending : Ending) :
    Except ReadFault Bytes × Stream :=
  match gathered, ending.fault? with
  | [], some fault => (.error fault, ⟨[], .last [] ending.afterRead⟩)
  | gathered, _ => (.ok (gathered.take request), ⟨gathered.drop request, .last [] ending⟩)

/-- A read that has gathered something and goes on with a supply. -/
def gather (request : Nat) (gathered : Bytes) : Supply → Except ReadFault Bytes × Stream
  | .stretch octets usesUp rest =>
    let gathered := gathered ++ octets
    if request ≤ gathered.length ∨ usesUp = true ∧ gathered ≠ [] then
      (.ok (gathered.take request), ⟨gathered.drop request, rest⟩)
    else gather request gathered rest
  | .last octets ending => readLast request (gathered ++ octets) ending
  | .torn octets fault => readLast request ((gathered ++ octets).take request) (.always fault)
  | .broken fault => (.error fault, failing fault)

/-- Reads at most `request` octets; none are read at the end of the file only. -/
def read (request : Nat) (stream : Stream) : Except ReadFault Bytes × Stream :=
  match stream.ready with
  | [] => gather request [] stream.supply
  | ready => (.ok (ready.take request), ⟨ready.drop request, stream.supply⟩)

/-- What a last read hands out and leaves is what was gathered. -/
theorem size_readLast {request : Nat} {gathered bytes : Bytes} {ending : Ending} {next : Stream}
    (h : readLast request gathered ending = (.ok bytes, next)) :
    bytes.length + next.size ≤ gathered.length := by
  unfold readLast at h
  split at h
  · simp at h
  · simp only [Prod.mk.injEq, Except.ok.injEq] at h
    obtain ⟨rfl, rfl⟩ := h
    simp only [size, Supply.size, List.length_take, List.length_drop, List.length_nil]
    omega

/-- What a read hands out and leaves was gathered or in the supply. -/
theorem size_gather {request : Nat} {gathered bytes : Bytes} {supply : Supply} {next : Stream}
    (h : gather request gathered supply = (.ok bytes, next)) :
    bytes.length + next.size ≤ gathered.length + supply.size := by
  induction supply generalizing gathered with
  | stretch octets usesUp rest ih =>
    simp only [gather] at h
    split at h
    · simp only [Prod.mk.injEq, Except.ok.injEq] at h
      obtain ⟨rfl, rfl⟩ := h
      simp only [size, Supply.size, List.length_take, List.length_drop, List.length_append]
      omega
    · have := ih h
      simp only [Supply.size, List.length_append] at this ⊢
      omega
  | last octets ending =>
    have := size_readLast h
    simp only [Supply.size, List.length_append] at this ⊢
    omega
  | torn octets fault =>
    have := size_readLast h
    simp only [Supply.size, List.length_take, List.length_append] at this ⊢
    omega
  | broken fault => simp [gather] at h

/-- What a read hands out and leaves was in the stream. -/
theorem size_read {request : Nat} {bytes : Bytes} {stream next : Stream}
    (h : stream.read request = (.ok bytes, next)) :
    bytes.length + next.size ≤ stream.size := by
  unfold read at h
  split at h
  · have := size_gather h
    simp only [size, List.length_nil] at this ⊢
    omega
  · simp only [Prod.mk.injEq, Except.ok.injEq] at h
    obtain ⟨rfl, rfl⟩ := h
    simp only [size, List.length_take, List.length_drop]
    omega

/-- All octets of a stream read `request` at a time, behind those already read,
and the fault of the read that ends them, if it fails. -/
def drainFrom (request : Nat) (done : Array UInt8) (stream : Stream) :
    Bytes × Option ReadFault :=
  match _h : stream.read request with
  | (.error fault, _) => (done.toList, some fault)
  | (.ok [], _) => (done.toList, none)
  | (.ok (b :: bytes), next) => drainFrom request (done ++ (b :: bytes)) next
termination_by stream.size
decreasing_by
  have := size_read _h
  simp only [List.length_cons] at this
  omega

/-- All octets of a stream read `request` at a time, and the fault of the read
that ends them, if it fails. -/
def drain (request : Nat) (stream : Stream) : Bytes × Option ReadFault :=
  drainFrom request #[] stream

/-- The first `count` octets of a stream, fewer where it ends. -/
def front : (count : Nat) → (stream : Stream) → Except ReadFault Bytes
  | 0, _ => .ok []
  | count + 1, stream =>
    match stream.read (count + 1) with
    | (.error fault, _) => .error fault
    | (.ok [], _) => .ok []
    | (.ok (b :: bytes), next) => do
      .ok (b :: bytes ++ (← front (count - bytes.length) next))

end Stream

/-- What a file is once it is open. -/
inductive Content where
  /-- Octets that can be read. -/
  | octets (bytes : Bytes)
  /-- Something that the system opens and then refuses to read. -/
  | unreadable (fault : SystemFault)
  deriving DecidableEq, Repr

/-- The stream of an open file. -/
def Content.stream : Content → Stream
  | octets bytes => .ofBytes bytes
  | unreadable fault => .failing (.system fault)

end CaptureFlow
