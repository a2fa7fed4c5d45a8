/-!
# How bodies are handed over

A body from outside the gateway is handed over in pieces, or as a stream that has to be read.
-/

namespace InstallerGateway

/-- A stream of bytes. -/
structure ByteStream where
  /-- The bytes that have not been read yet. -/
  rest : List UInt8
  /-- The most that each of the next reads gives; every read gives a byte if there is one. -/
  bounds : List Nat

namespace ByteStream

/-- A read of at most `size` bytes. It may give fewer, but nothing only at the end. -/
def read (size : Nat) (s : ByteStream) : List UInt8 × ByteStream :=
  let given := min size (max 1 (s.bounds.headD size))
  (s.rest.take given, ⟨s.rest.drop given, s.bounds.tail⟩)

theorem read_append (size : Nat) (s : ByteStream) :
    (s.read size).1 ++ (s.read size).2.rest = s.rest := List.take_append_drop _ _

/-- The stream is read, 64 KiB at a time, until a read gives nothing. -/
def drain (s : ByteStream) : List ByteArray :=
  match _h : s.read 65536 with
  | ([], _) => []
  | (b :: bs, next) => ⟨(b :: bs).toArray⟩ :: drain next
termination_by s.rest.length
decreasing_by
  have happend := read_append 65536 s
  rw [_h] at happend
  simp only [← happend, List.length_append, List.length_cons]
  omega

end ByteStream

/-- A body as it is handed over. -/
inductive Delivery where
  /-- The pieces follow one another. -/
  | pieces (chunks : List ByteArray)
  /-- A stream has to be read. -/
  | stream (s : ByteStream)

/-- The pieces in which the gateway passes a body on. -/
def Delivery.chunks : Delivery → List ByteArray
  | .pieces chunks => chunks
  | .stream s => s.drain

/-- A byte string in pieces: the first ones have the given lengths, all others `size` bytes, and the
last one what is left. -/
def pieces (size : Nat) : List Nat → List UInt8 → List (List UInt8)
  | n :: cuts, bs => bs.take n :: pieces size cuts (bs.drop n)
  | [], [] => []
  | [], b :: bs => (b :: bs).take (max 1 size) :: pieces size [] ((b :: bs).drop (max 1 size))
termination_by cuts bs => cuts.length + bs.length
decreasing_by all_goals simp only [List.length_drop, List.length_cons]; omega

end InstallerGateway
