import InstallerGateway.Store.Object

/-!
# Bodies arrive whole

However a body is cut into pieces, and however few bytes the reads of a stream give, the pieces that
the gateway passes on make up the body. Every sequence of pieces, and every sequence of reads that
a stream can give, is one of those considered.
-/

namespace InstallerGateway

/-- The bytes of pieces that follow one another. -/
def allBytes (chunks : List ByteArray) : List UInt8 := chunks.flatMap (·.data.toList)

@[simp] theorem allBytes_cons (chunk : ByteArray) (chunks : List ByteArray) :
    allBytes (chunk :: chunks) = chunk.data.toList ++ allBytes chunks := List.flatMap_cons

theorem allBytes_map (chunks : List (List UInt8)) :
    allBytes (chunks.map fun bs => ⟨bs.toArray⟩) = chunks.flatten := by
  induction chunks with
  | nil => rfl
  | cons bs chunks ih => rw [List.map_cons, allBytes_cons, ih, List.flatten_cons]

theorem foldl_append_data (chunks : List ByteArray) (first : ByteArray) :
    (chunks.foldl (· ++ ·) first).data.toList = first.data.toList ++ allBytes chunks := by
  induction chunks generalizing first with
  | nil => simp [allBytes]
  | cons chunk chunks ih =>
    rw [List.foldl_cons, ih, allBytes_cons, ByteArray.data_append, Array.toList_append,
      List.append_assoc]

/-- The pieces of a body make up the body. -/
theorem foldl_append_eq {chunks : List ByteArray} {body : ByteArray}
    (h : allBytes chunks = body.data.toList) : chunks.foldl (· ++ ·) ByteArray.empty = body := by
  have hdata := foldl_append_data chunks ByteArray.empty
  rw [h] at hdata
  exact ByteArray.ext (Array.toList_inj.mp hdata)

/-! ## Pieces -/

theorem flatten_pieces (size : Nat) (cuts : List Nat) (bs : List UInt8) :
    (pieces size cuts bs).flatten = bs := by
  fun_induction pieces size cuts bs with
  | case1 n cuts bs ih => rw [List.flatten_cons, ih, List.take_append_drop]
  | case2 => rfl
  | case3 b bs ih => rw [List.flatten_cons, ih, List.take_append_drop]

/-- Pieces of any lengths, empty ones among them, are given by their lengths. -/
theorem pieces_lengths (size : Nat) (chunks : List (List UInt8)) :
    pieces size (chunks.map List.length) chunks.flatten = chunks := by
  induction chunks with
  | nil => rw [List.map_nil, List.flatten_nil, pieces]
  | cons bs chunks ih =>
    rw [List.map_cons, List.flatten_cons, pieces, List.take_left, List.drop_left, ih]

/-! ## Streams -/

namespace ByteStream

/-- Nothing is read only at the end. -/
theorem rest_of_read_eq_nil {size : Nat} {s : ByteStream} (hsize : 0 < size)
    (h : (s.read size).1 = []) : s.rest = [] := by
  have hgiven : 0 < min size (max 1 (s.bounds.headD size)) := by omega
  rcases List.take_eq_nil_iff.mp h with hzero | hrest
  · omega
  · exact hrest

/-- Reading a stream to its end gives all of its bytes. -/
theorem allBytes_drain (s : ByteStream) : allBytes s.drain = s.rest := by
  fun_induction drain s with
  | case1 s next hread =>
    have hrest : s.rest = [] := rest_of_read_eq_nil (by decide) (congrArg Prod.fst hread)
    rw [hrest]
    rfl
  | case2 s b bs next hread ih =>
    have happend := read_append 65536 s
    rw [hread] at happend
    rw [allBytes_cons, ih]
    exact happend

/-- Reads that give some bytes each, and no more than they are asked for, are given by their
lengths. -/
theorem drain_lengths (reads : List (List UInt8))
    (h : ∀ bs ∈ reads, bs ≠ [] ∧ bs.length ≤ 65536) :
    drain ⟨reads.flatten, reads.map List.length⟩ = reads.map fun bs => ⟨bs.toArray⟩ := by
  induction reads with
  | nil => rw [drain]; rfl
  | cons bs reads ih =>
    obtain ⟨hne, hle⟩ := h bs List.mem_cons_self
    have hpos := List.length_pos_iff.mpr hne
    have hgiven : min 65536 (max 1 bs.length) = bs.length := by omega
    have hread : read 65536 ⟨(bs :: reads).flatten, (bs :: reads).map List.length⟩ =
        (bs, ⟨reads.flatten, reads.map List.length⟩) := by
      simp only [read, List.map_cons, List.headD_cons, List.tail_cons, hgiven, List.flatten_cons,
        List.take_left, List.drop_left]
    obtain ⟨b, rest, rfl⟩ := List.exists_cons_of_ne_nil hne
    rw [drain, hread, List.map_cons]
    dsimp only
    rw [ih fun other hmem => h other (List.mem_cons_of_mem _ hmem)]

end ByteStream

/-! ## Deliveries -/

theorem Bucket.allBytes_deliver (b : Bucket) (body : ByteArray) :
    allBytes (b.deliver body).chunks = body.data.toList := by
  unfold deliver
  dsimp only
  split
  · exact ByteStream.allBytes_drain _
  · exact (allBytes_map _).trans (flatten_pieces _ _ _)

end InstallerGateway
