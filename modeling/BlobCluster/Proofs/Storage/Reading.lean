import BlobCluster.Proofs.Bytes.Cut
import BlobCluster.Storage.ChunkReader

/-!
# Reading

`next_cases` says what one look at the file can give, whatever is on the volume by then.  The
`Progress` of a reading is its reader with what it has given so far.  It goes `through` a list of
volumes, one for each look, so between two looks anything may have happened.  A reader that `Reads`
some bytes has a file to go through that begins with them, and then it gives just these bytes, cut
into chunks.
-/

namespace BlobCluster

namespace ChunkReader

variable {reader after : ChunkReader} {volume : Volume} {number : Nat} {bytes : Bytes}

/-! ## One look -/

/-- The reader has something to give, be it a failure. -/
def Live (reader : ChunkReader) : Prop := reader.failed = false ∧ reader.offset < reader.size

/-- The file that a look goes to: the one that is open, or else the one that is opened now. -/
def Opens (reader : ChunkReader) (volume : Volume) (number : Nat) : Prop :=
  reader.opened = some number ∨ reader.opened = none ∧ volume.find reader.path = .ok (.file number)

/-- The bytes of a content from the offset on, as many as the next chunk has. -/
def ahead (reader : ChunkReader) (content : Array UInt8) : Bytes :=
  (content.toList.drop reader.offset).take reader.want

/-- The reader after a chunk of the file with a number. -/
def past (reader : ChunkReader) (number : Nat) (chunk : Bytes) : ChunkReader :=
  { reader with opened := some number, offset := reader.offset + chunk.length }

/-- The reader after a look that gave nothing. -/
def closed (reader : ChunkReader) : ChunkReader := { reader with opened := none }

/-- The reader after a failure. -/
def broken (reader : ChunkReader) : ChunkReader := { reader with opened := none, failed := true }

@[simp] theorem past_offset (chunk : Bytes) :
    (reader.past number chunk).offset = reader.offset + chunk.length := rfl

@[simp] theorem past_size (chunk : Bytes) : (reader.past number chunk).size = reader.size := rfl

@[simp] theorem past_chunkSize (chunk : Bytes) :
    (reader.past number chunk).chunkSize = reader.chunkSize := rfl

theorem source_eq_ok_iff : reader.source volume = .ok number ↔ reader.Opens volume number := by
  unfold source Opens
  cases reader.opened with
  | some n => simp
  | none => rcases volume.find reader.path with e | _ | n <;> simp

theorem next_of_not_live (h : ¬ reader.Live) (volume : Volume) :
    reader.next volume = (none, reader.closed) := by
  rw [next, if_pos]
  · rfl
  · simp only [Live, not_and, Nat.not_lt] at h
    by_cases failed : reader.failed = true
    · simp [failed]
    · simp [h (by simpa using failed)]

theorem next_of_live (h : reader.Live) (volume : Volume) :
    reader.next volume = match reader.fetch volume with
      | .error e => (some (.error e), reader.broken)
      | .ok (number, chunk) => (some (.ok chunk), reader.past number chunk) := by
  rw [next, if_neg]
  · cases reader.fetch volume <;> rfl
  · simp [h.1, h.2]

theorem fetch_of_error {e : Failure} (h : reader.source volume = .error e) :
    reader.fetch volume = .error e := by
  rw [fetch, h]

theorem fetch_of_opens (h : reader.Opens volume number) :
    reader.fetch volume
      = if (reader.ahead (volume.content number)).length < reader.want
        then .error (reader.shortRead (reader.ahead (volume.content number)).length)
        else .ok (number, reader.ahead (volume.content number)) := by
  have bytes : ((volume.content number).extract reader.offset
      (reader.offset + reader.want)).toList = reader.ahead (volume.content number) := by
    rw [Array.toList_extract, List.extract_eq_take_drop, Nat.add_sub_cancel_left, ahead]
  rw [fetch, source_eq_ok_iff.2 h]
  simp only [bytes]

theorem length_ahead (reader : ChunkReader) (content : Array UInt8) :
    (reader.ahead content).length = min reader.want (content.size - reader.offset) := by
  rw [ahead, List.length_take, List.length_drop, Array.length_toList]

/-- What a look at the file can give: nothing, a failure to open the file, a failure because the
file is too short, or the bytes that stand at the offset. -/
theorem next_cases (reader : ChunkReader) (volume : Volume) :
    ¬ reader.Live ∧ reader.next volume = (none, reader.closed)
      ∨ reader.Live ∧ (∃ e, reader.source volume = .error e
          ∧ reader.next volume = (some (.error e), reader.broken))
      ∨ reader.Live ∧ (∃ number, reader.Opens volume number
          ∧ (reader.ahead (volume.content number)).length < reader.want
          ∧ reader.next volume = (some (.error (reader.shortRead
              (reader.ahead (volume.content number)).length)), reader.broken))
      ∨ reader.Live ∧ ∃ number, reader.Opens volume number
          ∧ (reader.ahead (volume.content number)).length = reader.want
          ∧ reader.next volume = (some (.ok (reader.ahead (volume.content number))),
              reader.past number (reader.ahead (volume.content number))) := by
  by_cases live : reader.Live
  · have given := next_of_live live volume
    cases opened : reader.source volume with
    | error e =>
      rw [fetch_of_error opened] at given
      exact .inr (.inl ⟨live, e, rfl, given⟩)
    | ok number =>
      have opens := source_eq_ok_iff.1 opened
      rw [fetch_of_opens opens] at given
      have atMost := reader.length_ahead (volume.content number)
      by_cases short : (reader.ahead (volume.content number)).length < reader.want
      · rw [if_pos short] at given
        exact .inr (.inr (.inl ⟨live, number, opens, short, given⟩))
      · rw [if_neg short] at given
        exact .inr (.inr (.inr ⟨live, number, opens, by omega, given⟩))
  · exact .inl ⟨live, next_of_not_live live volume⟩

/-- A chunk that is given stands at the offset of the file and is as long as it has to be. -/
theorem next_eq_ok {chunk : Bytes} (given : reader.next volume = (some (.ok chunk), after)) :
    reader.Live ∧ ∃ number, reader.Opens volume number
      ∧ chunk = reader.ahead (volume.content number) ∧ chunk.length = reader.want
      ∧ after = reader.past number chunk := by
  rcases next_cases reader volume with ⟨-, same⟩ | ⟨-, e, -, same⟩ | ⟨-, number, -, -, same⟩ |
    ⟨live, number, opens, length, same⟩ <;> rw [given] at same <;> cases same
  exact ⟨live, number, opens, rfl, length, rfl⟩

/-! ## Everything that is still to come -/

theorem drain_of_end (h : reader.next volume = (none, after)) : (reader.drain volume).1 = [] := by
  rw [drain]
  split
  next => rfl
  next given =>
    rw [h] at given
    cases given

theorem drain_of_item {item : Except Failure Bytes} (h : reader.next volume = (some item, after)) :
    (reader.drain volume).1 = item :: (after.drain volume).1 := by
  rw [drain]
  split
  next given =>
    rw [h] at given
    cases given
  next given =>
    rw [h] at given
    cases given
    rfl

end ChunkReader

/-! ## Progress -/

/-- A reader with what it has given so far. -/
structure Progress where
  reader : ChunkReader
  items : List (Except Failure Bytes)

/-- A reading that starts at the first byte of the file of a handle. -/
def ChunkFile.reading (file : ChunkFile) : Progress := ⟨file.chunks, []⟩

namespace Progress

variable {reading : Progress} {volume : Volume}

/-- The reading after one more look at the file. -/
def advance (reading : Progress) (volume : Volume) : Progress :=
  ⟨(reading.reader.next volume).2, reading.items ++ (reading.reader.next volume).1.toList⟩

/-- The reading after a look at the file on each of these volumes. -/
def through (reading : Progress) (volumes : List Volume) : Progress := volumes.foldl advance reading

@[simp] theorem through_nil (reading : Progress) : reading.through [] = reading := rfl

@[simp] theorem through_cons (reading : Progress) (volume : Volume) (volumes : List Volume) :
    reading.through (volume :: volumes) = (reading.advance volume).through volumes := rfl

theorem advance_of_next {item : Option (Except Failure Bytes)} {after : ChunkReader}
    (h : reading.reader.next volume = (item, after)) :
    reading.advance volume = ⟨after, reading.items ++ item.toList⟩ := by
  unfold advance
  rw [h]

/-- What was given before does not matter for what is given later. -/
theorem through_eq (reading : Progress) (volumes : List Volume) :
    reading.through volumes
      = ⟨((⟨reading.reader, []⟩ : Progress).through volumes).reader,
          reading.items ++ ((⟨reading.reader, []⟩ : Progress).through volumes).items⟩ := by
  induction volumes generalizing reading with
  | nil => simp
  | cons volume volumes ih =>
    rw [through_cons, through_cons, ih (reading.advance volume),
      ih ((⟨reading.reader, []⟩ : Progress).advance volume)]
    simp [advance]

/-- Reading to the end of a volume that stays as it is takes some number of looks at it, after which
there is nothing more. -/
theorem drain_eq_through (reader : ChunkReader) (volume : Volume) :
    ∃ looks, let reading := (⟨reader, []⟩ : Progress).through (List.replicate looks volume)
      (reader.drain volume).1 = reading.items ∧ (reading.reader.next volume).1 = none := by
  cases given : reader.next volume with
  | mk item after =>
    cases item with
    | none => exact ⟨0, ChunkReader.drain_of_end given, congrArg Prod.fst given⟩
    | some item =>
      have fewer := ChunkReader.remaining_next given
      obtain ⟨looks, rest, atEnd⟩ := drain_eq_through after volume
      refine ⟨looks + 1, ?_⟩
      rw [ChunkReader.drain_of_item given, rest, List.replicate_succ, through_cons,
        advance_of_next given, through_eq]
      exact ⟨rfl, atEnd⟩
termination_by reader.remaining

end Progress

/-! ## Reading bytes that are there -/

namespace ChunkReader

variable {reader : ChunkReader} {volume : Volume} {number : Nat} {bytes : Bytes}

/-- The file that the reader goes through begins with these bytes, which are as many as the reader
counts.  The file may be longer than the reader counts, which is why the bytes are only its
beginning. -/
structure Reads (reader : ChunkReader) (volume : Volume) (number : Nat) (bytes : Bytes) : Prop where
  opens : reader.Live → reader.Opens volume number
  begins : bytes <+: (volume.content number).toList
  size : bytes.length = reader.size
  sound : reader.failed = false

namespace Reads

theorem ahead_eq (h : reader.Reads volume number bytes) :
    reader.ahead (volume.content number) = (bytes.drop reader.offset).take reader.chunkSize := by
  obtain ⟨more, content⟩ := h.begins
  have size := h.size
  have want : reader.want = min reader.chunkSize (bytes.drop reader.offset).length := by
    rw [List.length_drop, size]
    rfl
  by_cases inside : reader.offset ≤ bytes.length
  · rw [ahead, ← content, List.drop_append_of_le_length inside,
      List.take_append_of_le_length (want ▸ Nat.min_le_right _ _), want, ← List.take_eq_take_min]
  · have nothing : bytes.drop reader.offset = [] := List.drop_eq_nil_of_le (by omega)
    rw [ahead, want, nothing]
    simp

/-- Before its end a reader gives the next of the bytes. -/
theorem next (h : reader.Reads volume number bytes) (inside : reader.offset < reader.size) :
    let chunk := (bytes.drop reader.offset).take reader.chunkSize
    reader.next volume = (some (.ok chunk), reader.past number chunk) := by
  have live : reader.Live := ⟨h.sound, inside⟩
  have size := h.size
  have enough : ¬ (reader.ahead (volume.content number)).length < reader.want := by
    rw [h.ahead_eq, List.length_take, List.length_drop, size]
    exact Nat.lt_irrefl _
  rw [next_of_live live volume, fetch_of_opens (h.opens live), if_neg enough, h.ahead_eq]

theorem next_of_end (atEnd : reader.size ≤ reader.offset) :
    reader.next volume = (none, reader.closed) :=
  next_of_not_live (fun live => Nat.not_lt.2 atEnd live.2) volume

theorem past (h : reader.Reads volume number bytes) (chunk : Bytes) :
    (reader.past number chunk).Reads volume number bytes :=
  ⟨fun _ => .inl rfl, h.begins, h.size, h.sound⟩

theorem closed (h : reader.Reads volume number bytes) (atEnd : reader.size ≤ reader.offset) :
    reader.closed.Reads volume number bytes :=
  ⟨fun live => absurd live.2 (Nat.not_lt.2 atEnd), h.begins, h.size, h.sound⟩

/-- Before its end a reader has chunks to give, of which the next look gives the first. -/
theorem cut_eq (h : reader.Reads volume number bytes) (inside : reader.offset < reader.size) :
    let chunk := (bytes.drop reader.offset).take reader.chunkSize
    Bytes.cut reader.chunkSize (bytes.drop reader.offset)
      = chunk :: Bytes.cut reader.chunkSize (bytes.drop (reader.offset + chunk.length)) := by
  have size := h.size
  have more : bytes.drop reader.offset ≠ [] := by
    rw [Ne, List.drop_eq_nil_iff]
    omega
  intro chunk
  rw [Bytes.cut_of_ne_nil reader.chunkSize_pos more, ← Bytes.drop_add_length_take]

theorem cut_of_end (h : reader.Reads volume number bytes) (atEnd : reader.size ≤ reader.offset) :
    Bytes.cut reader.chunkSize (bytes.drop reader.offset) = [] := by
  have size := h.size
  rw [List.drop_eq_nil_of_le (by omega), Bytes.cut_nil]

/-- What a reader still gives: the bytes from its offset on, cut into chunks. -/
theorem drain {reader : ChunkReader} (h : reader.Reads volume number bytes) :
    (reader.drain volume).1 = (Bytes.cut reader.chunkSize (bytes.drop reader.offset)).map .ok := by
  by_cases inside : reader.offset < reader.size
  · have given := h.next inside
    have fewer := remaining_next given
    rw [drain_of_item given, h.cut_eq inside, List.map_cons]
    congr 1
    exact (h.past ((bytes.drop reader.offset).take reader.chunkSize)).drain
  · rw [drain_of_end (next_of_end (by omega)), h.cut_of_end (by omega)]
    rfl
termination_by reader.remaining

end Reads

end ChunkReader

/-! ## Streams -/

namespace ChunkStream

/-- The chunks of a stream and the failure that ends it. -/
def items (stream : ChunkStream) : List (Except Failure Bytes) :=
  stream.chunks.map .ok ++ stream.failure.toList.map .error

theorem items_of_ok (chunks : List Bytes) :
    (⟨chunks, none⟩ : ChunkStream).items = chunks.map .ok := by
  simp [items]

theorem ofItems_items (stream : ChunkStream) : ofItems stream.items = stream := by
  obtain ⟨chunks, failure⟩ := stream
  induction chunks with
  | nil => cases failure <;> rfl
  | cons chunk rest ih =>
    have unfolded : (⟨chunk :: rest, failure⟩ : ChunkStream).items
        = .ok chunk :: (⟨rest, failure⟩ : ChunkStream).items := rfl
    rw [unfolded, ofItems, ih]

end ChunkStream

end BlobCluster
